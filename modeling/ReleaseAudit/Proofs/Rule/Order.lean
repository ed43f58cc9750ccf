import ReleaseAudit.Proofs.Rule.Nesting

/-!
# The order of validators

A rule is read as a whole before a value is looked at. Then its validators are tried in order, and the
first that refuses the value or fails decides. So two rules with a comma between them are tried one
after the other, and a validator that could be applied to no value is noticed if those in front of it
have not refused the value. For a value that holds nothing the order does not matter: only `required`
refuses it.
-/

namespace ReleaseAudit

variable {value : Value} {vs ws : List Validator} {v : Validator} {rule first second : String}
  {a : List Char}

theorem Value.isVoid_iff :
    value.isVoid ↔ value = .null ∨ value = .string "" ∨ value = .list [] ∨ value = .map [] := by
  cases value <;> simp [Value.isVoid]

theorem ValidatorKind.ofName?_eq_required_iff {name : String} :
    ofName? name = some required ↔ name = "required" := by
  constructor
  · intro h
    unfold ofName? at h
    split at h <;> first | rfl | cases h
  · rintro rfl
    rfl

namespace Validator

/-- What comes behind some validators counts if they all accept the value. -/
theorem checkAll_append (value : Value) (vs ws : List Validator) :
    checkAll value (vs ++ ws) =
      match checkAll value vs with
      | .ok true => checkAll value ws
      | decided => decided := by
  induction vs with
  | nil => rfl
  | cons v vs ih =>
    rw [List.cons_append, checkAll, checkAll]
    cases v.check value with
    | error e => rfl
    | ok accepted =>
      cases accepted with
      | false => rfl
      | true => exact ih

/-! ## Validators that fit no value -/

/-- The name is known and takes this number of arguments. -/
def isApplicable (v : Validator) : Bool :=
  match ValidatorKind.ofName? v.name with
  | none => false
  | some kind => kind.arity?.all (· == v.args.length)

/-- The name and the number of arguments are looked at before the value. -/
theorem exists_check_eq_error (h : ¬ v.isApplicable) : ∃ e, ∀ value, v.check value = .error e := by
  rw [isApplicable] at h
  cases hkind : ValidatorKind.ofName? v.name with
  | none => exact ⟨.unknownValidator v.name, fun value ↦ by rw [check, hkind]⟩
  | some kind =>
    simp only [hkind] at h
    cases harity : kind.arity? with
    | none => simp [harity] at h
    | some expected =>
      have hne : expected ≠ v.args.length := by simpa [harity] using h
      have hfilter : kind.arity?.filter (· != v.args.length) = some expected := by simp [harity, hne]
      refine ⟨.argumentCount v.name expected v.args.length, fun value ↦ ?_⟩
      rw [check, hkind]
      simp only [hfilter]

/-- The first validator that fits no value decides unless one of those in front of it does. -/
theorem exists_checkAll_eq (hbad : ∃ v ∈ vs, ¬ v.isApplicable) :
    ∃ e, ∀ value, checkAll value vs =
      match checkAll value (vs.takeWhile isApplicable) with
      | .ok true => .error e
      | decided => decided := by
  have hrest : vs.dropWhile isApplicable ≠ [] := by
    obtain ⟨v, hv, hflaw⟩ := hbad
    exact fun hnone ↦ hflaw (List.dropWhile_eq_nil_iff.1 hnone v hv)
  obtain ⟨v, back, hdrop⟩ := List.exists_cons_of_ne_nil hrest
  have hflaw : ¬ v.isApplicable := by
    have hhead := List.head_dropWhile_not isApplicable hrest
    simpa [hdrop] using hhead
  obtain ⟨e, he⟩ := exists_check_eq_error hflaw
  refine ⟨e, fun value ↦ ?_⟩
  have htail : checkAll value (v :: back) = .error e := by
    rw [checkAll, he value]
    rfl
  calc
    checkAll value vs = checkAll value (vs.takeWhile isApplicable ++ v :: back) := by
      rw [← hdrop, List.takeWhile_append_dropWhile]
    _ = _ := by rw [checkAll_append, htail]

/-! ## Void values -/

/-- Of an applicable validator neither the arguments nor the value are read when the value is void. -/
theorem check_of_isVoid (h : v.isApplicable) (hvalue : value.isVoid) :
    v.check value = .ok (v.name != "required") := by
  rw [isApplicable] at h
  cases hkind : ValidatorKind.ofName? v.name with
  | none => simp [hkind] at h
  | some kind =>
    simp only [hkind] at h
    have hfilter : kind.arity?.filter (· != v.args.length) = none := by
      cases harity : kind.arity? with
      | none => rfl
      | some expected => simpa [harity] using h
    have hrequired : kind = .required ↔ v.name = "required" := by
      rw [← ValidatorKind.ofName?_eq_required_iff, hkind, Option.some_inj]
    have hresult : (kind != .required) = (v.name != "required") := by
      rw [Bool.eq_iff_iff, bne_iff_ne, bne_iff_ne]
      exact not_congr hrequired
    rw [check, hkind]
    simp only [hfilter, hvalue, if_true, hresult]
    rfl

/-- A void value is refused by the validator `required` alone, wherever it stands. -/
theorem checkAll_of_isVoid (h : ∀ v ∈ vs, v.isApplicable) (hvalue : value.isVoid) :
    checkAll value vs = .ok (vs.all (·.name != "required")) := by
  induction vs with
  | nil => rfl
  | cons v vs ih =>
    obtain ⟨hv, hvs⟩ := List.forall_mem_cons.1 h
    rw [checkAll, check_of_isVoid hv hvalue, List.all_cons]
    cases v.name != "required" with
    | false => rfl
    | true => exact ih hvs

end Validator

namespace Rule

theorem check_of_parse (h : parse rule = .ok vs) (value : Value) :
    check rule value = Validator.checkAll value vs := by
  rw [check, h]
  rfl

/-! ## Two rules -/

theorem validatorTexts_append (h : openBehind 0 a = 0) (b : List Char) :
    validatorTexts (a ++ ',' :: b) = validatorTexts a ++ validatorTexts b := by
  rw [validatorTexts, splitTopLevel_append h, List.map_append, List.filter_append]
  rfl

/-- The comma behind a rule that leaves no parenthesis open separates its validators from those that
follow. -/
theorem parse_append (hfirst : parse first = .ok vs) (hsecond : parse second = .ok ws)
    (hopen : openBehind 0 first.toList = 0) : parse (first ++ "," ++ second) = .ok (vs ++ ws) := by
  obtain ⟨hvs, hne⟩ := parse_eq_ok_iff.1 hfirst
  obtain ⟨hws, -⟩ := parse_eq_ok_iff.1 hsecond
  have htext : (first ++ "," ++ second).toList = first.toList ++ ',' :: second.toList := by simp
  apply parse_eq_ok_iff.2
  rw [htext, validatorTexts_append hopen, List.mapM_append, hvs, hws]
  exact ⟨rfl, List.append_ne_nil_of_left_ne_nil hne ws⟩

/-- Two rules with a comma between them: the second one counts if the first one accepts the value. -/
theorem check_append (hfirst : parse first = .ok vs) (hsecond : parse second = .ok ws)
    (hopen : openBehind 0 first.toList = 0) (value : Value) :
    check (first ++ "," ++ second) value =
      match check first value with
      | .error e => .error e
      | .ok false => .ok false
      | .ok true => check second value := by
  rw [check_of_parse (parse_append hfirst hsecond hopen), check_of_parse hfirst,
    check_of_parse hsecond, Validator.checkAll_append]
  cases Validator.checkAll value vs with
  | error e => rfl
  | ok accepted => cases accepted <;> rfl

/-- The first rule closes a parenthesis too many in its message and has a comma in an argument; the second
one begins with a blank part. -/
theorem check_append_sample :
    check ("required~:),in(x|a,b)" ++ "," ++ " ,alpha") (.string "a,b") = .ok false := by
  have hfirst : parse "required~:),in(x|a,b)" = .ok [⟨"required", []⟩, ⟨"in", ["x", "a,b"]⟩] := by
    decide +kernel
  have hsecond : parse " ,alpha" = .ok [⟨"alpha", []⟩] := by decide +kernel
  have hopen : openBehind 0 "required~:),in(x|a,b)".toList = 0 := by decide
  have haccepted : check "required~:),in(x|a,b)" (.string "a,b") = .ok true := by decide +kernel
  rw [check_append hfirst hsecond hopen, haccepted]
  decide +kernel

/-! ## Malformed rules -/

/-- A rule with a validator that fits no value fails unless the validators in front of the first such
one refuse the value. -/
theorem check_malformed (h : parse rule = .ok vs) (hbad : ∃ v ∈ vs, ¬ v.isApplicable) (value : Value) :
    (∃ e, check rule value = .error e) ↔
      Validator.checkAll value (vs.takeWhile Validator.isApplicable) ≠ .ok false := by
  obtain ⟨e, he⟩ := Validator.exists_checkAll_eq hbad
  rw [check_of_parse h, he value]
  cases Validator.checkAll value (vs.takeWhile Validator.isApplicable) with
  | error e' => simp
  | ok accepted => cases accepted <;> simp

theorem check_malformed_accepted : ∃ e, check "alpha,length(3)" (.string "ab") = .error e := by
  have hparse : parse "alpha,length(3)" = .ok [⟨"alpha", []⟩, ⟨"length", ["3"]⟩] := by decide +kernel
  have hbad : ∃ v ∈ [⟨"alpha", []⟩, ⟨"length", ["3"]⟩], ¬ Validator.isApplicable v :=
    ⟨⟨"length", ["3"]⟩, by simp, by decide⟩
  apply (check_malformed hparse hbad (.string "ab")).2
  decide +kernel

/-- An unknown name is not noticed behind a validator that refuses the value. -/
theorem check_malformed_refused :
    ∃ vs, parse "required,shiny" = .ok vs ∧ (∃ v ∈ vs, ¬ v.isApplicable) ∧
      check "required,shiny" .null = .ok false := by
  refine ⟨[⟨"required", []⟩, ⟨"shiny", []⟩], by decide, ?_, by decide⟩
  exact ⟨⟨"shiny", []⟩, by simp, by decide⟩

/-! ## Void values -/

/-- A value that holds nothing never makes a rule fail whose validators are all applicable, whatever
their arguments: the rule refuses it if and only if one of them is `required`. -/
theorem check_void (hparse : parse rule = .ok vs) (happlicable : ∀ v ∈ vs, v.isApplicable)
    (hvalue : value = .null ∨ value = .string "" ∨ value = .list [] ∨ value = .map []) :
    check rule value = if ∃ v ∈ vs, v.name = "required" then .ok false else .ok true := by
  rw [check_of_parse hparse, Validator.checkAll_of_isVoid happlicable (Value.isVoid_iff.2 hvalue)]
  split
  case isTrue hsome => simpa using hsome
  case isFalse hnone => simpa using hnone

/-- No numbers, no pattern and a list that is no text: nothing of this is noticed. -/
theorem check_void_unread :
    check "length(few|),matches([),email" (.list []) = .ok true ∧
      check "length(few|),required~no items" (.list []) = .ok false := by
  have haccepted : parse "length(few|),matches([),email" =
      .ok [⟨"length", ["few", ""]⟩, ⟨"matches", ["["]⟩, ⟨"email", []⟩] := by decide +kernel
  have hrefused : parse "length(few|),required~no items" =
      .ok [⟨"length", ["few", ""]⟩, ⟨"required", []⟩] := by decide +kernel
  have hvoid : Value.list [] = .null ∨ Value.list [] = .string "" ∨ Value.list [] = .list [] ∨
      Value.list [] = .map [] := .inr (.inr (.inl rfl))
  constructor
  · rw [check_void haccepted (by decide) hvoid]
    rfl
  · rw [check_void hrefused (by decide) hvoid]
    rfl

end Rule

end ReleaseAudit
