import ReleaseAudit.Proofs.Expr.Locals

/-!
# Lists under a closure

The methods with a closure go by what the closure says of each item, in the scope of the call: which of
them asks, and which items were asked before, makes no difference. So the others can be told from
`filter`: they count its items, take the first one or look whether there are any, and where it fails
they fail as well, unless an item in front of the failure decides.
-/

namespace ReleaseAudit

namespace Meaning

variable {α β : Type}

theorem result_bind (x : Meaning α) (next : α → Meaning β) :
    (x >>= next).result = x.result >>= fun a ↦ (next a).result := by
  obtain ⟨_ | a, text⟩ := x <;> rfl

theorem result_mapM (f : α → Meaning β) (as : List α) :
    (as.mapM f).result = as.mapM fun a ↦ (f a).result := by
  induction as with
  | nil => rfl
  | cons a as ih =>
    simp only [List.mapM_cons, result_bind, ih]
    rfl

theorem result_findM? (p : α → Meaning Bool) (as : List α) :
    (as.findM? p).result = as.findM? fun a ↦ (p a).result := by
  induction as with
  | nil => rfl
  | cons a as ih =>
    rw [List.findM?, List.findM?, result_bind]
    refine bind_congr fun holds ↦ ?_
    cases holds with
    | true => rfl
    | false => exact ih

end Meaning

/-! ## What a closure says of items -/

/-- The result of a closure for every item. -/
abbrev ItemOutcomes := Value → Except Failure Value

namespace ItemOutcomes

/-- The closure is true for the item. -/
def accepts (outcome : ItemOutcomes) (v : Value) : Bool :=
  match outcome v with
  | .ok w => w.isTruthy
  | .error _ => false

/-- The closure has a value for all items. -/
def Total (outcome : ItemOutcomes) (items : List Value) : Prop := ∀ v ∈ items, ∃ w, outcome v = .ok w

/-- The closure has a value for all items of `before`, and fails for the item that follows. -/
structure Breaks (outcome : ItemOutcomes) (items before : List Value) (e : Failure) : Prop where
  total : outcome.Total before
  next : ∃ v after, items = before ++ v :: after ∧ outcome v = .error e

variable {outcome : ItemOutcomes} {items before : List Value} {v w : Value} {e : Failure}

theorem accepts_of_ok (h : outcome v = .ok w) : outcome.accepts v = w.isTruthy := by
  rw [accepts, h]

theorem Total.tail (h : outcome.Total (v :: items)) : outcome.Total items :=
  fun u hu ↦ h u (List.mem_cons_of_mem v hu)

theorem total_or_breaks (outcome : ItemOutcomes) (items : List Value) :
    outcome.Total items ∨ ∃ before e, outcome.Breaks items before e := by
  induction items with
  | nil => exact .inl nofun
  | cons v items ih =>
    cases hv : outcome v with
    | error e => exact .inr ⟨[], e, nofun, v, items, rfl, hv⟩
    | ok w =>
      rcases ih with htotal | ⟨before, e, hbefore, u, after, rfl, hu⟩
      · exact .inl (List.forall_mem_cons.2 ⟨⟨w, hv⟩, htotal⟩)
      · have htotal := List.forall_mem_cons.2 ⟨⟨w, hv⟩, hbefore⟩
        exact .inr ⟨v :: before, e, htotal, u, after, rfl, hu⟩

theorem exists_mapM_eq (h : outcome.Total items) :
    ∃ results, items.mapM outcome = .ok results ∧
      ClosureMethod.kept items results = items.filter outcome.accepts := by
  induction items with
  | nil => exact ⟨[], rfl, rfl⟩
  | cons v items ih =>
    obtain ⟨w, hw⟩ := h v List.mem_cons_self
    obtain ⟨results, hresults, hkept⟩ := ih h.tail
    refine ⟨w :: results, ?_, ?_⟩
    · rw [List.mapM_cons, hw, hresults]
      rfl
    · rw [List.filter_cons, accepts_of_ok hw, ← hkept]
      cases htrue : w.isTruthy <;> simp [ClosureMethod.kept, htrue]

theorem Breaks.mapM_eq (h : outcome.Breaks items before e) : items.mapM outcome = .error e := by
  obtain ⟨v, after, rfl, hv⟩ := h.next
  obtain ⟨results, hresults, -⟩ := exists_mapM_eq h.total
  rw [List.mapM_append, hresults, List.mapM_cons, hv]
  rfl

/-- A search passes the items with a value as a search among them says. -/
theorem findM?_append {p : Value → Except Failure Bool} {q : Value → Bool}
    (h : ∀ v ∈ before, p v = .ok (q v)) (rest : List Value) :
    (before ++ rest).findM? p =
      match before.find? q with
      | some v => .ok (some v)
      | none => rest.findM? p := by
  induction before with
  | nil => rfl
  | cons v before ih =>
    obtain ⟨hv, hbefore⟩ := List.forall_mem_cons.1 h
    rw [List.cons_append, List.findM?, hv, List.find?_cons]
    cases q v with
    | true => rfl
    | false => exact ih hbefore

end ItemOutcomes

/-! ## What the methods make of it -/

namespace ClosureMethod

/-- What the methods with a closure answer on the items of a list, `called` being their results. -/
structure Agreement (outcome : ItemOutcomes) (items : List Value)
    (called : String → Except Failure Value) : Prop where
  of_ok : ∀ w, called "filter" = .ok w → ∃ kept, w = .list kept ∧ outcome.Total items ∧
    kept = items.filter outcome.accepts ∧
    called "count" = .ok (.ofLength kept.length) ∧
    called "any" = .ok (.bool (kept ≠ [])) ∧
    called "find" = .ok (kept.head?.getD .null) ∧
    called "all" = .ok (.bool (kept.length = items.length))
  /-- An item in front of the failure decides for three of them. -/
  of_error : ∀ e, called "filter" = .error e → ∃ before, outcome.Breaks items before e ∧
    called "count" = .error e ∧
    called "any" = (if ∃ v ∈ before, outcome.accepts v then .ok (.bool true) else .error e) ∧
    called "find" = (before.find? outcome.accepts).elim (.error e) .ok ∧
    called "all" = if ∃ v ∈ before, ¬ outcome.accepts v then .ok (.bool false) else .error e

open Meaning (result_bind result_mapM result_findM?)

variable {body : Value → Meaning Value} {items before : List Value} {e : Failure}

/-- The results of the closure without the text that it prints. -/
def outcomes (body : Value → Meaning Value) : ItemOutcomes := fun v ↦ (body v).result

/-- Whether the truth of the closure for the item is `wanted`. -/
def verdict (wanted : Bool) (outcome : ItemOutcomes) (v : Value) : Except Failure Bool := do
  return (← outcome v).isTruthy == wanted

theorem result_filter : (filter.meaning body items).result =
    return .list (kept items (← items.mapM (outcomes body))) := by
  rw [meaning, result_bind, result_mapM]
  rfl

theorem result_count : (count.meaning body items).result =
    return .ofLength (kept items (← items.mapM (outcomes body))).length := by
  rw [meaning, result_bind, result_mapM]
  rfl

theorem result_search (body : Value → Meaning Value) (wanted : Bool) (items : List Value) :
    (items.findM? fun v ↦ do return (← body v).isTruthy == wanted).result =
      items.findM? (verdict wanted (outcomes body)) := by
  rw [result_findM?]
  refine congrArg (List.findM? · items) (funext fun v ↦ ?_)
  rw [result_bind]
  rfl

theorem result_find : (find.meaning body items).result =
    return (← items.findM? (verdict true (outcomes body))).getD .null := by
  have hsearch := result_search body true items
  simp only [beq_true] at hsearch
  rw [meaning, result_bind, hsearch]
  rfl

theorem result_any : (any.meaning body items).result =
    return .bool (← items.findM? (verdict true (outcomes body))).isSome := by
  have hsearch := result_search body true items
  simp only [beq_true] at hsearch
  simp only [meaning, anyM_eq, bind_assoc, pure_bind]
  rw [result_bind, hsearch]
  rfl

theorem result_all : (all.meaning body items).result =
    return .bool (← items.findM? (verdict false (outcomes body))).isNone := by
  have hsearch := result_search body false items
  simp only [beq_false] at hsearch
  simp only [meaning, allM_eq, bind_assoc, pure_bind]
  rw [result_bind, hsearch]
  rfl

/-- A search passes items with a value as a search for the closure's truth does. -/
theorem findM?_verdict {outcome : ItemOutcomes} (h : outcome.Total before) (wanted : Bool)
    (rest : List Value) :
    (before ++ rest).findM? (verdict wanted outcome) =
      match before.find? (outcome.accepts · == wanted) with
      | some v => .ok (some v)
      | none => rest.findM? (verdict wanted outcome) := by
  refine ItemOutcomes.findM?_append (fun v hv ↦ ?_) rest
  obtain ⟨w, hw⟩ := h v hv
  rw [verdict, hw, ItemOutcomes.accepts_of_ok hw]
  rfl

theorem findM?_of_total {outcome : ItemOutcomes} (h : outcome.Total items) (wanted : Bool) :
    items.findM? (verdict wanted outcome) = .ok (items.find? (outcome.accepts · == wanted)) := by
  have hsearch := findM?_verdict h wanted []
  rw [List.append_nil] at hsearch
  rw [hsearch]
  cases items.find? (outcome.accepts · == wanted) <;> rfl

theorem findM?_of_breaks {outcome : ItemOutcomes} (h : outcome.Breaks items before e) (wanted : Bool) :
    items.findM? (verdict wanted outcome) =
      (before.find? (outcome.accepts · == wanted)).elim (.error e) (.ok ∘ some) := by
  obtain ⟨v, after, rfl, hv⟩ := h.next
  have hrest : (v :: after).findM? (verdict wanted outcome) = .error e := by
    rw [List.findM?, verdict, hv]
    rfl
  rw [findM?_verdict h.total, hrest]
  cases before.find? (outcome.accepts · == wanted) <;> rfl

/-- The methods agree on items for which the closure always has a value. -/
theorem agreement_of_total {called : String → Except Failure Value}
    (hcalled : ∀ n method, ofName? n = some method → called n = (method.meaning body items).result)
    (h : (outcomes body).Total items) : Agreement (outcomes body) items called := by
  obtain ⟨results, hresults, hkept⟩ := ItemOutcomes.exists_mapM_eq h
  have hfilter : called "filter" = .ok (.list (items.filter (outcomes body).accepts)) := by
    rw [hcalled _ filter rfl, result_filter, hresults, ← hkept]
    rfl
  constructor
  · intro w hw
    cases hfilter.symm.trans hw
    refine ⟨_, rfl, h, rfl, ?_, ?_, ?_, ?_⟩
    · rw [hcalled _ count rfl, result_count, hresults, ← hkept]
      rfl
    · have hsome : (items.find? ((outcomes body).accepts · == true)).isSome =
          decide (items.filter (outcomes body).accepts ≠ []) := by
        simp only [beq_true, ← List.head?_filter]
        cases items.filter (outcomes body).accepts <;> rfl
      rw [hcalled _ any rfl, result_any, findM?_of_total h, ← hsome]
      rfl
    · rw [hcalled _ find rfl, result_find, findM?_of_total h, List.head?_filter]
      simp only [beq_true]
      rfl
    · have hnone : (items.find? ((outcomes body).accepts · == false)).isNone =
          decide ((items.filter (outcomes body).accepts).length = items.length) := by
        rw [Bool.eq_iff_iff, decide_eq_true_iff, List.length_filter_eq_length_iff]
        simp
      rw [hcalled _ all rfl, result_all, findM?_of_total h, ← hnone]
      rfl
  · intro e he
    cases hfilter.symm.trans he

theorem agreement_of_breaks {called : String → Except Failure Value}
    (hcalled : ∀ n method, ofName? n = some method → called n = (method.meaning body items).result)
    (h : (outcomes body).Breaks items before e) : Agreement (outcomes body) items called := by
  have hfilter : called "filter" = .error e := by
    rw [hcalled _ filter rfl, result_filter, h.mapM_eq]
    rfl
  constructor
  · intro w hw
    cases hfilter.symm.trans hw
  · intro e' he
    cases hfilter.symm.trans he
    refine ⟨before, h, ?_, ?_, ?_, ?_⟩
    · rw [hcalled _ count rfl, result_count, h.mapM_eq]
      rfl
    · rw [hcalled _ any rfl, result_any, findM?_of_breaks h]
      simp only [beq_true]
      cases hfind : before.find? (outcomes body).accepts with
      | none => exact (if_neg (by simpa using hfind)).symm
      | some v => exact (if_pos ⟨v, List.mem_of_find?_eq_some hfind, List.find?_some hfind⟩).symm
    · rw [hcalled _ find rfl, result_find, findM?_of_breaks h]
      simp only [beq_true]
      cases before.find? (outcomes body).accepts <;> rfl
    · rw [hcalled _ all rfl, result_all, findM?_of_breaks h]
      cases hfind : before.find? ((outcomes body).accepts · == false) with
      | none => exact (if_neg (by simpa using hfind)).symm
      | some v =>
        have hrefused : ¬ (outcomes body).accepts v := by simpa using List.find?_some hfind
        exact (if_pos ⟨v, List.mem_of_find?_eq_some hfind, hrefused⟩).symm

end ClosureMethod
namespace Expr

variable [HostCode] {env : Environment} {receiver body : Expr} {param : String} {items : List Value}
  {m : Machine}

/-- The results of a closure in the scope of the machine: of its items only the one that it is asked
about is known to it. -/
def closureOutcomes (env : Environment) (m : Machine) (param : String) (body : Expr) : ItemOutcomes :=
  fun v ↦ (eval env body { m with locals := (param, v) :: m.locals }).1

theorem result_eval (env : Environment) (e : Expr) (m : Machine) :
    (eval env e m).1 = (meaning (Scope.around env m.locals) e).result := by
  obtain ⟨after, -, -, hrun⟩ := eval_realizes env m.locals e m rfl
  rw [hrun]

theorem closureOutcomes_eq : closureOutcomes env m param body =
    ClosureMethod.outcomes fun v ↦ meaning ((Scope.around env m.locals).extend param v) body := by
  funext v
  rw [closureOutcomes, result_eval]
  rfl

theorem result_closure {s s' : Span} {n : String} {method : ClosureMethod}
    (hmethod : ClosureMethod.ofName? n = some method)
    (hreceiver : (eval env receiver m).1 = .ok (.list items)) :
    (eval env (Expr.method s receiver n [closure s' param body]) m).1 =
      (method.meaning (fun v ↦ meaning ((Scope.around env m.locals).extend param v) body)
        items).result := by
  have hitems : (meaning (Scope.around env m.locals) receiver).result = .ok (.list items) := by
    rw [← hreceiver, result_eval]
  rw [result_eval, meaning, Meaning.result_bind, hitems]
  simp only [hmethod]
  rfl

/-- On a list the methods with one and the same closure agree, wherever their calls stand. -/
theorem closure_methods_agree (s s' : String → Span)
    (hreceiver : (eval env receiver m).1 = .ok (.list items)) :
    ClosureMethod.Agreement (closureOutcomes env m param body) items fun n ↦
      (eval env (method (s n) receiver n [closure (s' n) param body]) m).1 := by
  rw [closureOutcomes_eq]
  have hcalled (n : String) (method : ClosureMethod)
      (hmethod : ClosureMethod.ofName? n = some method) :
      (eval env (Expr.method (s n) receiver n [closure (s' n) param body]) m).1 =
        (method.meaning (fun v ↦ meaning ((Scope.around env m.locals).extend param v) body)
          items).result :=
    result_closure hmethod hreceiver
  rcases ItemOutcomes.total_or_breaks
      (ClosureMethod.outcomes fun v ↦ meaning ((Scope.around env m.locals).extend param v) body)
      items with htotal | ⟨before, e, hbreaks⟩
  · exact ClosureMethod.agreement_of_total hcalled htotal
  · exact ClosureMethod.agreement_of_breaks hcalled hbreaks

end Expr

namespace Expr

def mixedItems : List Value := [.map [("x", .bool true)], .map [], .bool true]

/-- The method `n` of the items with the closure `w => w.x`, which fails for the last item. -/
def callMixed (n : String) : Except Failure Value :=
  letI := HostCode.none
  (eval ⟨[("v", .list mixedItems)]⟩
    (method default (name default "v") n
      [closure default "w" (property ⟨1, 14, 13, 16⟩ (name default "w") "x")]) ⟨[], ""⟩).1

/-- Counting fails as filtering does, while the first item answers for `any` and the second for
`all`. -/
theorem closure_methods_agree_mixed :
    ∃ e, callMixed "filter" = .error e ∧ callMixed "count" = .error e ∧
      callMixed "any" = .ok (.bool true) ∧ callMixed "all" = .ok (.bool false) := by
  let code : HostCode := HostCode.none
  have hagree : ClosureMethod.Agreement
      (closureOutcomes ⟨[("v", .list mixedItems)]⟩ ⟨[], ""⟩ "w"
        (property ⟨1, 14, 13, 16⟩ (name default "w") "x")) mixedItems callMixed :=
    closure_methods_agree (fun _ ↦ default) (fun _ ↦ default) rfl
  have hfilter : callMixed "filter" =
      .error (.evaluation ⟨.noProperty "x" .bool, some ⟨1, 14, 13, 16⟩⟩) := rfl
  obtain ⟨before, -, hcount, -, -, -⟩ := hagree.of_error _ hfilter
  exact ⟨_, hfilter, hcount, rfl, rfl⟩

end Expr

end ReleaseAudit
