import ReleaseAudit.Expr

/-!
# Occurrences

Where an expression stands in another one, and below which parameters of closures. The names that are
free in a part are free in the whole unless they are one of these parameters.
-/

namespace ReleaseAudit

namespace Expr

/-- The second expression is a part of the first one, and stands directly below `params`. -/
inductive Part : Expr → List String → Expr → Prop
  | item {s : Span} {items : List Expr} {e : Expr} : e ∈ items → Part (list s items) [] e
  | entry {s : Span} {entries : List (String × Expr)} {k : String} {e : Expr} :
      (k, e) ∈ entries → Part (map s entries) [] e
  | propertyReceiver {s : Span} {receiver : Expr} {n : String} :
      Part (property s receiver n) [] receiver
  | indexReceiver {s : Span} {receiver key : Expr} : Part (index s receiver key) [] receiver
  | indexKey {s : Span} {receiver key : Expr} : Part (index s receiver key) [] key
  | methodReceiver {s : Span} {receiver : Expr} {n : String} {args : List Expr} :
      Part (method s receiver n args) [] receiver
  | methodArg {s : Span} {receiver : Expr} {n : String} {args : List Expr} {e : Expr} :
      e ∈ args → Part (method s receiver n args) [] e
  | callFunction {s : Span} {function : Expr} {args : List Expr} :
      Part (call s function args) [] function
  | callArg {s : Span} {function : Expr} {args : List Expr} {e : Expr} :
      e ∈ args → Part (call s function args) [] e
  | closureBody {s : Span} {param : String} {body : Expr} :
      Part (closure s param body) [param] body
  | unaryOperand {s : Span} {op : UnaryOp} {operand : Expr} : Part (unary s op operand) [] operand
  | binaryLeft {s : Span} {op : BinaryOp} {left right : Expr} : Part (binary s op left right) [] left
  | binaryRight {s : Span} {op : BinaryOp} {left right : Expr} :
      Part (binary s op left right) [] right
  | condition {s : Span} {condition onTrue onFalse : Expr} :
      Part (conditional s condition onTrue onFalse) [] condition
  | onTrue {s : Span} {condition onTrue onFalse : Expr} :
      Part (conditional s condition onTrue onFalse) [] onTrue
  | onFalse {s : Span} {condition onTrue onFalse : Expr} :
      Part (conditional s condition onTrue onFalse) [] onFalse

/-- `e'` stands in `e` below the parameters of the closures around it, the innermost first. -/
inductive Occurs (e : Expr) : List String → Expr → Prop
  | here : Occurs e [] e
  | part {around params : List String} {e' part : Expr} :
      Occurs e around e' → Part e' params part → Occurs e (params ++ around) part

variable {e e' : Expr} {params around bound : List String}

theorem sizeOf_lt_of_mem_entries {entries : List (String × Expr)} {k : String}
    (h : (k, e) ∈ entries) : sizeOf e < sizeOf entries := by
  have hentry := List.sizeOf_lt_of_mem h
  simp only [Prod.mk.sizeOf_spec] at hentry
  omega

theorem Part.sizeOf_lt (h : Part e params e') : sizeOf e' < sizeOf e := by
  cases h with
  | entry he =>
    have hlt := sizeOf_lt_of_mem_entries he
    simp only [map.sizeOf_spec]
    omega
  | item he | methodArg he | callArg he =>
    have hlt := List.sizeOf_lt_of_mem he
    simp only [list.sizeOf_spec, method.sizeOf_spec, call.sizeOf_spec]
    omega
  | callFunction | closureBody | unaryOperand =>
    simp only [call.sizeOf_spec, closure.sizeOf_spec, unary.sizeOf_spec]
    omega
  | propertyReceiver | indexReceiver | indexKey | methodReceiver =>
    simp only [property.sizeOf_spec, index.sizeOf_spec, method.sizeOf_spec]
    omega
  | binaryLeft | binaryRight | condition | onTrue | onFalse =>
    simp only [binary.sizeOf_spec, conditional.sizeOf_spec]
    omega

/-- The parts of an expression in their order, each with the parameters that it stands directly
below. -/
def parts : Expr → List (List String × Expr)
  | null _ | bool _ _ | number _ _ | string _ _ | name _ _ => []
  | list _ items => items.map fun e ↦ ([], e)
  | map _ entries => entries.map fun entry ↦ ([], entry.2)
  | property _ receiver _ => [([], receiver)]
  | index _ receiver key => [([], receiver), ([], key)]
  | method _ receiver _ args => ([], receiver) :: args.map fun e ↦ ([], e)
  | call _ function args => ([], function) :: args.map fun e ↦ ([], e)
  | closure _ param body => [([param], body)]
  | unary _ _ operand => [([], operand)]
  | binary _ _ left right => [([], left), ([], right)]
  | conditional _ condition onTrue onFalse => [([], condition), ([], onTrue), ([], onFalse)]

theorem part_iff_mem_parts : Part e params e' ↔ (params, e') ∈ e.parts := by
  constructor
  · intro h
    cases h with
    | item he | methodArg he | callArg he => simp [parts, he]
    | entry he =>
      rw [parts]
      exact List.mem_map_of_mem he
    | _ => simp [parts]
  · intro h
    cases e <;> simp only [parts, List.mem_cons, List.mem_map, List.not_mem_nil, or_false,
      Prod.mk.injEq] at h
    case list =>
      obtain ⟨_, he, rfl, rfl⟩ := h
      exact .item he
    case map =>
      obtain ⟨_, he, rfl, rfl⟩ := h
      exact .entry he
    case property =>
      obtain ⟨rfl, rfl⟩ := h
      exact .propertyReceiver
    case index =>
      rcases h with ⟨rfl, rfl⟩ | ⟨rfl, rfl⟩
      · exact .indexReceiver
      · exact .indexKey
    case method =>
      rcases h with ⟨rfl, rfl⟩ | ⟨_, he, rfl, rfl⟩
      · exact .methodReceiver
      · exact .methodArg he
    case call =>
      rcases h with ⟨rfl, rfl⟩ | ⟨_, he, rfl, rfl⟩
      · exact .callFunction
      · exact .callArg he
    case closure =>
      obtain ⟨rfl, rfl⟩ := h
      exact .closureBody
    case unary =>
      obtain ⟨rfl, rfl⟩ := h
      exact .unaryOperand
    case binary =>
      rcases h with ⟨rfl, rfl⟩ | ⟨rfl, rfl⟩
      · exact .binaryLeft
      · exact .binaryRight
    case conditional =>
      rcases h with ⟨rfl, rfl⟩ | ⟨rfl, rfl⟩ | ⟨rfl, rfl⟩
      · exact .condition
      · exact .onTrue
      · exact .onFalse

/-! ## Everywhere in an expression -/

/-- Whatever stands in the expression satisfies `Q`. -/
def Everywhere (Q : Expr → Prop) (e : Expr) : Prop := ∀ params e', Occurs e params e' → Q e'

variable {Q R : Expr → Prop}

theorem Everywhere.here (h : Everywhere Q e) : Q e := h [] e .here

theorem Everywhere.imp (h : Everywhere Q e) (himp : ∀ e, Q e → R e) : Everywhere R e :=
  fun params e' hoccurs ↦ himp e' (h params e' hoccurs)

/-- An expression that stands in another one is this one or stands in one of its parts. -/
theorem Occurs.eq_or_part (h : Occurs e params e') :
    e' = e ∨ ∃ above params part, Part e above part ∧ Occurs part params e' := by
  induction h with
  | here => exact .inl rfl
  | part _ hpart ih =>
    right
    rcases ih with rfl | ⟨above, around, first, hfirst, hoccurs⟩
    · exact ⟨_, [], _, hpart, .here⟩
    · exact ⟨above, _, first, hfirst, .part hoccurs hpart⟩

theorem Part.occurs {part : Expr} (hpart : Part e params part) (h : Occurs part around e') :
    Occurs e (around ++ params) e' := by
  induction h with
  | here => simpa using Occurs.part .here hpart
  | part _ hlast ih =>
    rw [List.append_assoc]
    exact .part ih hlast

theorem Everywhere.part {part : Expr} (h : Everywhere Q e) (hpart : Part e params part) :
    Everywhere Q part :=
  fun _ e' hoccurs ↦ h _ e' (hpart.occurs hoccurs)

theorem everywhere_of_parts (hself : Q e) (hparts : ∀ p ∈ e.parts, Everywhere Q p.2) :
    Everywhere Q e := by
  intro params e' hoccurs
  rcases hoccurs.eq_or_part with rfl | ⟨above, around, part, hpart, hwithin⟩
  · exact hself
  · exact hparts _ (part_iff_mem_parts.1 hpart) around e' hwithin

/-! ## Free occurrences -/

variable {occurrence : String × Span}

theorem freeInItems_eq (es : List Expr) :
    freeInItems bound es = es.flatMap (freeOccurrences bound) := by
  induction es with
  | nil => rw [freeInItems, List.flatMap_nil]
  | cons e es ih => rw [freeInItems, List.flatMap_cons, ih]

theorem freeInEntries_eq (es : List (String × Expr)) :
    freeInEntries bound es = es.flatMap fun entry ↦ freeOccurrences bound entry.2 := by
  induction es with
  | nil => rw [freeInEntries, List.flatMap_nil]
  | cons entry es ih => rw [freeInEntries, List.flatMap_cons, ih]

theorem eq_name_or_ne (e : Expr) : (∃ s n, e = name s n) ∨ ∀ s n, e ≠ name s n := by
  by_cases h : ∃ s n, e = name s n
  · exact .inl h
  · exact .inr fun s n heq ↦ h ⟨s, n, heq⟩

/-- What is free in an expression is free in one of its parts, below one more parameter in the body of
a closure. Only a name has a free occurrence of its own. -/
theorem freeOccurrences_eq (h : ∀ s n, e ≠ name s n) :
    freeOccurrences bound e = e.parts.flatMap fun p ↦ freeOccurrences (p.1 ++ bound) p.2 := by
  cases e with
  | name s n => exact absurd rfl (h s n)
  | list s items => simp [freeOccurrences, freeInItems_eq, parts, List.flatMap_map]
  | map s entries => simp [freeOccurrences, freeInEntries_eq, parts, List.flatMap_map]
  | method s receiver n args => simp [freeOccurrences, freeInItems_eq, parts, List.flatMap_map]
  | call s function args => simp [freeOccurrences, freeInItems_eq, parts, List.flatMap_map]
  | _ => simp [freeOccurrences, parts]

theorem Part.ne_name (h : Part e params e') (s : Span) (n : String) : e ≠ name s n := by
  rintro rfl
  cases h

theorem Part.mem_freeOccurrences (h : Part e params e')
    (hfree : occurrence ∈ freeOccurrences (params ++ bound) e') :
    occurrence ∈ freeOccurrences bound e := by
  rw [freeOccurrences_eq h.ne_name]
  exact List.mem_flatMap.2 ⟨_, part_iff_mem_parts.1 h, hfree⟩

/-- A free occurrence is the whole expression or free in one of its parts. -/
theorem exists_part_of_mem_freeOccurrences (h : occurrence ∈ freeOccurrences bound e) :
    e = name occurrence.2 occurrence.1 ∨ ∃ params part, Part e params part ∧
      occurrence ∈ freeOccurrences (params ++ bound) part := by
  rcases eq_name_or_ne e with ⟨s, n, rfl⟩ | hne
  · rw [freeOccurrences] at h
    split at h
    · cases h
    · cases List.mem_singleton.1 h
      exact .inl rfl
  · rw [freeOccurrences_eq hne] at h
    obtain ⟨⟨params, part⟩, hpart, hfree⟩ := List.mem_flatMap.1 h
    exact .inr ⟨params, part, part_iff_mem_parts.2 hpart, hfree⟩

/-- A free name of a part is bound around the part or free in the whole. -/
theorem Occurs.mem_freeOccurrences (h : Occurs e params e')
    (hfree : occurrence ∈ freeOccurrences (params ++ bound) e') :
    occurrence ∈ freeOccurrences bound e := by
  induction h with
  | here => exact hfree
  | part _ hpart ih =>
    rw [List.append_assoc] at hfree
    exact ih (hpart.mem_freeOccurrences hfree)

/-- What occurs free stands in the expression, and below no parameter of its name. -/
theorem exists_occurs_of_mem_freeOccurrences {e : Expr} {bound : List String} {n : String}
    {s : Span} (h : (n, s) ∈ freeOccurrences bound e) :
    ∃ params, Occurs e params (name s n) ∧ n ∉ params ++ bound := by
  rcases exists_part_of_mem_freeOccurrences h with rfl | ⟨params, part, hpart, hfree⟩
  · exact ⟨[], .here, by simpa [freeOccurrences] using h⟩
  · have := hpart.sizeOf_lt
    obtain ⟨inner, hoccurs, hbound⟩ := exists_occurs_of_mem_freeOccurrences hfree
    exact ⟨inner ++ params, hpart.occurs hoccurs, by rwa [List.append_assoc]⟩
termination_by sizeOf e

/-- A name that stands below `params` is one of these or occurs free in the whole. -/
theorem Occurs.mem_or_free {s : Span} {n : String} (h : Occurs e params (name s n)) :
    n ∈ params ∨ (n, s) ∈ freeOccurrences [] e := by
  by_cases hbound : n ∈ params
  · exact .inl hbound
  · refine .inr (h.mem_freeOccurrences ?_)
    simp [freeOccurrences, hbound]

theorem mem_of_mem_firstOfEach {seen : List String} {occurrences : List (String × Span)}
    (h : occurrence ∈ firstOfEach seen occurrences) : occurrence ∈ occurrences := by
  induction occurrences generalizing seen with
  | nil => cases h
  | cons first rest ih =>
    obtain ⟨n, s⟩ := first
    rw [firstOfEach] at h
    split at h
    · exact List.mem_cons_of_mem _ (ih h)
    · rcases List.mem_cons.1 h with rfl | hrest
      · exact List.mem_cons_self
      · exact List.mem_cons_of_mem _ (ih hrest)

/-- Every free name is listed. -/
theorem exists_mem_firstOfEach {seen : List String} {occurrences : List (String × Span)} {n : String}
    {s : Span} (h : (n, s) ∈ occurrences) (hseen : n ∉ seen) :
    ∃ s', (n, s') ∈ firstOfEach seen occurrences := by
  induction occurrences generalizing seen with
  | nil => cases h
  | cons first rest ih =>
    obtain ⟨n', s'⟩ := first
    rw [firstOfEach]
    by_cases hfirst : n' = n
    · subst hfirst
      rw [if_neg hseen]
      exact ⟨s', List.mem_cons_self⟩
    · have hrest : (n, s) ∈ rest := by
        rcases List.mem_cons.1 h with heq | hrest
        · cases heq
          exact absurd rfl hfirst
        · exact hrest
      split
      · exact ih hrest hseen
      · have hseen' : n ∉ n' :: seen := by simp [hseen, Ne.symm hfirst]
        obtain ⟨s'', hmem⟩ := ih hrest hseen'
        exact ⟨s'', List.mem_cons_of_mem _ hmem⟩

theorem exists_mem_freeNames {n : String} {s : Span} (h : (n, s) ∈ freeOccurrences [] e) :
    ∃ s', (n, s') ∈ e.freeNames :=
  exists_mem_firstOfEach h List.not_mem_nil

end Expr

end ReleaseAudit
