import Mathlib.Data.List.Basic
import ReleaseAudit.Expr.Eval
import ReleaseAudit.Proofs.Expr.Layout

/-!
# The list of free names

Where a name occurs free is told by the path to it, every step of which is the number of a part. The
list of free names has the first free occurrence of every name that has one, in the order of the
paths. In a parsed expression this is the order of the text, so of the names that are not known the
leftmost one is refused.
-/

namespace ReleaseAudit

namespace Expr

/-- `e'` stands in `e` at the end of the path, below the parameters of the closures on the path, the
innermost first. -/
inductive StandsAt : Expr → List Nat → List String → Expr → Prop
  | here {e : Expr} : StandsAt e [] [] e
  | part {e part e' : Expr} {i : Nat} {path : List Nat} {params around : List String} :
      e.parts[i]? = some (params, part) → StandsAt part path around e' →
      StandsAt e (i :: path) (around ++ params) e'

/-- The name occurs at the end of the path, and no closure around it has a parameter of this name. -/
def FreeAt (e : Expr) (path : List Nat) (n : String) (s : Span) : Prop :=
  ∃ params, StandsAt e path params (name s n) ∧ n ∉ params

/-- The path leads to a place in front of that of the other one. -/
def InFront (path path' : List Nat) : Prop := List.Lex (· < ·) path path'

/-- The name occurs free at the end of the path, and everywhere else behind it. -/
structure FirstFreeAt (e : Expr) (path : List Nat) (n : String) (s : Span) : Prop where
  free : FreeAt e path n s
  first : ∀ path' s', FreeAt e path' n s' → path' ≠ path → InFront path path'

/-! ## Lists in the order of paths -/

namespace InFront

variable {p q r : List Nat} {i j : Nat}

theorem irrefl (p : List Nat) : ¬ InFront p p := List.lt_irrefl p

theorem trans (h : InFront p q) (h' : InFront q r) : InFront p r := List.lt_trans h h'

theorem cons_iff : InFront (i :: p) (j :: q) ↔ i < j ∨ i = j ∧ InFront p q :=
  List.cons_lex_cons_iff

end InFront

section Lists

variable {α β : Type} {Q R : List Nat → α → Prop} {l : List α}

/-- The list has exactly what `Q` holds of, in the order of the paths. -/
def Lists (Q : List Nat → α → Prop) (l : List α) : Prop :=
  ∃ placed : List (List Nat × α), placed.map Prod.snd = l ∧
    placed.Pairwise (fun p q ↦ InFront p.1 q.1) ∧ ∀ path a, (path, a) ∈ placed ↔ Q path a

theorem Lists.congr (h : Lists Q l) (hQ : ∀ path a, Q path a ↔ R path a) : Lists R l := by
  obtain ⟨placed, hmap, hordered, hmem⟩ := h
  exact ⟨placed, hmap, hordered, fun path a ↦ (hmem path a).trans (hQ path a)⟩

theorem lists_nil (h : ∀ path a, ¬ Q path a) : Lists Q [] :=
  ⟨[], rfl, .nil, fun path a ↦ iff_of_false List.not_mem_nil (h path a)⟩

theorem lists_singleton (a : α) : Lists (fun path a' ↦ path = [] ∧ a' = a) [a] :=
  ⟨[([], a)], rfl, List.pairwise_singleton _ _, by simp⟩

/-- The lists of parts, which are numbered from `k` on, one behind the other. -/
theorem lists_flatMap {ps : List β} {f : β → List α} {Q : β → List Nat → α → Prop}
    (h : ∀ p ∈ ps, Lists (Q p) (f p)) (k : Nat) :
    Lists (fun path a ↦ ∃ i rest p, path = (k + i) :: rest ∧ ps[i]? = some p ∧ Q p rest a)
      (ps.flatMap f) := by
  induction ps generalizing k with
  | nil => exact lists_nil (by simp)
  | cons p ps ih =>
    obtain ⟨hp, hps⟩ := List.forall_mem_cons.1 h
    obtain ⟨placed, hmap, hordered, hmem⟩ := hp
    obtain ⟨placed', hmap', hordered', hmem'⟩ := ih hps (k + 1)
    refine ⟨placed.map (fun q ↦ (k :: q.1, q.2)) ++ placed', ?_, ?_, ?_⟩
    · rw [List.map_append, List.map_map, hmap', List.flatMap_cons, ← hmap]
      rfl
    · refine List.pairwise_append.2 ⟨?_, hordered', ?_⟩
      · exact List.pairwise_map.2 (hordered.imp fun hlt ↦ InFront.cons_iff.2 (.inr ⟨rfl, hlt⟩))
      · rintro _ hq ⟨path, a⟩ hq'
        obtain ⟨q, _, rfl⟩ := List.mem_map.1 hq
        obtain ⟨i, rest, _, rfl, _⟩ := (hmem' path a).1 hq'
        exact InFront.cons_iff.2 (.inl (by omega))
    · intro path a
      rw [List.mem_append, hmem']
      constructor
      · rintro (hq | ⟨i, rest, p', rfl, hi, hQ⟩)
        · obtain ⟨⟨rest, a'⟩, hin, heq⟩ := List.mem_map.1 hq
          cases heq
          exact ⟨0, rest, p, rfl, rfl, (hmem rest a').1 hin⟩
        · exact ⟨i + 1, rest, p', by rw [Nat.add_right_comm, Nat.add_assoc], hi, hQ⟩
      · rintro ⟨i, rest, p', rfl, hi, hQ⟩
        cases i with
        | zero =>
          cases hi
          exact .inl (List.mem_map.2 ⟨(rest, a), (hmem rest a).2 hQ, rfl⟩)
        | succ i => exact .inr ⟨i, rest, p', by rw [Nat.add_right_comm, Nat.add_assoc], hi, hQ⟩

theorem Lists.mem_iff (h : Lists Q l) {a : α} : a ∈ l ↔ ∃ path, Q path a := by
  obtain ⟨placed, rfl, -, hmem⟩ := h
  simp only [List.mem_map, Prod.exists, exists_eq_right, hmem]

/-- What is found in a list is found at the first path that has something of the kind. -/
theorem Lists.find? (h : Lists Q l) {p : α → Bool} {a : α} (hfind : l.find? p = some a) :
    ∃ path, Q path a ∧ p a ∧ ∀ path' a', Q path' a' → p a' → path' ≠ path → InFront path path' := by
  obtain ⟨placed, rfl, hordered, hmem⟩ := h
  rw [List.find?_map, Option.map_eq_some_iff] at hfind
  obtain ⟨⟨path, a'⟩, hfind, rfl⟩ := hfind
  obtain ⟨hp, before, after, rfl, hbefore⟩ := List.find?_eq_some_iff_append.1 hfind
  refine ⟨path, (hmem path a').1 (by simp), hp, fun path' b hQ hpb hne ↦ ?_⟩
  rcases List.mem_append.1 ((hmem path' b).2 hQ) with hmem' | hmem'
  · exact absurd hpb (by simpa using hbefore _ hmem')
  · rcases List.mem_cons.1 hmem' with heq | hmem'
    · cases heq
      exact absurd rfl hne
    · exact (List.pairwise_cons.1 (List.pairwise_append.1 hordered).2.1).1 _ hmem'

end Lists

/-! ## Free occurrences -/

variable {e e' : Expr} {path path' : List Nat} {params params' bound : List String} {n n' : String}
  {s s' : Span} {occurrence : String × Span}

/-- The name occurs at the end of the path, and neither a parameter nor `bound` has it. -/
def FreeBelow (bound : List String) (e : Expr) (path : List Nat) (occurrence : String × Span) :
    Prop :=
  ∃ params, StandsAt e path params (name occurrence.2 occurrence.1) ∧
    occurrence.1 ∉ params ++ bound

theorem freeBelow_nil_iff : FreeBelow [] e path (n, s) ↔ FreeAt e path n s := by
  simp only [FreeBelow, FreeAt, List.append_nil]

theorem freeBelow_name_iff : FreeBelow bound (name s n) path occurrence ↔
    n ∉ bound ∧ path = [] ∧ occurrence = (n, s) := by
  constructor
  · rintro ⟨params, hstands, hbound⟩
    obtain ⟨n', s'⟩ := occurrence
    cases hstands with
    | here => exact ⟨hbound, rfl, rfl⟩
    | part hpart _ => cases hpart
  · rintro ⟨hbound, rfl, rfl⟩
    exact ⟨[], .here, hbound⟩

/-- Any other expression has the free occurrences of its parts. -/
theorem freeBelow_iff (h : ∀ s n, e ≠ name s n) : FreeBelow bound e path occurrence ↔
    ∃ i rest p, path = i :: rest ∧ e.parts[i]? = some p ∧
      FreeBelow (p.1 ++ bound) p.2 rest occurrence := by
  constructor
  · rintro ⟨params, hstands, hbound⟩
    cases hstands with
    | here => exact absurd rfl (h _ _)
    | part hpart hrest =>
      rw [List.append_assoc] at hbound
      exact ⟨_, _, _, rfl, hpart, _, hrest, hbound⟩
  · rintro ⟨i, rest, ⟨params, part⟩, rfl, hpart, around, hrest, hbound⟩
    refine ⟨around ++ params, .part hpart hrest, ?_⟩
    rwa [List.append_assoc]

theorem lists_freeOccurrences (e : Expr) (bound : List String) :
    Lists (FreeBelow bound e) (freeOccurrences bound e) := by
  rcases eq_name_or_ne e with ⟨s, n, rfl⟩ | hne
  · rw [freeOccurrences]
    split
    case isTrue hbound => exact lists_nil fun path o hfree ↦ (freeBelow_name_iff.1 hfree).1 hbound
    case isFalse hbound =>
      refine (lists_singleton (n, s)).congr fun path o ↦ ?_
      rw [freeBelow_name_iff, and_iff_right hbound]
  · rw [freeOccurrences_eq hne]
    have hparts (p : List String × Expr) (hp : p ∈ e.parts) :
        Lists (FreeBelow (p.1 ++ bound) p.2) (freeOccurrences (p.1 ++ bound) p.2) :=
      have := (part_iff_mem_parts.2 hp).sizeOf_lt
      lists_freeOccurrences p.2 (p.1 ++ bound)
    refine (lists_flatMap hparts 0).congr fun path o ↦ ?_
    simp only [freeBelow_iff hne, Nat.zero_add]
termination_by sizeOf e

/-- The first occurrence of a name is chosen, unless the name has been seen. -/
structure Chosen (placed : List (List Nat × String × Span)) (seen : List String) (path : List Nat)
    (n : String) (s : Span) : Prop where
  mem : (path, n, s) ∈ placed
  unseen : n ∉ seen
  first : ∀ path' s', (path', n, s') ∈ placed → path' ≠ path → InFront path path'

theorem exists_placed_firstOfEach {placed : List (List Nat × String × Span)}
    (hordered : placed.Pairwise fun p q ↦ InFront p.1 q.1) (seen : List String) :
    ∃ chosen : List (List Nat × String × Span), chosen.Sublist placed ∧
      chosen.map Prod.snd = firstOfEach seen (placed.map Prod.snd) ∧
      ∀ path n s, (path, n, s) ∈ chosen ↔ Chosen placed seen path n s := by
  induction placed generalizing seen with
  | nil => exact ⟨[], .slnil, rfl, fun path n s ↦ iff_of_false nofun fun h ↦ nomatch h.mem⟩
  | cons head rest ih =>
    obtain ⟨path₀, n₀, s₀⟩ := head
    obtain ⟨hfirst, hrest⟩ := List.pairwise_cons.1 hordered
    have hother {path : List Nat} {n : String} {s : Span} (hn : n ≠ n₀) :
        (path, n, s) ∈ (path₀, n₀, s₀) :: rest ↔ (path, n, s) ∈ rest := by simp [hn]
    rw [List.map_cons, firstOfEach]
    split
    case isTrue hseen =>
      obtain ⟨chosen, hsub, hmap, hmem⟩ := ih hrest seen
      refine ⟨chosen, hsub.cons _, hmap, fun path n s ↦ (hmem path n s).trans ?_⟩
      constructor
      · rintro ⟨hin, hunseen, hle⟩
        have hn : n ≠ n₀ := fun heq ↦ hunseen (heq ▸ hseen)
        exact ⟨(hother hn).2 hin, hunseen, fun path' s' h ↦ hle path' s' ((hother hn).1 h)⟩
      · rintro ⟨hin, hunseen, hle⟩
        have hn : n ≠ n₀ := fun heq ↦ hunseen (heq ▸ hseen)
        exact ⟨(hother hn).1 hin, hunseen, fun path' s' h ↦ hle path' s' ((hother hn).2 h)⟩
    case isFalse hseen =>
      obtain ⟨chosen, hsub, hmap, hmem⟩ := ih hrest (n₀ :: seen)
      refine ⟨(path₀, n₀, s₀) :: chosen, hsub.cons_cons _, by rw [List.map_cons, hmap], ?_⟩
      intro path n s
      rw [List.mem_cons, hmem]
      constructor
      · rintro (heq | ⟨hin, hunseen, hle⟩)
        · cases heq
          refine ⟨List.mem_cons_self, hseen, fun path' s' h hne ↦ ?_⟩
          rcases List.mem_cons.1 h with heq | hin
          · cases heq
            exact absurd rfl hne
          · exact hfirst _ hin
        · obtain ⟨hn, hunseen'⟩ : n ≠ n₀ ∧ n ∉ seen := by simpa using hunseen
          exact ⟨(hother hn).2 hin, hunseen', fun path' s' h ↦ hle path' s' ((hother hn).1 h)⟩
      · rintro ⟨hin, hunseen, hle⟩
        by_cases hn : n = n₀
        · subst hn
          rcases List.mem_cons.1 hin with heq | hin'
          · exact .inl heq
          · have hbehind : InFront path₀ path := hfirst _ hin'
            have hne : path₀ ≠ path := fun heq ↦ InFront.irrefl path (heq ▸ hbehind)
            exact absurd (hbehind.trans (hle path₀ s₀ List.mem_cons_self hne)) (InFront.irrefl path₀)
        · have hunseen' : n ∉ n₀ :: seen := by simp [hn, hunseen]
          exact .inr ⟨(hother hn).1 hin, hunseen', fun path' s' h ↦
            hle path' s' ((hother hn).2 h)⟩

theorem lists_freeNames (e : Expr) :
    Lists (fun path o ↦ FirstFreeAt e path o.1 o.2) e.freeNames := by
  obtain ⟨placed, hmap, hordered, hmem⟩ := lists_freeOccurrences e []
  obtain ⟨chosen, hsub, hchosen, hfirst⟩ := exists_placed_firstOfEach hordered []
  refine ⟨chosen, ?_, hordered.sublist hsub, ?_⟩
  · rw [hchosen, hmap]
    rfl
  · rintro path ⟨n, s⟩
    have hfree (path : List Nat) (s : Span) : (path, n, s) ∈ placed ↔ FreeAt e path n s :=
      (hmem path (n, s)).trans freeBelow_nil_iff
    rw [hfirst]
    constructor
    · intro h
      exact ⟨(hfree path s).1 h.mem, fun path' s' h' ↦ h.first path' s' ((hfree path' s').2 h')⟩
    · intro h
      exact ⟨(hfree path s).2 h.free, List.not_mem_nil, fun path' s' h' ↦
        h.first path' s' ((hfree path' s').1 h')⟩

/-! ## The order of the text -/

theorem laidOut_of_standsAt {ts : Tokens} (h : StandsAt e path params e') (hlaid : LaidOut ts e) :
    e.span.Holds e'.span ∧ LaidOut ts e' := by
  induction h with
  | here => exact ⟨.refl _, hlaid⟩
  | part hpart _ ih =>
    have hmem := List.mem_of_getElem? hpart
    obtain ⟨hholds, hlaid'⟩ := ih (hlaid.part (part_iff_mem_parts.2 hmem))
    exact ⟨(hlaid.here.holds _ hmem).trans hholds, hlaid'⟩

/-- Of two parts the one in front ends in the text where the other one begins, or before. -/
theorem LaidOut.stop_le_start {ts : Tokens} {p q : List String × Expr} {i j : Nat}
    (hlaid : LaidOut ts e) (hp : e.parts[i]? = some p) (hq : e.parts[j]? = some q) (hij : i < j) :
    p.2.span.stop ≤ q.2.span.start := by
  obtain ⟨hi, rfl⟩ := List.getElem?_eq_some_iff.1 hp
  obtain ⟨hj, rfl⟩ := List.getElem?_eq_some_iff.1 hq
  exact (List.pairwise_iff_getElem.1 hlaid.here.ordered i j hi hj hij).apart

/-- Names of a parsed expression stand in the text in the order of their paths. -/
theorem start_lt_of_inFront {ts : Tokens} (hlaid : LaidOut ts e)
    (h : StandsAt e path params (name s n)) (h' : StandsAt e path' params' (name s' n'))
    (hfront : InFront path path') : s.start < s'.start := by
  induction path generalizing e path' params params' with
  | nil =>
    cases h
    cases h' with
    | here => exact absurd hfront (InFront.irrefl [])
    | part hpart _ => cases hpart
  | cons i path ih =>
    cases h with
    | @part _ part _ _ _ above _ hpart hrest =>
    cases h' with
    | here => cases hpart
    | @part _ part' _ j _ above' _ hpart' hrest' =>
    have hmem := List.mem_of_getElem? hpart
    rcases InFront.cons_iff.1 hfront with hij | ⟨rfl, hfront'⟩
    · have hmem' := List.mem_of_getElem? hpart'
      obtain ⟨hholds, hname⟩ :=
        laidOut_of_standsAt hrest (hlaid.part (part_iff_mem_parts.2 hmem))
      obtain ⟨hholds', -⟩ :=
        laidOut_of_standsAt hrest' (hlaid.part (part_iff_mem_parts.2 hmem'))
      calc
        s.start < s.stop := hname.standsOver.nonempty
        _ ≤ part.span.stop := hholds.stop
        _ ≤ part'.span.start := hlaid.stop_le_start hpart hpart' hij
        _ ≤ s'.start := hholds'.start
    · cases hpart.symm.trans hpart'
      exact ih (hlaid.part (part_iff_mem_parts.2 hmem)) hrest hrest' hfront'

/-! ## What is listed and what is refused -/

theorem freeAt_iff_mem : (∃ path, FreeAt e path n s) ↔ (n, s) ∈ freeOccurrences [] e := by
  rw [(lists_freeOccurrences e []).mem_iff]
  exact exists_congr fun path ↦ freeBelow_nil_iff.symm

theorem exists_firstFreeAt (h : FreeAt e path n s) : ∃ path' s', FirstFreeAt e path' n s' := by
  obtain ⟨s', hmem⟩ := exists_mem_freeNames (freeAt_iff_mem.1 ⟨path, h⟩)
  obtain ⟨path', hfirst⟩ := (lists_freeNames e).mem_iff.1 hmem
  exact ⟨path', s', hfirst⟩

/-- The names that occur free, each of them once and with its first free occurrence, in the order of
these. -/
structure ListsFreeNames (e : Expr) (names : List (String × Span)) : Prop where
  mem_iff : ∀ n, n ∈ names.map Prod.fst ↔ ∃ path s, FreeAt e path n s
  nodup : (names.map Prod.fst).Nodup
  ordered : Lists (fun path o ↦ FirstFreeAt e path o.1 o.2) names

theorem listsFreeNames (e : Expr) : ListsFreeNames e e.freeNames where
  mem_iff n := by
    constructor
    · intro h
      obtain ⟨⟨_, s⟩, hmem, rfl⟩ := List.mem_map.1 h
      obtain ⟨path, hfirst⟩ := (lists_freeNames e).mem_iff.1 hmem
      exact ⟨path, s, hfirst.free⟩
    · rintro ⟨path, s, hfree⟩
      obtain ⟨s', hmem⟩ := exists_mem_freeNames (freeAt_iff_mem.1 ⟨path, hfree⟩)
      exact List.mem_map_of_mem hmem
  nodup := by
    obtain ⟨placed, hmap, hordered, hmem⟩ := lists_freeNames e
    rw [← hmap, List.map_map]
    refine List.pairwise_map.2 (hordered.imp_of_mem ?_)
    rintro ⟨path, n, s⟩ ⟨path', n', s'⟩ hp hq hfront rfl
    have hne : path ≠ path' := fun heq ↦ InFront.irrefl path (heq ▸ hfront)
    have hback := ((hmem path' (n, s')).1 hq).first path s ((hmem path (n, s)).1 hp).free hne
    exact InFront.irrefl path (hfront.trans hback)
  ordered := lists_freeNames e

/-- Neither the environment nor the builtins have the name. -/
def Missing (env : Environment) (n : String) : Prop :=
  ¬ env.contains n ∧ Builtin.ofName? n = none

theorem not_isKnown_iff {env : Environment} : (!isKnown env n) = true ↔ Missing env n := by
  simp [isKnown, Missing]

/-- The free names stand in the text in the order of their paths, and compiling fails if one of them
is missing, with the missing one that begins leftmost. -/
structure RefusesLeftmost (source : String) (e : Expr) : Prop where
  ordered : ∀ path n s path' n' s', FreeAt e path n s → FreeAt e path' n' s' →
    InFront path path' → s.start < s'.start
  refuses_iff : ∀ env, (∃ err, compile env source = .error err) ↔
    ∃ path n s, FreeAt e path n s ∧ Missing env n
  leftmost : ∀ env err, compile env source = .error err →
    ∃ path n s, err = .unknownName n s ∧ FreeAt e path n s ∧ Missing env n ∧
      ∀ path' n' s', FreeAt e path' n' s' → Missing env n' → path' ≠ path → s.start < s'.start

theorem compile_error_iff {env : Environment} {source : String} (h : parse source = .ok e)
    {err : CompileError} : compile env source = .error err ↔
      ∃ n s, err = .unknownName n s ∧
        e.freeNames.find? (fun (n, _) ↦ !isKnown env n) = some (n, s) := by
  simp only [compile, h]
  split
  case h_1 n s hfind =>
    constructor
    · rintro ⟨⟩
      exact ⟨n, s, rfl, hfind⟩
    · rintro ⟨n', s', rfl, hfind'⟩
      cases hfind.symm.trans hfind'
      rfl
  case h_2 hnone =>
    refine iff_of_false nofun ?_
    rintro ⟨n, s, rfl, hfind⟩
    cases hnone.symm.trans hfind

/-- No name that is missing occurs free in front of the one that is refused. -/
theorem inFront_of_find? {env : Environment}
    (hfind : e.freeNames.find? (fun (n, _) ↦ !isKnown env n) = some (n, s)) :
    ∃ path, FreeAt e path n s ∧ Missing env n ∧
      ∀ path' n' s', FreeAt e path' n' s' → Missing env n' → path' ≠ path → InFront path path' := by
  obtain ⟨path, hfirst, hmissing, hbehind⟩ := (lists_freeNames e).find? hfind
  refine ⟨path, hfirst.free, not_isKnown_iff.1 hmissing, fun path' n' s' hfree hmissing' hne ↦ ?_⟩
  obtain ⟨first, s₀, hfirst'⟩ := exists_firstFreeAt hfree
  by_cases heq : first = path
  · subst heq
    exact hfirst'.first path' s' hfree hne
  have hfront : InFront path first := hbehind first (n', s₀) hfirst' (not_isKnown_iff.2 hmissing') heq
  by_cases heq' : path' = first
  · rwa [heq']
  · exact hfront.trans (hfirst'.first path' s' hfree heq')

theorem refusesLeftmost {source : String} (h : parse source = .ok e) : RefusesLeftmost source e := by
  obtain ⟨ts, -, hlaid⟩ := exists_laidOut_of_parse h
  have hordered : ∀ path n s path' n' s', FreeAt e path n s → FreeAt e path' n' s' →
      InFront path path' → s.start < s'.start := by
    rintro path n s path' n' s' ⟨params, hstands, -⟩ ⟨params', hstands', -⟩ hfront
    exact start_lt_of_inFront hlaid hstands hstands' hfront
  refine ⟨hordered, fun env ↦ ?_, fun env err herr ↦ ?_⟩
  · simp only [compile_error_iff h]
    constructor
    · rintro ⟨err, n, s, rfl, hfind⟩
      obtain ⟨path, hfree, hmissing, -⟩ := inFront_of_find? hfind
      exact ⟨path, n, s, hfree, hmissing⟩
    · rintro ⟨path, n, s, hfree, hmissing⟩
      obtain ⟨s', hmem⟩ := exists_mem_freeNames (freeAt_iff_mem.1 ⟨path, hfree⟩)
      cases hfind : e.freeNames.find? (fun (n, _) ↦ !isKnown env n) with
      | some found => exact ⟨_, found.1, found.2, rfl, rfl⟩
      | none =>
        have hknown := List.find?_eq_none.1 hfind _ hmem
        exact absurd (not_isKnown_iff.2 hmissing) hknown
  · obtain ⟨n, s, rfl, hfind⟩ := (compile_error_iff h).1 herr
    obtain ⟨path, hfree, hmissing, hfirst⟩ := inFront_of_find? hfind
    refine ⟨path, n, s, rfl, hfree, hmissing, fun path' n' s' hfree' hmissing' hne ↦ ?_⟩
    exact hordered path n s path' n' s' hfree hfree' (hfirst path' n' s' hfree' hmissing' hne)

/-- The free names of an expression are listed in the order of their first free occurrences, and
compiling refuses the leftmost one that is missing. -/
theorem freeNames_listed (e : Expr) : ListsFreeNames e e.freeNames ∧
    ∀ source, parse source = .ok e → RefusesLeftmost source e :=
  ⟨listsFreeNames e, fun _ h ↦ refusesLeftmost h⟩

/-- The tokens of `xs.any(x=>x==y)and x`. -/
def reboundTokens : Tokens :=
  [⟨.name "xs", ⟨1, 1, 0, 2⟩⟩, ⟨.dot, ⟨1, 3, 2, 3⟩⟩, ⟨.name "any", ⟨1, 4, 3, 6⟩⟩,
    ⟨.leftParen, ⟨1, 7, 6, 7⟩⟩, ⟨.name "x", ⟨1, 8, 7, 8⟩⟩, ⟨.arrow, ⟨1, 9, 8, 10⟩⟩,
    ⟨.name "x", ⟨1, 11, 10, 11⟩⟩, ⟨.eq, ⟨1, 12, 11, 13⟩⟩, ⟨.name "y", ⟨1, 14, 13, 14⟩⟩,
    ⟨.rightParen, ⟨1, 15, 14, 15⟩⟩, ⟨.andKey, ⟨1, 16, 15, 18⟩⟩, ⟨.name "x", ⟨1, 20, 19, 20⟩⟩]

/-- The name `x` is seen first below a parameter of this name, and is free behind it. -/
def reboundExpr : Expr :=
  binary ⟨1, 1, 0, 20⟩ .and
    (method ⟨1, 1, 0, 15⟩ (name ⟨1, 1, 0, 2⟩ "xs") "any"
      [closure ⟨1, 8, 7, 14⟩ "x"
        (binary ⟨1, 11, 10, 14⟩ .eq (name ⟨1, 11, 10, 11⟩ "x") (name ⟨1, 14, 13, 14⟩ "y"))])
    (name ⟨1, 20, 19, 20⟩ "x")

theorem freeNames_listed_rebound :
    parse "xs.any(x=>x==y)and x" = .ok reboundExpr ∧
      ListsFreeNames reboundExpr
        [("xs", ⟨1, 1, 0, 2⟩), ("y", ⟨1, 14, 13, 14⟩), ("x", ⟨1, 20, 19, 20⟩)] ∧
      RefusesLeftmost "xs.any(x=>x==y)and x" reboundExpr := by
  have hscan : scan "xs.any(x=>x==y)and x" = .ok reboundTokens := by with_unfolding_all rfl
  have htokens : ofTokens reboundTokens = .ok reboundExpr := by cbv
  have hparse : parse "xs.any(x=>x==y)and x" = .ok reboundExpr := by
    simp only [parse, hscan, htokens]
  have hnames : reboundExpr.freeNames =
      [("xs", ⟨1, 1, 0, 2⟩), ("y", ⟨1, 14, 13, 14⟩), ("x", ⟨1, 20, 19, 20⟩)] := by decide
  obtain ⟨hlists, hrefuses⟩ := freeNames_listed reboundExpr
  rw [hnames] at hlists
  exact ⟨hparse, hlists, hrefuses _ hparse⟩

end Expr

end ReleaseAudit
