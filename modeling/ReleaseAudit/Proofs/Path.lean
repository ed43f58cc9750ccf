import Mathlib.Data.Prod.Lex
import Mathlib.Data.String.Basic
import ReleaseAudit.Path

/-!
# The order of paths

Paths are ordered by their parts, first by the kinds of these and then by their texts. Sorting puts
paths into this order, and neither adds nor loses any; paths with the same parts stay as they stand.
-/

namespace ReleaseAudit

namespace PathPart

variable {p q : PathPart}

/-- The order of parts: the root first, then `.`, `..` and the names, which are ordered as texts. -/
def Before : PathPart → PathPart → Prop
  | root, q => q ≠ root
  | here, q => q = up ∨ ∃ cs, q = name cs
  | up, q => ∃ cs, q = name cs
  | name s, name t => String.ofList s < String.ofList t
  | name _, _ => False

/-- What the parts of a path are ordered by. -/
def key (p : PathPart) : Nat ×ₗ String := toLex (p.rank, String.ofList p.text)

theorem precedes_iff : p.precedes q ↔ p.key < q.key := by
  simp [precedes, key, Prod.Lex.toLex_lt_toLex]

theorem before_iff : p.Before q ↔ p.key < q.key := by
  cases p <;> cases q <;> simp [Before, key, rank, text, Prod.Lex.toLex_lt_toLex]

theorem key_inj : p.key = q.key ↔ p = q := by
  cases p <;> cases q <;> simp [key, rank, text, ← String.toList_inj]

end PathPart

namespace Path

variable {p q : PathPart} {ps qs rs : List PathPart} {paths others found : List String}

theorem partsLE_cons_iff :
    partsLE (p :: ps) (q :: qs) ↔ p.key < q.key ∨ p.key = q.key ∧ partsLE ps qs := by
  have hqp : q.precedes p = false ↔ p.key ≤ q.key := by
    rw [← Bool.not_eq_true, PathPart.precedes_iff, not_lt]
  simp only [partsLE, Bool.or_eq_true, Bool.and_eq_true, Bool.not_eq_true', hqp,
    PathPart.precedes_iff, le_iff_lt_or_eq]
  constructor
  · rintro (hlt | ⟨hlt | heq, hrest⟩)
    · exact .inl hlt
    · exact .inl hlt
    · exact .inr ⟨heq, hrest⟩
  · rintro (hlt | ⟨heq, hrest⟩)
    · exact .inl hlt
    · exact .inr ⟨.inr heq, hrest⟩

theorem partsLE_trans (hpq : partsLE ps qs) (hqr : partsLE qs rs) : partsLE ps rs := by
  induction ps generalizing qs rs with
  | nil => rfl
  | cons p ps ih =>
    obtain _ | ⟨q, qs⟩ := qs
    · cases hpq
    obtain _ | ⟨r, rs⟩ := rs
    · cases hqr
    rw [partsLE_cons_iff] at hpq hqr ⊢
    rcases hpq with hpq | ⟨hpq, hps⟩ <;> rcases hqr with hqr | ⟨hqr, hqs⟩
    · exact .inl (hpq.trans hqr)
    · exact .inl (hqr ▸ hpq)
    · exact .inl (hpq ▸ hqr)
    · exact .inr ⟨hpq.trans hqr, ih hps hqs⟩

theorem partsLE_total (ps qs : List PathPart) : partsLE ps qs ∨ partsLE qs ps := by
  induction ps generalizing qs with
  | nil => exact .inl rfl
  | cons p ps ih =>
    obtain _ | ⟨q, qs⟩ := qs
    · exact .inr rfl
    simp only [partsLE_cons_iff]
    rcases lt_trichotomy p.key q.key with hlt | heq | hgt
    · exact .inl (.inl hlt)
    · exact (ih qs).imp (fun h ↦ .inr ⟨heq, h⟩) fun h ↦ .inr ⟨heq.symm, h⟩
    · exact .inr (.inl hgt)

theorem partsLE_refl (ps : List PathPart) : partsLE ps ps := (partsLE_total ps ps).elim id id

/-- Parts do not come behind others if and only if these do not come before them, in the order by the
first part that differs. -/
theorem partsLE_iff : partsLE ps qs ↔ ¬ List.Lex PathPart.Before qs ps := by
  induction ps generalizing qs with
  | nil => simp [partsLE]
  | cons p ps ih =>
    cases qs with
    | nil => simp [partsLE]
    | cons q qs =>
      rw [partsLE_cons_iff, List.cons_lex_cons_iff, ih, PathPart.before_iff, PathPart.key_inj]
      rcases lt_trichotomy p.key q.key with hlt | heq | hgt
      · have hne : q ≠ p := fun heq ↦ hlt.ne (congrArg PathPart.key heq.symm)
        simp [hlt, hlt.not_gt, hne]
      · obtain rfl := PathPart.key_inj.1 heq
        simp
      · have hne : p ≠ q := fun heq ↦ hgt.ne (congrArg PathPart.key heq.symm)
        simp [hgt, hgt.not_gt, hne]

theorem partsLE_antisymm (h : partsLE ps qs) (h' : partsLE qs ps) : ps = qs := by
  induction ps generalizing qs with
  | nil =>
    cases qs with
    | nil => rfl
    | cons => cases h'
  | cons p ps ih =>
    obtain _ | ⟨q, qs⟩ := qs
    · cases h
    rw [partsLE_cons_iff] at h h'
    rcases h with hlt | ⟨hkey, hrest⟩
    · rcases h' with hgt | ⟨hkey, _⟩
      · exact absurd hgt hlt.not_gt
      · exact absurd hkey hlt.ne'
    · rcases h' with hgt | ⟨_, hrest'⟩
      · exact absurd hkey hgt.ne'
      · rw [PathPart.key_inj.1 hkey, ih hrest hrest']

/-! ## Sorting -/

theorem parts_trans (p q r : String) (hpq : partsLE (parts p) (parts q))
    (hqr : partsLE (parts q) (parts r)) : partsLE (parts p) (parts r) := partsLE_trans hpq hqr

theorem parts_total (p q : String) : partsLE (parts p) (parts q) || partsLE (parts q) (parts p) := by
  rw [Bool.or_eq_true]
  exact partsLE_total (parts p) (parts q)

theorem sort_perm (paths : List String) : (sort paths).Perm paths := List.mergeSort_perm ..

theorem pairwise_sort (paths : List String) :
    (sort paths).Pairwise fun p q ↦ partsLE (parts p) (parts q) :=
  List.pairwise_mergeSort parts_trans parts_total paths

/-- `paths` are those of `found`, no path behind one that it comes before; those with the same parts
stand as they do in `found`. -/
structure InOrder (found paths : List String) : Prop where
  perm : paths.Perm found
  pairwise : paths.Pairwise fun p q ↦ ¬ List.Lex PathPart.Before (parts q) (parts p)
  stable : ∀ ps, paths.filter (parts · = ps) = found.filter (parts · = ps)

theorem filter_sort (found : List String) (ps : List PathPart) :
    (sort found).filter (parts · = ps) = found.filter (parts · = ps) := by
  have hparts : ∀ p ∈ found.filter (parts · = ps), parts p = ps := by simp
  have hpairwise : (found.filter (parts · = ps)).Pairwise fun p q ↦ partsLE (parts p) (parts q) := by
    refine List.pairwise_of_forall_mem_list fun p hp q hq ↦ ?_
    rw [hparts p hp, hparts q hq]
    exact partsLE_refl ps
  have hsublist := List.sublist_mergeSort parts_trans parts_total hpairwise List.filter_sublist
  have hfilter := hsublist.filter (parts · = ps)
  rw [List.filter_filter] at hfilter
  simp only [Bool.and_self] at hfilter
  have hlength := ((sort_perm found).filter (parts · = ps)).length_eq
  exact (hfilter.eq_of_length hlength.symm).symm

theorem inOrder_sort (found : List String) : InOrder found (sort found) where
  perm := sort_perm found
  pairwise := (pairwise_sort found).imp partsLE_iff.1
  stable := filter_sort found

theorem mem_of_filter_eq {path : String}
    (hfilter : ∀ ps, paths.filter (parts · = ps) = others.filter (parts · = ps))
    (hpath : path ∈ paths) : path ∈ others := by
  have hpath' : path ∈ others.filter (parts · = parts path) := by
    rw [← hfilter]
    simpa using hpath
  exact (List.mem_filter.1 hpath').1

/-- A path in front of others comes before all of them, or has the same parts. -/
theorem partsLE_of_mem_cons {first path : String}
    (h : (first :: paths).Pairwise fun p q ↦ partsLE (parts p) (parts q))
    (hpath : path ∈ first :: paths) : partsLE (parts first) (parts path) := by
  rcases List.mem_cons.1 hpath with rfl | hpath
  · exact partsLE_refl _
  · exact List.rel_of_pairwise_cons h hpath

/-- Paths in order are determined by those that have the same parts. -/
theorem eq_of_filter_eq (h : paths.Pairwise fun p q ↦ partsLE (parts p) (parts q))
    (h' : others.Pairwise fun p q ↦ partsLE (parts p) (parts q))
    (hfilter : ∀ ps, paths.filter (parts · = ps) = others.filter (parts · = ps)) : paths = others := by
  induction paths generalizing others with
  | nil =>
    cases others with
    | nil => rfl
    | cons q others => cases mem_of_filter_eq (fun ps ↦ (hfilter ps).symm) List.mem_cons_self
  | cons p paths ih =>
    cases others with
    | nil => cases mem_of_filter_eq hfilter List.mem_cons_self
    | cons q others =>
      have hq : q ∈ p :: paths := mem_of_filter_eq (fun ps ↦ (hfilter ps).symm) List.mem_cons_self
      have hp : p ∈ q :: others := mem_of_filter_eq hfilter List.mem_cons_self
      have hparts : parts p = parts q :=
        partsLE_antisymm (partsLE_of_mem_cons h hq) (partsLE_of_mem_cons h' hp)
      -- The first paths have the same parts, and so each is the first one with these.
      have hheads := hfilter (parts q)
      simp only [List.filter_cons, hparts, decide_true, if_true, List.cons.injEq] at hheads
      obtain ⟨rfl, hrest⟩ := hheads
      rw [ih h.of_cons h'.of_cons fun ps ↦ ?_]
      by_cases hps : parts p = ps
      · rw [← hps, hrest]
      · simpa [List.filter_cons, hps] using hfilter ps

theorem inOrder_iff : InOrder found paths ↔ paths = sort found := by
  constructor
  · intro h
    refine eq_of_filter_eq (h.pairwise.imp partsLE_iff.2) (pairwise_sort found) fun ps ↦ ?_
    rw [h.stable, filter_sort]
  · rintro rfl
    exact inOrder_sort found

end Path

end ReleaseAudit
