import Mathlib.Data.List.Chain
import Mathlib.Data.List.Induction
import Mathlib.Data.String.Basic
import ReleaseAudit.Proofs.Decimal.Order
import ReleaseAudit.Value.Access

/-!
# Sorting

Sorting takes values that cannot be compared for equal. That is an order of the items of a list only when
all of them can be compared, or when no two of them differ. Then the result is their one stable
arrangement. Otherwise an item can hide the order of two others.
-/

namespace ReleaseAudit.Value

open Decimal (line)

variable {u v w : Value} {vs ws items : List Value} {o : Ordering}

/-! ## The order of two values -/

/-- Values that cannot be compared count as equal. -/
def sortOrder (v w : Value) : Ordering :=
  match compare v w with
  | .ok o => o
  | .error _ => .eq

def NotGreater (v w : Value) : Prop := sortOrder v w ≠ .gt

instance (v w : Value) : Decidable (NotGreater v w) := inferInstanceAs (Decidable (_ ≠ _))

def Comparable (v w : Value) : Prop := ∃ o, compare v w = .ok o

theorem compareNumbers_of_isNaN_eq_false {x y : Float} (hx : x.isNaN = false) (hy : y.isNaN = false) :
    compareNumbers x y = .ok (Ord.compare (line x) (line y)) := by
  simp only [compareNumbers, Decimal.lt_iff, Decimal.beq_iff, hx, hy, true_and]
  rcases lt_trichotomy (line x) (line y) with h | h | h
  · rw [if_pos h, (compare_lt_iff_lt).2 h]
  · rw [if_neg h.not_lt, if_pos h, (compare_eq_iff_eq).2 h]
  · rw [if_neg h.not_gt, if_neg h.ne', if_pos h, (compare_gt_iff_gt).2 h]

theorem compareNumbers_eq_ok_iff {x y : Float} : compareNumbers x y = .ok o ↔
    x.isNaN = false ∧ y.isNaN = false ∧ Ord.compare (line x) (line y) = o := by
  by_cases h : x.isNaN = false ∧ y.isNaN = false
  · obtain ⟨hx, hy⟩ := h
    rw [compareNumbers_of_isNaN_eq_false hx hy, Except.ok.injEq]
    simp only [hx, hy, true_and]
  · have herror : compareNumbers x y = .error .comparesNaN := by
      simp only [compareNumbers, Decimal.lt_iff, Decimal.beq_iff]
      rw [if_neg (by tauto), if_neg (by tauto), if_neg (by tauto)]
    rw [herror]
    simp only [reduceCtorEq, false_iff]
    tauto

theorem compare_eq_ok_iff : compare v w = .ok o ↔
    (∃ x y, v = number x ∧ w = number y ∧
      x.isNaN = false ∧ y.isNaN = false ∧ Ord.compare (line x) (line y) = o) ∨
    ∃ s t, v = string s ∧ w = string t ∧ Ord.compare s t = o := by
  cases v <;> cases w <;> simp [compare, compareNumbers_eq_ok_iff]

theorem sortOrder_of_compare (h : compare v w = .ok o) : sortOrder v w = o := by
  rw [sortOrder, h]

theorem sortOrder_of_not_comparable (h : ¬ Comparable v w) : sortOrder v w = .eq := by
  unfold sortOrder
  split
  next o ho => exact absurd ⟨o, ho⟩ h
  next => rfl

theorem comparable_of_sortOrder_ne_eq (h : sortOrder v w ≠ .eq) : Comparable v w := by
  by_contra hvw
  exact h (sortOrder_of_not_comparable hvw)

theorem precedes_iff : precedes v w ↔ sortOrder v w = .lt := by
  unfold precedes sortOrder
  cases compare v w with
  | ok o => cases o <;> simp
  | error => simp

/-- Numbers that are not NaN can be compared with each other, and so can strings. -/
theorem comparable_iff : Comparable v w ↔
    (∃ x y, v = number x ∧ w = number y ∧ x.isNaN = false ∧ y.isNaN = false) ∨
    ∃ s t, v = string s ∧ w = string t := by
  simp only [Comparable, compare_eq_ok_iff]
  constructor
  · rintro ⟨_, ⟨x, y, hv, hw, hx, hy, -⟩ | ⟨s, t, hv, hw, -⟩⟩
    · exact .inl ⟨x, y, hv, hw, hx, hy⟩
    · exact .inr ⟨s, t, hv, hw⟩
  · rintro (⟨x, y, hv, hw, hx, hy⟩ | ⟨s, t, hv, hw⟩)
    · exact ⟨_, .inl ⟨x, y, hv, hw, hx, hy, rfl⟩⟩
    · exact ⟨_, .inr ⟨s, t, hv, hw, rfl⟩⟩

theorem notGreater_number_iff {x y : Float} (hx : x.isNaN = false) (hy : y.isNaN = false) :
    NotGreater (number x) (number y) ↔ line x ≤ line y := by
  have hcompare : compare (number x) (number y) = .ok (Ord.compare (line x) (line y)) :=
    compareNumbers_of_isNaN_eq_false hx hy
  rw [NotGreater, sortOrder_of_compare hcompare, ne_eq, compare_gt_iff_gt, not_lt]

theorem notGreater_string_iff {s t : String} : NotGreater (string s) (string t) ↔ s ≤ t := by
  have hcompare : compare (string s) (string t) = .ok (Ord.compare s t) :=
    compare_eq_ok_iff.2 (.inr ⟨s, t, rfl, rfl, rfl⟩)
  rw [NotGreater, sortOrder_of_compare hcompare, ne_eq, compare_gt_iff_gt, not_lt]

theorem compare_swap (h : compare v w = .ok o) : compare w v = .ok o.swap := by
  rw [compare_eq_ok_iff] at h ⊢
  obtain ⟨x, y, hv, hw, hx, hy, rfl⟩ | ⟨s, t, hv, hw, rfl⟩ := h
  · exact .inl ⟨y, x, hw, hv, hy, hx, Std.OrientedOrd.eq_swap⟩
  · exact .inr ⟨t, s, hw, hv, Std.OrientedOrd.eq_swap⟩

theorem Comparable.symm (h : Comparable v w) : Comparable w v :=
  h.imp' Ordering.swap fun _ ↦ compare_swap

theorem Comparable.trans (huv : Comparable u v) (hvw : Comparable v w) : Comparable u w := by
  rw [comparable_iff] at huv hvw ⊢
  obtain ⟨x, y, rfl, rfl, hx, hy⟩ | ⟨s, t, rfl, rfl⟩ := huv
  · obtain ⟨_, z, -, rfl, -, hz⟩ | ⟨_, _, h, -⟩ := hvw
    · exact .inl ⟨x, z, rfl, rfl, hx, hz⟩
    · cases h
  · obtain ⟨_, _, h, -⟩ | ⟨_, r, -, rfl⟩ := hvw
    · cases h
    · exact .inr ⟨s, r, rfl, rfl⟩

theorem NotGreater.trans (huv : Comparable u v) (hvw : Comparable v w) (h : NotGreater u v)
    (h' : NotGreater v w) : NotGreater u w := by
  rw [comparable_iff] at huv hvw
  obtain ⟨x, y, rfl, rfl, hx, hy⟩ | ⟨s, t, rfl, rfl⟩ := huv
  · obtain ⟨_, z, -, rfl, -, hz⟩ | ⟨_, _, hne, -⟩ := hvw
    · rw [notGreater_number_iff hx hy] at h
      rw [notGreater_number_iff hy hz] at h'
      exact (notGreater_number_iff hx hz).2 (h.trans h')
    · cases hne
  · obtain ⟨_, _, hne, -⟩ | ⟨_, r, -, rfl⟩ := hvw
    · cases hne
    · rw [notGreater_string_iff] at h h' ⊢
      exact h.trans h'

/-- Where the order is not transitive, the item in the middle can be compared with neither of the others. -/
theorem not_comparable_of_not_trans (huv : NotGreater u v) (hvw : NotGreater v w)
    (h : sortOrder u w = .gt) : ¬ Comparable u v ∧ ¬ Comparable v w := by
  have huw : Comparable u w := comparable_of_sortOrder_ne_eq (by rw [h]; decide)
  constructor
  · intro hfirst
    exact NotGreater.trans hfirst (hfirst.symm.trans huw) huv hvw h
  · intro hsecond
    exact NotGreater.trans (huw.trans hsecond.symm) hsecond huv hvw h

theorem sortOrder_swap (v w : Value) : (sortOrder v w).swap = sortOrder w v := by
  by_cases h : Comparable v w
  · obtain ⟨o, ho⟩ := h
    rw [sortOrder_of_compare ho, sortOrder_of_compare (compare_swap ho)]
  · rw [sortOrder_of_not_comparable h, sortOrder_of_not_comparable (mt Comparable.symm h)]
    rfl

theorem sortOrder_eq_gt_iff : sortOrder v w = .gt ↔ sortOrder w v = .lt := by
  rw [← sortOrder_swap w v, Ordering.swap_eq_gt]

theorem not_precedes_iff : ¬ precedes v w ↔ NotGreater w v := by
  rw [precedes_iff, ← sortOrder_eq_gt_iff, NotGreater]

theorem sortOrder_eq_eq_iff : sortOrder v w = .eq ↔ NotGreater v w ∧ NotGreater w v := by
  rw [NotGreater, NotGreater, Ne, Ne, sortOrder_eq_gt_iff (v := w)]
  cases sortOrder v w <;> simp

/-! ## The items of a list -/

/-- The items of a list are in a preorder. -/
def Preordered (items : List Value) : Prop :=
  ∀ u ∈ items, ∀ v ∈ items, ∀ w ∈ items, NotGreater u v → NotGreater v w → NotGreater u w

instance (items : List Value) : Decidable (Preordered items) :=
  inferInstanceAs (Decidable (∀ u ∈ items, ∀ v ∈ items, ∀ w ∈ items, _ → _ → _))

theorem Preordered.subset (h : Preordered items) (hsubset : vs ⊆ items) : Preordered vs :=
  fun u hu v hv w hw ↦ h u (hsubset hu) v (hsubset hv) w (hsubset hw)

theorem comparable_of_preordered (h : Preordered items) (hv : v ∈ items) (hw : w ∈ items)
    (hdiffer : sortOrder v w ≠ .eq) (hu : u ∈ items) : Comparable u v := by
  have hvw : Comparable v w := comparable_of_sortOrder_ne_eq hdiffer
  by_contra huv
  have huw : ¬ Comparable u w := fun huw ↦ huv (huw.trans hvw.symm)
  -- The value in the middle counts as equal to both, and so they are equal.
  obtain ⟨hle, hge⟩ := sortOrder_eq_eq_iff.1 (sortOrder_of_not_comparable huv)
  obtain ⟨hle', hge'⟩ := sortOrder_eq_eq_iff.1 (sortOrder_of_not_comparable huw)
  exact hdiffer (sortOrder_eq_eq_iff.2 ⟨h v hv u hu w hw hge hle', h w hw u hu v hv hge' hle⟩)

theorem preordered_iff : Preordered items ↔
    (∀ v ∈ items, ∀ w ∈ items, sortOrder v w = .eq) ∨ ∀ v ∈ items, ∀ w ∈ items, Comparable v w := by
  constructor
  · intro h
    by_cases hequal : ∀ v ∈ items, ∀ w ∈ items, sortOrder v w = .eq
    · exact .inl hequal
    · push Not at hequal
      obtain ⟨v, hv, w, hw, hdiffer⟩ := hequal
      have hcomparable (u : Value) (hu : u ∈ items) : Comparable u v :=
        comparable_of_preordered h hv hw hdiffer hu
      exact .inr fun u hu u' hu' ↦ (hcomparable u hu).trans (hcomparable u' hu').symm
  · rintro (hequal | hcomparable) u hu v hv w hw huv hvw
    · exact (sortOrder_eq_eq_iff.1 (hequal u hu w hw)).1
    · exact NotGreater.trans (hcomparable u hu v hv) (hcomparable v hv w hw) huv hvw

/-! ## Insertion -/

theorem perm_place (v : Value) (ws : List Value) : (place v ws).Perm (v :: ws) := by
  induction ws with
  | nil => exact .refl _
  | cons w ws ih =>
    rw [place]
    split
    · exact (ih.cons w).trans (.swap v w ws)
    · exact .refl _

/-- A sorted list with its greatest item first stays sorted. -/
theorem pairwise_place (h : Preordered (v :: ws)) (hws : ws.Pairwise fun w u ↦ NotGreater u w) :
    (place v ws).Pairwise fun w u ↦ NotGreater u w := by
  induction ws with
  | nil => exact List.pairwise_singleton _ _
  | cons w ws ih =>
    obtain ⟨hw, hws⟩ := List.pairwise_cons.1 hws
    rw [place]
    split
    next hprecedes =>
      have hvw : NotGreater v w := by
        rw [NotGreater, precedes_iff.1 hprecedes]
        decide
      refine List.pairwise_cons.2 ⟨fun u hu ↦ ?_, ih (h.subset ?_) hws⟩
      · obtain rfl | hu := List.mem_cons.1 ((perm_place v ws).mem_iff.1 hu)
        · exact hvw
        · exact hw u hu
      · exact List.cons_subset_cons v (List.subset_cons_self w ws)
    next hprecedes =>
      have hwv : NotGreater w v := not_precedes_iff.1 hprecedes
      refine List.pairwise_cons.2 ⟨fun u hu ↦ ?_, List.pairwise_cons.2 ⟨hw, hws⟩⟩
      obtain rfl | hu' := List.mem_cons.1 hu
      · exact hwv
      · exact h u (.tail _ hu) w (by simp) v (by simp) (hw u hu') hwv

/-- Only items that differ change places. -/
theorem filter_place {p : Value → Bool} (h : ∀ w ∈ ws, p v → p w → ¬ precedes v w) :
    (place v ws).filter p = (v :: ws).filter p := by
  induction ws with
  | nil => rfl
  | cons w ws ih =>
    rw [place]
    split
    next hprecedes =>
      have hne : ¬ (p v ∧ p w) := fun ⟨hv, hw⟩ ↦ h w (by simp) hv hw hprecedes
      rw [List.filter_cons, ih fun u hu ↦ h u (.tail _ hu)]
      cases hv : p v <;> cases hw : p w <;> simp [hv, hw] at hne ⊢
    next => rfl

theorem place_eq_cons (h : ∀ w ∈ ws.head?, NotGreater w v) : place v ws = v :: ws := by
  cases ws with
  | nil => rfl
  | cons w ws => rw [place, if_neg (not_precedes_iff.2 (h w rfl))]

/-! ## Whole lists -/

/-- The items with the greatest one first; of equal ones the last comes first. -/
def descending (items : List Value) : List Value := items.foldl (fun ws v ↦ place v ws) []

theorem descending_concat (items : List Value) (v : Value) :
    descending (items ++ [v]) = place v (descending items) :=
  List.foldl_concat _ _ _ _

theorem perm_descending (items : List Value) : (descending items).Perm items := by
  induction items using List.reverseRecOn with
  | nil => exact .refl _
  | append_singleton items v ih =>
    calc
      _ = place v (descending items) := descending_concat items v
      List.Perm _ (v :: descending items) := perm_place v _
      List.Perm _ (v :: items) := ih.cons v
      List.Perm _ (items ++ [v]) := (List.perm_append_singleton v items).symm

theorem cons_descending_subset (items : List Value) (v : Value) :
    v :: descending items ⊆ items ++ [v] :=
  (((perm_descending items).cons v).trans (List.perm_append_singleton v items).symm).subset

theorem pairwise_descending (h : Preordered items) :
    (descending items).Pairwise fun w u ↦ NotGreater u w := by
  induction items using List.reverseRecOn with
  | nil => exact .nil
  | append_singleton items v ih =>
    rw [descending_concat]
    exact pairwise_place (h.subset (cons_descending_subset items v))
      (ih (h.subset (List.subset_append_left _ _)))

theorem filter_descending {p : Value → Bool}
    (h : ∀ v ∈ items, ∀ w ∈ items, p v → p w → ¬ precedes v w) :
    (descending items).filter p = (items.filter p).reverse := by
  induction items using List.reverseRecOn with
  | nil => rfl
  | append_singleton items v ih =>
    have hmem {w : Value} (hw : w ∈ items) : w ∈ items ++ [v] := List.mem_append_left _ hw
    have hlast : ∀ w ∈ descending items, p v → p w → ¬ precedes v w := fun w hw ↦
      h v (List.mem_append_right _ (.head _)) w (hmem ((perm_descending items).subset hw))
    calc
      _ = (v :: descending items).filter p := by rw [descending_concat, filter_place hlast]
      _ = [v].filter p ++ (descending items).filter p := List.filter_append [v] _
      _ = ([v].filter p).reverse ++ (items.filter p).reverse := by
        rw [ih fun u hu w hw ↦ h u (hmem hu) w (hmem hw)]
        cases hv : p v <;> simp [hv]
      _ = _ := by rw [← List.reverse_append, ← List.filter_append]

def tied (v w : Value) : Bool := sortOrder v w = .eq

/-- The result holds the items in their order, and those that are equal as they came. -/
structure StableSort (items result : List Value) : Prop where
  perm : result.Perm items
  ordered : result.Pairwise NotGreater
  stable : ∀ v ∈ items, result.filter (tied v) = items.filter (tied v)

theorem perm_sorted (items : List Value) : (sorted items).Perm items :=
  (List.reverse_perm _).trans (perm_descending items)

theorem stableSort_sorted (h : Preordered items) : StableSort items (sorted items) where
  perm := perm_sorted items
  ordered := List.pairwise_reverse.2 (pairwise_descending h)
  stable u hu := by
    have htied : ∀ v ∈ items, ∀ w ∈ items, tied u v → tied u w → ¬ precedes v w := by
      intro v hv w hw huv huw
      rw [tied, decide_eq_true_iff, sortOrder_eq_eq_iff] at huv huw
      exact not_precedes_iff.2 (h w hw u hu v hv huw.2 huv.1)
    calc
      _ = ((descending items).filter (tied u)).reverse := List.filter_reverse
      _ = _ := by rw [filter_descending htied, List.reverse_reverse]

theorem tied_self (v : Value) : tied v v := by
  have h := sortOrder_swap v v
  rw [tied, decide_eq_true_iff]
  cases ho : sortOrder v v <;> simp [ho] at h ⊢

theorem notGreater_of_mem (h : (v :: vs).Pairwise NotGreater) (hw : w ∈ v :: vs) : NotGreater v w := by
  obtain rfl | hw := List.mem_cons.1 hw
  · exact (sortOrder_eq_eq_iff.1 (of_decide_eq_true (tied_self w))).1
  · exact List.rel_of_pairwise_cons h hw

/-- There is only one stable arrangement. -/
theorem eq_of_filter_tied (hvs : vs.Pairwise NotGreater) (hws : ws.Pairwise NotGreater)
    (hperm : vs.Perm ws) (h : ∀ v ∈ vs, vs.filter (tied v) = ws.filter (tied v)) : vs = ws := by
  induction vs generalizing ws with
  | nil => exact hperm.nil_eq
  | cons v vs ih =>
    cases ws with
    | nil => exact absurd hperm.symm.nil_eq (by simp)
    | cons w ws =>
      have hle : NotGreater v w := notGreater_of_mem hvs (hperm.mem_iff.2 (.head _))
      have hge : NotGreater w v := notGreater_of_mem hws (hperm.mem_iff.1 (.head _))
      have htied : tied v w := decide_eq_true (sortOrder_eq_eq_iff.2 ⟨hle, hge⟩)
      obtain rfl : v = w := by
        have hhead := h v (.head _)
        rw [List.filter_cons_of_pos (tied_self v), List.filter_cons_of_pos htied] at hhead
        exact (List.cons.inj hhead).1
      have htail : ∀ u ∈ vs, vs.filter (tied u) = ws.filter (tied u) := by
        intro u hu
        have hfilter := h u (.tail v hu)
        rw [List.filter_cons, List.filter_cons] at hfilter
        split at hfilter
        · exact (List.cons.inj hfilter).2
        · exact hfilter
      rw [ih hvs.of_cons hws.of_cons hperm.cons_inv htail]

theorem sorted_of_isChain (h : items.IsChain NotGreater) : sorted items = items := by
  suffices hdescending : descending items = items.reverse by
    exact List.reverse_eq_iff.2 hdescending
  induction items using List.reverseRecOn with
  | nil => rfl
  | append_singleton items v ih =>
    obtain ⟨hitems, -, hlast⟩ := List.isChain_append.1 h
    have hhead : ∀ w ∈ items.reverse.head?, NotGreater w v := by
      rw [List.head?_reverse]
      exact fun w hw ↦ hlast w hw v rfl
    rw [descending_concat, ih hitems, place_eq_cons hhead, List.reverse_concat]

theorem StableSort.unique (h : StableSort items vs) (h' : StableSort items ws) : vs = ws := by
  refine eq_of_filter_tied h.ordered h'.ordered (h.perm.trans h'.perm.symm) fun v hv ↦ ?_
  have hitems : v ∈ items := h.perm.mem_iff.1 hv
  rw [h.stable v hitems, h'.stable v hitems]

theorem method_sort (items args : List Value) :
    method (list items) "sort" args = .ok (list (sorted items)) := rfl

/-- `sort` returns the stable arrangement when its comparison is an order of the items, which takes that
all of them can be compared or that no two of them differ. Otherwise there are three of them which it
leaves with the greater one in front, as the one in the middle can be compared with neither. -/
theorem sort_stable (items args : List Value) :
    (∀ v w, sortOrder w v = (sortOrder v w).swap) ∧
    (Preordered items ↔
      (∀ v ∈ items, ∀ w ∈ items, sortOrder v w = .eq) ∨ ∀ v ∈ items, ∀ w ∈ items, Comparable v w) ∧
    (Preordered items → ∀ result,
      method (list items) "sort" args = .ok (list result) ↔ StableSort items result) ∧
    (¬ Preordered items → ∃ u ∈ items, ∃ v ∈ items, ∃ w ∈ items,
      ¬ Comparable u v ∧ ¬ Comparable v w ∧ sortOrder u w = .gt ∧
      method (list [u, v, w]) "sort" args = .ok (list [u, v, w])) := by
  refine ⟨fun v w ↦ (sortOrder_swap v w).symm, preordered_iff, fun h result ↦ ?_, fun h ↦ ?_⟩
  · have hstable : StableSort items (sorted items) := stableSort_sorted h
    rw [method_sort]
    constructor
    · intro heq
      cases heq
      exact hstable
    · intro hresult
      rw [hstable.unique hresult]
  · unfold Preordered at h
    push Not at h
    obtain ⟨u, hu, v, hv, w, hw, huv, hvw, huw⟩ := h
    have hgt : sortOrder u w = .gt := not_not.1 huw
    obtain ⟨hfirst, hsecond⟩ := not_comparable_of_not_trans huv hvw hgt
    have hchain : [u, v, w].IsChain NotGreater := by simp [huv, hvw]
    refine ⟨u, hu, v, hv, w, hw, hfirst, hsecond, hgt, ?_⟩
    rw [method_sort, sorted_of_isChain hchain]

/-- Two numbers with a string between them. -/
def mixed : List Value := [number 2, string "a", number 1]

theorem sort_stable_mixed :
    Preordered [string "b", string "a"] ∧
    method (list [string "b", string "a"]) "sort" [] = .ok (list [string "a", string "b"]) ∧
    StableSort [string "b", string "a"] [string "a", string "b"] ∧
    ¬ Preordered mixed ∧
    ∃ u ∈ mixed, ∃ v ∈ mixed, ∃ w ∈ mixed,
      ¬ Comparable u v ∧ ¬ Comparable v w ∧ sortOrder u w = .gt ∧
      method (list [u, v, w]) "sort" [] = .ok (list [u, v, w]) := by
  have hnames : Preordered [string "b", string "a"] := by decide +kernel
  have hsort : method (list [string "b", string "a"]) "sort" [] =
      .ok (list [string "a", string "b"]) := rfl
  have hmixed : ¬ Preordered mixed := by decide +kernel
  exact ⟨hnames, hsort, ((sort_stable _ []).2.2.1 hnames _).1 hsort, hmixed,
    (sort_stable mixed []).2.2.2 hmixed⟩

/-- A string counts as equal to two numbers that differ, and hides their order. -/
theorem sort_out_of_order :
    mixed = [number 2, string "a", number 1] ∧
    NotGreater (number 2) (string "a") ∧ NotGreater (string "a") (number 1) ∧
    ¬ NotGreater (number 2) (number 1) ∧
    method (list mixed) "sort" [] = .ok (list mixed) := by
  have hfirst : NotGreater (number 2) (string "a") := by decide
  have hsecond : NotGreater (string "a") (number 1) := by decide
  have hchain : mixed.IsChain NotGreater := by simp [mixed, hfirst, hsecond]
  refine ⟨rfl, hfirst, hsecond, by decide +kernel, ?_⟩
  rw [method_sort, sorted_of_isChain hchain]

end ReleaseAudit.Value
