import Mathlib.Data.List.Induction
import ReleaseAudit.Dict

/-!
# Entries of dictionaries

A dictionary in order has one entry for each of its keys, so that looking a key up finds the entry and
two dictionaries with the same entries are equal. Setting the value of a new key adds one entry.
-/

namespace ReleaseAudit.Dict

variable {α : Type} {d : Dict α} {key : String} {value : α} {entry : String × α}

theorem mem_insert (h : entry ∈ d.insert key value) : entry = (key, value) ∨ entry ∈ d := by
  fun_induction Dict.insert key value d with
  | case1 => simpa using h
  | case2 => exact (List.mem_cons.1 h).imp_right (List.mem_cons_of_mem _)
  | case3 => exact List.mem_cons.1 h
  | case4 k v rest _ _ ih =>
    rcases List.mem_cons.1 h with rfl | hmem
    · exact Or.inr List.mem_cons_self
    · exact (ih hmem).imp_right (List.mem_cons_of_mem _)

theorem mem_keys_insert {name : String} :
    name ∈ keys (d.insert key value) ↔ name = key ∨ name ∈ d.keys := by
  fun_induction Dict.insert key value d with
  | case1 => simp [keys]
  | case2 => simp [keys]
  | case3 => simp [keys]
  | case4 k v rest _ _ ih =>
    calc
      name ∈ keys ((k, v) :: Dict.insert key value rest) ↔
          name = k ∨ name ∈ keys (Dict.insert key value rest) := List.mem_cons
      _ ↔ name = k ∨ name = key ∨ name ∈ keys rest := or_congr_right ih
      _ ↔ name = key ∨ name = k ∨ name ∈ keys rest := or_left_comm
      _ ↔ name = key ∨ name ∈ keys ((k, v) :: rest) := or_congr_right List.mem_cons.symm

theorem get?_insert_of_ne {name : String} (hne : name ≠ key) :
    (d.insert key value).get? name = d.get? name := by
  have hkey : (name == key) = false := beq_false_of_ne hne
  fun_induction Dict.insert key value d with
  | case1 => simp [get?, List.lookup_cons, hkey]
  | case2 => simp [get?, List.lookup_cons, hkey]
  | case3 => simp [get?, List.lookup_cons, hkey]
  | case4 k v rest _ _ ih =>
    have ih : List.lookup name (Dict.insert key value rest) = List.lookup name rest := ih
    rw [get?, get?, List.lookup_cons, List.lookup_cons, ih]

theorem perm_insert (h : key ∉ d.keys) : (d.insert key value).Perm ((key, value) :: d) := by
  fun_induction Dict.insert key value d with
  | case1 => exact .refl _
  | case2 => exact absurd List.mem_cons_self h
  | case3 => exact .refl _
  | case4 k v rest _ _ ih =>
    have hrest : key ∉ keys rest := fun hmem ↦ h (List.mem_cons_of_mem k hmem)
    exact ((ih hrest).cons (k, v)).trans (.swap _ _ _)

theorem Sorted.insert (h : d.Sorted) : (d.insert key value).Sorted := by
  fun_induction Dict.insert key value d with
  | case1 => exact List.pairwise_singleton _ _
  | case2 v rest =>
    obtain ⟨hfirst, hrest⟩ := List.pairwise_cons.1 h
    exact .cons hfirst hrest
  | case3 k v rest _ hlt =>
    obtain ⟨hfirst, -⟩ := List.pairwise_cons.1 h
    exact .cons (List.forall_mem_cons.2 ⟨hlt, fun entry hentry ↦
      String.lt_trans hlt (hfirst entry hentry)⟩) h
  | case4 k v rest hne hlt ih =>
    obtain ⟨hfirst, hrest⟩ := List.pairwise_cons.1 h
    have hkey : k < key := by
      apply Decidable.byContradiction
      intro hge
      exact hne (String.le_antisymm (String.not_lt.1 hge) (String.not_lt.1 hlt))
    refine .cons (fun entry hentry ↦ ?_) (ih hrest)
    rcases mem_insert hentry with rfl | hmem
    · exact hkey
    · exact hfirst entry hmem

theorem ofList_concat (entries : List (String × α)) :
    ofList (entries ++ [(key, value)]) = (ofList entries).insert key value :=
  List.foldl_append

theorem sorted_ofList (entries : List (String × α)) : (ofList entries).Sorted := by
  induction entries using List.reverseRecOn with
  | nil => exact .nil
  | append_singleton entries entry ih =>
    rw [ofList_concat]
    exact ih.insert

/-- Of entries with distinct keys none is lost. -/
theorem perm_ofList {entries : List (String × α)} (h : (entries.map Prod.fst).Nodup) :
    (ofList entries).Perm entries := by
  induction entries using List.reverseRecOn with
  | nil => exact .refl _
  | append_singleton entries entry ih =>
    rw [List.map_append, List.nodup_append] at h
    have hperm := ih h.1
    have hkeys : entry.1 ∉ (ofList entries).keys := by
      intro hmem
      have hmem : entry.1 ∈ entries.map Prod.fst := (hperm.map Prod.fst).mem_iff.1 hmem
      exact h.2.2 _ hmem _ (List.mem_singleton.2 rfl) rfl
    calc
      ofList (entries ++ [entry]) |>.Perm (entry :: ofList entries) := by
        rw [ofList_concat]
        exact perm_insert hkeys
      _ |>.Perm (entry :: entries) := hperm.cons entry
      _ |>.Perm (entries ++ [entry]) := (List.perm_append_singleton _ _).symm

theorem Sorted.nodup_keys (h : d.Sorted) : d.keys.Nodup := by
  apply List.pairwise_map.2
  apply h.imp
  intro a b hlt heq
  rw [heq] at hlt
  exact String.lt_irrefl _ hlt

/-- The entries determine a dictionary. -/
theorem Sorted.eq_of_perm {d' : Dict α} (h : d.Sorted) (h' : d'.Sorted) (hperm : d.Perm d') :
    d = d' :=
  List.Perm.eq_of_pairwise (fun _ _ _ _ hlt hgt ↦ absurd hgt (String.lt_asymm hlt)) h h' hperm

theorem Sorted.get?_eq_some_iff (h : d.Sorted) : d.get? key = some value ↔ (key, value) ∈ d := by
  rw [get?, List.lookup_eq_some_iff]
  constructor
  · rintro ⟨front, back, rfl, -⟩
    simp
  · intro hmem
    obtain ⟨front, back, rfl⟩ := List.append_of_mem hmem
    refine ⟨front, back, rfl, fun entry hentry ↦ ?_⟩
    have hlt := (List.pairwise_append.1 h).2.2 entry hentry (key, value) List.mem_cons_self
    rw [bne_iff_ne]
    exact fun heq ↦ String.lt_irrefl _ (heq ▸ hlt)

theorem Sorted.value_unique (h : d.Sorted) {value' : α} (hmem : (key, value) ∈ d)
    (hmem' : (key, value') ∈ d) : value = value' :=
  Option.some_inj.1 ((h.get?_eq_some_iff.2 hmem).symm.trans (h.get?_eq_some_iff.2 hmem'))

theorem get?_ofList_eq_some_iff {entries : List (String × α)} (h : (entries.map Prod.fst).Nodup) :
    (ofList entries).get? key = some value ↔ (key, value) ∈ entries := by
  rw [(sorted_ofList entries).get?_eq_some_iff, (perm_ofList h).mem_iff]

theorem contains_iff : d.contains key ↔ key ∈ d.keys := by
  rw [contains, get?, Option.isSome_iff_ne_none, ne_eq, List.lookup_eq_none_iff]
  simp [keys]

end ReleaseAudit.Dict
