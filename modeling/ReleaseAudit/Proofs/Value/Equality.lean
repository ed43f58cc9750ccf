import Mathlib.Data.List.Forall2
import Mathlib.Data.List.Perm.Subperm
import ReleaseAudit.Proofs.Decimal.Distance
import ReleaseAudit.Proofs.Dict
import ReleaseAudit.Value.Relation

/-!
# Equality

Two values are equal in both directions or in none. For maps this takes counting: they have equally many
keys, so that all keys are those of both when those of one are among those of the other.
-/

namespace ReleaseAudit.Value

variable {v w : Value} {vs ws : List Value} {d e : Dict Value}

/-! ## Lists and maps -/

theorem equalItems_iff : equalItems vs ws ↔ List.Forall₂ (fun v w ↦ equals v w) vs ws := by
  induction vs generalizing ws with
  | nil => cases ws <;> simp [equalItems]
  | cons v vs ih =>
    cases ws with
    | nil => simp [equalItems]
    | cons w ws => simp [equalItems, ih]

theorem equalEntries_iff : equalEntries d e ↔
    ∀ entry ∈ d, ∃ w, Dict.get? e entry.1 = some w ∧ equals entry.2 w := by
  induction d with
  | nil => simp [equalEntries]
  | cons entry d ih =>
    obtain ⟨k, v⟩ := entry
    rw [equalEntries, Bool.and_eq_true, ih, List.forall_mem_cons]
    apply and_congr_left
    intro _
    cases Dict.get? e k <;> simp

/-- No functions, and only finite numbers. -/
inductive Plain : Value → Prop
  | null : Plain null
  | bool (b : Bool) : Plain (bool b)
  | number {x : Float} : Decimal.isFinite x → Plain (number x)
  | string (s : String) : Plain (string s)
  | list {items : List Value} : (∀ v ∈ items, Plain v) → Plain (list items)
  | map {entries : Dict Value} : (∀ entry ∈ entries, Plain entry.2) → Plain (map entries)

theorem equals_list_iff : equals (list vs) (list ws) ↔ List.Forall₂ (fun v w ↦ equals v w) vs ws := by
  rw [equals, equalItems_iff]

theorem equals_map_iff (he : e.Sorted) : equals (map d) (map e) ↔
    d.length = e.length ∧ ∀ entry ∈ d, ∃ w, (entry.1, w) ∈ e ∧ equals entry.2 w := by
  rw [equals, Bool.and_eq_true, beq_iff_eq, equalEntries_iff]
  simp only [he.get?_eq_some_iff]

/-- Of two sets of keys of one size neither is a proper part of the other. -/
theorem keys_subset (hd : d.Sorted) (hlength : d.length = e.length) (h : d.keys ⊆ e.keys) :
    e.keys ⊆ d.keys := by
  have hle : e.keys.length ≤ d.keys.length :=
    Nat.le_of_eq (by rw [Dict.keys, Dict.keys, List.length_map, List.length_map, hlength])
  exact ((hd.nodup_keys.subperm h).perm_of_length_le hle).symm.subset

theorem kind_eq_of_equals (h : equals v w) : v.kind = w.kind := by
  cases v <;> cases w <;> first | rfl | simp [equals] at h

/-! ## Both directions -/

theorem equalItems_symm (hws : ∀ w ∈ ws, w.Ordered)
    (hsymm : ∀ v ∈ vs, ∀ {w}, w.Ordered → equals v w → equals w v)
    (h : List.Forall₂ (fun v w ↦ equals v w) vs ws) :
    List.Forall₂ (fun v w ↦ equals v w) ws vs := by
  induction h with
  | nil => exact .nil
  | cons hequal _ ih =>
    obtain ⟨hw, hws⟩ := List.forall_mem_cons.1 hws
    obtain ⟨hv, hvs⟩ := List.forall_mem_cons.1 hsymm
    exact .cons (hv hw hequal) (ih hws hvs)

theorem equalEntries_symm (hd : d.Sorted) (he : e.Sorted) (hvalues : ∀ entry ∈ e, entry.2.Ordered)
    (hsymm : ∀ entry ∈ d, ∀ {w}, w.Ordered → equals entry.2 w → equals w entry.2)
    (hlength : d.length = e.length)
    (h : ∀ entry ∈ d, ∃ w, (entry.1, w) ∈ e ∧ equals entry.2 w) :
    ∀ entry ∈ e, ∃ v, (entry.1, v) ∈ d ∧ equals entry.2 v := by
  have hkeys : d.keys ⊆ e.keys := by
    intro k hk
    obtain ⟨entry, hentry, rfl⟩ := List.mem_map.1 hk
    obtain ⟨w, hw, -⟩ := h entry hentry
    exact List.mem_map.2 ⟨(entry.1, w), hw, rfl⟩
  intro entry hentry
  have hkey : entry.1 ∈ d.keys := keys_subset hd hlength hkeys (List.mem_map_of_mem hentry)
  obtain ⟨⟨k, v⟩, hmem, hk⟩ := List.mem_map.1 hkey
  obtain ⟨w, hw, hequal⟩ := h (k, v) hmem
  change k = entry.1 at hk
  subst hk
  have hvalue : w = entry.2 := he.value_unique hw hentry
  rw [hvalue] at hequal
  exact ⟨v, hmem, hsymm (entry.1, v) hmem (hvalues entry hentry) hequal⟩

theorem Ordered.equals_symm (hv : v.Ordered) (hw : w.Ordered) (h : equals v w) : equals w v := by
  induction hv generalizing w with
  | null =>
    cases hw with
    | null => exact h
    | _ => cases kind_eq_of_equals h
  | bool b =>
    cases hw with
    | bool b' =>
      rw [equals, beq_iff_eq] at h ⊢
      exact h.symm
    | _ => cases kind_eq_of_equals h
  | number x =>
    cases hw with
    | number y => rwa [equals, Decimal.abs_sub_comm, ← equals]
    | _ => cases kind_eq_of_equals h
  | string s =>
    cases hw with
    | string t =>
      rw [equals, beq_iff_eq] at h ⊢
      exact h.symm
    | _ => cases kind_eq_of_equals h
  | list _ ih =>
    cases hw with
    | list hws =>
      rw [equals_list_iff] at h ⊢
      exact equalItems_symm hws ih h
    | _ => cases kind_eq_of_equals h
  | map hd _ ih =>
    cases hw with
    | map he hvalues =>
      rw [equals_map_iff he] at h
      rw [equals_map_iff hd]
      exact ⟨h.1.symm, equalEntries_symm hd he hvalues ih h.1 h.2⟩
    | _ => cases kind_eq_of_equals h
  | function f => cases w <;> simp [equals] at h

/-! ## Values and themselves -/

theorem equals_number_self {x : Float} (h : Decimal.isFinite x) : equals (number x) (number x) := by
  have hepsilon : (0.0 : Float).abs < epsilon := by decide +kernel
  rw [equals, Decimal.sub_self_of_isFinite h]
  exact decide_eq_true hepsilon

theorem Ordered.equals_self (hordered : v.Ordered) (hplain : v.Plain) : equals v v := by
  induction hplain with
  | null => rfl
  | bool b => simp [equals]
  | number hfinite => exact equals_number_self hfinite
  | string s => simp [equals]
  | list _ ih =>
    cases hordered with
    | list hitems =>
      rw [equals_list_iff, List.forall₂_same]
      exact fun v hv ↦ ih v hv (hitems v hv)
  | map _ ih =>
    cases hordered with
    | map hsorted hvalues =>
      rw [equals_map_iff hsorted]
      exact ⟨rfl, fun entry hentry ↦ ⟨entry.2, hentry, ih entry hentry (hvalues entry hentry)⟩⟩

/-- Equality does not depend on which of two values comes first, and every value without functions and
with finite numbers only is equal to itself. -/
theorem equals_comm_refl :
    (∀ v w : OrderedValue, equals v.value w.value = equals w.value v.value) ∧
      ∀ v : OrderedValue, v.value.Plain → equals v.value v.value := by
  constructor
  · intro v w
    apply Bool.eq_iff_iff.2
    exact ⟨v.ordered.equals_symm w.ordered, w.ordered.equals_symm v.ordered⟩
  · exact fun v ↦ v.ordered.equals_self

/-- A map in a list. -/
def measured (x : Float) : OrderedValue where
  value := list [map [("at", null), ("size", number x)], string "measured"]
  ordered := by
    have hkeys : "at" < "size" := by decide
    have hsorted : Dict.Sorted [("at", null), ("size", number x)] := List.pairwise_pair.2 hkeys
    have hvalues : ∀ entry ∈ [("at", null), ("size", number x)], entry.2.Ordered := by
      simp [Ordered.null, Ordered.number]
    exact .list (by simp [Ordered.map hsorted hvalues, Ordered.string])

theorem plain_measured {x : Float} (h : Decimal.isFinite x) : (measured x).value.Plain := by
  have hvalues : ∀ entry ∈ [("at", null), ("size", number x)], entry.2.Plain := by
    simp [Plain.null, Plain.number h]
  exact .list (by simp [Plain.map hvalues, Plain.string])

theorem equals_comm_refl_measured :
    (0.1 + 0.2 : Float) ≠ 0.3 ∧ equals (measured (0.1 + 0.2)).value (measured 0.3).value ∧
      equals (measured 0.3).value (measured (0.1 + 0.2)).value ∧
      equals (measured 0.3).value (measured 0.3).value := by
  have hequal : equals (measured (0.1 + 0.2)).value (measured 0.3).value := by decide +kernel
  have hcomm := equals_comm_refl.1 (measured 0.3) (measured (0.1 + 0.2))
  have hplain : (measured 0.3).value.Plain := plain_measured (by decide +kernel)
  exact ⟨by decide +kernel, hequal, hcomm.trans hequal, equals_comm_refl.2 (measured 0.3) hplain⟩

end ReleaseAudit.Value
