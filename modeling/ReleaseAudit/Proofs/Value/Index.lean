import ReleaseAudit.Proofs.Decimal.Integer
import ReleaseAudit.Proofs.Token.Position
import ReleaseAudit.Proofs.Value.Pieces

/-!
# Indices of strings and lists

An index of a list counts from the end when it is negative. An index of a string does not: a negative one
is taken for zero, so that a string and the list of its characters agree on the other indices only.
-/

namespace ReleaseAudit

open Decimal (IsInteger)

variable {α β : Type} {x : Float} {n : ℤ}

/-! ## Counting from both ends -/

/-- The item at an index. A negative index counts from the end, where `-1` is the last item. -/
def at? (items : List α) (n : ℤ) : Option α :=
  if 0 ≤ n then items[n.toNat]? else items.reverse[(-n - 1).toNat]?

theorem at?_map (f : α → β) (items : List α) (n : ℤ) :
    at? (items.map f) n = (at? items n).map f := by
  unfold at?
  split
  · exact List.getElem?_map
  · rw [← List.map_reverse]
    exact List.getElem?_map

/-- An index beyond the length is as good as any other. -/
theorem at?_of_length_le {items : List α} (h : items.length ≤ n) : at? items n = none := by
  rw [at?, if_pos (by omega)]
  exact List.getElem?_eq_none (by omega)

theorem at?_of_neg (items : List α) (hn : n < 0) : at? items n =
    if items.length + n < 0 then none else items[(items.length + n).toNat]? := by
  rw [at?, if_neg (by omega)]
  split
  · exact List.getElem?_eq_none (by rw [List.length_reverse]; omega)
  · rw [List.getElem?_reverse (by omega)]
    congr 1
    omega

namespace Value

/-! ## Lists -/

/-- Cutting an index to the range of 64-bit numbers does not matter for a list that fits into memory. -/
theorem listIndex_eq_at? (items : List α) (hlength : items.length < 2 ^ 63) (h : IsInteger x n) :
    (if listIndex items.length x < 0 then none else items[(listIndex items.length x).toNat]?) =
      at? items n := by
  have htrunc : Decimal.toInt64 x = max (-2 ^ 63) (min (2 ^ 63 - 1) n) :=
    Decimal.truncate_of_isInteger h _ _
  rw [listIndex, htrunc, if_congr (Decimal.lt_zero_iff h) rfl rfl]
  by_cases hn : n < 0
  · rw [if_pos hn, at?_of_neg items hn]
    by_cases hlow : n < -2 ^ 63
    · rw [if_pos (by omega), if_pos (by omega)]
    · have hcut : max (-2 ^ 63) (min (2 ^ 63 - 1) n) = n := by omega
      rw [hcut]
  · rw [if_neg hn, if_neg (by omega)]
    by_cases hhigh : (2 ^ 63 : ℤ) ≤ n
    · rw [at?_of_length_le (by omega)]
      exact List.getElem?_eq_none (by omega)
    · have hcut : max (-2 ^ 63) (min (2 ^ 63 - 1) n) = n := by omega
      rw [hcut, at?, if_pos (by omega)]

theorem index_list (items : List Value) (hlength : items.length < 2 ^ 63) (h : IsInteger x n) :
    (list items).index (number x) =
      (at? items n).elim (.error (.listIndex x items.length)) .ok := by
  unfold index
  simp only [listIndex_eq_at? items hlength h]
  cases at? items n <;> rfl

/-! ## Strings -/

/-- The characters of a string, as cutting it without a separator gives them. -/
theorem pieces_empty (s : String) : pieces s "" = s.toList.map String.singleton := by
  have hpieces : pieces s "" = (s.toList.map ([·])).map String.ofList := rfl
  rw [hpieces, List.map_map]
  apply List.map_congr_left
  intro c _
  exact (String.singleton_eq_ofList).symm

theorem length_toList_le (s : String) : s.toList.length ≤ s.utf8ByteSize :=
  (Text.length_le_byteSize s.toList).trans_eq (Text.byteSize_toList s)

theorem toUInt64_of_isInteger (h : IsInteger x n) :
    Decimal.toUInt64 x = min n.toNat (2 ^ 64 - 1) := by
  have htrunc : Decimal.toUInt64 x = (max 0 (min (2 ^ 64 - 1) n)).toNat :=
    congrArg Int.toNat (Decimal.truncate_of_isInteger h _ _)
  omega

/-- The index of a string is cut to the range of 64-bit numbers without a sign. -/
theorem getElem?_eq_at? (cs : List Char) (hlength : cs.length < 2 ^ 63) (n : ℤ) :
    cs[min n.toNat (2 ^ 64 - 1)]? = at? cs (max n 0) := by
  by_cases hhigh : 2 ^ 64 ≤ n
  · rw [at?_of_length_le (by omega)]
    exact List.getElem?_eq_none (by omega)
  · have hcut : min n.toNat (2 ^ 64 - 1) = (max n 0).toNat := by omega
    rw [hcut, at?, if_pos (by omega)]

theorem index_string (s : String) (hsize : s.utf8ByteSize < 2 ^ 63) (h : IsInteger x n) :
    (string s).index (number x) =
      (at? s.toList (max n 0)).elim (.error (.stringIndex (min n.toNat (2 ^ 64 - 1)) s.length))
        fun c ↦ .ok (string (String.singleton c)) := by
  have hlength : s.toList.length < 2 ^ 63 := (length_toList_le s).trans_lt hsize
  unfold index
  simp only [toUInt64_of_isInteger h, getElem?_eq_at? s.toList hlength n]
  cases at? s.toList (max n 0) <;> rfl

/-! ## Agreement -/

/-- Both give the same string of one character, or both fail. -/
def SameCharacter (a b : Except Fault Value) : Prop :=
  (∃ c, a = .ok (string (String.singleton c)) ∧ b = .ok (string (String.singleton c))) ∨
    ∃ e f, a = .error e ∧ b = .error f

theorem sameCharacter_elim_iff {e f : Fault} {a b : Option Char} :
    SameCharacter (a.elim (.error e) fun c ↦ .ok (string (String.singleton c)))
      (b.elim (.error f) fun c ↦ .ok (string (String.singleton c))) ↔ a = b := by
  cases a <;> cases b <;> simp [SameCharacter, eq_comm, String.singleton_inj]

theorem index_pieces (s : String) (hsize : s.utf8ByteSize < 2 ^ 63) (h : IsInteger x n) :
    (ofStrings (pieces s "")).index (number x) =
      (at? s.toList n).elim (.error (.listIndex x s.length))
        fun c ↦ .ok (string (String.singleton c)) := by
  have hpieces : ofStrings (pieces s "") = list (s.toList.map fun c ↦ string (String.singleton c)) := by
    rw [pieces_empty, ofStrings, List.map_map]
    rfl
  have hlength : (s.toList.map fun c ↦ string (String.singleton c)).length < 2 ^ 63 := by
    rw [List.length_map]
    exact (length_toList_le s).trans_lt hsize
  rw [hpieces, index_list _ hlength h, at?_map, List.length_map, String.length_toList]
  cases at? s.toList n <;> rfl

/-- The list of the characters of a string counts a negative index from the end, and the string takes it
for zero. They agree where the index is not negative, and where both ways lead to the same character. No
string has `2 ^ 63` bytes or more. -/
theorem index_characters (s : String) (hsize : s.utf8ByteSize < 2 ^ 63) (h : IsInteger x n) :
    (string s).method "split" [string ""] = .ok (ofStrings (pieces s "")) ∧
    (ofStrings (pieces s "")).index (number x) =
      (at? s.toList n).elim (.error (.listIndex x s.length))
        (fun c ↦ .ok (string (String.singleton c))) ∧
    (string s).index (number x) =
      (at? s.toList (max n 0)).elim (.error (.stringIndex (min n.toNat (2 ^ 64 - 1)) s.length))
        (fun c ↦ .ok (string (String.singleton c))) ∧
    (SameCharacter ((string s).index (number x)) ((ofStrings (pieces s "")).index (number x)) ↔
      0 ≤ n ∨ at? s.toList n = s.toList.head?) := by
  refine ⟨method_split s "", index_pieces s hsize h, index_string s hsize h, ?_⟩
  rw [index_pieces s hsize h, index_string s hsize h, sameCharacter_elim_iff]
  by_cases hn : 0 ≤ n
  · rw [max_eq_left hn]
    exact iff_of_true rfl (.inl hn)
  · have hfirst : at? s.toList 0 = s.toList.head? := by
      rw [at?, if_pos le_rfl]
      exact List.head?_eq_getElem?.symm
    rw [max_eq_right (not_le.1 hn).le, hfirst, eq_comm]
    exact (or_iff_right hn).symm

theorem isInteger_neg_two : IsInteger (-2.0) (-2) := by
  have hunpack : (-2.0 : Float).toModel.unpack = .finite .negative (2 ^ 52) (-51) (by decide) := by
    with_unfolding_all rfl
  rw [IsInteger, hunpack, Decimal.value]
  norm_num [Float.Model.UnpackedFloat.Sign.apply]

/-- The second character from the end of a string of three. -/
theorem index_characters_negative :
    "é-a".utf8ByteSize < 2 ^ 63 ∧ IsInteger (-2.0) (-2) ∧
    (ofStrings (pieces "é-a" "")).index (number (-2.0)) = .ok (string "-") ∧
    (string "é-a").index (number (-2.0)) = .ok (string "é") := by
  have hsize : "é-a".utf8ByteSize < 2 ^ 63 := by decide
  obtain ⟨-, hlist, hstring, -⟩ := index_characters "é-a" hsize isInteger_neg_two
  exact ⟨hsize, isInteger_neg_two, hlist, hstring⟩

/-- The last character of a list of two is not the one that the string gives. -/
theorem index_last_of_two :
    (string "ab").method "split" [string ""] = .ok (list [string "a", string "b"]) ∧
    (list [string "a", string "b"]).index (number (-1.0)) = .ok (string "b") ∧
    (string "ab").index (number (-1.0)) = .ok (string "a") ∧
    ¬ SameCharacter ((string "ab").index (number (-1.0)))
      ((list [string "a", string "b"]).index (number (-1.0))) := by
  have hlist : (list [string "a", string "b"]).index (number (-1.0)) = .ok (string "b") := by
    with_unfolding_all rfl
  have hstring : (string "ab").index (number (-1.0)) = .ok (string "a") := by
    with_unfolding_all rfl
  refine ⟨rfl, hlist, hstring, ?_⟩
  rw [hlist, hstring]
  rintro (⟨c, hfirst, hlast⟩ | ⟨e, f, hfirst, -⟩)
  · have hsame := hfirst.trans hlast.symm
    simp at hsame
  · cases hfirst

end Value

end ReleaseAudit
