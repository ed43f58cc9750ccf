import ReleaseAudit.Proofs.Text.Replacement
import ReleaseAudit.Value.Call

/-!
# The pieces of a string

A string is cut at the occurrences of a separator that a walk from the left finds, and those occurrences
are what is replaced. An empty separator cuts between all characters.
-/

namespace ReleaseAudit

namespace Text

theorem map_toList_ofList (texts : List (List Char)) :
    (texts.map String.ofList).map String.toList = texts := by
  rw [List.map_map]
  calc
    texts.map (String.toList ∘ String.ofList) = texts.map id :=
      List.map_congr_left fun _ _ ↦ String.toList_ofList
    _ = texts := List.map_id texts

/-- Without a separator joining puts the characters together again. -/
theorem join_splitOn_empty (cs : List Char) : join [] (splitOn [] cs) = cs := by
  rw [splitOn, dif_pos rfl]
  induction cs with
  | nil => rfl
  | cons c cs ih =>
    cases cs with
    | nil => rfl
    | cons d cs =>
      rw [List.map_cons, join_cons_of_ne_nil _ _ (by simp), ih]
      rfl

end Text

namespace Value

variable {s sep new : String}

/-- What a string is cut into. -/
def pieces (s sep : String) : List String := (Text.splitOn sep.toList s.toList).map String.ofList

theorem map_toList_pieces (s sep : String) :
    (pieces s sep).map String.toList = Text.splitOn sep.toList s.toList := Text.map_toList_ofList _

theorem toList_ne_nil (hsep : sep ≠ "") : sep.toList ≠ [] := fun hnil ↦
  hsep (String.toList_inj.1 hnil)

/-! ## Methods -/

theorem method_split (s sep : String) :
    (string s).method "split" [string sep] = .ok (ofStrings (pieces s sep)) := rfl

theorem call_split [HostCode] (s sep : String) :
    HostFunction.split.call [string s, string sep] = (.ok (ofStrings (pieces s sep)), "") := rfl

theorem method_replace (s old new : String) :
    (string s).method "replace" [string old, string new] =
      .ok (string (String.ofList (Text.replace old.toList new.toList s.toList))) := rfl

theorem method_join (texts : List String) (sep : String) :
    (ofStrings texts).method "join" [string sep] = .ok (string (Text.intercalate sep texts)) := by
  have hdisplay : (texts.map string).map display = texts := by
    rw [List.map_map]
    exact List.map_id' _
  calc
    (ofStrings texts).method "join" [string sep] =
        .ok (string (Text.intercalate sep ((texts.map string).map display))) := rfl
    _ = .ok (string (Text.intercalate sep texts)) := by rw [hdisplay]

/-! ## Joining and replacing -/

theorem intercalate_pieces (s sep : String) : Text.intercalate sep (pieces s sep) = s := by
  have hjoin : Text.join sep.toList (Text.splitOn sep.toList s.toList) = s.toList := by
    by_cases hsep : sep.toList = []
    · rw [hsep]
      exact Text.join_splitOn_empty s.toList
    · exact Text.join_splitOn hsep s.toList
  apply String.toList_inj.1
  rw [Text.toList_intercalate, map_toList_pieces, hjoin]

theorem replace_eq_intercalate (hsep : sep ≠ "") (s new : String) :
    String.ofList (Text.replace sep.toList new.toList s.toList) =
      Text.intercalate new (pieces s sep) := by
  rw [Text.intercalate, map_toList_pieces, Text.replace_eq_join (toList_ne_nil hsep)]

/-- An occurrence of the separator in `s` does not begin inside a piece. -/
theorem pieces_leftmost (hsep : sep ≠ "") {before after : List String} {front back : String}
    (h : pieces s sep = before ++ (front ++ back) :: after) (hback : back ≠ "") :
    ¬ sep.toList <+: (Text.intercalate sep (back :: after)).toList := by
  have hsplit := congrArg (List.map String.toList) h
  rw [map_toList_pieces, List.map_append, List.map_cons, String.toList_append] at hsplit
  rw [Text.toList_intercalate, List.map_cons]
  exact Text.splitOn_leftmost (toList_ne_nil hsep) hsplit (toList_ne_nil hback)

theorem not_infix_of_mem_pieces (hsep : sep ≠ "") {piece : String} (h : piece ∈ pieces s sep) :
    ¬ sep.toList <:+: piece.toList := by
  have hmem : piece.toList ∈ Text.splitOn sep.toList s.toList := by
    rw [← map_toList_pieces]
    exact List.mem_map_of_mem h
  exact Text.not_infix_of_mem_splitOn (toList_ne_nil hsep) hmem

/-- The method and the host function cut a string into the same pieces, and joining them gives the
string again. No piece holds the separator, nor does it begin inside of one, and to replace it is to
join the pieces with something else. -/
theorem split_join_replace [HostCode] (s sep : String) :
    (string s).method "split" [string sep] = .ok (ofStrings (pieces s sep)) ∧
      HostFunction.split.call [string s, string sep] = (.ok (ofStrings (pieces s sep)), "") ∧
      (ofStrings (pieces s sep)).method "join" [string sep] = .ok (string s) ∧
      (sep ≠ "" →
        (∀ piece ∈ pieces s sep, ¬ sep.toList <:+: piece.toList) ∧
        (∀ before front back after, pieces s sep = before ++ (front ++ back) :: after → back ≠ "" →
          ¬ sep.toList <+: (Text.intercalate sep (back :: after)).toList) ∧
        ∀ new, (string s).method "replace" [string sep, string new] =
          (ofStrings (pieces s sep)).method "join" [string new]) := by
  refine ⟨method_split s sep, call_split s sep, ?_, fun hsep ↦ ⟨?_, ?_, fun new ↦ ?_⟩⟩
  · rw [method_join, intercalate_pieces]
  · exact fun piece ↦ not_infix_of_mem_pieces hsep
  · exact fun _ _ _ _ ↦ pieces_leftmost hsep
  · rw [method_replace, method_join, replace_eq_intercalate hsep]

/-- A separator that overlaps itself. -/
theorem split_join_replace_overlapping :
    (string "aaaéa").method "split" [string "aa"] = .ok (ofStrings ["", "aéa"]) ∧ "aa" ≠ "" ∧
      (∀ piece ∈ ["", "aéa"], ¬ "aa".toList <:+: piece.toList) ∧
      (string "aaaéa").method "replace" [string "aa", string "-"] = .ok (string "-aéa") := by
  have hpieces : pieces "aaaéa" "aa" = ["", "aéa"] := by decide +kernel
  have hsep : "aa" ≠ "" := by decide
  obtain ⟨hsplit, -, -, hcut⟩ := @split_join_replace HostCode.none "aaaéa" "aa"
  obtain ⟨hfree, -, hreplace⟩ := hcut hsep
  rw [hpieces] at hsplit hfree hreplace
  refine ⟨hsplit, hsep, hfree, ?_⟩
  rw [hreplace, method_join]
  rfl

end Value

end ReleaseAudit
