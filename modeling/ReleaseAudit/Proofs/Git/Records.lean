import ReleaseAudit.Proofs.Git.Commits
import ReleaseAudit.Proofs.Text.Words

/-!
# Reading back what git prints of commits

Commits come in records with four fields, none of which holds a separator. Hash and parents are words,
the author is any text, and the message is any text that does not end with a line break, since git
prints line breaks behind it. Such commits are read back as they were, with all blanks in their fields.
-/

namespace ReleaseAudit

open Text (IsWord isBlank)

/-! ## The layout -/

/-- Holds neither the separator of fields nor that of records. -/
def IsPlain (cs : List Char) : Prop := '\x00' ∉ cs ∧ '\x1e' ∉ cs

instance (cs : List Char) : Decidable (IsPlain cs) := inferInstanceAs (Decidable (_ ∧ _))

/-- The name of a commit. -/
structure IsName (name : String) : Prop where
  word : IsWord name.toList
  plain : IsPlain name.toList

/-- Nothing in the fields of the commit can be taken for a separator. -/
structure Commit.Printable (c : Commit) : Prop where
  hash : IsName c.hash
  parents : ∀ p ∈ c.parents, IsName p
  author : IsPlain c.author.toList
  message : IsPlain c.message.toList
  ends : c.message.toList.getLast? ≠ some '\n'

namespace Commit

variable (c : Commit) (breaks : Nat)

/-- The parents as one field. -/
def parentField : List Char := Text.join [' '] (c.parents.map String.toList)

/-- The message as a field, with line breaks behind it. -/
def messageField : List Char := c.message.toList ++ List.replicate breaks '\n'

/-- The fields as `GitRepository.commitFormat` asks for them, with a NUL between them. -/
def printed : List Char :=
  c.hash.toList ++ '\x00' ::
    (c.parentField ++ '\x00' :: (c.author.toList ++ '\x00' :: c.messageField breaks))

end Commit

theorem Commit.printed_ne_nil (c : Commit) (breaks : Nat) : c.printed breaks ≠ [] := by
  simp [printed]

/-- What git prints of some commits: each followed by a record separator, with a line break between
them. The number of line breaks behind the message may be another one for every commit. -/
def printedCommits (records : List (Commit × Nat)) : List Char :=
  Text.join ['\n'] (records.map fun (c, breaks) ↦ c.printed breaks ++ ['\x1e'])

variable {c : Commit} {breaks : Nat} {records : List (Commit × Nat)}

/-! ## Plain fields -/

theorem IsPlain.append {a b : List Char} (ha : IsPlain a) (hb : IsPlain b) : IsPlain (a ++ b) :=
  ⟨List.not_mem_append ha.1 hb.1, List.not_mem_append ha.2 hb.2⟩

namespace Commit.Printable

variable (h : c.Printable)

include h

theorem plain_parentField : IsPlain c.parentField := by
  have hplain (d : Char) (hspace : d ≠ ' ') (hnames : ∀ p ∈ c.parents, d ∉ p.toList) :
      d ∉ c.parentField := by
    intro hmem
    obtain ⟨piece, hpiece, hd⟩ := (Text.mem_of_mem_join hmem).resolve_left hspace
    obtain ⟨p, hp, rfl⟩ := List.mem_map.1 hpiece
    exact hnames p hp hd
  exact ⟨hplain '\x00' (by decide) fun p hp ↦ (h.parents p hp).plain.1,
    hplain '\x1e' (by decide) fun p hp ↦ (h.parents p hp).plain.2⟩

theorem plain_messageField (breaks : Nat) : IsPlain (c.messageField breaks) :=
  h.message.append ⟨by simp [List.mem_replicate], by simp [List.mem_replicate]⟩

theorem separator_notMem_printed (breaks : Nat) : '\x1e' ∉ c.printed breaks := by
  simp [printed, h.hash.plain.2, h.plain_parentField.2, h.author.2, (h.plain_messageField breaks).2]

/-- A record starts with the first character of the hash. -/
theorem not_blank_of_head? {d : Char} (hd : (c.printed breaks).head? = some d) : ¬ isBlank d := by
  rw [printed, List.head?_append_of_ne_nil _ h.hash.word.ne_nil] at hd
  exact h.hash.word.not_blank d (List.mem_of_head? hd)

theorem words_parentField : (Text.words c.parentField).map String.ofList = c.parents := by
  have hwords : ∀ word ∈ c.parents.map String.toList, IsWord word := by
    intro word hword
    obtain ⟨p, hp, rfl⟩ := List.mem_map.1 hword
    exact (h.parents p hp).word
  rw [parentField, Text.words_join (by decide) hwords, List.map_map]
  simp

theorem dropEndWhile_messageField (breaks : Nat) :
    Text.dropEndWhile (· == '\n') (c.messageField breaks) = c.message.toList := by
  have hbreaks : ∀ d ∈ List.replicate breaks '\n', d == '\n' := by simp [List.mem_replicate]
  rw [messageField, Text.dropEndWhile_append hbreaks]
  apply Text.dropEndWhile_eq_self
  intro d hd hbreak
  exact h.ends (eq_of_beq hbreak ▸ hd)

end Commit.Printable

/-! ## Reading -/

namespace GitRepository

theorem fields_eq {hash parents author message : List Char} (hhash : IsPlain hash)
    (hparents : IsPlain parents) (hauthor : IsPlain author) (hmessage : IsPlain message) :
    fields (hash ++ '\x00' :: (parents ++ '\x00' :: (author ++ '\x00' :: message))) =
      [hash, parents, author, message] := by
  rw [fields, Text.splitBy_append_cons hhash.1, Text.splitBy_append_cons hparents.1,
    Text.splitBy_append_cons hauthor.1, Text.splitBy_eq_singleton (Text.forall_not_beq hmessage.1)]
  simp only [Text.join_cons, List.flatMap_nil, List.append_nil]

/-- Line breaks in front of a record do not matter. -/
theorem parseCommit?_printed (h : c.Printable) (breaks : Nat) (gap : List Char)
    (hgap : ∀ d ∈ gap, d = '\n') : parseCommit? (gap ++ c.printed breaks) = some c := by
  have hbreaks : ∀ d ∈ gap, d == '\n' := fun d hd ↦ beq_iff_eq.2 (hgap d hd)
  have hfirst : ∀ d, (c.printed breaks).head? = some d → ¬ (d == '\n') := by
    intro d hd heq
    cases eq_of_beq heq
    exact h.not_blank_of_head? hd rfl
  have hne : (c.printed breaks).isEmpty = false := by simp [c.printed_ne_nil]
  have hfields : fields (c.printed breaks) =
      [c.hash.toList, c.parentField, c.author.toList, c.messageField breaks] :=
    fields_eq h.hash.plain h.plain_parentField h.author (h.plain_messageField breaks)
  rw [parseCommit?, List.dropWhile_append_of_pos hbreaks, Text.dropWhile_eq_self hfirst]
  simp [hne, hfields, h.hash.word.trimChars_eq, h.words_parentField, h.dropEndWhile_messageField]

/-- What stands in front of the record separators. There is a line break in front of every record but
the first. -/
def pieces : List (Commit × Nat) → List (List Char)
  | [] => []
  | (c, breaks) :: rest => c.printed breaks :: rest.map fun (c, breaks) ↦ '\n' :: c.printed breaks

theorem printedCommits_eq (records : List (Commit × Nat)) :
    printedCommits records = (pieces records).flatMap (· ++ ['\x1e']) := by
  cases records with
  | nil => rfl
  | cons record rest =>
    rw [printedCommits, List.map_cons, Text.join_cons, pieces, List.flatMap_cons, List.flatMap_map,
      List.flatMap_map]
    rfl

theorem separator_notMem_pieces (h : ∀ record ∈ records, record.1.Printable) :
    ∀ piece ∈ pieces records, '\x1e' ∉ piece := by
  cases records with
  | nil => exact List.forall_mem_nil _
  | cons record rest =>
    obtain ⟨hrecord, hrest⟩ := List.forall_mem_cons.1 h
    intro piece hpiece
    rcases List.mem_cons.1 hpiece with rfl | hmem
    · exact hrecord.separator_notMem_printed record.2
    · obtain ⟨next, hnext, rfl⟩ := List.mem_map.1 hmem
      apply List.not_mem_cons_of_ne_of_not_mem (by decide)
      exact (hrest next hnext).separator_notMem_printed next.2

theorem filterMap_pieces (h : ∀ record ∈ records, record.1.Printable) :
    (pieces records).filterMap parseCommit? = records.map Prod.fst := by
  cases records with
  | nil => rfl
  | cons record rest =>
    obtain ⟨hrecord, hrest⟩ := List.forall_mem_cons.1 h
    have hfirst : parseCommit? (record.1.printed record.2) = some record.1 :=
      parseCommit?_printed hrecord record.2 [] (List.forall_mem_nil _)
    have hmore : ∀ next ∈ rest, parseCommit? ('\n' :: next.1.printed next.2) = some next.1 :=
      fun next hnext ↦ parseCommit?_printed (hrest next hnext) next.2 ['\n'] (by simp)
    rw [pieces, List.filterMap_cons_some hfirst, List.filterMap_map, List.map_cons,
      ← List.filterMap_eq_map]
    congr 1
    exact List.filterMap_congr hmore

/-- What is printed of commits starts with a hash and ends with a record separator, so that nothing is
trimmed off. -/
theorem trimChars_printedCommits (h : ∀ record ∈ records, record.1.Printable) :
    Text.trimChars (printedCommits records) = printedCommits records := by
  cases records with
  | nil => rfl
  | cons record rest =>
    have hrecord : record.1.Printable := h record List.mem_cons_self
    apply Text.trimChars_eq_self
    · intro d hd
      rw [printedCommits_eq, pieces, List.flatMap_cons, List.append_assoc,
        List.head?_append_of_ne_nil _ (record.1.printed_ne_nil record.2)] at hd
      exact hrecord.not_blank_of_head? hd
    · intro d hd
      have hne : pieces (record :: rest) ≠ [] := List.cons_ne_nil _ _
      rw [printedCommits_eq, Text.getLast?_flatMap_append hne] at hd
      cases hd
      decide

theorem trim_printed (h : ∀ record ∈ records, record.1.Printable) {front back : List Char}
    (hfront : ∀ d ∈ front, isBlank d) (hback : ∀ d ∈ back, isBlank d) :
    Text.trim (String.ofList (front ++ printedCommits records ++ back)) =
      String.ofList (printedCommits records) := by
  rw [Text.trim, String.toList_ofList, Text.trimChars_append_right hback,
    Text.trimChars_append_left hfront, trimChars_printedCommits h]

theorem parseCommits_printedCommits (h : ∀ record ∈ records, record.1.Printable) :
    parseCommits (String.ofList (printedCommits records)) = records.map Prod.fst :=
  calc
    parseCommits (String.ofList (printedCommits records))
      = (Text.splitBy (· == '\x1e') (printedCommits records)).filterMap parseCommit? := by
        rw [parseCommits, String.toList_ofList]
    _ = (pieces records ++ [[]]).filterMap parseCommit? := by
        rw [printedCommits_eq, Text.splitBy_flatMap (separator_notMem_pieces h)]
    _ = (pieces records).filterMap parseCommit? := by
        rw [List.filterMap_append]
        exact List.append_nil _
    _ = records.map Prod.fst := filterMap_pieces h

/-- Commits are read back from what is printed of them, whatever blanks stand around it. -/
theorem parseCommits_trim_printed (h : ∀ record ∈ records, record.1.Printable)
    (front back : List Char) (hfront : ∀ d ∈ front, isBlank d) (hback : ∀ d ∈ back, isBlank d) :
    parseCommits (Text.trim (String.ofList (front ++ printedCommits records ++ back))) =
      records.map Prod.fst := by
  rw [trim_printed h hfront hback, parseCommits_printedCommits h]

/-- A root commit without an author or a message, behind a merge whose message holds blanks and an
empty line. -/
def mergeRecords : List (Commit × Nat) :=
  [(⟨"c3", "  merge\n\nboth ", ["b2", "a1"], "n <m>"⟩, 2), (⟨"a1", "", [], " <>"⟩, 0)]

theorem mergeRecords_printable : ∀ record ∈ mergeRecords, record.1.Printable := by
  have hname : ∀ name ∈ ["a1", "b2", "c3"], IsName name := by
    have hchars : ∀ name ∈ ["a1", "b2", "c3"], name ≠ "" ∧ name.toList.all (!isBlank ·) ∧
        IsPlain name.toList := by decide +kernel
    intro name hmem
    obtain ⟨hne, hblank, hplain⟩ := hchars name hmem
    exact ⟨⟨by simpa using hne, by simpa using hblank⟩, hplain⟩
  have hmerge : Commit.Printable ⟨"c3", "  merge\n\nboth ", ["b2", "a1"], "n <m>"⟩ :=
    { hash := hname _ (by simp)
      parents := by simp [hname]
      author := by decide
      message := by decide
      ends := by decide }
  have hroot : Commit.Printable ⟨"a1", "", [], " <>"⟩ :=
    { hash := hname _ (by simp)
      parents := List.forall_mem_nil _
      author := by decide
      message := by decide
      ends := by decide }
  exact List.forall_mem_cons.2 ⟨hmerge, List.forall_mem_singleton.2 hroot⟩

theorem parseCommits_mergeRecords :
    parseCommits (Text.trim
      "c3\x00b2 a1\x00n <m>\x00  merge\n\nboth \n\n\x1e\na1\x00\x00 <>\x00\x1e\n") =
      [⟨"c3", "  merge\n\nboth ", ["b2", "a1"], "n <m>"⟩, ⟨"a1", "", [], " <>"⟩] :=
  parseCommits_trim_printed mergeRecords_printable [] ['\n'] (List.forall_mem_nil _)
    (List.forall_mem_singleton.2 rfl)

/-- A git whose listings are printed in this way lists commits as `record` says. -/
theorem lists_printed {record : String → Commit} {hash : String} {first : Commit × Nat}
    (h : ∀ printed ∈ first :: records, printed.1.Printable) (hfirst : first.1.hash = hash)
    (hrecord : ∀ printed ∈ first :: records, record printed.1.hash = printed.1)
    {front back : List Char} (hfront : ∀ d ∈ front, isBlank d) (hback : ∀ d ∈ back, isBlank d) :
    Lists record hash
      (Text.trim (String.ofList (front ++ printedCommits (first :: records) ++ back))) := by
  rw [trim_printed h hfront hback]
  have hparse := parseCommits_printedCommits h
  refine ⟨⟨first.1, records.map Prod.fst, hparse, hfirst⟩, ?_⟩
  rw [hparse]
  exact List.forall_mem_map.2 hrecord

end GitRepository

end ReleaseAudit
