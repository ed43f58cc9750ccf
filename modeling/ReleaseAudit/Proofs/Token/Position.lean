import Mathlib.Data.List.Induction
import ReleaseAudit.Span

/-!
# The place behind a text

Going over a text, every line break starts a line, every other character takes a column, and every
character counts its bytes.
-/

namespace ReleaseAudit

namespace Text

/-- The number of bytes of a text. -/
def byteSize (cs : List Char) : Nat := (String.ofList cs).utf8ByteSize

theorem byteSize_toList (s : String) : byteSize s.toList = s.utf8ByteSize := by
  rw [byteSize, String.ofList_toList]

theorem byteSize_append (cs ds : List Char) : byteSize (cs ++ ds) = byteSize cs + byteSize ds := by
  rw [byteSize, String.ofList_append, String.utf8ByteSize_append, byteSize, byteSize]

theorem byteSize_singleton (c : Char) : byteSize [c] = c.utf8Size := by
  rw [byteSize, ← String.singleton_eq_ofList, String.utf8ByteSize_singleton]

theorem byteSize_cons (c : Char) (cs : List Char) :
    byteSize (c :: cs) = c.utf8Size + byteSize cs := by
  rw [← byteSize_singleton]
  exact byteSize_append [c] cs

theorem byteSize_pos {cs : List Char} (h : cs ≠ []) : 0 < byteSize cs := by
  obtain ⟨c, cs, rfl⟩ := List.exists_cons_of_ne_nil h
  rw [byteSize_cons]
  exact Nat.add_pos_left c.utf8Size_pos _

/-- No character takes less than a byte. -/
theorem length_le_byteSize (cs : List Char) : cs.length ≤ byteSize cs := by
  induction cs with
  | nil => exact Nat.zero_le _
  | cons c cs ih =>
    rw [byteSize_cons, List.length_cons, Nat.add_comm]
    exact Nat.add_le_add c.utf8Size_pos ih

/-- Of two beginnings of a text, the one that takes no more bytes is a beginning of the other. -/
theorem prefix_of_byteSize_le {as bs cs : List Char} (has : as <+: cs) (hbs : bs <+: cs)
    (h : byteSize as ≤ byteSize bs) : as <+: bs := by
  rcases List.prefix_or_prefix_of_prefix has hbs with hprefix | ⟨ds, rfl⟩
  · exact hprefix
  · rw [byteSize_append] at h
    have hds : ds = [] := by
      by_contra hne
      have hpos : 0 < byteSize ds := byteSize_pos hne
      omega
    exact ⟨[], by rw [hds, List.append_nil, List.append_nil]⟩

/-- The characters behind the last line break, in reverse. -/
def lastLine (cs : List Char) : List Char := cs.reverse.takeWhile (· != '\n')

theorem lastLine_concat (cs : List Char) (c : Char) :
    lastLine (cs ++ [c]) = if c = '\n' then [] else c :: lastLine cs := by
  by_cases hc : c = '\n' <;> simp [lastLine, hc]

end Text

attribute [ext] Position

namespace Position

variable (p : Position) (cs ds : List Char)

theorem advanceAll_append : p.advanceAll (cs ++ ds) = (p.advanceAll cs).advanceAll ds :=
  List.foldl_append

theorem line_advanceAll : (p.advanceAll cs).line = p.line + cs.count '\n' := by
  induction cs generalizing p with
  | nil => rfl
  | cons c cs ih =>
    have hline : (p.advance c).line = p.line + [c].count '\n' := by
      by_cases hc : c = '\n' <;> simp [advance, hc]
    calc
      _ = (p.advance c).line + cs.count '\n' := ih (p.advance c)
      _ = p.line + ([c].count '\n' + cs.count '\n') := by rw [hline, Nat.add_assoc]
      _ = _ := by rw [← List.count_append, List.singleton_append]

theorem offset_advanceAll : (p.advanceAll cs).offset = p.offset + Text.byteSize cs := by
  induction cs generalizing p with
  | nil => rfl
  | cons c cs ih =>
    have hoffset : (p.advance c).offset = p.offset + c.utf8Size := by
      by_cases hc : c = '\n' <;> simp [advance, hc]
    calc
      _ = (p.advance c).offset + Text.byteSize cs := ih (p.advance c)
      _ = _ := by rw [hoffset, Text.byteSize_cons, Nat.add_assoc]

theorem offset_advanceAll_origin : (origin.advanceAll cs).offset = Text.byteSize cs := by
  rw [offset_advanceAll]
  exact Nat.zero_add _

theorem column_advanceAll : (origin.advanceAll cs).column = 1 + (Text.lastLine cs).length := by
  induction cs using List.reverseRecOn with
  | nil => rfl
  | append_singleton cs c ih =>
    rw [advanceAll_append, Text.lastLine_concat]
    change (Position.advance _ c).column = _
    by_cases hc : c = '\n'
    · simp [advance, hc]
    · simp [advance, hc, ih]
      omega

end Position

namespace Span

/-- The span of `text` behind `before`. -/
def behind (before text : List Char) : Span where
  line := 1 + before.count '\n'
  column := 1 + (Text.lastLine before).length
  start := Text.byteSize before
  stop := Text.byteSize before + Text.byteSize text

theorem between_advanceAll (before text : List Char) :
    between (.advanceAll .origin before) ((Position.advanceAll .origin before).advanceAll text) =
      behind before text := by
  have hline : Position.origin.line = 1 := rfl
  have hoffset : Position.origin.offset = 0 := rfl
  simp only [between, behind, Position.line_advanceAll, Position.column_advanceAll,
    Position.offset_advanceAll, hline, hoffset, Nat.zero_add]

end Span

end ReleaseAudit
