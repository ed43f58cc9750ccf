/-!
# Cuts

What a reader takes from the front of a text is a value together with the characters behind it. A
cut also knows that there are at most `limit` of them, which is what makes repeated reading end. The
same holds for readers of other symbols than characters.
-/

namespace ReleaseAudit.Text

structure Cut (limit : Nat) (α : Type) (γ : Type := Char) where
  value : α
  rest : List γ
  le : rest.length ≤ limit

namespace Cut

variable {α β γ : Type} {m n : Nat}

/-- Takes nothing. -/
def here (value : α) (cs : List γ) : Cut cs.length α γ := ⟨value, cs, Nat.le_refl _⟩

def widen (c : Cut m α γ) (h : m ≤ n) : Cut n α γ := ⟨c.value, c.rest, Nat.le_trans c.le h⟩

def map (f : α → β) (c : Cut n α γ) : Cut n β γ := ⟨f c.value, c.rest, c.le⟩

/-- A cut behind a symbol is a cut of the text that begins with this symbol. -/
def past {c : γ} {cs : List γ} (cut : Cut cs.length α γ) : Cut (c :: cs).length α γ :=
  cut.widen (Nat.le_succ _)

/-- A cut of what is behind another cut. -/
def andThen (c : Cut n α γ) (next : Cut c.rest.length β γ) : Cut n β γ := next.widen c.le

/-- Takes everything. -/
def all (value : α) : Cut n α γ := ⟨value, [], Nat.zero_le _⟩

/-- Takes a number of symbols without looking at them. -/
def drop (count : Nat) (value : α) (cs : List γ) : Cut cs.length α γ :=
  ⟨value, cs.drop count, (List.drop_suffix count cs).length_le⟩

theorem lt_of_rest_eq (c : Cut n α γ) {x : γ} {rest : List γ} (h : c.rest = x :: rest) :
    rest.length < n :=
  Nat.lt_of_lt_of_le (Nat.lt_succ_self rest.length)
    (Nat.le_trans (Nat.le_of_eq (congrArg List.length h.symm)) c.le)

/-- Goes past the symbol behind a cut if it satisfies `p`. -/
def next? (p : γ → Bool) (c : Cut n α γ) : Option (Cut n α γ) :=
  match h : c.rest with
  | [] => none
  | x :: rest =>
    if p x then some ⟨c.value, rest, Nat.le_of_lt (c.lt_of_rest_eq h)⟩
    else none

/-- The longest run in front of a text whose symbols satisfy `p`. -/
def span (p : γ → Bool) (cs : List γ) : Cut cs.length (List γ) γ :=
  ⟨cs.takeWhile p, cs.dropWhile p, (List.dropWhile_suffix p).length_le⟩

end Cut

end ReleaseAudit.Text
