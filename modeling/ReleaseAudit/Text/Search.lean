/-!
# Searching and cutting text

Splitting, replacing and joining on lists of characters. `splitOn` and `replace` walk the text from
the left and take every occurrence that does not overlap the one before it.
-/

namespace ReleaseAudit.Text

def stripPrefix? : List Char → List Char → Option (List Char)
  | [], cs => some cs
  | _ :: _, [] => none
  | p :: ps, c :: cs => if p = c then stripPrefix? ps cs else none

theorem stripPrefix?_eq_some {ps cs rest : List Char} (h : stripPrefix? ps cs = some rest) :
    cs = ps ++ rest := by
  induction ps generalizing cs with
  | nil => simp_all [stripPrefix?]
  | cons p ps ih =>
    cases cs with
    | nil => simp [stripPrefix?] at h
    | cons c cs =>
      simp only [stripPrefix?] at h
      split at h
      · rename_i hpc
        rw [List.cons_append, ← ih h, hpc]
      · contradiction

theorem length_stripPrefix?_le {ps cs rest : List Char} (h : stripPrefix? ps cs = some rest) :
    rest.length ≤ cs.length := by
  rw [stripPrefix?_eq_some h, List.length_append]
  exact Nat.le_add_left _ _

theorem stripPrefix?_append (ps rest : List Char) : stripPrefix? ps (ps ++ rest) = some rest := by
  induction ps with
  | nil => rfl
  | cons p ps ih => simpa only [List.cons_append, stripPrefix?, if_true] using ih

def startsWith (cs p : List Char) : Bool := (stripPrefix? p cs).isSome

theorem startsWith_iff {cs p : List Char} : startsWith cs p ↔ p <+: cs := by
  constructor
  · intro h
    obtain ⟨rest, hrest⟩ := Option.isSome_iff_exists.1 h
    exact ⟨rest, (stripPrefix?_eq_some hrest).symm⟩
  · rintro ⟨rest, rfl⟩
    rw [startsWith, stripPrefix?_append]
    rfl

def endsWith (cs p : List Char) : Bool := startsWith cs.reverse p.reverse

def stripSuffix? (p cs : List Char) : Option (List Char) :=
  (stripPrefix? p.reverse cs.reverse).map List.reverse

def isInfix (p : List Char) : List Char → Bool
  | [] => p.isEmpty
  | c :: cs => startsWith (c :: cs) p || isInfix p cs

theorem isInfix_iff {p cs : List Char} : isInfix p cs ↔ p <:+: cs := by
  induction cs with
  | nil => simp [isInfix]
  | cons c cs ih => rw [isInfix, Bool.or_eq_true, startsWith_iff, ih, List.infix_cons_iff]

/-- The pieces of a text between the occurrences of a separator of at least one character. The first
argument holds the start of the current piece, last character first. -/
def splitFrom (sep : List Char) (hsep : sep ≠ []) (piece : List Char) (cs : List Char) :
    List (List Char) :=
  match _hr : stripPrefix? sep cs with
  | some rest => piece.reverse :: splitFrom sep hsep [] rest
  | none =>
    match cs with
    | [] => [piece.reverse]
    | c :: cs => splitFrom sep hsep (c :: piece) cs
termination_by cs.length
decreasing_by
  · have h := congrArg List.length (stripPrefix?_eq_some _hr)
    have := List.length_pos_iff.2 hsep
    rw [List.length_append] at h
    omega
  · simp

/-- A text is cut at every occurrence of the separator; an empty separator cuts it into its
characters. -/
def splitOn (sep cs : List Char) : List (List Char) :=
  if h : sep = [] then cs.map ([·]) else splitFrom sep h [] cs

def replaceFrom (old : List Char) (hold : old ≠ []) (new : List Char) (cs : List Char) : List Char :=
  match _hr : stripPrefix? old cs with
  | some rest => new ++ replaceFrom old hold new rest
  | none =>
    match cs with
    | [] => []
    | c :: cs => c :: replaceFrom old hold new cs
termination_by cs.length
decreasing_by
  · have h := congrArg List.length (stripPrefix?_eq_some _hr)
    have := List.length_pos_iff.2 hold
    rw [List.length_append] at h
    omega
  · simp

/-- Every occurrence of `old` is replaced; an empty `old` occurs around every character. -/
def replace (old new cs : List Char) : List Char :=
  if h : old = [] then new ++ cs.flatMap (· :: new) else replaceFrom old h new cs

def join (sep : List Char) (pieces : List (List Char)) : List Char := (pieces.intersperse sep).flatten

/-- The parts in front of and behind the first character that satisfies `p`. -/
def cutAt? (p : Char → Bool) : List Char → Option (List Char × List Char)
  | [] => none
  | c :: cs => if p c then some ([], cs) else (cutAt? p cs).map fun (a, b) => (c :: a, b)

theorem length_cutAt?_lt {p : Char → Bool} {cs a b : List Char} (h : cutAt? p cs = some (a, b)) :
    b.length < cs.length := by
  induction cs generalizing a b with
  | nil => simp [cutAt?] at h
  | cons c cs ih =>
    simp only [cutAt?] at h
    split at h
    · simp_all
    · obtain ⟨⟨a', b'⟩, hcut, heq⟩ := Option.map_eq_some_iff.1 h
      have := ih hcut
      simp only [Prod.mk.injEq] at heq
      simp only [← heq.2, List.length_cons]
      omega

/-- The parts in front of and behind the last character that satisfies `p`. -/
def cutAtLast? (p : Char → Bool) (cs : List Char) : Option (List Char × List Char) :=
  (cutAt? p cs.reverse).map fun (a, b) => (b.reverse, a.reverse)

/-- The pieces between the characters that satisfy `p`; one more than there are of them. -/
def splitBy (p : Char → Bool) : List Char → List (List Char)
  | [] => [[]]
  | c :: cs =>
    if p c then [] :: splitBy p cs
    else match splitBy p cs with
      | [] => [[c]]
      | piece :: pieces => (c :: piece) :: pieces

/-- A line that ends in a carriage return loses it. -/
def dropReturn (line : List Char) : List Char :=
  match line.reverse with
  | '\r' :: rest => rest.reverse
  | _ => line

/-- The lines of a text. A line ends in LF or CR LF; the last needs no end, and keeps a lone CR. -/
def linesOf (cs : List Char) : List (List Char) :=
  let pieces := splitBy (· == '\n') cs
  pieces.dropLast.map dropReturn ++ (pieces.getLast?.filter (!·.isEmpty)).toList

def lines (s : String) : List String := (linesOf s.toList).map String.ofList

def intercalate (sep : String) (pieces : List String) : String :=
  String.ofList (join sep.toList (pieces.map String.toList))

theorem toList_intercalate (sep : String) (pieces : List String) :
    (intercalate sep pieces).toList = join sep.toList (pieces.map String.toList) := String.toList_ofList

end ReleaseAudit.Text
