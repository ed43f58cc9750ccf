import ReleaseAudit.Proofs.Expr.Given
import ReleaseAudit.Proofs.Expr.Grammar

/-!
# Everything derived is parsed

The body of a closure takes all tokens that it can, also those that the grammar keeps for a phrase
around the closure. They are taken in whole pieces: an operator with its operand, a suffix, the
branches of a condition. What the phrases around find is therefore still a sequence of pieces, and
each level takes the pieces that are its own from the front of it.
-/

namespace ReleaseAudit

/-- What continues a phrase of the level by one step. -/
inductive Piece : Precedence → List Token → Prop
  | conditional {t f : List Token} : Derives (.level .conditional) t →
      Derives (.level .conditional) f → Piece .conditional (.question :: (t ++ .colon :: f))
  | operator {k : Precedence} {op : BinaryOp} {r : List Token} : op.precedence = k →
      Derives (.level k.next) r → Piece k (op.tokens ++ r)
  | property (n : String) : Piece .suffixed [.dot, .name n]
  | call {a : List Token} : Derives .args a → Piece .suffixed (.leftParen :: (a ++ [.rightParen]))
  | index {i : List Token} : Derives (.level .conditional) i →
      Piece .suffixed (.leftBracket :: (i ++ [.rightBracket]))

theorem Piece.continues_eq {k : Precedence} {p : List Token} (hp : Piece k p) (ts : List Token) :
    continues (p ++ ts) = some k := by
  cases hp with
  | operator hop _ => rw [List.append_assoc, continues_tokens, hop]
  | _ => rfl

theorem Piece.length_pos {k : Precedence} {p : List Token} (hp : Piece k p) : 0 < p.length := by
  cases hp with
  | @operator _ op _ _ _ => exact Nat.lt_of_lt_of_le op.tokens_length_pos (by simp)
  | _ => simp

/-- Pieces of any levels in front of tokens that continue nothing. -/
structure Pieces (ps : List (List Token)) (z : List Token) : Prop where
  piece : ∀ p ∈ ps, ∃ k, Piece k p
  ends : continues z = none

namespace Pieces

variable {ps : List (List Token)} {p z : List Token}

theorem of_suffix {left : List (List Token)} (hps : Pieces ps z) (hleft : left <:+ ps) :
    Pieces left z where
  piece p hp := hps.piece p (hleft.subset hp)
  ends := hps.ends

theorem cons {k : Precedence} (hp : Piece k p) (hps : Pieces ps z) : Pieces (p :: ps) z where
  piece := List.forall_mem_cons.2 ⟨⟨k, hp⟩, hps.piece⟩
  ends := hps.ends

theorem continues_ne_primary (hps : Pieces ps z) : continues (ps.flatten ++ z) ≠ some .primary := by
  cases ps with
  | nil => simp [hps.ends]
  | cons p ps =>
    obtain ⟨k, hp⟩ := hps.piece p List.mem_cons_self
    rw [List.flatten_cons, List.append_assoc, hp.continues_eq]
    cases hp with
    | @operator _ op _ hop _ =>
      rw [← hop, ne_eq, Option.some.injEq]
      exact (op.precedence_lt.trans (by decide)).ne
    | _ => simp

theorem head?_ne_arrow (hps : Pieces ps z) : (ps.flatten ++ z).head? ≠ some .arrow := by
  intro hhead
  obtain ⟨more, hmore⟩ := List.head?_eq_some_iff.1 hhead
  refine hps.continues_ne_primary ?_
  rw [hmore]
  rfl

/-- Only arguments begin with a parenthesis. -/
theorem exists_call (hps : Pieces ps z) (hhead : (ps.flatten ++ z).head? = some .leftParen) :
    ∃ a ps', ps = (.leftParen :: (a ++ [.rightParen])) :: ps' ∧ Derives .args a := by
  have hcontinues : continues (ps.flatten ++ z) = some .suffixed := by
    obtain ⟨more, hmore⟩ := List.head?_eq_some_iff.1 hhead
    rw [hmore]
    rfl
  cases ps with
  | nil =>
    rw [List.flatten_nil, List.nil_append, hps.ends] at hcontinues
    cases hcontinues
  | cons p ps =>
    obtain ⟨k, hp⟩ := hps.piece p List.mem_cons_self
    cases hp with
    | @call a ha => exact ⟨a, ps, rfl, ha⟩
    | @operator _ op _ _ _ => cases op <;> simp [BinaryOp.tokens] at hhead
    | _ => simp at hhead

end Pieces

/-- The parser reads `w`, which derives from the phrase, together with some of the pieces behind it;
if what is left continues the same level, then because comparisons do not chain. -/
def Phrase.Readable (limit : Nat) (w : List Token) : Phrase → Prop
  | .level k => ∀ ps z, Pieces ps z → (w ++ (ps.flatten ++ z)).length < limit →
    ∃ e left, left <:+ ps ∧ Reads (.phrase k e) (w ++ (ps.flatten ++ z)) (left.flatten ++ z) ∧
      (continues (left.flatten ++ z) = some k → k = .comparative)
  | .args => ∀ close z, close.Closing → (w ++ close :: z).length < limit →
    ∃ es, Reads (.items close es) (w ++ close :: z) z
  | .entries => ∀ z, (w ++ .rightBrace :: z).length < limit →
    ∃ es, Reads (.entries es) (w ++ .rightBrace :: z) z

/-- An expression in front of a closing token or a separator is read up to it. -/
theorem Phrase.Readable.expression {limit : Nat} {w : List Token}
    (hw : (Phrase.level .conditional).Readable limit w) {z : List Token}
    (hz : continues z = none) (hlength : (w ++ z).length < limit) :
    ∃ e, Reads (.phrase .conditional e) (w ++ z) z := by
  obtain ⟨e, left, hleft, hread, _⟩ := hw [] z ⟨by simp, hz⟩ hlength
  obtain rfl := List.suffix_nil.1 hleft
  exact ⟨e, hread⟩

/-- All phrases of fewer than `limit` tokens are read. -/
def Complete (limit : Nat) : Prop := ∀ phrase w, Derives phrase w → phrase.Readable limit w

namespace Complete

variable {limit : Nat} {ps : List (List Token)} {w z : List Token}

/-- What a level reads behind a phrase of the next level. -/
theorem tail (hlimit : Complete limit) {k : Precedence} (hk : k ≠ .primary) (l : Expr)
    (hps : Pieces ps z) (hlength : (ps.flatten ++ z).length ≤ limit) :
    ∃ e left, left <:+ ps ∧ Reads (.tail k l e) (ps.flatten ++ z) (left.flatten ++ z) ∧
      (continues (left.flatten ++ z) = some k → k = .comparative ∧ left ≠ ps) := by
  induction hn : ps.length using Nat.strong_induction_on generalizing l ps with
  | _ n ih =>
  subst hn
  by_cases hcontinues : continues (ps.flatten ++ z) = some k
  swap
  · exact ⟨l, ps, List.suffix_rfl, .stop hcontinues, fun h ↦ absurd h hcontinues⟩
  cases ps with
  | nil =>
    rw [List.flatten_nil, List.nil_append, hps.ends] at hcontinues
    cases hcontinues
  | cons p ps =>
    obtain ⟨k', hp⟩ := hps.piece p List.mem_cons_self
    have hrest : Pieces ps z := hps.of_suffix (List.suffix_cons p ps)
    rw [List.flatten_cons, List.append_assoc] at hcontinues hlength ⊢
    cases (hp.continues_eq _).symm.trans hcontinues
    have hshorter : (ps.flatten ++ z).length < limit := by
      have hpos := hp.length_pos
      simp only [List.length_append] at hlength ⊢
      omega
    -- The tail goes on behind the piece and what was read with it.
    have hnext (e : Expr) {left : List (List Token)} (hleft : left <:+ ps) :
        ∃ e' left', left' <:+ ps ∧ Reads (.tail k e e') (left.flatten ++ z) (left'.flatten ++ z) ∧
          (continues (left'.flatten ++ z) = some k → k = .comparative) := by
      have hlength' : (left.flatten ++ z).length ≤ limit := by
        obtain ⟨taken, rfl⟩ := hleft
        simp only [List.flatten_append, List.length_append] at hshorter ⊢
        omega
      obtain ⟨e', left', hleft', hread, hpost⟩ := ih left.length
        (Nat.lt_succ_of_le hleft.length_le) e (hrest.of_suffix hleft) hlength' rfl
      exact ⟨e', left', hleft'.trans hleft, hread, fun h ↦ (hpost h).1⟩
    cases hp with
    | @conditional t f ht hf =>
      obtain ⟨onTrue, hwhen⟩ := (hlimit _ t ht).expression
        (z := .colon :: (f ++ (ps.flatten ++ z))) rfl (by simp at hlength ⊢; omega)
      obtain ⟨onFalse, left, hleft, hread, hpost⟩ := hlimit _ f hf ps z hrest
        (by simp at hlength ⊢; omega)
      refine ⟨.conditional default l onTrue onFalse, left, hleft.trans (List.suffix_cons _ _), ?_,
        fun h ↦ absurd (hpost h) (by decide)⟩
      simpa only [List.cons_append, List.append_assoc] using Reads.conditional default hwhen hread
    | @operator _ op r hop hr =>
      obtain ⟨right, left, hleft, hread, -⟩ := hlimit _ r hr ps z hrest
        (by have := op.tokens_length_pos; simp at hlength ⊢; omega)
      rw [List.append_assoc]
      by_cases hk' : k = .comparative
      · subst hk'
        refine ⟨.binary default op l right, left, hleft.trans (List.suffix_cons _ _),
          .comparison default hop hread, fun _ ↦ ⟨rfl, ?_⟩⟩
        rintro rfl
        exact absurd hleft.length_le (by simp)
      · subst hop
        obtain ⟨e, left', hleft', htail, hpost⟩ := hnext (.binary default op l right) hleft
        exact ⟨e, left', hleft'.trans (List.suffix_cons _ _), .binary default hk' hread htail,
          fun h ↦ absurd (hpost h) hk'⟩
    | property n =>
      by_cases hhead : (ps.flatten ++ z).head? = some .leftParen
      · obtain ⟨a, ps', rfl, ha⟩ := hrest.exists_call hhead
        obtain ⟨args, hargs⟩ := hlimit _ a ha .rightParen (ps'.flatten ++ z)
          (by simp [Token.Closing]) (by simp at hlength ⊢; omega)
        obtain ⟨e, left, hleft, htail, hpost⟩ :=
          hnext (.method default l n args) (List.suffix_cons _ ps')
        refine ⟨e, left, hleft.trans (List.suffix_cons _ _), ?_,
          fun h ↦ absurd (hpost h) (by decide)⟩
        simpa using Reads.method default hargs htail
      · obtain ⟨e, left, hleft, htail, hpost⟩ := hnext (.property default l n) List.suffix_rfl
        exact ⟨e, left, hleft.trans (List.suffix_cons _ _), .property default hhead htail,
          fun h ↦ absurd (hpost h) (by decide)⟩
    | @call a ha =>
      obtain ⟨args, hargs⟩ := hlimit _ a ha .rightParen (ps.flatten ++ z) (by simp [Token.Closing])
        (by simp at hlength ⊢; omega)
      obtain ⟨e, left, hleft, htail, hpost⟩ := hnext (.call default l args) List.suffix_rfl
      refine ⟨e, left, hleft.trans (List.suffix_cons _ _), ?_, fun h ↦ absurd (hpost h) (by decide)⟩
      simpa only [List.cons_append, List.nil_append, List.append_assoc] using
        Reads.call default hargs htail
    | @index i hi =>
      obtain ⟨key, hkey⟩ := (hlimit _ i hi).expression (z := .rightBracket :: (ps.flatten ++ z)) rfl
        (by simp at hlength ⊢; omega)
      obtain ⟨e, left, hleft, htail, hpost⟩ := hnext (.index default l key) List.suffix_rfl
      refine ⟨e, left, hleft.trans (List.suffix_cons _ _), ?_, fun h ↦ absurd (hpost h) (by decide)⟩
      simpa only [List.cons_append, List.nil_append, List.append_assoc] using
        Reads.index default hkey htail

end Complete

namespace Phrase.Readable

variable {limit : Nat} {k : Precedence} {l p w : List Token}

/-- A level that takes all of its own pieces takes one that is behind a phrase of the level. -/
theorem absorb (hl : (Phrase.level k).Readable limit l) (hp : Piece k p) (hk : k ≠ .comparative) :
    (Phrase.level k).Readable limit (l ++ p) := by
  intro ps z hps hlength
  obtain ⟨e, left, hleft, hread, hpost⟩ := hl (p :: ps) z (.cons hp hps) (by simpa using hlength)
  rcases List.suffix_cons_iff.1 hleft with rfl | hleft
  · rw [List.flatten_cons, List.append_assoc] at hpost
    exact absurd (hpost (hp.continues_eq _)) hk
  · exact ⟨e, left, hleft, by simpa using hread, hpost⟩

theorem climb (hlimit : Complete limit) (hk : k ≠ .primary)
    (hw : (Phrase.level k.next).Readable (limit + 1) w) :
    (Phrase.level k).Readable (limit + 1) w := by
  intro ps z hps hlength
  obtain ⟨l, left, hleft, hread, -⟩ := hw ps z hps hlength
  have hshorter := hread.length_lt
  obtain ⟨e, left', hleft', htail, hpost⟩ := hlimit.tail hk l (hps.of_suffix hleft) (by omega)
  exact ⟨e, left', hleft'.trans hleft, .climb hk hread htail, fun h ↦ (hpost h).1⟩

/-- A level takes a piece of its own that is behind a phrase of the next level. -/
theorem extend (hlimit : Complete limit) (hk : k ≠ .primary)
    (hl : (Phrase.level k.next).Readable (limit + 1) l) (hp : Piece k p) :
    (Phrase.level k).Readable (limit + 1) (l ++ p) := by
  intro ps z hps hlength
  obtain ⟨e, left, hleft, hread, -⟩ := hl (p :: ps) z (.cons hp hps) (by simpa using hlength)
  have hshorter := hread.length_lt
  have hpieces := (Pieces.cons hp hps).of_suffix hleft
  obtain ⟨e', left', hleft', htail, hpost⟩ := hlimit.tail hk e hpieces
    (by simp at hlength hshorter ⊢; omega)
  refine ⟨e', left', ?_, by simpa using Reads.climb hk hread htail, fun h ↦ (hpost h).1⟩
  rcases List.suffix_cons_iff.1 (hleft'.trans hleft) with rfl | hsuffix
  · -- Nothing was taken, although the piece continues the level.
    rw [List.flatten_cons, List.append_assoc] at hpost
    exact absurd (hleft'.eq_of_length_le hleft.length_le) (hpost (hp.continues_eq _)).2
  · exact hsuffix

end Phrase.Readable

theorem complete (limit : Nat) : Complete limit := by
  induction limit with
  | zero =>
    rintro (k | _ | _) w hw
    · exact fun ps z _ hlength ↦ absurd hlength (Nat.not_lt_zero _)
    · exact fun close z _ hlength ↦ absurd hlength (Nat.not_lt_zero _)
    · exact fun z hlength ↦ absurd hlength (Nat.not_lt_zero _)
  | succ limit ih =>
    intro phrase w hw
    induction hw with
    | next hk _ ihw => exact .climb ih hk ihw
    | conditional _ ht hf ihc => exact .extend ih (by decide) ihc (.conditional ht hf)
    | binary hop _ hr ihl _ => exact ihl.absorb (.operator rfl hr) hop
    | comparison hop _ hr ihl _ => exact .extend ih (by decide) ihl (.operator hop hr)
    | unary _ ihw =>
      intro ps z hps hlength
      obtain ⟨e, left, hleft, hread, -⟩ := ihw ps z hps (Nat.lt_of_succ_lt hlength)
      exact ⟨.unary default _ e, left, hleft, .unary default hread,
        fun h ↦ absurd h continues_ne_unary⟩
    | @property w n _ ihw => exact ihw.absorb (.property n) (by decide)
    | @method w a n _ ha ihw _ =>
      have hmethod := (ihw.absorb (.property n) (by decide)).absorb (.call ha) (by decide)
      simpa only [List.append_assoc, List.cons_append, List.nil_append] using hmethod
    | call _ ha ihw _ => exact ihw.absorb (.call ha) (by decide)
    | index _ hi ihw _ => exact ihw.absorb (.index hi) (by decide)
    | literal ht =>
      intro ps z hps _
      exact ⟨_, ps, List.suffix_rfl, .literal ht, fun h ↦ absurd h hps.continues_ne_primary⟩
    | @name n =>
      intro ps z hps _
      exact ⟨.name default n, ps, List.suffix_rfl, .name default hps.head?_ne_arrow,
        fun h ↦ absurd h hps.continues_ne_primary⟩
    | @closure n w _ ihw =>
      intro ps z hps hlength
      obtain ⟨body, left, hleft, hread, -⟩ := ihw ps z hps (by simp at hlength ⊢; omega)
      exact ⟨.closure default n body, left, hleft, .closure default hread,
        fun h ↦ absurd h (hps.of_suffix hleft).continues_ne_primary⟩
    | @list a _ iha =>
      intro ps z hps hlength
      obtain ⟨es, hes⟩ := iha .rightBracket (ps.flatten ++ z) (by simp [Token.Closing])
        (by simp at hlength ⊢; omega)
      refine ⟨.list default es, ps, List.suffix_rfl, ?_, fun h ↦ absurd h hps.continues_ne_primary⟩
      simpa using Reads.list default hes
    | @map a _ iha =>
      intro ps z hps hlength
      obtain ⟨es, hes⟩ := iha (ps.flatten ++ z) (by simp at hlength ⊢; omega)
      refine ⟨.map default es, ps, List.suffix_rfl, ?_, fun h ↦ absurd h hps.continues_ne_primary⟩
      simpa using Reads.map default hes
    | @paren w _ ihw =>
      intro ps z hps hlength
      obtain ⟨e, he⟩ := ihw.expression (z := .rightParen :: (ps.flatten ++ z)) rfl
        (by simp at hlength ⊢; omega)
      refine ⟨e, ps, List.suffix_rfl, ?_, fun h ↦ absurd h hps.continues_ne_primary⟩
      simpa using Reads.paren he
    | noArg => exact fun close z _ _ ↦ ⟨[], .noItem⟩
    | lastArg _ ihw =>
      intro close z hclose hlength
      obtain ⟨e, he⟩ := ihw.expression hclose.continues_eq hlength
      exact ⟨[e], .lastItem he⟩
    | @arg w a _ _ ihw iha =>
      intro close z hclose hlength
      obtain ⟨e, he⟩ := ihw.expression (z := .comma :: (a ++ close :: z)) rfl
        (by simpa using hlength)
      obtain ⟨es, hes⟩ := iha close z hclose (by simp at hlength ⊢; omega)
      refine ⟨e :: es, ?_⟩
      simpa using Reads.item he hes
    | noEntry => exact fun z _ ↦ ⟨[], .noEntry⟩
    | lastEntry hkey _ ihw =>
      intro z hlength
      obtain ⟨key, hkey⟩ := exists_mapKey?_iff.2 hkey
      obtain ⟨e, he⟩ := ihw.expression (z := .rightBrace :: z) rfl (by simp at hlength ⊢; omega)
      exact ⟨_, .lastEntry hkey he⟩
    | @entry t w a hkey _ _ ihw iha =>
      intro z hlength
      obtain ⟨key, hkey⟩ := exists_mapKey?_iff.2 hkey
      obtain ⟨e, he⟩ := ihw.expression (z := .comma :: (a ++ .rightBrace :: z)) rfl
        (by simp at hlength ⊢; omega)
      obtain ⟨es, hes⟩ := iha z (by simp at hlength ⊢; omega)
      refine ⟨(key, e) :: es, ?_⟩
      simpa using Reads.entry hkey he hes

/-- A token sequence is parsed when the grammar derives it as an expression, and only then. -/
theorem Expr.exists_ofTokens_iff_derives (ts : Tokens) :
    (∃ e, Expr.ofTokens ts = .ok e) ↔ Derives (.level .conditional) (ts.map Located.value) := by
  constructor
  · rintro ⟨e, he⟩
    obtain ⟨w, hw, hderives⟩ := (Expr.reads_of_ofTokens he).derivable
    rw [hw, List.append_nil]
    exact hderives
  · intro hderives
    have hreadable := complete ((ts.map Located.value ++ []).length + 1) _ _ hderives
    obtain ⟨e, he⟩ := hreadable.expression (z := []) rfl (Nat.lt_succ_self _)
    rw [List.append_nil] at he
    obtain ⟨e', hparsed, _⟩ := Expr.ofTokens_of_reads he
    exact ⟨e', hparsed⟩

end ReleaseAudit
