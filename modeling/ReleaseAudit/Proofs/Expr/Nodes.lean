import ReleaseAudit.Proofs.Expr.Layout
import ReleaseAudit.Proofs.Token.Tiling

/-!
# The nodes of a parsed text

Every node of a parsed expression is a piece of the text that begins where a token does and ends where
one does, over however many lines it goes and whatever parentheses are left out of it. Its parts are
pieces of this piece, each behind the one before.
-/

namespace ReleaseAudit

variable {text before after front back : List Char} {ts : Tokens} {s : Span}

/-- Of two beginnings of a text the one of fewer bytes begins the other. -/
theorem Text.exists_append_of_byteSize_lt (hbefore : text = before ++ after)
    (hfront : text = front ++ back) (h : byteSize before < byteSize front) :
    ∃ inside, front = before ++ inside ∧ inside ≠ [] := by
  have hbefore' : before <+: text := ⟨after, hbefore.symm⟩
  have hfront' : front <+: text := ⟨back, hfront.symm⟩
  rcases List.prefix_or_prefix_of_prefix hbefore' hfront' with ⟨inside, rfl⟩ | ⟨inside, rfl⟩
  · refine ⟨inside, rfl, ?_⟩
    rintro rfl
    simp at h
  · rw [byteSize_append] at h
    exact absurd h (Nat.not_lt_of_le (Nat.le_add_right _ _))

namespace Span

/-- The span is that of a piece of the text: it has the place of the first character of the piece, and
as many bytes. -/
def IsPiece (text : List Char) (s : Span) : Prop :=
  ∃ before inside after, text = before ++ inside ++ after ∧ inside ≠ [] ∧ s = .behind before inside

/-- From the lexeme of a token to the end of a lexeme behind it. -/
theorem StandsOver.isPiece (h : s.StandsOver ts) (htiles : Tiles [] text ts) : s.IsPiece text := by
  obtain ⟨t, ht, hfirst⟩ := h.first
  obtain ⟨t', ht', hstop⟩ := h.stop
  obtain ⟨before, lexeme, after, hbefore, -, hspan, -⟩ := htiles.lexeme ht
  obtain ⟨front, lexeme', back, hfront, -, hspan', -⟩ := htiles.lexeme ht'
  have hbegin : s.first = (behind before lexeme).first := by rw [hfirst, hspan, List.nil_append]
  have hend : s.stop = Text.byteSize (front ++ lexeme') := by
    rw [hstop, hspan', List.nil_append, Text.byteSize_append]
    rfl
  have hlt : Text.byteSize before < Text.byteSize (front ++ lexeme') := by
    calc
      _ = s.start := (congrArg Position.offset hbegin).symm
      _ < s.stop := h.nonempty
      _ = _ := hend
  rw [List.append_assoc] at hbefore
  obtain ⟨inside, hinside, hne⟩ := Text.exists_append_of_byteSize_lt hbefore hfront hlt
  refine ⟨before, inside, back, by rw [hfront, hinside], hne, ?_⟩
  rw [hinside, Text.byteSize_append] at hend
  obtain ⟨line, column, start, stop⟩ := s
  cases hbegin
  cases hend
  rfl

end Span

namespace Expr

variable {e : Expr} {source : String}

/-- Where a node stands in a text with the tokens `ts`. -/
structure NodePlaced (source : String) (ts : Tokens) (e : Expr) : Prop where
  start_eq : ∃ t ∈ ts, e.span.start = t.span.start
  stop_eq : ∃ t ∈ ts, e.span.stop = t.span.stop
  /-- Line and column are those of the start. -/
  isPiece : e.span.IsPiece source.toList
  holds : ∀ params part, Part e params part → e.span.Holds part.span
  ordered : e.parts.Pairwise fun p q ↦ p.2.span.stop ≤ q.2.span.start

theorem Laid.nodePlaced (h : Laid ts e) (htiles : Tiles [] source.toList ts) :
    NodePlaced source ts e where
  start_eq := by
    obtain ⟨t, ht, hfirst⟩ := h.standsOver.first
    exact ⟨t, ht, congrArg Position.offset hfirst⟩
  stop_eq := h.standsOver.stop
  isPiece := h.standsOver.isPiece htiles
  holds params part hpart := h.holds (params, part) (part_iff_mem_parts.1 hpart)
  ordered := h.ordered.imp fun hprecedes ↦ hprecedes.apart

/-- All nodes of a parsed text stand where their spans say. -/
theorem parse_nodes_placed (h : parse source = .ok e) :
    ∃ ts, scan source = .ok ts ∧ Everywhere (NodePlaced source ts) e := by
  obtain ⟨ts, hscan, hlaid⟩ := exists_laidOut_of_parse h
  have htiles : Tiles [] source.toList ts := tiles_of_scans (scans_of_scanFrom hscan) rfl
  exact ⟨ts, hscan, hlaid.imp fun _ hnode ↦ hnode.nodePlaced htiles⟩

/-- The tokens of a sum over three lines, whose operands have parentheses around them. -/
def spreadTokens : Tokens :=
  [⟨.leftParen, ⟨1, 1, 0, 1⟩⟩, ⟨.string "é", ⟨1, 2, 1, 5⟩⟩, ⟨.rightParen, ⟨1, 5, 5, 6⟩⟩,
    ⟨.plus, ⟨2, 2, 8, 9⟩⟩, ⟨.leftParen, ⟨2, 4, 10, 11⟩⟩, ⟨.name "xs", ⟨2, 5, 11, 13⟩⟩,
    ⟨.leftBracket, ⟨2, 7, 13, 14⟩⟩, ⟨.name "i", ⟨3, 1, 15, 16⟩⟩, ⟨.rightBracket, ⟨3, 2, 16, 17⟩⟩,
    ⟨.rightParen, ⟨3, 3, 17, 18⟩⟩]

/-- The sum begins behind a parenthesis, and ends in front of one on a line with smaller columns. -/
def spreadSum : Expr :=
  binary ⟨1, 2, 1, 17⟩ .add (string ⟨1, 2, 1, 5⟩ "é")
    (index ⟨2, 5, 11, 17⟩ (name ⟨2, 5, 11, 13⟩ "xs") (name ⟨3, 1, 15, 16⟩ "i"))

theorem parse_nodes_placed_spread :
    parse "('é')\n + (xs[\ni])" = .ok spreadSum ∧
      ∃ ts, scan "('é')\n + (xs[\ni])" = .ok ts ∧
        Everywhere (NodePlaced "('é')\n + (xs[\ni])" ts) spreadSum := by
  have hscan : scan "('é')\n + (xs[\ni])" = .ok spreadTokens := by with_unfolding_all rfl
  have htokens : ofTokens spreadTokens = .ok spreadSum := by cbv
  have hparse : parse "('é')\n + (xs[\ni])" = .ok spreadSum := by
    simp only [parse, hscan, htokens]
  exact ⟨hparse, parse_nodes_placed hparse⟩

end Expr

end ReleaseAudit
