import Mathlib.Data.List.Induction
import ReleaseAudit.Path
import ReleaseAudit.Proofs.Text.Words

/-!
# Going up from a path

A path that is put together from parts has these parts. Without its last part it is the path of the
directory around it, so that going up comes to an end after as many steps as there are parts.
-/

namespace ReleaseAudit

namespace PathPart

/-- A part that may stand behind others. -/
structure IsInner (p : PathPart) : Prop where
  ofSegment? : Path.ofSegment? p.text = some p
  slash_notMem : '/' ∉ p.text

theorem IsInner.ne_root {p : PathPart} (h : p.IsInner) : p ≠ .root := by
  rintro rfl
  exact h.slash_notMem (by decide)

theorem IsInner.text_ne_nil {p : PathPart} (h : p.IsInner) : p.text ≠ [] := by
  intro hnil
  have hsegment := h.ofSegment?
  rw [hnil] at hsegment
  cases hsegment

theorem IsInner.text_ne_dot {p : PathPart} (h : p.IsInner) : p.text ≠ ['.'] := by
  intro hdot
  have hsegment := h.ofSegment?
  rw [hdot] at hsegment
  cases hsegment

end PathPart

namespace Path

variable {path q : String} {first ps qs rest : List PathPart} {p : PathPart}
  {segment : List Char} {texts : List (List Char)}

/-! ## Parts -/

theorem text_of_ofSegment? (h : ofSegment? segment = some p) : p.text = segment := by
  unfold ofSegment? at h
  split at h
  · cases h
  · split at h
    · rename_i hup
      cases h
      exact (beq_iff_eq.1 hup).symm
    · cases h
      rfl

theorem isInner_of_ofSegment? (h : ofSegment? segment = some p) (hslash : '/' ∉ segment) :
    p.IsInner where
  ofSegment? := by rwa [text_of_ofSegment? h]
  slash_notMem := by rwa [text_of_ofSegment? h]

/-- The first part of a path may say where the path starts. -/
inductive IsStart : List PathPart → Prop
  | root : IsStart [.root]
  | here : IsStart [.here]
  | none : IsStart []

/-- The parts are those of a path. -/
def IsParts (ps : List PathPart) : Prop :=
  ∃ first rest, ps = first ++ rest ∧ IsStart first ∧ ∀ p ∈ rest, p.IsInner

theorem isParts_parts (path : String) : IsParts (parts path) := by
  refine ⟨_, _, rfl, ?_, fun p hp ↦ ?_⟩
  · split
    · exact .root
    · split
      · exact .here
      · exact .none
  · obtain ⟨segment, hsegment, hp⟩ := List.mem_filterMap.1 hp
    exact isInner_of_ofSegment? hp (Text.notMem_of_mem_splitBy hsegment)

/-- Parts without the last one are those of a path, too, and nothing stands in front of the root. -/
theorem IsParts.concat (h : IsParts (ps ++ [p])) : IsParts ps ∧ (p = .root → ps = []) := by
  obtain ⟨first, rest, happend, hfirst, hrest⟩ := h
  induction rest using List.reverseRecOn with
  | nil =>
    have hps : ps = [] := by
      cases hfirst <;> simp_all [List.append_eq_singleton_iff]
    rw [hps]
    exact ⟨⟨[], [], rfl, .none, by simp⟩, fun _ ↦ rfl⟩
  | append_singleton rest r _ =>
    rw [← List.append_assoc] at happend
    obtain ⟨rfl, hp⟩ := List.append_inj' happend rfl
    obtain rfl := List.singleton_inj.1 hp
    obtain ⟨hinner, hlast⟩ := List.forall_mem_append.1 hrest
    exact ⟨⟨first, rest, rfl, hfirst, hinner⟩, fun hroot ↦ absurd hroot (hlast p (by simp)).ne_root⟩

/-! ## Putting parts together -/

theorem filterMap_segments (h : ∀ text ∈ texts, '/' ∉ text) :
    (Text.splitBy (· == '/') (Text.join ['/'] texts)).filterMap ofSegment? =
      texts.filterMap ofSegment? := by
  cases texts with
  | nil => rfl
  | cons text texts => rw [Text.splitBy_join (List.cons_ne_nil _ _) h]

theorem filterMap_text (h : ∀ p ∈ rest, p.IsInner) :
    (rest.map PathPart.text).filterMap ofSegment? = rest := by
  rw [List.filterMap_map]
  calc
    rest.filterMap (ofSegment? ∘ PathPart.text) = rest.filterMap some :=
      List.filterMap_congr fun p hp ↦ (h p hp).ofSegment?
    _ = rest := List.filterMap_some

theorem slash_notMem_texts (h : ∀ p ∈ rest, p.IsInner) : ∀ text ∈ rest.map PathPart.text, '/' ∉ text := by
  intro text htext
  obtain ⟨p, hp, rfl⟩ := List.mem_map.1 htext
  exact (h p hp).slash_notMem

theorem toList_intercalate_slash (ps : List PathPart) :
    (Text.intercalate "/" (ps.map (String.ofList ·.text))).toList =
      Text.join ['/'] (ps.map PathPart.text) := by
  rw [Text.intercalate, String.toList_ofList, List.map_map]
  congr 1
  exact List.map_congr_left fun p _ ↦ String.toList_ofList

theorem parts_root (h : ∀ p ∈ rest, p.IsInner) :
    parts (ofParts (.root :: rest)) = .root :: rest := by
  have htext : (ofParts (.root :: rest)).toList = '/' :: Text.join ['/'] (rest.map PathPart.text) := by
    rw [ofParts, String.toList_append, toList_intercalate_slash]
    rfl
  have hsegments : Text.splitBy (· == '/') ('/' :: Text.join ['/'] (rest.map PathPart.text)) =
      [] :: Text.splitBy (· == '/') (Text.join ['/'] (rest.map PathPart.text)) := by
    rw [Text.splitBy, if_pos (by rfl)]
  have hempty : ofSegment? [] = none := rfl
  simp only [parts, isAbsolute, htext, hsegments, List.head?_cons, List.filterMap_cons, hempty,
    filterMap_segments (slash_notMem_texts h), filterMap_text h, BEq.rfl, if_true, List.singleton_append]

/-- A path that does not start at the root begins with the text of its first part. -/
theorem parts_relative (hp : p ≠ .root) (hne : p.text ≠ [])
    (hslash : ∀ text ∈ (p :: rest).map PathPart.text, '/' ∉ text) :
    parts (ofParts (p :: rest)) = (if p.text = ['.'] then [.here] else []) ++
      ((p :: rest).map PathPart.text).filterMap ofSegment? := by
  have htext : (ofParts (p :: rest)).toList = Text.join ['/'] ((p :: rest).map PathPart.text) := by
    rw [← toList_intercalate_slash]
    cases p <;> first | contradiction | rfl
  have hsegments : Text.splitBy (· == '/') (Text.join ['/'] ((p :: rest).map PathPart.text)) =
      (p :: rest).map PathPart.text := Text.splitBy_join (by simp) hslash
  have hrelative : isAbsolute (ofParts (p :: rest)) = false := by
    obtain ⟨c, cs, hcons⟩ := List.exists_cons_of_ne_nil hne
    have hc : c ≠ '/' := by
      rintro rfl
      exact hslash p.text (by simp) (by simp [hcons])
    rw [isAbsolute, htext, List.map_cons, Text.join_cons, hcons]
    simpa using hc
  rw [parts, htext, hsegments, hrelative]
  simp only [List.map_cons, List.head?_cons, Bool.false_eq_true, if_false, beq_iff_eq, Option.some_inj]

theorem parts_ofParts (h : IsParts ps) : parts (ofParts ps) = ps := by
  obtain ⟨first, rest, rfl, hfirst, hrest⟩ := h
  have hslash := slash_notMem_texts hrest
  cases hfirst with
  | root => exact parts_root hrest
  | here =>
    have htexts : ∀ text ∈ (PathPart.here :: rest).map PathPart.text, '/' ∉ text := by
      rw [List.map_cons, List.forall_mem_cons]
      exact ⟨by decide, hslash⟩
    have hdot : PathPart.here.text = ['.'] := rfl
    have hsegment : ofSegment? PathPart.here.text = none := rfl
    rw [List.singleton_append, parts_relative (by simp) (by simp [hdot]) htexts, if_pos hdot,
      List.map_cons, List.filterMap_cons, hsegment, filterMap_text hrest, List.singleton_append]
  | none =>
    cases rest with
    | nil => rfl
    | cons p rest =>
      have hp : p.IsInner := hrest p (.head _)
      rw [List.nil_append, parts_relative hp.ne_root hp.text_ne_nil hslash, if_neg hp.text_ne_dot,
        filterMap_text hrest, List.nil_append]

/-! ## Going up -/

/-- Only the root and the empty path have nothing around them. -/
theorem parts_cases (path : String) :
    (parts path = [] ∨ parts path = [.root]) ∨ ∃ ps p, parts path = ps ++ [p] ∧ p ≠ .root := by
  have hparts := isParts_parts path
  rcases List.eq_nil_or_concat (parts path) with hnil | ⟨ps, p, hconcat⟩
  · exact .inl (.inl hnil)
  · rw [List.concat_eq_append] at hconcat
    by_cases hp : p = .root
    · rw [hconcat] at hparts
      rw [hconcat, hparts.concat.2 hp, hp]
      exact .inl (.inr rfl)
    · exact .inr ⟨ps, p, hconcat, hp⟩

theorem parent?_eq_none (h : parts path = [] ∨ parts path = [.root]) : parent? path = none := by
  rw [parent?]
  rcases h with h | h <;> rw [h] <;> rfl

theorem parent?_concat (h : parts path = ps ++ [p]) (hp : p ≠ .root) :
    parent? path = some (ofParts ps) := by
  rw [parent?, h, List.reverse_append, List.reverse_singleton, List.singleton_append]
  cases p with
  | root => contradiction
  | here | up | name => simp

/-- Going up leaves the last part away. -/
theorem parts_of_parent? (h : parent? path = some q) : ∃ p, parts path = parts q ++ [p] := by
  rcases parts_cases path with hnone | ⟨ps, p, hparts, hp⟩
  · rw [parent?_eq_none hnone] at h
    cases h
  · rw [parent?_concat hparts hp, Option.some_inj] at h
    have hps : IsParts ps := (hparts ▸ isParts_parts path).concat.1
    exact ⟨p, by rw [hparts, ← h, parts_ofParts hps]⟩

/-- A property of a path may be proved from that of the directory around it. -/
theorem upward_induction {motive : String → Prop}
    (step : ∀ path, (∀ q, parent? path = some q → motive q) → motive path) (path : String) :
    motive path := by
  induction hn : (parts path).length using Nat.strongRecOn generalizing path with
  | ind n ih =>
    apply step
    intro q hq
    obtain ⟨p, hparts⟩ := parts_of_parent? hq
    apply ih (parts q).length _ q rfl
    rw [← hn, hparts, List.length_append]
    exact Nat.lt_succ_self _

/-- The paths of the directories around one with the given parts, innermost first. -/
def around (ps : List PathPart) : List String :=
  let outermost := if ps.head? == some .root then 1 else 0
  ((List.range ps.length).reverse.filter (outermost ≤ ·)).map fun n ↦ ofParts (ps.take n)

theorem around_concat (hp : p ≠ .root) (ps : List PathPart) :
    around (ps ++ [p]) = ofParts ps :: around ps := by
  have hhead : ((ps ++ [p]).head? == some .root) = (ps.head? == some .root) := by
    cases ps <;> simp [hp]
  have houtermost : (if ps.head? == some .root then 1 else 0) ≤ ps.length := by
    cases ps with
    | nil => simp
    | cons p ps => split <;> simp
  simp only [around, hhead, List.length_append, List.length_singleton, List.range_succ,
    List.reverse_append, List.reverse_singleton, List.singleton_append, List.filter_cons, houtermost,
    decide_true, if_true, List.map_cons, List.take_left']
  congr 1
  apply List.map_congr_left
  intro n hn
  have hlt : n < ps.length := List.mem_range.1 (List.mem_reverse.1 (List.mem_filter.1 hn).1)
  rw [List.take_append_of_le_length hlt.le]

/-- The paths around a path are those around the directory around it, and this directory. -/
theorem upward_eq (path : String) : upward path = path :: ((parent? path).map upward).getD [] := by
  have hupward (path : String) : upward path = path :: around (parts path) := rfl
  rw [hupward]
  congr 1
  rcases parts_cases path with hnone | ⟨ps, p, hparts, hp⟩
  · rw [parent?_eq_none hnone]
    rcases hnone with h | h <;> rw [h] <;> rfl
  · have hps : IsParts ps := (hparts ▸ isParts_parts path).concat.1
    rw [parent?_concat hparts hp, hparts, around_concat hp, Option.map_some, Option.getD_some, hupward,
      parts_ofParts hps]

end Path

end ReleaseAudit
