import ReleaseAudit.Component
import ReleaseAudit.Proofs.Text.Words

/-!
# References to components

The last `@` of a reference separates a URL from a revision, if something stands in front of it and no
colon behind it. Any other reference is a URL as a whole, without a revision. A URL and a revision with
an `@` between them are read back, and so is what was read from a reference, even if that was read as
a whole. A URL that names a user brings an `@` of its own, and only a colon behind it tells it from a
reference with a revision.
-/

namespace ReleaseAudit.Component

open Text (IsTrimmed isBlank trim)

variable {reference url revision scheme user host path front gap gap' back : String}

/-! ## The last `@` -/

theorem parse_of_notMem (h : '@' ∉ reference.toList) : parse reference = (trim reference, "") := by
  have hcut : Text.cutAtLast? (· == '@') reference.toList = none := by
    apply Option.eq_none_iff_forall_ne_some.2
    intro parts hparts
    have heq := (Text.cutAtLast?_eq_some_iff.1 hparts).1
    exact h (heq ▸ List.mem_append_right _ List.mem_cons_self)
  rw [parse, hcut]

/-- A reference with an `@`, which is the last one when none is behind it. -/
theorem parse_append (h : '@' ∉ revision.toList) :
    parse (url ++ "@" ++ revision) =
      if url = "" ∨ ':' ∈ revision.toList then (trim (url ++ "@" ++ revision), "")
      else (trim url, trim revision) := by
  have htext : (url ++ "@" ++ revision).toList = url.toList ++ '@' :: revision.toList := by simp
  have hcut := Text.cutAtLast?_eq_some_iff.2 ⟨htext, h⟩
  simp only [parse, hcut, List.isEmpty_iff, String.toList_eq_nil_iff, Bool.or_eq_true,
    List.contains_iff_mem]
  rfl

theorem exists_eq_append (h : '@' ∈ reference.toList) :
    ∃ url revision, reference = url ++ "@" ++ revision ∧ '@' ∉ revision.toList := by
  obtain ⟨behind, before, hreverse, hnot⟩ := List.eq_append_cons_of_mem (List.mem_reverse.2 h)
  have htext : reference.toList = before.reverse ++ '@' :: behind.reverse := by
    rw [← List.reverse_reverse reference.toList, hreverse]
    simp
  refine ⟨String.ofList before.reverse, String.ofList behind.reverse, ?_, by simpa using hnot⟩
  apply String.toList_inj.1
  simp [htext]

/-- A reference is read as a whole, or in two parts of which the second one can be told from a URL. -/
theorem parse_cases (reference : String) :
    parse reference = (trim reference, "") ∨
      ∃ url revision, '@' ∉ revision.toList ∧ ':' ∉ revision.toList ∧
        parse reference = (trim url, trim revision) := by
  by_cases hat : '@' ∈ reference.toList
  · obtain ⟨url, revision, rfl, hnot⟩ := exists_eq_append hat
    -- Nothing in front of the `@`, or a colon behind it: no revision is cut off.
    by_cases hguard : url = "" ∨ ':' ∈ revision.toList
    · exact .inl ((parse_append hnot).trans (if_pos hguard))
    · have hcolon : ':' ∉ revision.toList := fun h ↦ hguard (.inr h)
      exact .inr ⟨url, revision, hnot, hcolon, (parse_append hnot).trans (if_neg hguard)⟩
  · exact .inl (parse_of_notMem hat)

/-! ## Reading back -/

/-- What can be told from a URL behind an `@`. -/
structure IsRevision (revision : String) : Prop where
  trimmed : IsTrimmed revision
  at_notMem : '@' ∉ revision.toList
  colon_notMem : ':' ∉ revision.toList

theorem isRevision_trim (hat : '@' ∉ revision.toList) (hcolon : ':' ∉ revision.toList) :
    IsRevision (trim revision) where
  trimmed := Text.isTrimmed_trim revision
  at_notMem h := hat ((Text.mem_trimChars_iff (by decide)).1 (Text.toList_trim revision ▸ h))
  colon_notMem h := hcolon ((Text.mem_trimChars_iff (by decide)).1 (Text.toList_trim revision ▸ h))

theorem isRevision_empty : IsRevision "" where
  trimmed := ⟨by simp, by simp⟩
  at_notMem := by simp
  colon_notMem := by simp

theorem spelled_of_parse (h : parse reference = (url, revision)) :
    IsTrimmed url ∧ IsRevision revision := by
  rcases parse_cases reference with hwhole | ⟨u, v, hat, hcolon, hparts⟩
  · cases h.symm.trans hwhole
    exact ⟨Text.isTrimmed_trim reference, isRevision_empty⟩
  · cases h.symm.trans hparts
    exact ⟨Text.isTrimmed_trim u, isRevision_trim hat hcolon⟩

theorem parse_spaced (hurl : IsTrimmed url) (hne : url ≠ "") (hrevision : IsRevision revision)
    (hspace : ∀ space ∈ [front, gap, gap', back], ∀ c ∈ space.toList, isBlank c) :
    parse ((front ++ url ++ gap) ++ "@" ++ (gap' ++ revision ++ back)) = (url, revision) := by
  have hnotMem {c : Char} (hc : ¬ isBlank c) (h : c ∉ revision.toList) :
      c ∉ (gap' ++ revision ++ back).toList := by
    have hgap : c ∉ gap'.toList := fun hmem ↦ hc (hspace gap' (by simp) c hmem)
    have hback : c ∉ back.toList := fun hmem ↦ hc (hspace back (by simp) c hmem)
    simp [hgap, h, hback]
  have hat := hnotMem (by decide) hrevision.at_notMem
  have hcolon := hnotMem (by decide) hrevision.colon_notMem
  have hurl' : front ++ url ++ gap ≠ "" := by simp [hne]
  calc
    parse ((front ++ url ++ gap) ++ "@" ++ (gap' ++ revision ++ back)) =
        (trim (front ++ url ++ gap), trim (gap' ++ revision ++ back)) := by
      rw [parse_append hat, if_neg (not_or.2 ⟨hurl', hcolon⟩)]
    _ = (trim url, trim revision) := by
      rw [Text.trim_append (hspace front (by simp)) (hspace gap (by simp)),
        Text.trim_append (hspace gap' (by simp)) (hspace back (by simp))]
    _ = (url, revision) := by rw [hurl.trim_eq, hrevision.trimmed.trim_eq]

/-- A URL and a revision with an `@` between them are read back, whatever white space is around them.
So is what has been read from a reference, with an `@` put in where there was none. -/
theorem parse_reads_back :
    (∀ url revision front gap gap' back : String, IsTrimmed url → url ≠ "" → IsRevision revision →
      (∀ space ∈ [front, gap, gap', back], ∀ c ∈ space.toList, isBlank c) →
      parse ((front ++ url ++ gap) ++ "@" ++ (gap' ++ revision ++ back)) = (url, revision)) ∧
    ∀ reference url revision : String, parse reference = (url, revision) → url ≠ "" →
      parse (url ++ "@" ++ revision) = (url, revision) := by
  constructor
  · intro url revision front gap gap' back hurl hne hrevision hspace
    exact parse_spaced hurl hne hrevision hspace
  · intro reference url revision hparse hne
    have hspace : ∀ space ∈ ["", "", "", ""], ∀ c ∈ space.toList, isBlank c := by simp
    obtain ⟨hurl, hrevision⟩ := spelled_of_parse hparse
    have hback := parse_spaced hurl hne hrevision hspace
    simpa using hback

/-- The URL of the first reference has an `@` and a colon of its own, and the second one is read as a
whole. -/
theorem parse_reads_back_colons :
    parse "\tssh://git@host:22/core.git @\n v1.2\u3000" = ("ssh://git@host:22/core.git", "v1.2") ∧
      parse " git@host:acme/core.git" = ("git@host:acme/core.git", "") ∧
      parse "git@host:acme/core.git@" = ("git@host:acme/core.git", "") := by
  have hurl : IsTrimmed "ssh://git@host:22/core.git" := by decide +kernel
  have hrevision : IsRevision "v1.2" := ⟨by decide +kernel, by decide, by decide⟩
  have hspace : ∀ space ∈ ["\t", " ", "\n ", "\u3000"], ∀ c ∈ space.toList, isBlank c := by
    simp [isBlank]
  have hwhole : parse " git@host:acme/core.git" = ("git@host:acme/core.git", "") := by decide +kernel
  refine ⟨?_, hwhole, ?_⟩
  · exact parse_reads_back.1 "ssh://git@host:22/core.git" "v1.2" "\t" " " "\n " "\u3000" hurl (by decide)
      hrevision hspace
  · exact parse_reads_back.2 " git@host:acme/core.git" "git@host:acme/core.git" "" hwhole (by decide)

/-! ## URLs with a user -/

/-- `scheme://user@host/path`. -/
def userUrl (scheme user host path : String) : String :=
  scheme ++ "://" ++ user ++ "@" ++ (host ++ "/" ++ path)

/-- Without a colon behind the user, host and path are taken for a revision. -/
theorem parse_userUrl (hhost : '@' ∉ host.toList) (hpath : '@' ∉ path.toList) :
    parse (userUrl scheme user host path) =
      if ':' ∈ host.toList ∨ ':' ∈ path.toList then (trim (userUrl scheme user host path), "")
      else (trim (scheme ++ "://" ++ user), trim (host ++ "/" ++ path)) := by
  have hat : '@' ∉ (host ++ "/" ++ path).toList := by simp [hhost, hpath]
  have hne : scheme ++ "://" ++ user ≠ "" := by simp
  have hcolon : ':' ∈ (host ++ "/" ++ path).toList ↔ ':' ∈ host.toList ∨ ':' ∈ path.toList := by simp
  rw [userUrl, parse_append hat]
  simp only [hne, false_or, hcolon]

end ReleaseAudit.Component
