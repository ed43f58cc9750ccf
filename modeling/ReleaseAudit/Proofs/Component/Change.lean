import Mathlib.Data.List.Forall2
import ReleaseAudit.Proofs.Component.Reference

/-!
# Changed components

A reference of the new release reports a change when the old release names its URL, the last time with
another revision. The changes are the reports of the new references in their order. A release that
names a URL with two revisions therefore differs from itself, and two URLs of one user are revisions of
one component.
-/

namespace ReleaseAudit.Component

open Text (trim)

variable {references old new : List String} {reference other url revision revision' : String}
  {host host' path path' : String} {c : ComponentChange}

/-! ## The last reference to a URL -/

/-- The last one of the references to `url` has this revision. -/
def LastRevision (references : List String) (url revision : String) : Prop :=
  ∃ before reference after, references = before ++ reference :: after ∧
    parse reference = (url, revision) ∧ ∀ r ∈ after, (parse r).1 ≠ url

/-- The references are looked through from the end. -/
theorem revisionOf?_eq_some_iff :
    revisionOf? (references.map parse) url = some revision ↔ LastRevision references url revision := by
  rw [revisionOf?, ← List.map_reverse, List.lookup_eq_some_iff]
  constructor
  · rintro ⟨front, back, heq, hfront⟩
    obtain ⟨after, rest, hreverse, rfl, hrest⟩ := List.map_eq_append_iff.1 heq
    obtain ⟨r, before, rfl, hparse, -⟩ := List.map_eq_cons_iff.1 hrest
    refine ⟨before.reverse, r, after.reverse, ?_, hparse, fun s hs ↦ ?_⟩
    · rw [← List.reverse_reverse references, hreverse]
      simp
    · have hne := hfront (parse s) (List.mem_map_of_mem (List.mem_reverse.1 hs))
      exact (bne_iff_ne.1 hne).symm
  · rintro ⟨before, r, after, rfl, hparse, hafter⟩
    refine ⟨after.reverse.map parse, before.reverse.map parse, by simp [hparse], fun p hp ↦ ?_⟩
    obtain ⟨s, hs, rfl⟩ := List.mem_map.1 hp
    exact bne_iff_ne.2 (hafter s (List.mem_reverse.1 hs)).symm

theorem revisionOf?_eq_none_iff :
    revisionOf? (references.map parse) url = none ↔ ∀ r ∈ references, (parse r).1 ≠ url := by
  rw [revisionOf?, List.lookup_eq_none_iff]
  simp only [List.mem_reverse, List.forall_mem_map, bne_iff_ne]
  exact forall₂_congr fun r _ ↦ ne_comm

theorem LastRevision.unique (h : LastRevision references url revision)
    (h' : LastRevision references url revision') : revision = revision' :=
  Option.some_inj.1 ((revisionOf?_eq_some_iff.2 h).symm.trans (revisionOf?_eq_some_iff.2 h'))

/-- A URL that is named has a last revision. -/
theorem exists_lastRevision (h : reference ∈ references) :
    ∃ revision, LastRevision references (parse reference).1 revision := by
  cases hlast : revisionOf? (references.map parse) (parse reference).1 with
  | none => exact absurd rfl (revisionOf?_eq_none_iff.1 hlast reference h)
  | some revision => exact ⟨revision, revisionOf?_eq_some_iff.1 hlast⟩

theorem lastRevision_singleton (h : parse reference = (url, revision)) :
    LastRevision [reference] url revision :=
  ⟨[], reference, [], rfl, h, List.forall_mem_nil _⟩

/-! ## Reports -/

/-- The old release names the URL of the reference, the last time with another revision. -/
def IsChanged (old : List String) (reference : String) : Prop :=
  ∃ revision, LastRevision old (parse reference).1 revision ∧ revision ≠ (parse reference).2

/-- The change takes the URL and the new revision from the reference. The old release has another
revision at the last place where it names the URL. -/
structure Reports (old : List String) (reference : String) (c : ComponentChange) : Prop where
  parse_eq : parse reference = (c.url, c.newRevision)
  last : LastRevision old c.url c.oldRevision
  differs : c.oldRevision ≠ c.newRevision

/-- What a reference adds to the changes. -/
def report? (old : List String) (reference : String) : Option ComponentChange :=
  match revisionOf? (old.map parse) (parse reference).1 with
  | some oldRevision =>
    if oldRevision = (parse reference).2 then none
    else some ⟨(parse reference).1, oldRevision, (parse reference).2⟩
  | none => none

theorem changed_eq_filterMap (old new : List String) :
    changed old new = new.filterMap (report? old) := by
  rw [changed, List.filterMap_map]
  rfl

theorem report?_eq_some_iff : report? old reference = some c ↔ Reports old reference c := by
  constructor
  · intro h
    rw [report?] at h
    split at h
    case h_1 oldRevision hlast =>
      split at h
      case isTrue => cases h
      case isFalse hne =>
        cases h
        exact ⟨rfl, revisionOf?_eq_some_iff.1 hlast, hne⟩
    case h_2 => cases h
  · intro h
    rw [report?, h.parse_eq, revisionOf?_eq_some_iff.2 h.last]
    exact if_neg h.differs

theorem isChanged_iff : IsChanged old reference ↔ ∃ c, Reports old reference c := by
  constructor
  · intro ⟨revision, hlast, hne⟩
    exact ⟨⟨(parse reference).1, revision, (parse reference).2⟩, rfl, hlast, hne⟩
  · intro ⟨c, hreports⟩
    rw [IsChanged, hreports.parse_eq]
    exact ⟨c.oldRevision, hreports.last, hreports.differs⟩

theorem isSome_report?_iff : (report? old reference).isSome ↔ IsChanged old reference := by
  simp only [Option.isSome_iff_exists, report?_eq_some_iff, isChanged_iff]

instance : DecidablePred (IsChanged old) := fun reference ↦
  decidable_of_iff (report? old reference).isSome isSome_report?_iff

theorem mem_changed_iff : c ∈ changed old new ↔ ∃ reference ∈ new, Reports old reference c := by
  simp only [changed_eq_filterMap, List.mem_filterMap, report?_eq_some_iff]

/-- The changes are the reports of the changed references, in the order of the new release. -/
theorem changed_reports (old new : List String) :
    List.Forall₂ (Reports old) (new.filter fun r ↦ IsChanged old r) (changed old new) := by
  rw [changed_eq_filterMap]
  induction new with
  | nil => exact .nil
  | cons reference new ih =>
    cases hreport : report? old reference with
    | none =>
      have hsame : ¬ IsChanged old reference := by simp [← isSome_report?_iff, hreport]
      rw [List.filterMap_cons_none hreport, List.filter_cons_of_neg (by simpa using hsame)]
      exact ih
    | some c =>
      have hreports := report?_eq_some_iff.1 hreport
      have hchanged : IsChanged old reference := isChanged_iff.2 ⟨c, hreports⟩
      rw [List.filterMap_cons_some hreport, List.filter_cons_of_pos (by simpa using hchanged)]
      exact .cons hreports ih

/-! ## References that both releases have -/

theorem LastRevision.exists_mem (h : LastRevision references url revision) :
    ∃ reference ∈ references, parse reference = (url, revision) := by
  obtain ⟨before, reference, after, rfl, hparse, -⟩ := h
  exact ⟨reference, by simp, hparse⟩

/-- A reference to a URL that the old release names is unchanged if it has the last revision there. -/
theorem not_isChanged_iff (hother : other ∈ old) (hurl : (parse other).1 = (parse reference).1) :
    ¬ IsChanged old reference ↔ LastRevision old (parse reference).1 (parse reference).2 := by
  obtain ⟨revision, hlast⟩ := exists_lastRevision hother
  rw [hurl] at hlast
  constructor
  · intro hsame
    have heq : revision = (parse reference).2 := by
      by_contra hne
      exact hsame ⟨revision, hlast, hne⟩
    exact heq ▸ hlast
  · intro hself ⟨revision', hlast', hne⟩
    exact hne (hlast'.unique hself)

/-- No URL is named with two revisions. -/
def OneRevision (references : List String) : Prop :=
  ∀ r ∈ references, ∀ s ∈ references, (parse r).1 = (parse s).1 → (parse r).2 = (parse s).2

theorem changed_eq_nil_iff : changed old new = [] ↔ ∀ reference ∈ new, ¬ IsChanged old reference := by
  rw [changed_eq_filterMap, List.filterMap_eq_nil_iff]
  apply forall₂_congr
  intro reference _
  rw [← isSome_report?_iff, Option.not_isSome_iff_eq_none]

theorem oneRevision_iff :
    OneRevision references ↔ ∀ reference ∈ references, ¬ IsChanged references reference := by
  constructor
  · intro h reference hmem ⟨revision, hlast, hne⟩
    obtain ⟨r, hr, hparse⟩ := hlast.exists_mem
    have heq := h r hr reference hmem (by rw [hparse])
    rw [hparse] at heq
    exact hne heq
  · intro h r hr s hs hurl
    have hlast := (not_isChanged_iff hs hurl.symm).1 (h r hr)
    have hlast' := (not_isChanged_iff hs rfl).1 (h s hs)
    exact hlast.unique (hurl ▸ hlast')

/-- No change gives the revision of a reference of the old release as the new one if and only if all
references that both releases have are the last ones to their URLs in the old release. Nothing changes
from a release to itself if and only if it names no URL with two revisions. -/
theorem changed_omits_unchanged (old new : List String) :
    ((∀ c ∈ changed old new, ∀ r ∈ old, parse r ≠ (c.url, c.newRevision)) ↔
        ∀ s ∈ new, (∃ r ∈ old, parse r = parse s) → LastRevision old (parse s).1 (parse s).2) ∧
      (changed old old = [] ↔ OneRevision old) := by
  refine ⟨⟨fun h s hs hold ↦ ?_, fun h c hc r hr hparse ↦ ?_⟩, ?_⟩
  · obtain ⟨r, hr, heq⟩ := hold
    apply (not_isChanged_iff hr (congrArg Prod.fst heq)).1
    intro hchanged
    obtain ⟨c, hreports⟩ := isChanged_iff.1 hchanged
    exact h c (mem_changed_iff.2 ⟨s, hs, hreports⟩) r hr (heq.trans hreports.parse_eq)
  · obtain ⟨s, hs, hreports⟩ := mem_changed_iff.1 hc
    have hlast := h s hs ⟨r, hr, hparse.trans hreports.parse_eq.symm⟩
    rw [hreports.parse_eq] at hlast
    exact hreports.differs (hreports.last.unique hlast)
  · rw [changed_eq_nil_iff, oneRevision_iff]

/-- Two components of one repository. -/
theorem changed_monorepo :
    changed ["mono@api-1", "mono@web-2"] ["mono@api-1", "mono@web-2"] = [⟨"mono", "web-2", "api-1"⟩] ∧
      parse "mono@api-1" = ("mono", "api-1") := by
  decide +kernel

/-! ## URLs with a user -/

/-- There are releases for which the two references are revisions of one component. -/
def Confused (reference other : String) : Prop :=
  ∃ old new c, reference ∈ old ∧ other ∈ new ∧ c ∈ changed old new ∧
    parse reference = (c.url, c.oldRevision) ∧ parse other = (c.url, c.newRevision)

theorem confused_iff :
    Confused reference other ↔
      (parse reference).1 = (parse other).1 ∧ (parse reference).2 ≠ (parse other).2 := by
  constructor
  · intro ⟨old, new, c, _, _, hc, hreference, hother⟩
    obtain ⟨r, -, hreports⟩ := mem_changed_iff.1 hc
    rw [hreference, hother]
    exact ⟨rfl, hreports.differs⟩
  · intro ⟨hurl, hne⟩
    let c : ComponentChange := ⟨(parse other).1, (parse reference).2, (parse other).2⟩
    have hparse : parse reference = (c.url, c.oldRevision) := Prod.ext hurl rfl
    have hreports : Reports [reference] other c := ⟨rfl, lastRevision_singleton hparse, hne⟩
    have hmem : c ∈ changed [reference] [other] :=
      mem_changed_iff.2 ⟨other, List.mem_singleton_self other, hreports⟩
    exact ⟨[reference], [other], c, by simp, by simp, hmem, hparse, rfl⟩

/-- A URL that names a user is read as a whole only if there is a colon behind the user. If there is
none, different repositories of one user are revisions of one component. -/
theorem userUrls_confused (scheme user scheme' user' : String) (hhost : '@' ∉ host.toList)
    (hpath : '@' ∉ path.toList) (hhost' : '@' ∉ host'.toList) (hpath' : '@' ∉ path'.toList) :
    (parse (userUrl scheme user host path) =
        if ':' ∈ host.toList ∨ ':' ∈ path.toList then (trim (userUrl scheme user host path), "")
        else (trim (scheme ++ "://" ++ user), trim (host ++ "/" ++ path))) ∧
      (':' ∉ host.toList → ':' ∉ path.toList → ':' ∉ host'.toList → ':' ∉ path'.toList →
        (Confused (userUrl scheme user host path) (userUrl scheme' user' host' path') ↔
          trim (scheme ++ "://" ++ user) = trim (scheme' ++ "://" ++ user') ∧
            trim (host ++ "/" ++ path) ≠ trim (host' ++ "/" ++ path'))) := by
  refine ⟨parse_userUrl hhost hpath, fun hcolon hcolonPath hcolon' hcolonPath' ↦ ?_⟩
  rw [confused_iff, parse_userUrl hhost hpath, if_neg (not_or.2 ⟨hcolon, hcolonPath⟩),
    parse_userUrl hhost' hpath', if_neg (not_or.2 ⟨hcolon', hcolonPath'⟩)]

theorem userUrls_confused_ssh :
    parse (userUrl "ssh" "git" "example.com" "acme/core.git") =
        ("ssh://git", "example.com/acme/core.git") ∧
      Confused (userUrl "ssh" "git" "example.com" "acme/core.git")
        (userUrl "ssh" "git" "example.com" "acme/api.git") := by
  have hhost : '@' ∉ "example.com".toList ∧ ':' ∉ "example.com".toList := by decide
  have hcore : '@' ∉ "acme/core.git".toList ∧ ':' ∉ "acme/core.git".toList := by decide
  have hapi : '@' ∉ "acme/api.git".toList ∧ ':' ∉ "acme/api.git".toList := by decide
  have h := userUrls_confused "ssh" "git" "ssh" "git" hhost.1 hcore.1 hhost.1 hapi.1
  constructor
  · exact h.1.trans (by decide +kernel)
  · exact (h.2 hhost.2 hcore.2 hhost.2 hapi.2).2 (by decide +kernel)

/-- The URLs have no revisions, and host and paths have neither `@` nor a colon. -/
theorem changed_userUrls :
    parse "ssh://git@example.com/acme/core.git" ≠ ("ssh://git@example.com/acme/core.git", "") ∧
      changed ["ssh://git@example.com/acme/core.git"] ["ssh://git@example.com/acme/api.git"] =
        [⟨"ssh://git", "example.com/acme/core.git", "example.com/acme/api.git"⟩] := by
  decide +kernel

end ReleaseAudit.Component
