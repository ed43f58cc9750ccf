import ReleaseAudit.Component
import ReleaseAudit.Proofs.Text.Words

/-!
# Names of components

A component is called after the last part of the path of its URL, that is after what stands behind the
last slash or colon. Slashes at the end of the URL do not count, and `.git` is no part of the name.
-/

namespace ReleaseAudit.Component

variable {url called : String}

/-- The part of a URL that its component is called after. -/
def IsLastPart (url last : List Char) : Prop :=
  ∃ front slashes, url = front ++ last ++ slashes ∧
    (∀ c, front.getLast? = some c → c = '/' ∨ c = ':') ∧ (∀ c ∈ last, c ≠ '/' ∧ c ≠ ':') ∧
    (∀ c ∈ slashes, c = '/') ∧ ∀ c, (front ++ last).getLast? = some c → c ≠ '/'

/-- The component with this URL is called `called`. -/
def Names (url called : String) : Prop :=
  ∃ last, IsLastPart url.toList last ∧
    (last = called.toList ++ ".git".toList ∨ last = called.toList ∧ ¬ ".git".toList <:+ last)

theorem exists_isLastPart (url : List Char) : ∃ last, IsLastPart url last := by
  let isSeparator : Char → Bool := fun c ↦ c == '/' || c == ':'
  obtain ⟨slashes, hurl, hslashes⟩ := Text.exists_dropEndWhile (· == '/') url
  obtain ⟨last, hpath, hlast⟩ :=
    Text.exists_dropEndWhile (!isSeparator ·) (Text.dropEndWhile (· == '/') url)
  refine ⟨last, _, slashes, hpath ▸ hurl, fun c hc ↦ ?_, fun c hc ↦ ?_, by simpa using hslashes, ?_⟩
  · simpa [isSeparator, or_iff_not_imp_left] using Text.not_of_getLast?_dropEndWhile hc
  · simpa [isSeparator] using hlast c hc
  · rw [← hpath]
    intro c hc
    simpa using Text.not_of_getLast?_dropEndWhile hc

theorem IsLastPart.name_eq {last : List Char} (h : IsLastPart url.toList last) :
    name url = String.ofList ((Text.stripSuffix? ".git".toList last).getD last) := by
  obtain ⟨front, slashes, hurl, hfront, hlast, hslashes, hends⟩ := h
  have hpath : Text.dropEndWhile (· == '/') url.toList = front ++ last := by
    rw [hurl, Text.dropEndWhile_append (by simpa using hslashes)]
    exact Text.dropEndWhile_eq_self (by simpa using hends)
  have hpiece : (Text.splitBy (fun c ↦ c == '/' || c == ':') (front ++ last)).getLast? = some last :=
    Text.getLast?_splitBy (by simpa using hfront) (by simpa using hlast)
  rw [name, hpath]
  simp only [hpiece, Option.getD_some]

/-- Every component has one name, whatever its URL looks like. -/
theorem names_iff : Names url called ↔ name url = called := by
  constructor
  · rintro ⟨last, hpart, rfl | ⟨rfl, hnot⟩⟩
    · rw [hpart.name_eq, Text.stripSuffix?_append, Option.getD_some, String.ofList_toList]
    · rw [hpart.name_eq, Text.stripSuffix?_eq_none hnot, Option.getD_none, String.ofList_toList]
  · rintro rfl
    obtain ⟨last, hpart⟩ := exists_isLastPart url.toList
    refine ⟨last, hpart, ?_⟩
    rw [hpart.name_eq, String.toList_ofList]
    by_cases hsuffix : ".git".toList <:+ last
    · obtain ⟨called, rfl⟩ := hsuffix
      exact .inl (by rw [Text.stripSuffix?_append, Option.getD_some])
    · exact .inr ⟨by rw [Text.stripSuffix?_eq_none hsuffix, Option.getD_none], hsuffix⟩

example : name "git@example.com:acme/core.git/" = "core" := by decide +kernel

end ReleaseAudit.Component
