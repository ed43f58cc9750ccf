import ReleaseAudit.Proofs.History.Ancestry

/-!
# The plain walk to a target

What a walk over parent links answers that takes no notes. It asks the parents one after the other
and fails with the first commit that is missing. The target itself is not looked up, so that nothing
behind it can be found missing.
-/

namespace ReleaseAudit

namespace History

/-- Whether any of the commits answers yes, or the first failure among them. -/
def askAll (answer : String → Except HistoryError Bool) : List String → Except HistoryError Bool
  | [] => .ok false
  | hash :: rest => do
    let reached ← answer hash
    let more ← askAll answer rest
    return reached || more

/-- The answer of the plain walk that starts from a commit. -/
inductive Answers (h : History) (target : String) : String → Except HistoryError Bool → Prop
  | found : Answers h target target (.ok true)
  | missing {hash : String} {e : HistoryError} : hash ≠ target → h hash = .error e →
      Answers h target hash (.error e)
  | walked {hash : String} {commit : Commit} (answer : String → Except HistoryError Bool) :
      hash ≠ target → h hash = .ok commit →
      (∀ p ∈ commit.parents, Answers h target p (answer p)) →
      Answers h target hash (askAll answer commit.parents)

/-- The second commit is reached from the first one on a path that ends where it meets the target. -/
def ReachesBefore (h : History) (target start hash : String) : Prop :=
  Relation.ReflTransGen (fun child parent ↦ child ≠ target ∧ h.Parent child parent) start hash

theorem ReachesBefore.reaches {h : History} {target start hash : String}
    (hpath : h.ReachesBefore target start hash) : h.Reaches start hash := by
  induction hpath with
  | refl => exact Reaches.refl start
  | tail _ hlast ih => exact ih.trans hlast.2.reaches

variable {h : History} {target hash : String} {answer other : String → Except HistoryError Bool}

theorem askAll_congr {hashes : List String} (heq : ∀ p ∈ hashes, answer p = other p) :
    askAll answer hashes = askAll other hashes := by
  induction hashes with
  | nil => rfl
  | cons p rest ih =>
    obtain ⟨hp, hrest⟩ := List.forall_mem_cons.1 heq
    simp only [askAll, hp, ih hrest]

theorem askAll_cons_of_error {rest : List String} {e : HistoryError} (he : answer hash = .error e) :
    askAll answer (hash :: rest) = .error e := by
  simp only [askAll, he]
  rfl

theorem askAll_cons_of_ok {rest : List String} {b : Bool} (hb : answer hash = .ok b) :
    askAll answer (hash :: rest) = (askAll answer rest).map (b || ·) := by
  simp only [askAll, hb]
  cases askAll answer rest <;> rfl

theorem askAll_singleton (hash : String) : askAll answer [hash] = answer hash := by
  cases hanswer : answer hash with
  | error e => exact askAll_cons_of_error hanswer
  | ok b =>
    rw [askAll_cons_of_ok hanswer]
    simp [askAll, Except.map]

theorem askAll_eq_error {hashes : List String} {e : HistoryError}
    (he : askAll answer hashes = .error e) : ∃ p ∈ hashes, answer p = .error e := by
  induction hashes with
  | nil => cases he
  | cons p rest ih =>
    cases hp : answer p with
    | error e' =>
      rw [askAll_cons_of_error hp] at he
      cases he
      exact ⟨p, List.mem_cons_self, hp⟩
    | ok b =>
      rw [askAll_cons_of_ok hp] at he
      cases hrest : askAll answer rest with
      | error e' =>
        rw [hrest] at he
        cases he
        obtain ⟨q, hq, heq⟩ := ih hrest
        exact ⟨q, List.mem_cons_of_mem _ hq, heq⟩
      | ok more => rw [hrest] at he; cases he

/-- An answer means that all commits answered. -/
theorem askAll_eq_ok {hashes : List String} {b : Bool} (hb : askAll answer hashes = .ok b) :
    (∀ p ∈ hashes, ∃ reached, answer p = .ok reached) ∧
      (b = true ↔ ∃ p ∈ hashes, answer p = .ok true) := by
  induction hashes generalizing b with
  | nil => cases hb; simp
  | cons p rest ih =>
    cases hp : answer p with
    | error e => rw [askAll_cons_of_error hp] at hb; cases hb
    | ok reached =>
      rw [askAll_cons_of_ok hp] at hb
      cases hrest : askAll answer rest with
      | error e => rw [hrest] at hb; cases hb
      | ok more =>
        rw [hrest] at hb
        cases hb
        obtain ⟨hall, hiff⟩ := ih hrest
        refine ⟨List.forall_mem_cons.2 ⟨⟨reached, hp⟩, hall⟩, ?_⟩
        simp [hp, hiff]

namespace Answers

theorem deterministic {result result' : Except HistoryError Bool} (hr : h.Answers target hash result)
    (hr' : h.Answers target hash result') : result = result' := by
  induction hr generalizing result' with
  | found =>
    cases hr' with
    | found => rfl
    | missing hne _ => exact absurd rfl hne
    | walked _ hne _ _ => exact absurd rfl hne
  | missing hne he =>
    cases hr' with
    | found => exact absurd rfl hne
    | missing _ he' => cases he.symm.trans he'; rfl
    | walked _ _ hc _ => cases he.symm.trans hc
  | walked answer hne hc _ ih =>
    cases hr' with
    | found => exact absurd rfl hne
    | missing _ he => cases hc.symm.trans he
    | walked other _ hc' hother =>
      cases hc.symm.trans hc'
      exact askAll_congr fun p hp ↦ ih p hp (hother p hp)

/-- The walk ends when there are no cycles and only finitely many commits. -/
theorem exists_of_acyclic (hacyclic : h.Acyclic) {known : List String}
    (hknown : ∀ child parent, h.Parent child parent → child ∈ known) (target hash : String) :
    ∃ result, h.Answers target hash result := by
  refine hacyclic.ancestors_induction (motive := fun x ↦ ∃ result, h.Answers target x result) hknown
    (fun x ih ↦ ?_) hash
  rcases eq_or_ne x target with rfl | hx
  · exact ⟨.ok true, .found⟩
  cases hfetch : h x with
  | error e => exact ⟨_, .missing hx hfetch⟩
  | ok commit =>
    have hparents (p : String) : ∃ result, p ∈ commit.parents → h.Answers target p result := by
      by_cases hp : p ∈ commit.parents
      · obtain ⟨result, hresult⟩ := ih p ((parent_iff hfetch).2 hp)
        exact ⟨result, fun _ ↦ hresult⟩
      · exact ⟨.ok false, fun hmem ↦ absurd hmem hp⟩
    choose answer hanswer using hparents
    exact ⟨_, .walked answer hx hfetch hanswer⟩

theorem reaches_iff {result : Except HistoryError Bool} (hr : h.Answers target hash result) {b : Bool}
    (hb : result = .ok b) : b = true ↔ h.Reaches hash target := by
  induction hr generalizing b with
  | found =>
    cases hb
    exact iff_of_true rfl (Reaches.refl target)
  | missing _ _ => cases hb
  | @walked hash commit answer hne hc _ ih =>
    obtain ⟨hall, hany⟩ := askAll_eq_ok hb
    calc
      b = true ↔ ∃ p ∈ commit.parents, answer p = .ok true := hany
      _ ↔ ∃ p ∈ commit.parents, h.Reaches p target := by
        refine exists_congr fun p ↦ and_congr_right fun hp ↦ ?_
        obtain ⟨reached, hreached⟩ := hall p hp
        rw [← ih p hp hreached, hreached, Except.ok.injEq]
      _ ↔ h.Precedes hash target := by simp only [precedes_iff, parent_iff hc]
      _ ↔ h.Reaches hash target :=
        ⟨Precedes.reaches, fun hreach ↦ hreach.eq_or_precedes.resolve_left hne⟩

/-- A failure names a missing commit that the walk comes to. -/
theorem missing_of_error {result : Except HistoryError Bool} (hr : h.Answers target hash result)
    {e : HistoryError} (he : result = .error e) :
    ∃ m, m ≠ target ∧ h.ReachesBefore target hash m ∧ h m = .error e := by
  induction hr with
  | found => cases he
  | @missing hash _ hne hmissing =>
    cases he
    exact ⟨hash, hne, Relation.ReflTransGen.refl, hmissing⟩
  | walked answer hne hc _ ih =>
    obtain ⟨p, hp, hpe⟩ := askAll_eq_error he
    obtain ⟨m, hm, hpath, hmissing⟩ := ih p hp hpe
    exact ⟨m, hm, .head ⟨hne, (parent_iff hc).2 hp⟩ hpath, hmissing⟩

/-- The walk does not answer when it comes to a missing commit. -/
theorem present_of_ok {result : Except HistoryError Bool} (hr : h.Answers target hash result)
    {b : Bool} (hb : result = .ok b) {m : String} (hm : m ≠ target)
    (hpath : h.ReachesBefore target hash m) : ¬ h.Missing m := by
  induction hr generalizing b with
  | found =>
    rcases hpath.cases_head with heq | ⟨_, ⟨hne, _⟩, _⟩
    · exact absurd heq.symm hm
    · exact absurd rfl hne
  | missing _ _ => cases hb
  | walked answer hne hc _ ih =>
    rcases hpath.cases_head with rfl | ⟨p, ⟨_, hp⟩, hrest⟩
    · exact not_missing ⟨_, hc⟩
    · rw [parent_iff hc] at hp
      obtain ⟨reached, hreached⟩ := (askAll_eq_ok hb).1 p hp
      exact ih p hp hreached hrest

theorem exists_error_iff {result : Except HistoryError Bool} (hr : h.Answers target hash result) :
    (∃ e, result = .error e) ↔
      ∃ m, m ≠ target ∧ h.ReachesBefore target hash m ∧ h.Missing m := by
  constructor
  · rintro ⟨e, he⟩
    obtain ⟨m, hm, hpath, hmissing⟩ := hr.missing_of_error he
    exact ⟨m, hm, hpath, e, hmissing⟩
  · rintro ⟨m, hm, hpath, hmissing⟩
    cases hresult : result with
    | error e => exact ⟨e, rfl⟩
    | ok b => exact absurd hmissing (hr.present_of_ok hresult hm hpath)

end Answers

end History

end ReleaseAudit
