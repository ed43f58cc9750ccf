import Mathlib.Order.WellFoundedSet
import ReleaseAudit.Proofs.History.Access

/-!
# Ancestry

A history says what every hash stands for. The walks of a commit graph are compared with the relation
that leads from a commit to its parents: both ways of collecting ancestors end with exactly the
commits that are reached, or name a commit that is reached and missing.
-/

namespace ReleaseAudit

/-- The commit of every hash, or why there is none. -/
abbrev History := String → Except HistoryError Commit

namespace History

variable (h : History)

def Parent (child parent : String) : Prop := ∃ commit, h child = .ok commit ∧ parent ∈ commit.parents

/-- The second commit is the first one or in its history. -/
def Reaches (start hash : String) : Prop := Relation.ReflTransGen h.Parent start hash

/-- The second commit is a proper ancestor of the first one. -/
def Precedes (start hash : String) : Prop := Relation.TransGen h.Parent start hash

def Acyclic : Prop := ∀ hash, ¬ h.Precedes hash hash

def Missing (hash : String) : Prop := ∃ e, h hash = .error e

/-- Every commit carries the hash that it is found under. -/
def Named : Prop := ∀ hash commit, h hash = .ok commit → commit.hash = hash

variable {h}

theorem parent_iff {child parent : String} {commit : Commit} (hc : h child = .ok commit) :
    h.Parent child parent ↔ parent ∈ commit.parents := by
  simp [Parent, hc]

theorem not_missing {hash : String} (hpresent : ∃ commit, h hash = .ok commit) :
    ¬ h.Missing hash := by
  rintro ⟨e, he⟩
  obtain ⟨commit, hc⟩ := hpresent
  cases hc.symm.trans he

theorem Reaches.refl (hash : String) : h.Reaches hash hash := Relation.ReflTransGen.refl

theorem Reaches.trans {a b c : String} (hab : h.Reaches a b) (hbc : h.Reaches b c) :
    h.Reaches a c := Relation.ReflTransGen.trans hab hbc

theorem Parent.reaches {child parent : String} (hp : h.Parent child parent) :
    h.Reaches child parent := Relation.ReflTransGen.single hp

theorem Precedes.reaches {a b : String} (hab : h.Precedes a b) : h.Reaches a b :=
  Relation.TransGen.to_reflTransGen hab

theorem Reaches.eq_or_precedes {a b : String} (hab : h.Reaches a b) : a = b ∨ h.Precedes a b := by
  rcases Relation.reflTransGen_iff_eq_or_transGen.1 hab with heq | htrans
  · exact Or.inl heq.symm
  · exact Or.inr htrans

/-- A proper ancestor is reached from one of the parents. -/
theorem precedes_iff {a b : String} : h.Precedes a b ↔ ∃ p, h.Parent a p ∧ h.Reaches p b :=
  Relation.TransGen.head'_iff

/-- A rank that falls from child to parent excludes cycles. -/
theorem acyclic_of_rank (rank : String → Nat)
    (hrank : ∀ child parent, h.Parent child parent → rank parent < rank child) : h.Acyclic := by
  have hfall (a b : String) (hab : h.Precedes a b) : rank b < rank a := by
    induction hab with
    | single hp => exact hrank _ _ hp
    | tail _ hp ih => exact Nat.lt_trans (hrank _ _ hp) ih
  intro hash hcycle
  exact absurd (hfall hash hash hcycle) (Nat.lt_irrefl _)

/-- Induction from descendants to ancestors, over any finite set of hashes. -/
theorem Acyclic.descendants_induction (hacyclic : h.Acyclic) (known : List String)
    {motive : String → Prop}
    (step : ∀ x ∈ known, (∀ y ∈ known, h.Precedes y x → motive y) → motive x) :
    ∀ x ∈ known, motive x := by
  have : IsStrictOrder String h.Precedes :=
    { irrefl := hacyclic, trans := fun _ _ _ ↦ Relation.TransGen.trans }
  have hwf : Set.WellFoundedOn {x | x ∈ known} h.Precedes :=
    (List.finite_toSet known).wellFoundedOn
  intro x hx
  exact hwf.induction hx step

/-- Induction from ancestors to descendants, when only finitely many commits have parents. -/
theorem Acyclic.ancestors_induction (hacyclic : h.Acyclic) {known : List String}
    (hknown : ∀ child parent, h.Parent child parent → child ∈ known) {motive : String → Prop}
    (step : ∀ x, (∀ p, h.Parent x p → motive p) → motive x) (x : String) : motive x := by
  have : IsStrictOrder String (Function.swap h.Precedes) :=
    { irrefl := hacyclic, trans := fun _ _ _ hab hbc ↦ Relation.TransGen.trans hbc hab }
  have hwf : Set.WellFoundedOn {x | x ∈ known} (Function.swap h.Precedes) :=
    (List.finite_toSet known).wellFoundedOn
  have hroot (p : String) (hp : p ∉ known) : motive p :=
    step p fun q hq ↦ absurd (hknown p q hq) hp
  have hinner (p : String) (hp : p ∈ known) : motive p := by
    refine hwf.induction hp fun y _ ih ↦ step y fun q hq ↦ ?_
    by_cases hqk : q ∈ known
    · exact ih q hqk (Relation.TransGen.single hq)
    · exact hroot q hqk
  exact (Classical.em (x ∈ known)).elim (hinner x) (hroot x)

end History

/-! ## Graphs that serve a history -/

namespace CommitGraph

variable {σ : Type} {g : CommitGraph σ} {valid : σ → Prop} {h : History}

/-- In valid states the graph hands out what `h` says, and stays in valid states. -/
def Serves (g : CommitGraph σ) (valid : σ → Prop) (h : History) : Prop :=
  ∀ hash, Access.Ensures valid (g.fetch hash) fun result ↦ result.map Subtype.val = h hash

theorem Serves.mem_known (hg : g.Serves valid h) {state : σ} (hstate : valid state)
    {child parent : String} (hp : h.Parent child parent) : child ∈ g.known := by
  obtain ⟨commit, hc, _⟩ := hp
  have hserved := (hg child state hstate).1
  rcases hfetch : g.fetch child state with ⟨e | ⟨_, hk⟩, _⟩ <;> rw [hfetch, hc] at hserved
  · cases hserved
  · exact hk

/-- A fetch followed by a computation that may rely on the commit being the one of the history. -/
theorem Serves.bind_fetch {β : Type} (hg : g.Serves valid h) {hash : String}
    {next : { _c : Commit // hash ∈ g.known } → Access σ β} {post : Except HistoryError β → Prop}
    (herror : ∀ e, h hash = .error e → post (.error e))
    (hok : ∀ commit hk, h hash = .ok commit → Access.Ensures valid (next ⟨commit, hk⟩) post) :
    Access.Ensures valid (g.fetch hash >>= next) post := by
  refine (hg hash).bind ?_ ?_
  · intro e he
    exact herror e he.symm
  · rintro ⟨commit, hk⟩ hcommit
    exact hok commit hk hcommit.symm

end CommitGraph

/-! ## Collecting ancestors -/

namespace History

variable {h : History} {excluded seen pending rest next : List String} {hash : String}

/-- What a walk over ancestors adds to `seen` when it starts from `pending` and does not enter
`excluded`. -/
structure Collected (h : History) (excluded seen pending out : List String) : Prop where
  keeps : seen ⊆ out
  covers : ∀ p ∈ pending, p ∈ excluded ∨ p ∈ out
  reached : ∀ x ∈ out, x ∈ seen ∨ x ∉ excluded ∧ ∃ p ∈ pending, h.Reaches p x
  closed : ∀ x ∈ out, x ∈ seen ∨
    ∃ commit, h x = .ok commit ∧ ∀ p ∈ commit.parents, p ∈ excluded ∨ p ∈ out
  nodup : seen.Nodup → out.Nodup

/-- A commit reached from `pending` is missing. -/
def Blocked (h : History) (pending : List String) (e : HistoryError) : Prop :=
  ∃ p ∈ pending, ∃ x, h.Reaches p x ∧ h x = .error e

def Walked (h : History) (excluded seen pending : List String) :
    Except HistoryError (List String) → Prop
  | .ok out => h.Collected excluded seen pending out
  | .error e => h.Blocked pending e

theorem walked_nil : h.Walked excluded seen [] (.ok seen) where
  keeps := List.Subset.refl _
  covers := by simp
  reached _ hx := Or.inl hx
  closed _ hx := Or.inl hx
  nodup hseen := hseen

theorem walked_missing {e : HistoryError} (he : h hash = .error e) :
    h.Walked excluded seen (hash :: rest) (.error e) :=
  ⟨hash, List.mem_cons_self, hash, Reaches.refl hash, he⟩

/-- A commit that was seen before or is excluded adds nothing. -/
theorem Walked.skip {result : Except HistoryError (List String)} (hs : hash ∈ excluded ∨ hash ∈ seen)
    (hw : h.Walked excluded seen rest result) : h.Walked excluded seen (hash :: rest) result := by
  cases result with
  | error e =>
    obtain ⟨p, hp, hx⟩ := hw
    exact ⟨p, List.mem_cons_of_mem _ hp, hx⟩
  | ok out =>
    have hcovers : ∀ p ∈ hash :: rest, p ∈ excluded ∨ p ∈ out :=
      List.forall_mem_cons.2 ⟨hs.imp_right fun hseen ↦ hw.keeps hseen, hw.covers⟩
    refine ⟨hw.keeps, hcovers, fun x hx ↦ ?_, hw.closed, hw.nodup⟩
    rcases hw.reached x hx with hx | ⟨hexcluded, p, hp, hpx⟩
    · exact Or.inl hx
    · exact Or.inr ⟨hexcluded, p, List.mem_cons_of_mem _ hp, hpx⟩

/-- A new commit is added, and its parents are walked to in any order. -/
theorem Walked.visit {commit : Commit} {result : Except HistoryError (List String)}
    (he : hash ∉ excluded) (hs : hash ∉ seen) (hc : h hash = .ok commit)
    (hfrom : ∀ x ∈ next, x ∈ rest ∨ x ∈ commit.parents) (hrest : rest ⊆ next)
    (hparents : ∀ x ∈ commit.parents, x ∈ next ∨ x ∈ hash :: seen)
    (hw : h.Walked excluded (hash :: seen) next result) :
    h.Walked excluded seen (hash :: rest) result := by
  have hreach (x : String) (hx : ∃ p ∈ next, h.Reaches p x) :
      ∃ p ∈ hash :: rest, h.Reaches p x := by
    obtain ⟨p, hp, hpx⟩ := hx
    rcases hfrom p hp with hp | hp
    · exact ⟨p, List.mem_cons_of_mem _ hp, hpx⟩
    · exact ⟨hash, List.mem_cons_self, ((parent_iff hc).2 hp).reaches.trans hpx⟩
  cases result with
  | error e =>
    obtain ⟨p, hp, x, hpx, hx⟩ := hw
    obtain ⟨q, hq, hqx⟩ := hreach x ⟨p, hp, hpx⟩
    exact ⟨q, hq, x, hqx, hx⟩
  | ok out =>
    have hcovers : ∀ p ∈ hash :: rest, p ∈ excluded ∨ p ∈ out :=
      List.forall_mem_cons.2
        ⟨Or.inr (hw.keeps List.mem_cons_self), fun p hp ↦ hw.covers p (hrest hp)⟩
    have hclosed (p : String) (hp : p ∈ commit.parents) : p ∈ excluded ∨ p ∈ out := by
      rcases hparents p hp with hp | hp
      · exact hw.covers p hp
      · exact Or.inr (hw.keeps hp)
    refine ⟨fun x hx ↦ hw.keeps (List.mem_cons_of_mem _ hx), hcovers, fun x hx ↦ ?_,
      fun x hx ↦ ?_, fun hnodup ↦ hw.nodup (List.nodup_cons.2 ⟨hs, hnodup⟩)⟩
    · rcases hw.reached x hx with hx | ⟨hx, hreached⟩
      · rcases List.mem_cons.1 hx with rfl | hx
        · exact Or.inr ⟨he, x, List.mem_cons_self, Reaches.refl x⟩
        · exact Or.inl hx
      · exact Or.inr ⟨hx, hreach x hreached⟩
    · rcases hw.closed x hx with hx | hx
      · rcases List.mem_cons.1 hx with rfl | hx
        · exact Or.inr ⟨commit, hc, hclosed⟩
        · exact Or.inl hx
      · exact Or.inr hx

/-- A walk that excludes nothing may leave out the parents that it has seen. -/
theorem Walked.visit_unseen {commit : Commit} {result : Except HistoryError (List String)}
    (hs : hash ∉ seen) (hc : h hash = .ok commit)
    (hnext : ∀ x, x ∈ next ↔ x ∈ rest ∨ x ∈ commit.parents.filter (· ∉ hash :: seen))
    (hw : h.Walked [] (hash :: seen) next result) : h.Walked [] seen (hash :: rest) result := by
  refine hw.visit List.not_mem_nil hs hc (fun x hx ↦ ?_) (fun x hx ↦ (hnext x).2 (Or.inl hx))
    fun x hx ↦ ?_
  · exact ((hnext x).1 hx).imp_right List.mem_of_mem_filter
  · by_cases hseen : x ∈ hash :: seen
    · exact Or.inr hseen
    · exact Or.inl ((hnext x).2 (Or.inr (List.mem_filter.2 ⟨hx, decide_eq_true hseen⟩)))

namespace Collected

variable {out : List String}

theorem present (hout : h.Collected excluded [] pending out) {x : String} (hx : x ∈ out) :
    ∃ commit, h x = .ok commit ∧ ∀ p ∈ commit.parents, p ∈ excluded ∨ p ∈ out :=
  (hout.closed x hx).resolve_left List.not_mem_nil

/-- A walk that stays out of a set with all of its ancestors finds all other commits reached. -/
theorem mem_iff_of_excluded (hout : h.Collected excluded [] pending out)
    (hexcluded : ∀ x ∈ excluded, ∀ y, h.Reaches x y → y ∈ excluded) {x : String} :
    x ∈ out ↔ x ∉ excluded ∧ ∃ p ∈ pending, h.Reaches p x := by
  constructor
  · intro hx
    exact (hout.reached x hx).resolve_left List.not_mem_nil
  · rintro ⟨hx, p, hp, hpx⟩
    have hall : x ∈ excluded ∨ x ∈ out := by
      clear hx
      induction hpx with
      | refl => exact hout.covers p hp
      | tail _ hparent ih =>
        rcases ih with hin | hin
        · exact Or.inl (hexcluded _ hin _ hparent.reaches)
        · obtain ⟨commit, hc, hparents⟩ := hout.present hin
          exact hparents _ ((parent_iff hc).1 hparent)
    exact hall.resolve_left hx

theorem mem_iff (hout : h.Collected [] [] pending out) {x : String} :
    x ∈ out ↔ ∃ p ∈ pending, h.Reaches p x := by
  simpa using hout.mem_iff_of_excluded (x := x) (by simp)

end Collected

end History

namespace CommitGraph

variable {σ : Type} {g : CommitGraph σ} {valid : σ → Prop} {h : History}

theorem collectAncestors_walked (hg : g.Serves valid h) (seen pending : List String) :
    Access.Ensures valid (g.collectAncestors seen pending) (h.Walked [] seen pending) := by
  fun_induction collectAncestors with
  | case1 seen => exact Access.ensures_pure History.walked_nil
  | case2 seen hash rest hs ih => exact ih.mono fun _ ↦ History.Walked.skip (Or.inr hs)
  | case3 seen hash rest hs ih =>
    refine hg.bind_fetch (fun e he ↦ History.walked_missing he) fun commit hk hc ↦ ?_
    exact (ih commit hk).mono fun _ ↦ History.Walked.visit_unseen hs hc fun x ↦ by simp [or_comm]

theorem collectBreadthFirst_walked (hg : g.Serves valid h) (seen pending : List String) :
    Access.Ensures valid (g.collectBreadthFirst seen pending) (h.Walked [] seen pending) := by
  fun_induction collectBreadthFirst with
  | case1 seen => exact Access.ensures_pure History.walked_nil
  | case2 seen hash rest hs ih => exact ih.mono fun _ ↦ History.Walked.skip (Or.inr hs)
  | case3 seen hash rest hs ih =>
    refine hg.bind_fetch (fun e he ↦ History.walked_missing he) fun commit hk hc ↦ ?_
    exact (ih commit hk).mono fun _ ↦ History.Walked.visit_unseen hs hc fun x ↦ by simp

/-- All ancestors, or a missing one. -/
theorem ancestors_walked (hg : g.Serves valid h) (start : String) :
    Access.Ensures valid (g.ancestors start) (h.Walked [] [] [start]) :=
  collectAncestors_walked hg [] [start]

theorem collectRange_walked (hg : g.Serves valid h) (excluded : List String)
    (included : List (String × Commit)) (pending : List String) :
    Access.Ensures valid (g.collectRange excluded included pending) fun result ↦
      h.Walked excluded (included.map Prod.fst) pending (result.map (·.map Prod.fst)) ∧
        ∀ out, result = .ok out → ∀ entry ∈ out, entry ∈ included ∨ h entry.1 = .ok entry.2 := by
  fun_induction collectRange with
  | case1 included =>
    exact Access.ensures_pure ⟨History.walked_nil, by simp +contextual⟩
  | case2 included hash rest hs ih =>
    exact ih.mono fun _ hw ↦ ⟨hw.1.skip (Or.inr hs), hw.2⟩
  | case3 included hash rest hs he ih =>
    exact ih.mono fun _ hw ↦ ⟨hw.1.skip (Or.inl he), hw.2⟩
  | case4 included hash rest hs he ih =>
    refine hg.bind_fetch (fun e he ↦ ⟨History.walked_missing he, by simp⟩) fun commit hk hc ↦ ?_
    refine (ih commit hk).mono fun result hw ↦
      ⟨hw.1.visit he hs hc ?_ ?_ ?_, fun out hout entry hentry ↦ ?_⟩
    · simp +contextual [or_imp]
    · simp
    · simp +contextual
    · rcases hw.2 out hout entry hentry with hmem | hmem
      · rcases List.mem_cons.1 hmem with rfl | hmem
        · exact Or.inr hc
        · exact Or.inl hmem
      · exact Or.inr hmem

end CommitGraph

end ReleaseAudit
