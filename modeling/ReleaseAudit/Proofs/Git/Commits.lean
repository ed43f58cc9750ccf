import ReleaseAudit.Git.Script
import ReleaseAudit.Proofs.History.Mirror

/-!
# Commits from git

A commit that is asked of a repository is the one that git prints for its hash. What the cache holds
was printed by git as well, so that neither the batches that are read into it nor what is dropped
from it show in an answer, whatever the size of the cache.
-/

namespace ReleaseAudit

/-! ## Caches -/

namespace CommitCache

variable {record : String → Commit} {cache : CommitCache} {commit : Commit}

/-- What is at hand is what `record` says. -/
def Agrees (record : String → Commit) (cache : CommitCache) : Prop :=
  ∀ commit ∈ cache, record commit.hash = commit

theorem agrees_nil : Agrees record [] := List.forall_mem_nil _

theorem Agrees.touch (h : Agrees record cache) (hcommit : record commit.hash = commit) :
    Agrees record (cache.touch commit) :=
  List.forall_mem_cons.2 ⟨hcommit, fun c hc ↦ h c (List.mem_of_mem_filter hc)⟩

/-- Also when the commit itself is dropped again, what is left was at hand before. -/
theorem Agrees.put (h : Agrees record cache) (limit : Nat) (hcommit : record commit.hash = commit) :
    Agrees record (CommitCache.put limit cache commit) := fun c hc ↦
  h.touch hcommit c (List.mem_of_mem_take hc)

theorem Agrees.putAll (h : Agrees record cache) (limit : Nat) {commits : List Commit}
    (hcommits : ∀ c ∈ commits, record c.hash = c) :
    Agrees record (commits.foldl (CommitCache.put limit) cache) := by
  induction commits generalizing cache with
  | nil => exact h
  | cons commit rest ih =>
    obtain ⟨hcommit, hrest⟩ := List.forall_mem_cons.1 hcommits
    exact ih (h.put limit hcommit) hrest

theorem Agrees.eq_of_find? (h : Agrees record cache) {hash : String}
    (hfind : cache.find? hash = some commit) : commit = record hash := by
  have hhash : commit.hash = hash := by simpa using List.find?_some hfind
  rw [← hhash, h commit (List.mem_of_find?_eq_some hfind)]

end CommitCache

/-! ## Git -/

namespace GitRepository

def logArgs (hash : String) : List String := ["log", "-n", batchSize, commitFormat, hash, "--"]

/-- The text lists the commit `hash` first, and every commit in it as `record` says. -/
structure Lists (record : String → Commit) (hash output : String) : Prop where
  first : ∃ commit rest, parseCommits output = commit :: rest ∧ commit.hash = hash
  record_eq : ∀ commit ∈ parseCommits output, record commit.hash = commit

end GitRepository

open GitRepository (logArgs Lists)

/-- For a hash that is requested, `git log` succeeds on every valid machine. It lists the commit
first and prints every commit as all other calls do. -/
def GitProgram.Consistent {σ : Type} (git : GitProgram σ) (path : String) (valid : σ → Prop)
    (requested : String → Prop) (record : String → Commit) : Prop :=
  ∀ hash, requested hash → ∀ state, valid state →
    ∃ out after, git.run path (logArgs hash) state = (.ok out, after) ∧ valid after ∧
      out.code = 0 ∧ Lists record hash (Text.trim out.stdout)

namespace GitProgram

variable {σ : Type} {git : GitProgram σ}

theorem capture_of_run {path : String} {args : List String} {out : GitOutput} {state after : σ}
    (hrun : git.run path args state = (.ok out, after)) (hcode : out.code = 0) :
    git.capture path args state = (.ok (Text.trim out.stdout), after) := by
  have houtput : git.output path args state = (.ok out, after) := by simp only [output, hrun]
  rw [capture, Access.bind_apply, houtput]
  simp only [hcode, if_true]
  rfl

end GitProgram

namespace Access

/-- Calls one after the other, each of which returns what it should. -/
theorem ensures_mapM {σ α β : Type} {valid : σ → Prop} {act : α → Access σ β} {value : α → β}
    {as : List α} (h : ∀ a ∈ as, Ensures valid (act a) (· = .ok (value a))) :
    Ensures valid (as.mapM act) (· = .ok (as.map value)) := by
  induction as with
  | nil => exact ensures_pure rfl
  | cons a as ih =>
    obtain ⟨ha, has⟩ := List.forall_mem_cons.1 h
    rw [List.mapM_cons]
    refine ha.bind nofun fun b hb ↦ (ih has).bind nofun fun bs hbs ↦ ensures_pure ?_
    cases hb
    cases hbs
    rfl

end Access

namespace GitRepository

variable {σ : Type} {git : GitProgram σ} {r : GitRepository} {valid : σ → Prop}
  {requested : String → Prop} {record : String → Commit}

/-- The commits at hand are as git prints them, and the machine is valid. -/
def Held (record : String → Commit) (valid : σ → Prop) (session : Session σ) : Prop :=
  CommitCache.Agrees record session.1 ∧ valid session.2

theorem load_ensures (hgit : git.Consistent r.path valid requested record) {hash : String}
    (hhash : requested hash) :
    Access.Ensures (Held record valid) (r.load git hash) (· = .ok (record hash)) := by
  rintro ⟨cache, state⟩ ⟨hcache, hstate⟩
  obtain ⟨out, after, hrun, hafter, hcode, ⟨commit, rest, hparse, hfirst⟩, hrecord⟩ :=
    hgit hash hhash state hstate
  have hcapture : running (.unreadableCommit hash) (git.capture r.path (logArgs hash))
      (cache, state) = (.ok (Text.trim out.stdout), cache, after) := by
    simp only [running, GitProgram.capture_of_run hrun hcode]
  have hload : r.load git hash (cache, state) =
      (.ok commit, (commit :: rest).foldl (CommitCache.put r.cacheSize) cache, after) := by
    refine Access.bind_eq_ok_iff.2 ⟨_, (cache, after), hcapture, ?_⟩
    rw [hparse]
    rfl
  have hcommit : record hash = commit := by
    rw [← hfirst]
    exact hrecord commit (hparse ▸ List.mem_cons_self)
  rw [hload]
  exact ⟨congrArg Except.ok hcommit.symm, hcache.putAll r.cacheSize (hparse ▸ hrecord), hafter⟩

theorem commit_of_find? {cache : CommitCache} {hash : String} {found : Commit} (state : σ)
    (h : cache.find? hash = some found) :
    r.commit git hash (cache, state) = (.ok found, cache.touch found, state) := by
  refine Access.bind_eq_ok_iff.2 ⟨(cache, state), (cache, state), rfl, ?_⟩
  simp only [h]
  rfl

theorem commit_of_missing {cache : CommitCache} {hash : String} (state : σ)
    (h : cache.find? hash = none) :
    r.commit git hash (cache, state) = r.load git hash (cache, state) := by
  have hget : (get : Access (Session σ) (Session σ)) (cache, state) =
      (.ok (cache, state), cache, state) := rfl
  rw [commit, Access.bind_apply, hget]
  simp only [h]

/-- A requested commit is the one that git prints, whether it is at hand or has to be read. -/
theorem commit_ensures (hgit : git.Consistent r.path valid requested record) {hash : String}
    (hhash : requested hash) :
    Access.Ensures (Held record valid) (r.commit git hash) (· = .ok (record hash)) := by
  rintro ⟨cache, state⟩ hheld
  cases hfind : cache.find? hash with
  | some found =>
    have hfound : found = record hash := hheld.1.eq_of_find? hfind
    have hrecord : record found.hash = found := hheld.1 found (List.mem_of_find?_eq_some hfind)
    rw [commit_of_find? state hfind]
    exact ⟨congrArg Except.ok hfound, hheld.1.touch hrecord, hheld.2⟩
  | none =>
    rw [commit_of_missing state hfind]
    exact load_ensures hgit hhash (cache, state) hheld

/-- The commits that may be requested can be looked up in `plain`, and so can their parents. -/
structure Mapped (git : GitProgram σ) (requested : String → Prop) (record : String → Commit)
    (plain : MemoryRepository) : Prop where
  get? : ∀ hash, requested hash → plain.commits.get? hash = some (record hash)
  known : ∀ hash, requested hash → hash ∈ git.objects
  parents : ∀ hash, requested hash → ∀ p ∈ (record hash).parents, requested p

theorem graph_mirrors (hgit : git.Consistent r.path valid requested record)
    {plain : MemoryRepository} (hplain : Mapped git requested record plain) :
    (r.graph git).Mirrors plain.graph (fun session _ ↦ Held record valid session) requested := by
  intro hash hhash
  refine ⟨record hash, hplain.parents hash hhash, fun session _ hsession ↦ ?_⟩
  obtain ⟨hcommit, hafter⟩ := commit_ensures hgit hhash session hsession
  obtain ⟨hk', hfetch⟩ := plain.exists_fetch_eq hash (record hash) (hplain.get? hash hhash)
  have hk : hash ∈ git.objects := hplain.known hash hhash
  have hrun : r.commit git hash session = (.ok (record hash), (r.commit git hash session).2) :=
    Prod.ext hcommit rfl
  refine ⟨hk, hk', _, (), ?_, congrFun hfetch (), hafter⟩
  change (r.commit git hash >>= _) session = _
  rw [Access.bind_apply, hrun]
  simp only [dif_pos hk]
  rfl

/-- On valid states all walks over the commits of `g` return what they return on `plain`. -/
structure WalksAlike (g : CommitGraph σ) (valid : σ → Prop) (plain : CommitGraph Unit)
    (requested : String → Prop) : Prop where
  ancestors : ∀ start, requested start →
    Access.Ensures valid (g.ancestors start) (· = (plain.ancestors start ()).1)
  mergeBases : ∀ a b, requested a → requested b →
    Access.Ensures valid (g.mergeBases a b) (· = (plain.mergeBases a b ()).1)
  commitRange : ∀ base head, requested base → requested head →
    Access.Ensures valid (g.commitRange base head) (· = (plain.commitRange base head ()).1)
  answers : ∀ target queries, (∀ start ∈ queries, requested start) → ∀ state, valid state →
    g.answers queries (.toward target, state) = plain.answers queries (.toward target, ())

theorem ensures_of_matches {α : Type} {valid : σ → Prop} {post : α → Prop} {act : Access σ α}
    {act' : Access Unit α} (h : Access.Matches (fun s _ ↦ valid s) post act act') :
    Access.Ensures valid act (· = (act' ()).1) := by
  intro s hs
  obtain ⟨hresult, hvalid, -⟩ := h s () hs
  exact ⟨hresult, hvalid⟩

theorem walksAlike_of_mirrors {g : CommitGraph σ} {valid : σ → Prop} {plain : CommitGraph Unit}
    (h : g.Mirrors plain (fun s _ ↦ valid s) requested) : WalksAlike g valid plain requested where
  ancestors _ hstart := ensures_of_matches (h.ancestors hstart)
  mergeBases _ _ ha hb := ensures_of_matches (h.mergeBases ha hb)
  commitRange _ _ hbase hhead := ensures_of_matches (h.commitRange hbase hhead)
  answers _ _ hqueries _ hstate := h.answers hqueries ⟨rfl, hstate⟩

/-- The cache of a repository does not show in what is read from it. -/
structure Transparent (git : GitProgram σ) (r : GitRepository) (valid : σ → Prop)
    (requested : String → Prop) (record : String → Commit) : Prop where
  fresh : ∀ state, valid state → Held record valid ([], state)
  calls : ∀ hashes : List String, (∀ hash ∈ hashes, requested hash) →
    Access.Ensures (Held record valid) (hashes.mapM (r.commit git)) (· = .ok (hashes.map record))
  walks : ∀ plain : MemoryRepository, Mapped git requested record plain →
    WalksAlike (r.graph git) (Held record valid) plain.graph requested

/-- As long as git is consistent, a repository answers as if it had no cache. Its size and what it
holds from before do not matter. -/
theorem transparent (hgit : git.Consistent r.path valid requested record) :
    Transparent git r valid requested record where
  fresh _ hstate := ⟨CommitCache.agrees_nil, hstate⟩
  calls _ hhashes := Access.ensures_mapM fun hash hhash ↦ commit_ensures hgit (hhashes hash hhash)
  walks _ hplain := walksAlike_of_mirrors (graph_mirrors hgit hplain)

end GitRepository

/-! ## A scripted git -/

/-- A scripted git is consistent when its table is. -/
theorem GitScript.consistent {script : GitScript} {path : String} {requested : String → Prop}
    {record : String → Commit}
    (htable : ∀ hash, requested hash → (script.answer (logArgs hash)).code = 0 ∧
      Lists record hash (Text.trim (script.answer (logArgs hash)).stdout)) :
    script.program.Consistent path (fun state ↦ ∃ l, state.tree.find path = .ok (l, .directory))
      requested record := by
  rintro hash hhash state ⟨l, hl⟩
  obtain ⟨hcode, hlists⟩ := htable hash hhash
  let after := { state with calls := ⟨FileTree.pathOf l, logArgs hash⟩ :: state.calls }
  have hrun : script.program.run path (logArgs hash) state =
      (.ok (script.answer (logArgs hash)), after) := by
    simp only [program, hl]
    rfl
  exact ⟨_, after, hrun, ⟨l, hl⟩, hcode, hlists⟩

namespace GitRepository

/-- A history of two commits. -/
def pair : MemoryRepository where
  location := "/"
  commits := [("a", ⟨"a", "first", [], "n <m>"⟩), ("b", ⟨"b", "second", ["a"], "n <m>"⟩)]

def pairRecord (hash : String) : Commit := (pair.commits.get? hash).getD default

/-- What git prints of it. The batch for the second commit ends with the first one. -/
def pairScript : GitScript where
  answers :=
    [(logArgs "a", { stdout := "a\x00\x00n <m>\x00first\n\x1e\n" }),
      (logArgs "b",
        { stdout := "b\x00a\x00n <m>\x00second\n\x1e\na\x00\x00n <m>\x00first\n\x1e\n" })]
  temporary := "/tmp"

/-- A repository that keeps one commit at a time. -/
def pairRepository : GitRepository := ⟨"/", "/", .anonymous, 0⟩

theorem pair_lists (hash : String) (h : hash ∈ ["a", "b"]) :
    (pairScript.answer (logArgs hash)).code = 0 ∧
      Lists pairRecord hash (Text.trim (pairScript.answer (logArgs hash)).stdout) := by
  have hfirst : parseCommits (Text.trim (pairScript.answer (logArgs "a")).stdout) =
      [pairRecord "a"] := by with_unfolding_all rfl
  have hsecond : parseCommits (Text.trim (pairScript.answer (logArgs "b")).stdout) =
      [pairRecord "b", pairRecord "a"] := by with_unfolding_all rfl
  rcases List.mem_pair.1 h with rfl | rfl
  · refine ⟨rfl, ⟨_, _, hfirst, rfl⟩, ?_⟩
    rw [hfirst]
    decide
  · refine ⟨rfl, ⟨_, _, hsecond, rfl⟩, ?_⟩
    rw [hsecond]
    decide

theorem pair_mapped : Mapped pairScript.program (· ∈ ["a", "b"]) pairRecord pair where
  get? hash h := by
    rcases List.mem_pair.1 h with rfl | rfl <;> rfl
  known hash h := by
    rcases List.mem_pair.1 h with rfl | rfl <;> decide
  parents hash h := by
    rcases List.mem_pair.1 h with rfl | rfl <;> decide

def pairState : ScriptState := { tree := ⟨[], []⟩ }

/-- The batch drops the commit that was asked for, and its parent takes its place. -/
theorem transparent_pair :
    (pairRepository.commit pairScript.program "b" ([], pairState)).2.1 = [pairRecord "a"] ∧
      ((["b", "a", "b"].mapM (pairRepository.commit pairScript.program)) ([], pairState)).1 =
        .ok [pairRecord "b", pairRecord "a", pairRecord "b"] ∧
      ((pairRepository.graph pairScript.program).commitRange "a" "b" ([], pairState)).1 =
        (pair.graph.commitRange "a" "b" ()).1 := by
  have htransparent := transparent (r := pairRepository) (GitScript.consistent pair_lists)
  have hheld := htransparent.fresh pairState ⟨[], rfl⟩
  have hdropped : (pairRepository.commit pairScript.program "b" ([], pairState)).2.1 =
      [pairRecord "a"] := by with_unfolding_all rfl
  exact ⟨hdropped, (htransparent.calls ["b", "a", "b"] (by simp) _ hheld).1,
    ((htransparent.walks pair pair_mapped).commitRange "a" "b" (by simp) (by simp) _ hheld).1⟩

end GitRepository

end ReleaseAudit
