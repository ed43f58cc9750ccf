import ReleaseAudit.Proofs.History.Reachability
import ReleaseAudit.Proofs.History.Repository

/-!
# The notes after many queries

Which commits one query walks through depends on the notes of those before it. What is noted in the
end does not: it is every commit in front of the target that some query reaches, once. A walk stops at
a commit noted before because everything behind that commit has been noted with it.
-/

namespace ReleaseAudit

namespace Reachability

variable {r : Reachability} {h : History} {target hash x y : String} {b : Bool}
  {queries : List String}

/-- The commits that notes were taken of. -/
def noted (r : Reachability) : List String := r.notes.map Prod.fst

theorem length_noted : r.noted.length = r.size := List.length_map _

theorem isSome_note?_iff : (r.note? x).isSome ↔ x ∈ r.noted := by
  rw [noted, List.mem_map, ← not_iff_not, Option.not_isSome_iff_eq_none, note?,
    List.lookup_eq_none_iff, not_exists]
  simp only [bne_iff_ne, not_and, ne_comm (a := x)]

theorem noted_add : (r.add hash b).noted = hash :: r.noted := rfl

/-- No commit is noted twice, and none in front of the target without its parents. -/
structure Whole (r : Reachability) (h : History) (target : String) : Prop where
  nodup : r.noted.Nodup
  closed : ∀ x ∈ r.noted, x ≠ target → ∀ p, h.Parent x p → p ∈ r.noted

theorem whole_toward : (toward target).Whole h target where
  nodup := List.nodup_nil
  closed _ hx := absurd hx List.not_mem_nil

theorem Whole.add (hr : r.Whole h target) (hnew : hash ∉ r.noted)
    (hparents : hash ≠ target → ∀ p, h.Parent hash p → p ∈ r.noted) :
    (r.add hash b).Whole h target where
  nodup := List.nodup_cons.2 ⟨hnew, hr.nodup⟩
  closed x hx hne p hp := by
    rw [noted_add] at hx ⊢
    apply List.mem_cons_of_mem
    rcases List.mem_cons.1 hx with rfl | hold
    · exact hparents hne p hp
    · exact hr.closed x hold hne p hp

theorem Whole.mem_of_reachesBefore (hr : r.Whole h target) (hx : x ∈ r.noted)
    (hpath : h.ReachesBefore target x y) : y ∈ r.noted := by
  induction hpath with
  | refl => exact hx
  | tail _ hlast ih => exact hr.closed _ ih hlast.1 _ hlast.2

/-- Looking at the commits of `starts` keeps the notes `before` whole, and adds only commits that are
reached in front of the target. -/
structure Extended (h : History) (target : String) (starts : List String)
    (before after : Reachability) : Prop where
  whole : after.Whole h target
  reached : ∀ x ∈ after.noted, x ∈ before.noted ∨ ∃ p ∈ starts, h.ReachesBefore target p x

theorem extended_refl {starts : List String} (hr : r.Whole h target) :
    Extended h target starts r r where
  whole := hr
  reached _ hx := .inl hx

namespace Extended

variable {starts rest : List String} {before after last : Reachability}

theorem from_starts (hext : Extended h target rest before after)
    (hfrom : ∀ p ∈ rest, ∃ q ∈ starts, h.ReachesBefore target q p) :
    Extended h target starts before after where
  whole := hext.whole
  reached x hx := by
    apply (hext.reached x hx).imp_right
    rintro ⟨p, hp, hpx⟩
    obtain ⟨q, hq, hqp⟩ := hfrom p hp
    exact ⟨q, hq, hqp.trans hpx⟩

theorem mono (hext : Extended h target rest before after) (hsub : rest ⊆ starts) :
    Extended h target starts before after :=
  hext.from_starts fun p hp ↦ ⟨p, hsub hp, Relation.ReflTransGen.refl⟩

theorem from_parents (hext : Extended h target rest before after) (hne : hash ≠ target)
    (hparent : ∀ p ∈ rest, h.Parent hash p) : Extended h target [hash] before after :=
  hext.from_starts fun p hp ↦
    ⟨hash, List.mem_singleton_self hash, Relation.ReflTransGen.single ⟨hne, hparent p hp⟩⟩

theorem trans (hext : Extended h target starts before after)
    (hmore : Extended h target starts after last) : Extended h target starts before last where
  whole := hmore.whole
  reached x hx := (hmore.reached x hx).elim (hext.reached x) Or.inr

theorem add (hext : Extended h target [hash] before after) (hnew : hash ∉ after.noted)
    (hparents : hash ≠ target → ∀ p, h.Parent hash p → p ∈ after.noted) :
    Extended h target [hash] before (after.add hash b) where
  whole := hext.whole.add hnew hparents
  reached x hx := by
    rcases List.mem_cons.1 hx with rfl | hold
    · exact .inr ⟨x, List.mem_singleton_self x, Relation.ReflTransGen.refl⟩
    · exact hext.reached x hold

end Extended

/-- The notes after some queries: every commit that a query reaches in front of the target or as the
target, once and with the right answer. -/
structure Records (r : Reachability) (h : History) (target : String) (queries : List String) :
    Prop where
  target_eq : r.target = target
  nodup : r.noted.Nodup
  note_iff : ∀ x b, r.note? x = some b ↔
    (∃ q ∈ queries, h.ReachesBefore target q x) ∧ (b = true ↔ h.Reaches x target)

namespace Records

variable {r' : Reachability} {queries' : List String}

theorem note?_eq (hr : r.Records h target queries) (hr' : r'.Records h target queries')
    (hsame : ∀ q, q ∈ queries ↔ q ∈ queries') (x : String) : r.note? x = r'.note? x := by
  apply Option.ext
  intro b
  rw [hr.note_iff, hr'.note_iff]
  simp only [hsame]

theorem noted_perm (hr : r.Records h target queries) (hr' : r'.Records h target queries')
    (hsame : ∀ q, q ∈ queries ↔ q ∈ queries') : r.noted.Perm r'.noted := by
  apply (List.perm_ext_iff_of_nodup hr.nodup hr'.nodup).2
  intro x
  rw [← isSome_note?_iff, ← isSome_note?_iff, hr.note?_eq hr' hsame]

theorem size_eq (hr : r.Records h target queries) (hr' : r'.Records h target queries')
    (hsame : ∀ q, q ∈ queries ↔ q ∈ queries') : r.size = r'.size := by
  rw [← length_noted, ← length_noted, (hr.noted_perm hr' hsame).length_eq]

end Records

end Reachability

namespace History

open Reachability

variable {h : History} {target : String} {hashes : List String} {r after : Reachability}
  {result : Except HistoryError Unit}

/-- A commit is not noted while its parents are looked at, for it would be its own ancestor. -/
theorem notMem_noted_of_parents {hash : String} {parents : List String} (hacyclic : h.Acyclic)
    (hnew : hash ∉ r.noted) (hparent : ∀ p ∈ parents, h.Parent hash p)
    (hext : Extended h target parents r after) : hash ∉ after.noted := by
  intro hmem
  obtain ⟨p, hp, hpath⟩ := (hext.reached hash hmem).resolve_left hnew
  exact hacyclic hash (precedes_iff.2 ⟨p, hparent p hp, hpath.reaches⟩)

theorem Explores.extended (hrun : h.Explores hashes r result after) (hacyclic : h.Acyclic)
    (htarget : r.target = target) (hwhole : r.Whole h target) :
    Extended h target hashes r after := by
  have hunnoted {r : Reachability} {x : String} (hx : ¬ (r.note? x).isSome) : x ∉ r.noted :=
    fun hmem ↦ hx (isSome_note?_iff.2 hmem)
  induction hrun with
  | nil => exact extended_refl hwhole
  | noted _ => exact extended_refl hwhole
  | target hnew heq =>
    apply (extended_refl hwhole).add (hunnoted hnew)
    exact fun hne ↦ absurd (heq.trans htarget) hne
  | missing _ _ _ => exact extended_refl hwhole
  | failed _ hne hc _ ih =>
    rw [htarget] at hne
    exact (ih htarget hwhole).from_parents hne fun p hp ↦ (parent_iff hc).2 hp
  | @recorded r after hash commit hnew hne hc hwalk ih =>
    rw [htarget] at hne
    have hparent : ∀ p ∈ commit.parents, h.Parent hash p := fun p hp ↦ (parent_iff hc).2 hp
    have hext : Extended h target commit.parents r after := ih htarget hwhole
    have hstill : hash ∉ after.noted :=
      notMem_noted_of_parents hacyclic (hunnoted hnew) hparent hext
    apply (hext.from_parents hne hparent).add hstill
    intro _ p hp
    exact isSome_note?_iff.1 (hwalk.noted_of_ok rfl p ((parent_iff hc).1 hp))
  | stop _ ih => exact (ih htarget hwhole).mono (by simp)
  | @next r mid after hash rest result hfirst _ ihfirst ihrest =>
    have hext : Extended h target [hash] r mid := ihfirst htarget hwhole
    have hmore : Extended h target rest mid after :=
      ihrest (hfirst.target_eq.trans htarget) hext.whole
    exact (hext.mono (by simp)).trans (hmore.mono (List.subset_cons_self hash rest))

/-- The notes of a walk that began without notes. -/
theorem Explores.records {answer : String → Except HistoryError Bool} (hacyclic : h.Acyclic)
    (hanswer : ∀ hash, h.Answers target hash (answer hash))
    (hrun : h.Explores hashes (toward target) (.ok ()) after) : after.Records h target hashes := by
  have hext : Extended h target hashes (toward target) after :=
    hrun.extended hacyclic rfl whole_toward
  have hagrees : after.Agrees target answer := (hrun.explored hanswer agrees_toward).agrees
  have hmem (x : String) : x ∈ after.noted ↔ ∃ q ∈ hashes, h.ReachesBefore target q x := by
    constructor
    · intro hx
      exact (hext.reached x hx).resolve_left List.not_mem_nil
    · rintro ⟨q, hq, hqx⟩
      exact hext.whole.mem_of_reachesBefore (isSome_note?_iff.1 (hrun.noted_of_ok rfl q hq)) hqx
  have hnote {x : String} {b : Bool} (hb : after.note? x = some b) : b = true ↔ h.Reaches x target :=
    (hanswer x).reaches_iff (hagrees.answer_eq x b hb)
  refine ⟨hagrees.target_eq, hext.whole.nodup, fun x b ↦ ?_⟩
  rw [← hmem, ← isSome_note?_iff]
  constructor
  · intro hb
    exact ⟨Option.isSome_of_eq_some hb, hnote hb⟩
  · rintro ⟨hsome, hiff⟩
    obtain ⟨b', hb'⟩ := Option.isSome_iff_exists.1 hsome
    have heq : b' = b := Bool.eq_iff_iff.2 ((hnote hb').trans hiff.symm)
    rw [hb', heq]

end History

namespace CommitGraph

variable {σ : Type} {g : CommitGraph σ} {valid : σ → Prop} {h : History} {target : String}
  {answer : String → Except HistoryError Bool}

open Reachability (toward)

/-- The notes and the state after some queries about one target. -/
def asked (g : CommitGraph σ) : List String → Reachability × σ → Reachability × σ
  | [], state => state
  | start :: rest, state => asked g rest (g.reaches start state).2

theorem reaches_snd (start : String) (state : Reachability × σ) :
    (g.reaches start state).2 = (g.explore [] start state).2 := by
  rw [reaches_apply]
  rcases g.explore [] start state with ⟨e | _, after⟩ <;> rfl

/-- Queries that are all answered look at one commit after the other. -/
theorem asked_explores (hg : g.Serves valid h) (hacyclic : h.Acyclic)
    (hanswer : ∀ hash, h.Answers target hash (answer hash)) {queries : List String}
    (hok : ∀ q ∈ queries, ∃ b, answer q = .ok b) {r : Reachability} {state : σ}
    (hr : r.Agrees target answer) (hstate : valid state) :
    h.Explores queries r (.ok ()) (g.asked queries (r, state)).1 := by
  induction queries generalizing r state with
  | nil => exact .nil
  | cons start rest ih =>
    obtain ⟨⟨b, hb⟩, hrest⟩ := List.forall_mem_cons.1 hok
    obtain ⟨hexplores, hvalid⟩ := (explores hg hacyclic).1 [] start r state (by simp) hstate
    have hrun := hexplores.explored hanswer hr
    have hresult : (g.explore [] start (r, state)).1 = .ok () := by
      rw [hrun.result_eq, History.askAll_singleton, hb]
      rfl
    rw [hresult] at hexplores
    rw [asked, reaches_snd]
    exact .next hexplores (ih hrest hrun.agrees hvalid)

theorem asked_records (hg : g.Serves valid h) (hacyclic : h.Acyclic)
    (hanswer : ∀ hash, h.Answers target hash (answer hash)) {queries : List String}
    (hok : ∀ q ∈ queries, ∃ b, answer q = .ok b) {state : σ} (hstate : valid state) :
    (g.asked queries (toward target, state)).1.Records h target queries := by
  have hexplores : h.Explores queries (toward target) (.ok ())
      (g.asked queries (toward target, state)).1 :=
    asked_explores hg hacyclic hanswer hok Reachability.agrees_toward hstate
  exact hexplores.records hacyclic hanswer

/-- When no commit in front of the target is missing, the notes after some queries are about exactly the
commits that the queries reach up to the target, and the queries may come in any order and be
repeated. -/
theorem asked_sameNotes (hg : g.Serves valid h) (hacyclic : h.Acyclic) (target : String)
    (queries : List String)
    (hpresent : ∀ q ∈ queries, ∀ x, x ≠ target → h.ReachesBefore target q x → ¬ h.Missing x)
    (state : σ) (hstate : valid state) :
    (g.asked queries (toward target, state)).1.Records h target queries ∧
    ∀ queries', (∀ q, q ∈ queries ↔ q ∈ queries') → ∀ state', valid state' →
      (∀ x, (g.asked queries (toward target, state)).1.note? x =
        (g.asked queries' (toward target, state')).1.note? x) ∧
      (g.asked queries (toward target, state)).1.size =
        (g.asked queries' (toward target, state')).1.size := by
  choose answer hanswer using History.Answers.exists_of_acyclic hacyclic
    (fun _ _ hp ↦ hg.mem_known hstate hp) target
  have hok (q : String) (hq : q ∈ queries) : ∃ b, answer q = .ok b := by
    cases hresult : answer q with
    | ok b => exact ⟨b, rfl⟩
    | error e =>
      obtain ⟨x, hx, hpath, hmissing⟩ := (hanswer q).exists_error_iff.1 ⟨e, hresult⟩
      exact absurd hmissing (hpresent q hq x hx hpath)
  have hrecords := asked_records hg hacyclic hanswer hok hstate
  refine ⟨hrecords, fun queries' hsame state' hstate' ↦ ?_⟩
  have hok' (q : String) (hq : q ∈ queries') : ∃ b, answer q = .ok b := hok q ((hsame q).2 hq)
  have hrecords' := asked_records hg hacyclic hanswer hok' hstate'
  exact ⟨hrecords.note?_eq hrecords' hsame, hrecords.size_eq hrecords' hsame⟩

end CommitGraph

namespace MemoryRepository

/-- A line of commits with one beside it. -/
def forked : MemoryRepository :=
  ((((({ location := "forked" } : MemoryRepository).addCommit "a" [] "first").addCommit
    "b" ["a"] "second").addCommit "c" ["b"] "third").addCommit "d" ["c"] "fourth").addCommit
    "side" ["a"] "aside"

theorem forked_acyclic : forked.history.Acyclic :=
  acyclic_of_rank
    (fun hash ↦ if hash = "a" then 0 else if hash = "b" then 1 else if hash = "c" then 2 else 3)
    (by decide +kernel)

/-- Nothing behind the target is noted but what is also reached beside it. -/
theorem forked_asked : forked.graph.asked ["d", "side"] (.toward "c", ()) =
    (⟨"c", [("side", false), ("a", false), ("d", true), ("c", true)]⟩, ()) := by
  have ha : forked.graph.fetch "a" () =
      (.ok ⟨⟨"a", "first", [], defaultAuthor⟩, by decide +kernel⟩, ()) := rfl
  have hd : forked.graph.fetch "d" () =
      (.ok ⟨⟨"d", "fourth", ["c"], defaultAuthor⟩, by decide +kernel⟩, ()) := rfl
  have hside : forked.graph.fetch "side" () =
      (.ok ⟨⟨"side", "aside", ["a"], defaultAuthor⟩, by decide +kernel⟩, ()) := rfl
  have hfirst : (forked.graph.reaches "d" (.toward "c", ())).2 =
      (⟨"c", [("d", true), ("c", true)]⟩, ()) := by
    rw [CommitGraph.reaches_snd, CommitGraph.explore_apply]
    simp [hd, CommitGraph.exploreAll_cons_apply, CommitGraph.exploreAll_nil_apply,
      CommitGraph.explore_apply, Reachability.add, Reachability.note?, Reachability.toward]
  have hsecond : (forked.graph.reaches "side" (⟨"c", [("d", true), ("c", true)]⟩, ())).2 =
      (⟨"c", [("side", false), ("a", false), ("d", true), ("c", true)]⟩, ()) := by
    rw [CommitGraph.reaches_snd, CommitGraph.explore_apply]
    simp [hside, ha, CommitGraph.exploreAll_cons_apply, CommitGraph.exploreAll_nil_apply,
      CommitGraph.explore_apply, Reachability.add, Reachability.note?]
  rw [CommitGraph.asked, hfirst, CommitGraph.asked, hsecond, CommitGraph.asked]

theorem forked_size : (forked.graph.asked ["side", "d", "side"] (.toward "c", ())).1.size = 4 ∧
    (forked.graph.asked ["side", "d", "side"] (.toward "c", ())).1.note? "a" = some false := by
  have hclosed : ∀ entry ∈ forked.commits, ∀ p ∈ entry.2.parents, p ∈ forked.commits.keys := by
    decide +kernel
  have hkeys : ∀ q ∈ ["d", "side"], q ∈ forked.commits.keys := by decide +kernel
  have hpresent : ∀ q ∈ ["d", "side"], ∀ x, x ≠ "c" → forked.history.ReachesBefore "c" q x →
      ¬ forked.history.Missing x := by
    intro q hq x _ hpath
    exact History.not_missing (present_of_closed hclosed (hkeys q hq) hpath.reaches)
  obtain ⟨_, hsame⟩ := CommitGraph.asked_sameNotes forked.graph_serves forked_acyclic "c"
    ["d", "side"] hpresent () trivial
  obtain ⟨hnotes, hsize⟩ := hsame ["side", "d", "side"] (by simp [or_comm]) () trivial
  rw [← hnotes, ← hsize, forked_asked]
  exact ⟨rfl, rfl⟩

end MemoryRepository

end ReleaseAudit
