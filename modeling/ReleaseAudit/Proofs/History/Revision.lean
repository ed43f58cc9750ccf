import Mathlib.Data.List.Nodup
import ReleaseAudit.History.Provenance
import ReleaseAudit.Proofs.Dict
import ReleaseAudit.Proofs.History.Provenance

/-!
# What a revision stands for

A revision is the short name of a reference, a hash, or the beginning of a hash, in this order. What a
memory repository answers depends on the last write to each reference and on which commits have been
written, and on no order of either.
-/

namespace ReleaseAudit

/-! ## References, hashes and their beginnings -/

section

variable {named : String → String → Prop} {stored : String → Prop} {remote revision hash : String}
  {refs : List String} {found found' : Option String} {result result' : Except ResolveError String}

/-- The hash of the first of some references that exists. -/
inductive FirstNamed (named : String → String → Prop) : List String → Option String → Prop
  | none : FirstNamed named [] none
  | found {ref hash : String} {refs : List String} : named ref hash →
      FirstNamed named (ref :: refs) (some hash)
  | next {ref : String} {refs : List String} {found : Option String} : (∀ hash, ¬ named ref hash) →
      FirstNamed named refs found → FirstNamed named (ref :: refs) found

/-- The references that have `revision` as their short name, the one that counts most first. -/
def refsFor (remote revision : String) : List String :=
  ["refs/heads/" ++ revision, "refs/tags/" ++ revision, "refs/remotes/" ++ remote ++ "/" ++ revision]

/-- At least four bytes that are the beginning of one stored hash only. -/
structure Abbreviates (stored : String → Prop) (revision hash : String) : Prop where
  long : 4 ≤ revision.utf8ByteSize
  present : stored hash
  begins : revision.toList <+: hash.toList
  only : ∀ other, stored other → revision.toList <+: other.toList → other = hash

/-- What a revision stands for where `named` gives the references their hashes and `stored` holds of
the hashes of commits. -/
inductive Resolution (named : String → String → Prop) (stored : String → Prop)
    (remote revision : String) : Except ResolveError String → Prop
  | ref {hash : String} : FirstNamed named (refsFor remote revision) (some hash) →
      Resolution named stored remote revision (.ok hash)
  | hash : FirstNamed named (refsFor remote revision) none → stored revision →
      Resolution named stored remote revision (.ok revision)
  | abbreviation {hash : String} : FirstNamed named (refsFor remote revision) none →
      ¬ stored revision → Abbreviates stored revision hash →
      Resolution named stored remote revision (.ok hash)
  | unresolved : FirstNamed named (refsFor remote revision) none → ¬ stored revision →
      (∀ hash, ¬ Abbreviates stored revision hash) →
      Resolution named stored remote revision (.error (.unresolved revision))

/-- A reference has one hash at most. -/
def OneHash (named : String → String → Prop) : Prop :=
  ∀ ref hash hash', named ref hash → named ref hash' → hash = hash'

theorem FirstNamed.unique (hone : OneHash named) (h : FirstNamed named refs found)
    (h' : FirstNamed named refs found') : found = found' := by
  induction h with
  | none =>
    cases h'
    rfl
  | found hnamed =>
    cases h' with
    | found hnamed' => rw [hone _ _ _ hnamed hnamed']
    | next hfree _ => exact absurd hnamed (hfree _)
  | next hfree _ ih =>
    cases h' with
    | found hnamed' => exact absurd hnamed' (hfree _)
    | next _ hrest => exact ih hrest

theorem Resolution.unique (hone : OneHash named) (h : Resolution named stored remote revision result)
    (h' : Resolution named stored remote revision result') : result = result' := by
  have hrefs {found found' : Option String} (h : FirstNamed named (refsFor remote revision) found)
      (h' : FirstNamed named (refsFor remote revision) found') : found = found' := h.unique hone h'
  cases h with
  | ref href =>
    cases h' with
    | ref href' => rw [Option.some_inj.1 (hrefs href href')]
    | hash hnone | abbreviation hnone | unresolved hnone => cases hrefs href hnone
  | hash hnone hstored =>
    cases h' with
    | ref href => cases hrefs href hnone
    | hash => rfl
    | abbreviation _ hmissing | unresolved _ hmissing => exact absurd hstored hmissing
  | abbreviation hnone hmissing habbreviates =>
    cases h' with
    | ref href => cases hrefs href hnone
    | hash _ hstored => exact absurd hstored hmissing
    | abbreviation _ _ habbreviates' =>
      rw [habbreviates'.only _ habbreviates.present habbreviates.begins]
    | unresolved _ _ hnot => exact absurd habbreviates (hnot _)
  | unresolved hnone hmissing hnot =>
    cases h' with
    | ref href => cases hrefs href hnone
    | hash _ hstored => exact absurd hstored hmissing
    | abbreviation _ _ habbreviates => exact absurd habbreviates (hnot _)
    | unresolved => rfl

end

namespace MemoryRepository

variable {r : MemoryRepository} {options : ResolverOptions} {revision hash name location : String}
  {refs : List String} {result : Except ResolveError String}

/-! ## Looking up -/

/-- What the references of a repository stand for. -/
def Names (r : MemoryRepository) (ref hash : String) : Prop := r.refs.get? ref = some hash

/-- The repository has a commit under the hash. -/
def Stores (r : MemoryRepository) (hash : String) : Prop := hash ∈ r.commits.keys

theorem oneHash_names (r : MemoryRepository) : OneHash r.Names := fun _ _ _ h h' ↦
  Option.some_inj.1 (h.symm.trans h')

theorem firstNamed_names (r : MemoryRepository) (refs : List String) :
    FirstNamed r.Names refs (refs.findSome? r.refs.get?) := by
  induction refs with
  | nil => exact .none
  | cons ref refs ih =>
    rw [List.findSome?_cons]
    cases hget : r.refs.get? ref with
    | none =>
      apply FirstNamed.next _ ih
      intro hash hnames
      cases hget.symm.trans hnames
    | some hash => exact .found hget

theorem firstRef_apply (r : MemoryRepository) (refs : List String) :
    r.store.firstRef refs () = (.ok (refs.findSome? r.refs.get?), ()) := by
  induction refs with
  | nil => rfl
  | cons ref refs ih =>
    have hfirst : r.store.resolveRef ref () = (.ok (r.refs.get? ref), ()) := rfl
    rw [CommitStore.firstRef, Access.bind_apply, hfirst, List.findSome?_cons]
    cases r.refs.get? ref with
    | none => exact ih
    | some hash => rfl

theorem resolveRevision_apply (r : MemoryRepository) (options : ResolverOptions) (revision : String) :
    r.store.resolveRevision options revision () =
      (match (CommitStore.candidates options revision).findSome? r.refs.get? with
        | some hash => .ok hash
        | none =>
          match r.resolveHash revision with
          | some hash => .ok hash
          | none => .error (.unresolved revision), ()) := by
  have hfirst : r.store.accessing (r.store.firstRef (CommitStore.candidates options revision)) () =
      (.ok ((CommitStore.candidates options revision).findSome? r.refs.get?), ()) :=
    CommitStore.accessing_eq_ok_iff.2 (r.firstRef_apply _)
  have hhash : r.store.accessing (r.store.resolveHash revision) () =
      (.ok (r.resolveHash revision), ()) := rfl
  rw [CommitStore.resolveRevision, Access.bind_apply, hfirst]
  cases (CommitStore.candidates options revision).findSome? r.refs.get? with
  | some hash => rfl
  | none =>
    dsimp only
    rw [Access.bind_apply, hhash]
    cases r.resolveHash revision <;> rfl

theorem resolveHash_of_stores (h : r.Stores revision) : r.resolveHash revision = some revision := by
  rw [resolveHash, if_pos (Dict.contains_iff.2 h)]

/-- Among distinct hashes the only one with a beginning is the whole list of those that have it. -/
theorem filter_eq_singleton_iff {p : String → Bool} {hashes : List String} (hnodup : hashes.Nodup) :
    hashes.filter p = [hash] ↔
      hash ∈ hashes ∧ p hash ∧ ∀ other ∈ hashes, p other → other = hash := by
  rw [← List.perm_singleton,
    List.perm_ext_iff_of_nodup (hnodup.filter p) (List.nodup_singleton hash)]
  simp only [List.mem_filter, List.mem_singleton]
  constructor
  · intro h
    obtain ⟨hmem, hp⟩ := (h hash).2 rfl
    exact ⟨hmem, hp, fun other hother hpother ↦ (h other).1 ⟨hother, hpother⟩⟩
  · intro ⟨hmem, hp, honly⟩ other
    constructor
    · exact fun h ↦ honly other h.1 h.2
    · rintro rfl
      exact ⟨hmem, hp⟩

theorem resolveHash_eq_some_iff (hnodup : r.commits.keys.Nodup) (hmissing : ¬ r.Stores revision) :
    r.resolveHash revision = some hash ↔ Abbreviates r.Stores revision hash := by
  have hcontains : ¬ r.commits.contains revision := fun h ↦ hmissing (Dict.contains_iff.1 h)
  have hmatch : r.resolveHash revision = some hash ↔
      r.commits.keys.filter (fun hash ↦ Text.startsWith hash.toList revision.toList) = [hash] ∧
        4 ≤ revision.utf8ByteSize := by
    rw [resolveHash, if_neg hcontains]
    split
    case h_1 only heq =>
      rw [heq]
      simp [and_comm]
    case h_2 hmany =>
      constructor
      · rintro ⟨⟩
      · exact fun h ↦ absurd h.1 (hmany hash)
  rw [hmatch, filter_eq_singleton_iff hnodup]
  simp only [Text.startsWith_iff]
  constructor
  · intro ⟨⟨hmem, hbegins, honly⟩, hlong⟩
    exact ⟨hlong, hmem, hbegins, honly⟩
  · intro h
    exact ⟨⟨h.present, h.begins, h.only⟩, h.long⟩

theorem resolves (hnodup : r.commits.keys.Nodup) :
    Resolution r.Names r.Stores options.remoteName revision
      (r.store.resolveRevision options revision ()).1 := by
  have hfirst := r.firstNamed_names (CommitStore.candidates options revision)
  rw [resolveRevision_apply]
  cases href : (CommitStore.candidates options revision).findSome? r.refs.get? with
  | some hash =>
    rw [href] at hfirst
    exact .ref hfirst
  | none =>
    rw [href] at hfirst
    by_cases hstored : r.Stores revision
    · rw [resolveHash_of_stores hstored]
      exact .hash hfirst hstored
    cases hhash : r.resolveHash revision with
    | some hash => exact .abbreviation hfirst hstored ((resolveHash_eq_some_iff hnodup hstored).1 hhash)
    | none =>
      apply Resolution.unresolved hfirst hstored
      intro hash habbreviates
      cases hhash.symm.trans ((resolveHash_eq_some_iff hnodup hstored).2 habbreviates)

/-- The references and hashes of a repository determine what a revision stands for. -/
theorem resolveRevision_eq_iff (hnodup : r.commits.keys.Nodup) :
    (r.store.resolveRevision options revision ()).1 = result ↔
      Resolution r.Names r.Stores options.remoteName revision result := by
  constructor
  · rintro rfl
    exact resolves hnodup
  · exact fun h ↦ (resolves hnodup).unique r.oneHash_names h

/-- Repositories with the same references and hashes give the same answers. -/
theorem resolveRevision_congr {r' : MemoryRepository} (hnodup : r.commits.keys.Nodup)
    (hnodup' : r'.commits.keys.Nodup) (hnames : ∀ name hash, r'.Names name hash ↔ r.Names name hash)
    (hstores : ∀ hash, r'.Stores hash ↔ r.Stores hash) :
    r'.store.resolveRevision options revision () = r.store.resolveRevision options revision () := by
  have hnames : r'.Names = r.Names := funext₂ fun name hash ↦ propext (hnames name hash)
  have hstores : r'.Stores = r.Stores := funext fun hash ↦ propext (hstores hash)
  have hanswer : (r'.store.resolveRevision options revision ()).1 =
      (r.store.resolveRevision options revision ()).1 := by
    rw [resolveRevision_eq_iff hnodup', hnames, hstores]
    exact resolves hnodup
  exact Prod.ext hanswer rfl

/-! ## Writes -/

inductive Write where
  | commit (commit : Commit)
  | ref (name hash : String)

def write (r : MemoryRepository) : Write → MemoryRepository
  | .commit commit => r.insert commit
  | .ref name hash => r.setRef name hash

/-- The repository that some writes put together, one after the other. -/
def written (location : String) (writes : List Write) : MemoryRepository :=
  writes.foldl write { location }

variable {writes writes' : List Write} {w : Write}

theorem written_concat : written location (writes ++ [w]) = (written location writes).write w :=
  List.foldl_append

theorem built_iff : r.Built ↔ ∃ location writes, r = written location writes := by
  constructor
  · intro h
    induction h with
    | empty location => exact ⟨location, [], rfl⟩
    | insert commit _ ih =>
      obtain ⟨location, writes, rfl⟩ := ih
      refine ⟨location, writes ++ [.commit commit], ?_⟩
      rw [written_concat]
      rfl
    | setRef ref hash _ ih =>
      obtain ⟨location, writes, rfl⟩ := ih
      refine ⟨location, writes ++ [.ref ref hash], ?_⟩
      rw [written_concat]
      rfl
  · rintro ⟨location, writes, rfl⟩
    induction writes using List.reverseRecOn with
    | nil => exact .empty location
    | append_singleton writes w ih =>
      rw [written_concat]
      cases w with
      | commit commit => exact .insert commit ih
      | ref name hash => exact .setRef name hash ih

/-- The hash that the last write to a reference gives it. -/
def LastRef (writes : List Write) (name hash : String) : Prop :=
  ∃ before after, writes = before ++ .ref name hash :: after ∧ ∀ other, .ref name other ∉ after

/-- A commit has been written under the hash. -/
def Committed (writes : List Write) (hash : String) : Prop :=
  ∃ commit, .commit commit ∈ writes ∧ commit.hash = hash

theorem lastRef_concat_iff : LastRef (writes ++ [w]) name hash ↔
    w = .ref name hash ∨ LastRef writes name hash ∧ ∀ other, w ≠ .ref name other := by
  constructor
  · rintro ⟨before, after, happend, hafter⟩
    rcases List.eq_nil_or_concat' after with rfl | ⟨front, last, rfl⟩
    · exact .inl (List.append_singleton_inj.1 happend).2
    · rw [← List.cons_append, ← List.append_assoc] at happend
      obtain ⟨rfl, rfl⟩ := List.append_singleton_inj.1 happend
      have hfront (other : String) : .ref name other ∉ front := fun hmem ↦
        hafter other (List.mem_append_left [w] hmem)
      have hlast (other : String) : w ≠ .ref name other := by
        rintro rfl
        exact hafter other List.mem_concat_self
      exact .inr ⟨⟨before, front, rfl, hfront⟩, hlast⟩
  · rintro (rfl | ⟨⟨before, after, rfl, hafter⟩, hlast⟩)
    · exact ⟨writes, [], rfl, fun _ ↦ List.not_mem_nil⟩
    · refine ⟨before, after ++ [w], by simp, fun other hmem ↦ ?_⟩
      rcases List.mem_append.1 hmem with hmem | hmem
      · exact hafter other hmem
      · exact hlast other (List.mem_singleton.1 hmem).symm

theorem names_written : (written location writes).Names name hash ↔ LastRef writes name hash := by
  induction writes using List.reverseRecOn with
  | nil => simp [written, Names, LastRef, Dict.get?]
  | append_singleton writes w ih =>
    rw [written_concat, lastRef_concat_iff, ← ih]
    cases w with
    | commit commit => simp [write, insert, Names]
    | ref other otherHash =>
      by_cases hname : name = other
      · subst hname
        simp [write, setRef, Names, Dict.get?_insert_self]
      · have hother : other ≠ name := Ne.symm hname
        simp [write, setRef, Names, Dict.get?_insert_of_ne hname, hother]

theorem stores_written : (written location writes).Stores hash ↔ Committed writes hash := by
  induction writes using List.reverseRecOn with
  | nil => simp [written, Stores, Committed, Dict.keys]
  | append_singleton writes w ih =>
    have hconcat : Committed (writes ++ [w]) hash ↔
        (∃ commit, w = .commit commit ∧ commit.hash = hash) ∨ Committed writes hash := by
      simp only [Committed, List.mem_append, List.mem_singleton]
      grind
    rw [written_concat, hconcat, ← ih]
    cases w with
    | commit commit => simp [write, insert, Stores, Dict.mem_keys_insert, eq_comm]
    | ref other otherHash => simp [write, setRef, Stores]

theorem sorted_commits_written : (written location writes).commits.Sorted := by
  induction writes using List.reverseRecOn with
  | nil => exact .nil
  | append_singleton writes w ih =>
    rw [written_concat]
    cases w with
    | commit commit => exact ih.insert
    | ref name hash => exact ih

theorem nodup_keys_written : (written location writes).commits.keys.Nodup :=
  sorted_commits_written.nodup_keys

/-- A revision stands for the first reference that has it as its short name, for the hash that it is,
or for the only hash that it is the beginning of. Nothing else counts: neither how the commits are
arranged nor the order in which commits and references have been written, as long as the last write to
each reference gives it the same hash. -/
theorem resolveRevision_determined (location : String) (writes : List Write)
    (options : ResolverOptions) (revision : String) :
    (∀ result, (written location writes).store.resolveRevision options revision () = (result, ()) ↔
        Resolution (LastRef writes) (Committed writes) options.remoteName revision result) ∧
      (∀ commits, commits.Perm (written location writes).commits →
        { written location writes with commits }.store.resolveRevision options revision () =
          (written location writes).store.resolveRevision options revision ()) ∧
      ∀ location' writes', (∀ name hash, LastRef writes' name hash ↔ LastRef writes name hash) →
        (∀ hash, Committed writes' hash ↔ Committed writes hash) →
        (written location' writes').store.resolveRevision options revision () =
          (written location writes).store.resolveRevision options revision () := by
  refine ⟨fun result ↦ ?_, fun commits hperm ↦ ?_, fun location' writes' hrefs hcommits ↦ ?_⟩
  · have hnames : (written location writes).Names = LastRef writes :=
      funext₂ fun _ _ ↦ propext names_written
    have hstores : (written location writes).Stores = Committed writes :=
      funext fun _ ↦ propext stores_written
    rw [← hnames, ← hstores, ← resolveRevision_eq_iff nodup_keys_written]
    exact ⟨congrArg Prod.fst, fun h ↦ Prod.ext h rfl⟩
  · have hkeys : (Dict.keys commits).Perm (written location writes).commits.keys :=
      hperm.map Prod.fst
    exact resolveRevision_congr nodup_keys_written (hkeys.nodup_iff.2 nodup_keys_written)
      (fun _ _ ↦ Iff.rfl) fun _ ↦ hkeys.mem_iff
  · apply resolveRevision_congr nodup_keys_written nodup_keys_written
    · intro name hash
      rw [names_written, names_written, hrefs]
    · intro hash
      rw [stores_written, stores_written, hcommits]

/-- A tag and a branch of one name, and two hashes with a common beginning. -/
def tagged : List Write :=
  [.commit ⟨"abcd1111", "one", [], defaultAuthor⟩, .commit ⟨"abcd2222", "two", [], defaultAuthor⟩,
    .ref "refs/tags/v1" "abcd1111", .ref "refs/heads/v1" "abcd2222"]

/-- The same in another order, the branch first with another hash. -/
def retagged : List Write :=
  [.ref "refs/heads/v1" "abcd1111", .commit ⟨"abcd2222", "two", [], defaultAuthor⟩,
    .ref "refs/heads/v1" "abcd2222", .commit ⟨"abcd1111", "one", [], defaultAuthor⟩,
    .ref "refs/tags/v1" "abcd1111"]

theorem resolveRevision_tagged :
    Resolution (LastRef tagged) (Committed tagged) "origin" "v1" (.ok "abcd2222") ∧
      Resolution (LastRef tagged) (Committed tagged) "origin" "abcd" (.error (.unresolved "abcd")) ∧
      { written "memory" tagged with commits := (written "memory" tagged).commits.reverse
        }.store.resolveRevision {} "abcd1" () = (.ok "abcd1111", ()) ∧
      (written "copy" retagged).store.resolveRevision {} "v1" () = (.ok "abcd2222", ()) := by
  have hnames (name hash : String) : LastRef retagged name hash ↔ LastRef tagged name hash := by
    have hrefs : (written "copy" retagged).refs = (written "memory" tagged).refs := by decide +kernel
    calc
      LastRef retagged name hash ↔ (written "copy" retagged).Names name hash := names_written.symm
      _ ↔ (written "memory" tagged).Names name hash := by rw [Names, Names, hrefs]
      _ ↔ LastRef tagged name hash := names_written
  have hstores (hash : String) : Committed retagged hash ↔ Committed tagged hash := by
    have hcommits : (written "copy" retagged).commits = (written "memory" tagged).commits := by
      decide +kernel
    calc
      Committed retagged hash ↔ (written "copy" retagged).Stores hash := stores_written.symm
      _ ↔ (written "memory" tagged).Stores hash := by rw [Stores, Stores, hcommits]
      _ ↔ Committed tagged hash := stores_written
  obtain ⟨hbranch, -, horder⟩ := resolveRevision_determined "memory" tagged {} "v1"
  have hambiguous := (resolveRevision_determined "memory" tagged {} "abcd").1
  have harranged := (resolveRevision_determined "memory" tagged {} "abcd1").2.1
  refine ⟨(hbranch _).1 rfl, (hambiguous _).1 rfl, ?_, ?_⟩
  · exact (harranged _ (List.reverse_perm _)).trans rfl
  · exact (horder "copy" retagged hnames hstores).trans rfl

end MemoryRepository

end ReleaseAudit
