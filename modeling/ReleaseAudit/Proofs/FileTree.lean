import ReleaseAudit.FileTree
import ReleaseAudit.Proofs.Path.Upward

/-!
# Locations and paths

What a path leads to has a path of its own, with the names on the way to it, and all that is around it is
a directory. Without one of its files a tree is the same everywhere else.
-/

namespace ReleaseAudit

theorem Text.join_concat {sep piece : List Char} {pieces : List (List Char)} (h : pieces ≠ []) :
    join sep (pieces ++ [piece]) = join sep pieces ++ (sep ++ piece) := by
  obtain ⟨first, rest, rfl⟩ := List.exists_cons_of_ne_nil h
  rw [List.cons_append, join_cons, join_cons, List.flatMap_append, List.flatMap_singleton,
    List.append_assoc]

theorem Except.bind_eq_ok_iff {ε α β : Type} {result : Except ε α} {next : α → Except ε β} {b : β} :
    result >>= next = .ok b ↔ ∃ a, result = .ok a ∧ next a = .ok b := by
  cases result with
  | error e => exact iff_of_false nofun (by simp)
  | ok a => exact ⟨fun h ↦ ⟨a, rfl, h⟩, fun ⟨_, ha, h⟩ ↦ Except.ok.inj ha ▸ h⟩

namespace FileTree

variable {t : FileTree} {a b l : Location} {names : List String} {name path : String} {node : FileNode}

/-! ## The path of a location -/

/-- A name that leads from a directory to something in it. -/
def IsName (name : String) : Prop := (PathPart.name name.toList).IsInner

theorem isName_ofList {segment : List Char} (hslash : '/' ∉ segment) (hempty : ¬ segment.isEmpty)
    (hhere : segment ≠ ['.']) (hup : segment ≠ ['.', '.']) : IsName (String.ofList segment) := by
  have hpart : Path.ofSegment? segment = some (.name segment) := by
    rw [Path.ofSegment?, if_neg (by simp_all), if_neg (by simpa using hup)]
  rw [IsName, String.toList_ofList]
  exact Path.isInner_of_ofSegment? hpart hslash

/-- All names on the way to a location are such names. -/
def IsProper (l : Location) : Prop := ∀ name ∈ l, IsName name

theorem isProper_concat_iff : IsProper (l ++ [name]) ↔ IsProper l ∧ IsName name := by
  simp only [IsProper, List.forall_mem_append, List.forall_mem_singleton]

theorem slash_notMem_texts (h : IsProper l) : ∀ text ∈ l.map String.toList, '/' ∉ text := by
  intro text htext
  obtain ⟨name, hname, rfl⟩ := List.mem_map.1 htext
  exact (h name hname).slash_notMem

theorem toList_pathOf (l : Location) :
    (pathOf l).toList = '/' :: Text.join ['/'] (l.map String.toList) := by
  have hjoin : (Text.intercalate "/" l).toList = Text.join ['/'] (l.map String.toList) :=
    String.toList_ofList
  rw [pathOf, String.toList_append, hjoin]
  rfl

theorem pathOf_eq_ofParts (l : Location) :
    pathOf l = Path.ofParts (.root :: l.map fun name ↦ .name name.toList) := by
  rw [pathOf, Path.ofParts, List.map_map]
  congr 2
  calc
    l = l.map id := (List.map_id l).symm
    _ = _ := List.map_congr_left fun name _ ↦ String.ofList_toList.symm

theorem parts_pathOf (h : IsProper l) :
    Path.parts (pathOf l) = .root :: l.map fun name ↦ .name name.toList := by
  rw [pathOf_eq_ofParts]
  apply Path.parts_root
  intro p hp
  obtain ⟨name, hname, rfl⟩ := List.mem_map.1 hp
  exact h name hname

theorem parent?_pathOf_nil : Path.parent? (pathOf []) = none := Path.parent?_eq_none (.inr rfl)

theorem parent?_pathOf_concat (h : IsProper (l ++ [name])) :
    Path.parent? (pathOf (l ++ [name])) = some (pathOf l) := by
  have hparts : Path.parts (pathOf (l ++ [name])) =
      (.root :: l.map fun name ↦ .name name.toList) ++ [.name name.toList] := by
    rw [parts_pathOf h, List.map_append, List.map_singleton, List.cons_append]
  rw [pathOf_eq_ofParts l]
  exact Path.parent?_concat hparts (by simp)

theorem exists_toList_pathOf_concat (l : Location) (name : String) :
    ∃ front, (pathOf (l ++ [name])).toList = front ++ name.toList := by
  rw [toList_pathOf, List.map_append, List.map_singleton]
  cases l with
  | nil => exact ⟨['/'], by simp [Text.join]⟩
  | cons first rest =>
    rw [Text.join_concat (by simp), ← List.append_assoc, ← List.cons_append]
    exact ⟨_, rfl⟩

/-- Only the path of the root ends with a slash. -/
theorem getLast?_pathOf_concat (h : IsName name) (l : Location) :
    (pathOf (l ++ [name])).toList.getLast? ≠ some '/' := by
  obtain ⟨front, hfront⟩ := exists_toList_pathOf_concat l name
  have hne : name.toList ≠ [] := h.text_ne_nil
  rw [hfront, List.getLast?_append_of_ne_nil _ hne]
  exact fun hlast ↦ h.slash_notMem (List.mem_of_getLast? hlast)

theorem join_pathOf (h : IsProper l) (hname : IsName name) :
    Path.join (pathOf l) name = pathOf (l ++ [name]) := by
  have hrelative : Path.isAbsolute name = false := by
    rw [Path.isAbsolute, beq_eq_false_iff_ne]
    exact fun hhead ↦ hname.slash_notMem (List.mem_of_head? hhead)
  have hempty : (pathOf l).isEmpty = false := by
    rw [← Bool.not_eq_true, String.isEmpty_iff, ← String.toList_inj, toList_pathOf]
    exact List.cons_ne_nil _ _
  rw [Path.join, hrelative, hempty, Bool.or_self, if_neg Bool.false_ne_true]
  apply String.toList_inj.1
  rcases List.eq_nil_or_concat l with rfl | ⟨front, last, rfl⟩
  · rw [if_pos (by rfl), String.toList_append, toList_pathOf, toList_pathOf]
    simp [Text.join]
  · rw [List.concat_eq_append] at h ⊢
    have hlast := getLast?_pathOf_concat (isProper_concat_iff.1 h).2 front
    rw [if_neg (by simpa using hlast), toList_pathOf (front ++ [last] ++ [name]), List.map_append,
      List.map_singleton, Text.join_concat (by simp), String.toList_append, String.toList_append,
      toList_pathOf, List.append_assoc, List.cons_append]
    rfl

/-! ## Following names -/

/-- All around the location is a directory, and it is reached by names. -/
structure Reached (t : FileTree) (l : Location) : Prop where
  isProper : IsProper l
  around : ∀ d, d <+: l → d ≠ l → t.isDirectoryAt d

theorem isDirectoryAt_iff : t.isDirectoryAt l ↔ t.node? l = some .directory := by
  rw [isDirectoryAt]
  split <;> simp_all

theorem follow_cons_eq_ok_iff {segment : List Char} {rest : List (List Char)} :
    t.follow a (segment :: rest) = .ok b ↔ t.isDirectoryAt a ∧
      (if segment.isEmpty || segment == ['.'] then t.follow a rest
        else if segment == ['.', '.'] then t.follow a.dropLast rest
        else t.follow (a ++ [String.ofList segment]) rest) = .ok b := by
  rw [follow, isDirectoryAt_iff]
  split <;> simp_all

theorem follow_slash (segment : List (List Char)) :
    t.follow [] ([] :: segment) = t.follow [] segment := by
  rw [follow]
  rfl

/-- A name leads into a directory. -/
theorem follow_name_eq_ok_iff {rest : List (List Char)} (h : IsName name) :
    t.follow a (name.toList :: rest) = .ok b ↔
      t.isDirectoryAt a ∧ t.follow (a ++ [name]) rest = .ok b := by
  have hempty : name.toList.isEmpty = false := List.isEmpty_eq_false_iff.2 h.text_ne_nil
  have hhere : name.toList ≠ ['.'] := h.text_ne_dot
  have hup : name.toList ≠ ['.', '.'] := by
    intro hup
    have hsegment := h.ofSegment?
    rw [PathPart.text, hup] at hsegment
    cases hsegment
  rw [follow_cons_eq_ok_iff, hempty, String.ofList_toList]
  simp [hhere, hup]

theorem follow_names_eq_ok_iff (h : IsProper names) :
    t.follow a (names.map String.toList) = .ok b ↔
      b = a ++ names ∧ ∀ d, d <+: names → d ≠ names → t.isDirectoryAt (a ++ d) := by
  induction names generalizing a with
  | nil =>
    rw [List.map_nil, follow, Except.ok.injEq, List.append_nil, eq_comm]
    simp +contextual
  | cons name rest ih =>
    obtain ⟨hname, hrest⟩ := List.forall_mem_cons.1 h
    rw [List.map_cons, follow_name_eq_ok_iff hname, ih hrest, List.append_assoc, List.singleton_append]
    constructor
    · rintro ⟨ha, hb, haround⟩
      refine ⟨hb, fun d hd hne ↦ ?_⟩
      rcases List.prefix_cons_iff.1 hd with rfl | ⟨d, rfl, hrest⟩
      · rwa [List.append_nil]
      · rw [List.append_cons]
        exact haround d hrest (by simpa using hne)
    · rintro ⟨hb, haround⟩
      refine ⟨?_, hb, fun d hd hne ↦ ?_⟩
      · simpa using haround [] (List.nil_prefix) (by simp)
      · rw [List.append_assoc, List.singleton_append]
        exact haround (name :: d) ((List.prefix_cons_inj name).2 hd) (by simpa using hne)

theorem Reached.dropLast (h : t.Reached a) : t.Reached a.dropLast where
  isProper name hname := h.isProper name (List.dropLast_subset a hname)
  around d hd hne := by
    apply h.around d (hd.trans (List.dropLast_prefix a))
    rintro rfl
    exact hne (hd.eq_of_length (Nat.le_antisymm hd.length_le (List.dropLast_prefix d).length_le))

theorem Reached.concat (h : t.Reached a) (ha : t.isDirectoryAt a) (hname : IsName name) :
    t.Reached (a ++ [name]) where
  isProper := isProper_concat_iff.2 ⟨h.isProper, hname⟩
  around d hd hne := by
    have hprefix : d <+: a := (List.prefix_concat_iff.1 hd).resolve_left hne
    by_cases hda : d = a
    · rwa [hda]
    · exact h.around d hprefix hda

/-- Whatever is found on the way of a path is reached by names. -/
theorem reached_of_follow {segments : List (List Char)} (hslash : ∀ segment ∈ segments, '/' ∉ segment)
    (ha : t.Reached a) (h : t.follow a segments = .ok b) : t.Reached b := by
  induction segments generalizing a with
  | nil =>
    rw [follow, Except.ok.injEq] at h
    exact h ▸ ha
  | cons segment rest ih =>
    obtain ⟨hsegment, hrest⟩ := List.forall_mem_cons.1 hslash
    obtain ⟨hdirectory, hnext⟩ := follow_cons_eq_ok_iff.1 h
    split at hnext
    case isTrue => exact ih hrest ha hnext
    case isFalse hname =>
      rw [Bool.or_eq_true, not_or, beq_iff_eq] at hname
      split at hnext
      case isTrue => exact ih hrest ha.dropLast hnext
      case isFalse hup =>
        have hsegment' := isName_ofList hsegment hname.1 hname.2 (by simpa using hup)
        exact ih hrest (ha.concat hdirectory hsegment') hnext

/-! ## Finding by a path -/

theorem locate_eq_ok_iff : t.locate path = .ok l ↔ path ≠ "" ∧
    t.follow (if Path.isAbsolute path then [] else t.current)
      (Text.splitBy (· == '/') path.toList) = .ok l ∧ (t.node? l).isSome := by
  rw [locate]
  by_cases hempty : path = ""
  · subst hempty
    exact iff_of_false nofun (by simp)
  · have hisEmpty : path.isEmpty = false := by simpa using hempty
    rw [hisEmpty, if_neg Bool.false_ne_true]
    dsimp only
    rw [Except.bind_eq_ok_iff]
    constructor
    · rintro ⟨b, hfollow, hnode⟩
      split at hnode
      next hb =>
        cases hnode
        exact ⟨hempty, hfollow, by simp [hb]⟩
      next => cases hnode
    · rintro ⟨-, hfollow, hnode⟩
      obtain ⟨node, hnode⟩ := Option.isSome_iff_exists.1 hnode
      exact ⟨l, hfollow, by rw [hnode]; rfl⟩

theorem find_eq_ok_iff :
    t.find path = .ok (l, node) ↔ t.locate path = .ok l ∧ t.node? l = some node := by
  rw [find, Except.bind_eq_ok_iff]
  constructor
  · rintro ⟨b, hlocate, hnode⟩
    split at hnode
    next hb =>
      cases hnode
      exact ⟨hlocate, hb⟩
    next => cases hnode
  · rintro ⟨hlocate, hnode⟩
    exact ⟨l, hlocate, by rw [hnode]; rfl⟩

theorem isFile_iff : t.isFile path ↔ ∃ l bytes, t.find path = .ok (l, .file bytes) := by
  rw [isFile]
  split <;> simp_all

theorem reached_root (t : FileTree) : t.Reached [] where
  isProper := nofun
  around _ hd hne := absurd (List.prefix_nil.1 hd) hne

theorem reached_of_locate (hcurrent : ¬ Path.isAbsolute path → t.Reached t.current)
    (h : t.locate path = .ok l) : t.Reached l := by
  obtain ⟨-, hfollow, -⟩ := locate_eq_ok_iff.1 h
  refine reached_of_follow (fun segment ↦ Text.notMem_of_mem_splitBy) ?_ hfollow
  split
  · exact reached_root t
  · exact hcurrent ‹_›

theorem isAbsolute_pathOf (l : Location) : Path.isAbsolute (pathOf l) := by
  rw [Path.isAbsolute, toList_pathOf]
  rfl

/-- The working directory is reached if its own path leads there. -/
theorem reached_current (h : t.locate (pathOf t.current) = .ok t.current) : t.Reached t.current := by
  obtain ⟨-, hfollow, -⟩ := locate_eq_ok_iff.1 h
  rw [if_pos (isAbsolute_pathOf _)] at hfollow
  exact reached_of_follow (fun segment ↦ Text.notMem_of_mem_splitBy) (reached_root t) hfollow

theorem follow_pathOf (t : FileTree) (h : IsProper l) :
    t.follow [] (Text.splitBy (· == '/') (pathOf l).toList) = t.follow [] (l.map String.toList) := by
  have hsegments : Text.splitBy (· == '/') (pathOf l).toList =
      [] :: Text.splitBy (· == '/') (Text.join ['/'] (l.map String.toList)) := by
    rw [toList_pathOf, Text.splitBy, if_pos (by rfl)]
  rw [hsegments, follow_slash]
  cases l with
  | nil => exact follow_slash []
  | cons name rest => rw [Text.splitBy_join (by simp) (slash_notMem_texts h)]

/-- The path of a location leads nowhere else. -/
theorem find_pathOf_eq_ok_iff (h : IsProper l) :
    t.find (pathOf l) = .ok (b, node) ↔ b = l ∧ t.Reached l ∧ t.node? l = some node := by
  have hne : pathOf l ≠ "" := by
    rw [Ne, ← String.toList_inj, toList_pathOf]
    exact List.cons_ne_nil _ _
  rw [find_eq_ok_iff, locate_eq_ok_iff, if_pos (isAbsolute_pathOf l), follow_pathOf t h,
    follow_names_eq_ok_iff h]
  simp only [List.nil_append]
  constructor
  · rintro ⟨⟨-, ⟨rfl, haround⟩, -⟩, hnode⟩
    exact ⟨rfl, ⟨h, haround⟩, hnode⟩
  · rintro ⟨rfl, hreached, hnode⟩
    exact ⟨⟨hne, ⟨rfl, hreached.around⟩, by simp [hnode]⟩, hnode⟩

/-- There is a regular file at the location, and only directories around it. -/
def HoldsFile (t : FileTree) (l : Location) : Prop :=
  (∀ d, d <+: l → d ≠ l → t.isDirectoryAt d) ∧ ∃ bytes, t.node? l = some (.file bytes)

theorem find_pathOf_of_holdsFile (h : IsProper l) (hl : t.HoldsFile l) :
    ∃ bytes, t.node? l = some (.file bytes) ∧ t.find (pathOf l) = .ok (l, .file bytes) := by
  obtain ⟨haround, bytes, hnode⟩ := hl
  exact ⟨bytes, hnode, (find_pathOf_eq_ok_iff h).2 ⟨rfl, ⟨h, haround⟩, hnode⟩⟩

theorem isFile_pathOf_iff (h : IsProper l) : t.isFile (pathOf l) ↔ t.HoldsFile l := by
  rw [isFile_iff]
  constructor
  · rintro ⟨b, bytes, hfind⟩
    obtain ⟨-, hreached, hnode⟩ := (find_pathOf_eq_ok_iff h).1 hfind
    exact ⟨hreached.around, bytes, hnode⟩
  · intro hl
    obtain ⟨bytes, -, hfind⟩ := find_pathOf_of_holdsFile h hl
    exact ⟨l, bytes, hfind⟩

/-! ## Without a file -/

/-- The tree without what is at a location. -/
def remove (t : FileTree) (g : Location) : FileTree := { t with nodes := t.nodes.filter (·.1 != g) }

variable {g : Location} {bytes : ByteArray}

theorem lookup_filter_ne (nodes : List (Location × FileNode)) (g l : Location) :
    (nodes.filter (·.1 != g)).lookup l = if l = g then none else nodes.lookup l := by
  induction nodes with
  | nil => exact (ite_self none).symm
  | cons entry nodes ih =>
    obtain ⟨l', node⟩ := entry
    by_cases hentry : l' = g
    · subst hentry
      rw [List.filter_cons_of_neg (by simp), ih]
      split
      · rfl
      · rename_i hne
        rw [List.lookup_cons, beq_eq_false_iff_ne.2 hne]
    · rw [List.filter_cons_of_pos (by simpa using hentry), List.lookup_cons, List.lookup_cons, ih]
      by_cases hl : l = l'
      · subst hl
        rw [BEq.rfl]
        exact (if_neg hentry).symm
      · rw [beq_eq_false_iff_ne.2 hl]

theorem node?_remove (hg : t.node? g = some (.file bytes)) (l : Location) :
    (t.remove g).node? l = if l = g then none else t.node? l := by
  have hroot : g ≠ [] := by
    rintro rfl
    cases hg
  rw [node?, node?, remove]
  dsimp only
  rw [lookup_filter_ne]
  cases l with
  | nil => exact (if_neg hroot.symm).symm
  | cons name rest => rfl

theorem isDirectoryAt_remove (hg : t.node? g = some (.file bytes)) (l : Location) :
    (t.remove g).isDirectoryAt l ↔ t.isDirectoryAt l := by
  rw [isDirectoryAt_iff, isDirectoryAt_iff, node?_remove hg]
  by_cases hl : l = g
  · subst hl
    simp [hg]
  · rw [if_neg hl]

/-- No way leads through a file. -/
theorem follow_remove (hg : t.node? g = some (.file bytes)) (segments : List (List Char)) :
    (t.remove g).follow a segments = .ok b ↔ t.follow a segments = .ok b := by
  induction segments generalizing a with
  | nil => rfl
  | cons segment rest ih =>
    rw [follow_cons_eq_ok_iff, follow_cons_eq_ok_iff, isDirectoryAt_remove hg]
    split
    · rw [ih]
    · split
      · rw [ih]
      · rw [ih]

theorem locate_remove (hg : t.node? g = some (.file bytes)) :
    (t.remove g).locate path = .ok l ↔ t.locate path = .ok l ∧ l ≠ g := by
  have hcurrent : (t.remove g).current = t.current := rfl
  rw [locate_eq_ok_iff, locate_eq_ok_iff, hcurrent, follow_remove hg, node?_remove hg]
  by_cases hl : l = g <;> simp [hl]

theorem find_remove (hg : t.node? g = some (.file bytes)) :
    (t.remove g).find path = .ok (l, node) ↔ t.find path = .ok (l, node) ∧ l ≠ g := by
  rw [find_eq_ok_iff, find_eq_ok_iff, locate_remove hg, node?_remove hg]
  by_cases hl : l = g <;> simp [hl]

theorem isFile_remove (hg : t.node? g = some (.file bytes)) :
    (t.remove g).isFile path ↔ t.isFile path ∧ t.locate path ≠ .ok g := by
  rw [isFile_iff, isFile_iff]
  constructor
  · rintro ⟨l, bytes, hfind⟩
    obtain ⟨hfind, hl⟩ := (find_remove hg).1 hfind
    refine ⟨⟨l, bytes, hfind⟩, ?_⟩
    rw [(find_eq_ok_iff.1 hfind).1]
    exact fun hlocate ↦ hl (Except.ok.inj hlocate)
  · rintro ⟨⟨l, bytes, hfind⟩, hlocate⟩
    refine ⟨l, bytes, (find_remove hg).2 ⟨hfind, ?_⟩⟩
    rintro rfl
    exact hlocate (find_eq_ok_iff.1 hfind).1

theorem canonical?_eq_some_iff {absolute : String} :
    t.canonical? path = some absolute ↔ ∃ l, t.locate path = .ok l ∧ pathOf l = absolute := by
  rw [canonical?]
  cases t.locate path <;> simp

theorem canonical?_remove (hg : t.node? g = some (.file bytes)) (hpath : ¬ t.isFile path) :
    (t.remove g).canonical? path = t.canonical? path := by
  apply Option.ext
  intro absolute
  rw [canonical?_eq_some_iff, canonical?_eq_some_iff]
  simp only [locate_remove hg]
  constructor
  · rintro ⟨l, ⟨hlocate, -⟩, habsolute⟩
    exact ⟨l, hlocate, habsolute⟩
  · rintro ⟨l, hlocate, habsolute⟩
    refine ⟨l, ⟨hlocate, ?_⟩, habsolute⟩
    rintro rfl
    exact hpath (isFile_iff.2 ⟨l, bytes, find_eq_ok_iff.2 ⟨hlocate, hg⟩⟩)

end FileTree

end ReleaseAudit
