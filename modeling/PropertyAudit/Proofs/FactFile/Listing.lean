import PropertyAudit.Proofs.FactFile.Gathering

/-! The list of the fact files below a directory. It has each of them once and nothing else, and its order
is that of the names on the way, not of the texts of the paths. -/
namespace PropertyAudit

/-- A text is divided at its last separator. -/
theorem Text.splitLast?_eq_some_iff {separator : Char} {text before after : String} :
    splitLast? separator text = some (before, after) ↔
      text.toList = before.toList ++ separator :: after.toList ∧ separator ∉ after.toList := by
  constructor
  · intro split
    simp only [splitLast?] at split
    have whole := List.takeWhile_append_dropWhile (p := (· != separator)) (l := text.toList.reverse)
    cases rest : text.toList.reverse.dropWhile (· != separator) with
    | nil => simp [rest] at split
    | cons c backward =>
      have divides : c = separator := by
        have stopped := List.head?_dropWhile_not (· != separator) text.toList.reverse
        simpa [rest] using stopped
      subst divides
      rw [rest] at split whole
      obtain ⟨rfl, rfl⟩ := Prod.mk.inj (Option.some.inj split)
      constructor
      · rw [← List.reverse_inj]
        simpa using whole.symm
      · simp only [String.toList_ofList, List.mem_reverse]
        intro member
        simpa using List.all_eq_true.mp List.all_takeWhile _ member
  · rintro ⟨whole, absent⟩
    have passed : ∀ c ∈ after.toList.reverse, (c != separator) = true := by
      intro c member
      rw [bne_iff_ne]
      rintro rfl
      exact absent (List.mem_reverse.mp member)
    have backward : text.toList.reverse = after.toList.reverse ++ separator :: before.toList.reverse := by
      simp [whole]
    simp [splitLast?, backward, List.dropWhile_append_of_pos passed, List.takeWhile_append_of_pos passed]

namespace Disk

variable {disk : Disk} {path : Path} {node : Node} {names : List String}

/-- The path leads to the node and paths below it to all that is below, and directories can be listed, so
that nothing in the tree is out of reach. -/
def Reaches (disk : Disk) (path : Path) (node : Node) : Prop :=
  ∀ names child, node.get? names = some child → disk.node (path.below names) = .ok child ∧
    ∀ entries, child = .directory entries → disk.list (path.below names) = .ok entries

theorem reaches_file {content : List UInt8} (found : disk.node path = .ok (.file content)) :
    disk.Reaches path (.file content) := by
  intro names child there
  cases names with
  | nil =>
    obtain rfl := Option.some.inj ((Node.get?_nil _).symm.trans there)
    exact ⟨found, nofun⟩
  | cons => cases there

theorem reaches_directory {entries : List (String × Node)} (listed : disk.list path = .ok entries)
    (further : ∀ entry ∈ entries, disk.Reaches (path.join entry.1) entry.2) :
    disk.Reaches path (.directory entries) := by
  intro names child there
  cases names with
  | nil =>
    obtain rfl := Option.some.inj ((Node.get?_nil _).symm.trans there)
    refine ⟨node_of_opened (list_eq_ok_iff.mp listed), ?_⟩
    rintro _ ⟨⟩
    exact listed
  | cons name names =>
    rw [Node.get?] at there
    split at there
    · next entry among =>
      obtain ⟨before, after, rfl, -⟩ := List.lookup_eq_some_iff.mp among
      exact further (name, entry) (by simp) names child there
    · cases there

/-- A directory, all of which can be reached, with entries under names that are distinct and can stand in
paths. -/
structure ReadableDirectory (disk : Disk) (path : Path) (entries : List (String × Node)) : Prop where
  sound : (Node.directory entries).WellNamed
  reached : disk.Reaches path (.directory entries)

theorem Reaches.node_eq (readable : disk.Reaches path node) : disk.node path = .ok node :=
  (readable [] node (Node.get?_nil node)).1

theorem Reaches.isFile_below (readable : disk.Reaches path node)
    (named : ∀ name ∈ names, Path.IsName name) :
    disk.isFile (path.below names) ↔ ∃ content, node.HoldsFile names content := by
  rw [isFile_iff]
  refine exists_congr fun content => ⟨get?_of_node_below readable.node_eq named, fun held => ?_⟩
  exact (readable names _ held).1

end Disk

namespace FactFile

/-- What comes before the extension is not empty: a name may begin with a dot, but not with that of the
extension. -/
theorem isFactFileName_iff {name : String} :
    isFactFileName name ↔ ∃ stem, stem ≠ "" ∧ name = stem ++ ".json" := by
  have divided (stem : String) :
      Text.splitLast? '.' name = some (stem, "json") ↔ name = stem ++ ".json" := by
    rw [Text.splitLast?_eq_some_iff, ← String.toList_inj]
    simp
  simp only [← divided]
  unfold isFactFileName Path.extension?
  cases Text.splitLast? '.' name with
  | none => simp
  | some parts =>
    obtain ⟨before, after⟩ := parts
    by_cases empty : before = "" <;> simp [empty]

example : isFactFileName "..json" ∧ ¬isFactFileName ".json" := by decide +kernel

theorem isExcluded_iff {name : String} : isExcluded name ↔ name ∈ excludedDirectories :=
  List.contains_iff_mem

/-- A root is excluded by its own name. One without such a name, as `.` is, is entered. -/
theorem isExcluded_rootName {root : Path} :
    isExcluded (rootName root) ↔ ∃ name, root.fileName? = some name ∧ isExcluded name := by
  cases own : root.fileName? with
  | some name => simp [rootName, own]
  | none =>
    simp only [rootName, own, Option.getD_none, reduceCtorEq, false_and, exists_false, iff_false]
    intro excluded
    obtain ⟨text⟩ := root
    have word : text ∈ excludedDirectories := isExcluded_iff.mp excluded
    have each : ∀ text ∈ excludedDirectories, (Path.mk text).fileName? ≠ none := by decide +kernel
    exact each text word own

theorem nodup_of_ascending {paths : List Path} (ascending : paths.Pairwise fun a b => a.names < b.names) :
    paths.Nodup := by
  refine ascending.imp fun {a b} before => ?_
  rintro rfl
  exact List.lt_irrefl _ before

/-- Paths in ascending order come back from any order by sorting. -/
theorem sorted_eq_of_perm {paths visited : List Path} (same : visited.Perm paths)
    (ascending : paths.Pairwise fun a b => a.names < b.names) :
    (visited.mergeSort fun a b => !(b.names < a.names)) = paths := by
  have distinct : (visited.map Path.names).Nodup := by
    rw [(same.map Path.names).nodup_iff, List.nodup_iff_pairwise_ne, List.pairwise_map]
    refine ascending.imp fun {a b} before (equal : a.names = b.names) => ?_
    exact List.lt_irrefl _ (equal ▸ before)
  exact eq_of_perm_of_ascending ((List.mergeSort_perm _ _).trans same) (ascending_sorted_by distinct)
    ascending

/-- A regular file below the root with the extension of fact files, where no directory on the way has one of
the excluded names. Of the root, the last name in its path counts; there is none in `.` or `/`. -/
def IsFactFileBelow (disk : Disk) (root path : Path) : Prop :=
  ∃ directories stem, path = root.below (directories ++ [stem ++ ".json"]) ∧
    (∀ name ∈ directories ++ [stem ++ ".json"], Path.IsName name) ∧
    disk.isFile path ∧ stem ≠ "" ∧
    ∀ directory ∈ root.fileName?.toList ++ directories,
      directory ∉ ["target", ".git", "node_modules", "vendor"]

section

variable {disk other : Disk} {root path : Path} {entries others : List (String × Node)}

/-- The paths that are gathered where no directory fails to be listed. -/
def pathsBelow (disk : Disk) (root : Path) (entries : List (String × Node)) : List Path :=
  (gathered disk root (inOrder (visitedFrom (.directory entries)))).map root.below

theorem gather_of_readable (readable : disk.ReadableDirectory root entries)
    (entered : ¬isExcluded (rootName root)) : gather disk root = .ok (pathsBelow disk root entries) := by
  have passed : forM (inOrder (visitedFrom (.directory entries))) (enter disk root) = .ok () := by
    refine forM_eq_ok fun visited member => ?_
    obtain ⟨location, file⟩ := visited
    obtain ⟨⟨child, found, rfl⟩, -⟩ :=
      (mem_visitedFrom readable.sound).mp (mem_inOrder.mp member)
    cases child with
    | file content => rfl
    | directory others =>
      have listed := (readable.reached location _ found).2 others rfl
      simp only [Node.isFile, enter_directory, listed]
      rfl
  rw [gather_of_directory readable.reached.node_eq entered, passed]
  rfl

theorem mem_pathsBelow (readable : disk.ReadableDirectory root entries)
    (entered : ¬isExcluded (rootName root)) :
    path ∈ pathsBelow disk root entries ↔ IsFactFileBelow disk root path := by
  simp only [pathsBelow, List.mem_map, mem_gathered_inOrder,
    mem_gathered readable.sound readable.reached.node_eq]
  constructor
  · rintro ⟨names, ⟨⟨directories, name, rfl, notExcluded, isFactFile⟩, isFile, content, found⟩, rfl⟩
    obtain ⟨stem, notEmpty, rfl⟩ := isFactFileName_iff.mp isFactFile
    have named := readable.sound.isName (Option.isSome_of_eq_some found)
    refine ⟨directories, stem, rfl, named, isFile, notEmpty, ?_⟩
    intro directory among word
    have excluded : isExcluded directory := isExcluded_iff.mpr word
    rcases List.mem_append.mp among with own | member
    · exact entered (isExcluded_rootName.mpr ⟨directory, Option.mem_toList.mp own, excluded⟩)
    · exact notExcluded directory member excluded
  · rintro ⟨directories, stem, rfl, named, isFile, notEmpty, apart⟩
    refine ⟨_, ⟨⟨directories, _, rfl, ?_, ?_⟩, isFile,
      (readable.reached.isFile_below named).mp isFile⟩, rfl⟩
    · intro directory member excluded
      exact apart directory (List.mem_append_right _ member) (isExcluded_iff.mp excluded)
    · exact isFactFileName_iff.mpr ⟨stem, notEmpty, rfl⟩

/-- The order of the locations is that of the names in their paths. -/
theorem ascending_pathsBelow (readable : disk.ReadableDirectory root entries) :
    (pathsBelow disk root entries).Pairwise fun a b => a.names < b.names := by
  have present := Disk.text_ne_of_node readable.reached.node_eq
  have named : ∀ visited ∈ inOrder (visitedFrom (.directory entries)),
      ∀ name ∈ visited.location, Path.IsName name := by
    rintro ⟨location, file⟩ member
    obtain ⟨⟨child, found, -⟩, -⟩ :=
      (mem_visitedFrom readable.sound).mp (mem_inOrder.mp member)
    exact readable.sound.isName (Option.isSome_of_eq_some found)
  rw [pathsBelow, gathered, List.pairwise_map, List.pairwise_map]
  refine List.Pairwise.filter _ ((ascending_inOrder (nodup_locations readable.sound)).imp_of_mem
    fun {a b} here there before => ?_)
  rw [Path.names_below present (named a here), Path.names_below present (named b there)]
  exact List.append_left_lt before

theorem gather_of_excluded (readable : disk.ReadableDirectory root entries)
    (excluded : isExcluded (rootName root)) :
    gather disk root = .ok [] ∧ ∀ path, ¬IsFactFileBelow disk root path := by
  constructor
  · rw [gather, readable.reached.node_eq]
    simp only [excluded, if_true]
  · rintro path ⟨directories, stem, -, -, -, -, apart⟩
    obtain ⟨name, own, word⟩ := isExcluded_rootName.mp excluded
    exact apart name (by simp [own]) (isExcluded_iff.mp word)

/-- Directories with the same files at the same locations have the same paths gathered, in whatever
order their entries come. -/
theorem pathsBelow_congr (readable : disk.ReadableDirectory root entries)
    (alsoReadable : other.ReadableDirectory root others) (entered : ¬isExcluded (rootName root))
    (same : ∀ names content, (Node.directory others).HoldsFile names content ↔
      (Node.directory entries).HoldsFile names content) :
    pathsBelow other root others = pathsBelow disk root entries := by
  have isFactFile (path : Path) : IsFactFileBelow other root path ↔ IsFactFileBelow disk root path := by
    refine exists_congr fun directories => exists_congr fun stem => and_congr_right ?_
    rintro rfl
    refine and_congr_right fun named => and_congr_left' ?_
    rw [alsoReadable.reached.isFile_below named, readable.reached.isFile_below named]
    simp only [same]
  refine eq_of_perm_of_ascending ?_ (ascending_pathsBelow alsoReadable) (ascending_pathsBelow readable)
  rw [List.perm_ext_iff_of_nodup (nodup_of_ascending (ascending_pathsBelow alsoReadable))
    (nodup_of_ascending (ascending_pathsBelow readable))]
  intro path
  rw [mem_pathsBelow alsoReadable entered, mem_pathsBelow readable entered, isFactFile]

end

/-- Below a directory all of which can be read, exactly the fact files are gathered, in strictly ascending
order of the names on the way, so that none comes twice. Neither the order in which files are found matters
nor that in which directories have their entries. A root that is a file is gathered alone, whatever its
name. -/
theorem gather_lists_fact_files_in_order :
    (∀ disk root entries, disk.ReadableDirectory root entries →
      ∃ paths, gather disk root = .ok paths ∧ paths.Nodup ∧
        paths.Pairwise (fun a b => a.names < b.names) ∧
        (∀ path, path ∈ paths ↔ IsFactFileBelow disk root path) ∧
        ∀ visited : List Path, visited.Perm paths →
          (visited.mergeSort fun a b => !(b.names < a.names)) = paths) ∧
    (∀ disk other root entries others, disk.ReadableDirectory root entries →
      other.ReadableDirectory root others →
      (∀ names content, (Node.directory others).HoldsFile names content ↔
        (Node.directory entries).HoldsFile names content) →
      gather other root = gather disk root) ∧
    ∀ disk root, disk.isFile root → gather disk root = .ok [root] := by
  refine ⟨fun disk root entries readable => ?_,
    fun disk other root entries others readable alsoReadable same => ?_, fun disk root isFile => ?_⟩
  · by_cases entered : isExcluded (rootName root)
    · obtain ⟨gathered, none⟩ := gather_of_excluded readable entered
      exact ⟨[], gathered, .nil, .nil, fun path => by simp [none path],
        fun visited same => sorted_eq_of_perm same .nil⟩
    · have ascending := ascending_pathsBelow readable
      exact ⟨_, gather_of_readable readable entered, nodup_of_ascending ascending, ascending,
        fun path => mem_pathsBelow readable entered,
        fun visited same => sorted_eq_of_perm same ascending⟩
  · by_cases entered : isExcluded (rootName root)
    · rw [(gather_of_excluded alsoReadable entered).1, (gather_of_excluded readable entered).1]
    · rw [gather_of_readable alsoReadable entered, gather_of_readable readable entered,
        pathsBelow_congr readable alsoReadable entered same]
  · obtain ⟨content, found⟩ := Disk.isFile_iff.mp isFile
    rw [gather, found]

/-- An excluded directory, and a directory before a file whose path comes first as a text. -/
theorem gather_lists_fact_files_of_nested_directory :
    let kept : String × Node := ("b", .directory [("..json", .file [])])
    let left : String × Node := ("target", .directory [("c.json", .file [])])
    let plain : String × Node := ("b.json", .file [])
    let disk : Disk := ⟨.directory [("facts", .directory [plain, left, kept])], [], []⟩
    let other : Disk := ⟨.directory [("facts", .directory [kept, plain, left])], [], []⟩
    let root : Path := ⟨"facts"⟩
    let paths : List Path := [⟨"facts/b/..json"⟩, ⟨"facts/b.json"⟩]
    gather disk root = .ok paths ∧ (∀ path, path ∈ paths ↔ IsFactFileBelow disk root path) ∧
      (paths.reverse.mergeSort fun a b => !(b.names < a.names)) = paths ∧
      gather other root = gather disk root ∧
      gather disk ⟨"facts/target/c.json"⟩ = .ok [⟨"facts/target/c.json"⟩] := by
  intro kept left plain disk other root paths
  have file (disk : Disk) (names : List String)
      (located : disk.locate (root.below names) = .ok ("facts" :: names))
      (there : disk.root.get? ("facts" :: names) = some (.file [])) :
      disk.Reaches (root.below names) (.file []) :=
    Disk.reaches_file (Disk.node_of_locate located there)
  have folder (disk : Disk) (names : List String) (entries : List (String × Node))
      (located : disk.locate (root.below names) = .ok ("facts" :: names))
      (there : disk.root.get? ("facts" :: names) = some (.directory entries))
      (opens : disk.refusal? ("facts" :: names) = none) :
      (∀ entry ∈ entries, disk.Reaches (root.below (names ++ [entry.1])) entry.2) →
        disk.Reaches (root.below names) (.directory entries) := by
    intro further
    have opened : disk.opened (root.below names) = .ok (.directory entries) := by
      rw [Disk.opened_of_locate located there, opens]
      rfl
    refine Disk.reaches_directory (Disk.list_eq_ok_iff.mpr opened) fun entry member => ?_
    simpa [Path.below] using further entry member
  have sound : ∀ entry ∈ [plain, left, kept], Path.IsName entry.1 ∧ entry.2.WellNamed := by
    have single (name : String) (named : Path.IsName name) :
        (Node.directory [(name, .file [])]).WellNamed :=
      Node.wellNamed_directory (List.nodup_singleton name) <|
        List.forall_mem_singleton.mpr ⟨named, Node.wellNamed_file []⟩
    simp only [List.forall_mem_cons, List.not_mem_nil, false_imp_iff, implies_true, and_true]
    exact ⟨⟨by decide, Node.wellNamed_file []⟩, ⟨by decide, single "c.json" (by decide)⟩, by decide,
      single "..json" (by decide)⟩
  have readable : disk.ReadableDirectory root [plain, left, kept] := by
    refine ⟨Node.wellNamed_directory (by decide) sound, folder disk [] _ (by decide +kernel) rfl rfl ?_⟩
    simp only [List.forall_mem_cons, List.not_mem_nil, false_imp_iff, implies_true, and_true]
    refine ⟨file disk ["b.json"] (by decide +kernel) rfl,
      folder disk ["target"] _ (by decide +kernel) rfl rfl (List.forall_mem_singleton.mpr ?_),
      folder disk ["b"] _ (by decide +kernel) rfl rfl (List.forall_mem_singleton.mpr ?_)⟩
    · exact file disk ["target", "c.json"] (by decide +kernel) rfl
    · exact file disk ["b", "..json"] (by decide +kernel) rfl
  have alsoReadable : other.ReadableDirectory root [kept, plain, left] := by
    have alsoSound : ∀ entry ∈ [kept, plain, left], Path.IsName entry.1 ∧ entry.2.WellNamed := by
      simp only [List.forall_mem_cons, List.not_mem_nil, false_imp_iff, implies_true, and_true] at sound ⊢
      exact ⟨sound.2.2, sound.1, sound.2.1⟩
    refine ⟨Node.wellNamed_directory (by decide) alsoSound, folder other [] _ (by decide +kernel) rfl rfl ?_⟩
    simp only [List.forall_mem_cons, List.not_mem_nil, false_imp_iff, implies_true, and_true]
    refine ⟨folder other ["b"] _ (by decide +kernel) rfl rfl (List.forall_mem_singleton.mpr ?_),
      file other ["b.json"] (by decide +kernel) rfl,
      folder other ["target"] _ (by decide +kernel) rfl rfl (List.forall_mem_singleton.mpr ?_)⟩
    · exact file other ["b", "..json"] (by decide +kernel) rfl
    · exact file other ["target", "c.json"] (by decide +kernel) rfl
  have same (names : List String) (content : List UInt8) :
      (Node.directory [kept, plain, left]).HoldsFile names content ↔
        (Node.directory [plain, left, kept]).HoldsFile names content := by
    have sameEntry (name : String) : [kept, plain, left].lookup name = [plain, left, kept].lookup name := by
      simp only [kept, plain, left, List.lookup_cons, List.lookup_nil]
      cases first : name == "b" <;> cases second : name == "b.json" <;> simp_all
    cases names with
    | nil => simp [Node.HoldsFile]
    | cons name names => rw [Node.HoldsFile, Node.HoldsFile, Node.get?, Node.get?, sameEntry]
  have gathered : gather disk root = .ok paths := by
    have sorted : inOrder (visitedFrom (.directory [plain, left, kept])) =
        [⟨[], false⟩, ⟨["b"], false⟩, ⟨["b", "..json"], true⟩, ⟨["b.json"], true⟩] :=
      eq_of_perm_of_ascending ((inOrder_perm _).trans (by decide +kernel))
        (ascending_inOrder (by decide +kernel)) (by decide +kernel)
    rw [gather_of_readable readable (by decide +kernel), pathsBelow, sorted]
    exact congrArg Except.ok (by decide +kernel)
  obtain ⟨lists, orderless, alone⟩ := gather_lists_fact_files_in_order
  obtain ⟨listed, gatheredToo, -, -, exactly, sorts⟩ := lists disk root _ readable
  have these : listed = paths := Except.ok.inj (gatheredToo.symm.trans gathered)
  rw [these] at exactly sorts
  exact ⟨gathered, exactly, sorts _ (List.reverse_perm paths),
    orderless disk other root _ _ readable alsoReadable same, alone disk _ (by decide +kernel)⟩

end FactFile
end PropertyAudit
