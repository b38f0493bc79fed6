import Mathlib.Data.List.Nodup
import PropertyAudit.FactFile.Gather
import PropertyAudit.Proofs.Disk.Locations
import PropertyAudit.Proofs.Results

/-! What a walk below a directory comes upon, each node of it once, and which of it is gathered. -/
namespace PropertyAudit

/-- Induction where a directory may assume the claim for each of its entries. -/
@[elab_as_elim]
theorem Node.inductEntries {motive : Node → Prop} (file : ∀ content, motive (.file content))
    (directory : ∀ entries, (∀ entry ∈ entries, motive entry.2) → motive (.directory entries)) :
    ∀ node, motive node
  | .file content => file content
  | .directory entries => directory entries fun (_, child) _ => inductEntries file directory child
decreasing_by
  have smaller := List.sizeOf_lt_of_mem ‹_ ∈ entries›
  simp_wf
  simp at smaller
  omega

theorem Node.WellNamed.of_entry {entries : List (String × Node)} {entry : String × Node}
    (sound : (Node.directory entries).WellNamed) (member : entry ∈ entries) :
    entries.lookup entry.1 = some entry.2 ∧ entry.2.WellNamed := by
  have there : entries.lookup entry.1 = some entry.2 := by
    have distinct := (sound [] entries rfl).1
    obtain ⟨before, after, rfl⟩ := List.append_of_mem member
    rw [List.map_append, List.map_cons, List.nodup_middle, List.nodup_cons, List.mem_append] at distinct
    refine List.lookup_eq_some_iff.mpr ⟨before, after, rfl, fun other earlier => ?_⟩
    rw [bne_iff_ne]
    exact fun same => distinct.1 (.inl (same ▸ List.mem_map_of_mem earlier))
  have here : (Node.directory entries).get? [entry.1] = some entry.2 := by simp [get?, there]
  exact ⟨there, sound.of_get? here⟩

/-- Below a file there is nothing. -/
theorem Node.isFile_iff_of_get? {node child : Node} {names : List String}
    (found : node.get? names = some child) : node.isFile ↔ child.isFile ∧ names = [] := by
  cases node with
  | file content =>
    cases names with
    | nil => simp [← Option.some.inj ((get?_nil _).symm.trans found), isFile]
    | cons => cases found
  | directory entries =>
    cases names with
    | nil => simp [← Option.some.inj ((get?_nil _).symm.trans found), isFile]
    | cons => simp [isFile]

namespace FactFile

def Visited.directories (visited : Visited) : List String :=
  if visited.isFile then visited.location.dropLast else visited.location

theorem Visited.mem_directories_cons {name directory : String} {names : List String} {file : Bool} :
    directory ∈ (Visited.mk (name :: names) file).directories ↔
      ¬(file ∧ names = []) ∧ directory = name ∨ directory ∈ (Visited.mk names file).directories := by
  cases file with
  | false => simp [directories]
  | true => cases names <;> simp [directories]

def visitedVia (name : String) (child : Node) : List Visited :=
  if !child.isFile && isExcluded name then [] else (visitedFrom child).map (.below name)

theorem visitedFrom_directory (entries : List (String × Node)) :
    visitedFrom (.directory entries) =
      ⟨[], false⟩ :: entries.flatMap fun entry => visitedVia entry.1 entry.2 := by
  rw [visitedFrom]
  congr 1
  induction entries with
  | nil => simp [visitedAmong]
  | cons entry entries ih => rw [visitedAmong, ih, List.flatMap_cons, visitedVia]

theorem mem_visitedVia {name : String} {child : Node} {location : List String} {file : Bool} :
    ⟨location, file⟩ ∈ visitedVia name child ↔ ∃ names, location = name :: names ∧
      (¬child.isFile → ¬isExcluded name) ∧ ⟨names, file⟩ ∈ visitedFrom child := by
  have member : ⟨location, file⟩ ∈ (visitedFrom child).map (Visited.below name) ↔
      ∃ names, location = name :: names ∧ ⟨names, file⟩ ∈ visitedFrom child := by
    rw [List.mem_map]
    constructor
    · rintro ⟨⟨names, kind⟩, further, ⟨⟩⟩
      exact ⟨names, rfl, further⟩
    · rintro ⟨names, rfl, further⟩
      exact ⟨⟨names, file⟩, further, rfl⟩
  unfold visitedVia
  cases child.isFile <;> cases isExcluded name <;> simp [member]

/-- A walk comes upon a node exactly when no excluded directory lies on the way. -/
theorem mem_visitedFrom {node : Node} (sound : node.WellNamed) {location : List String} {file : Bool} :
    ⟨location, file⟩ ∈ visitedFrom node ↔
      (∃ child, node.get? location = some child ∧ child.isFile = file) ∧
        ∀ directory ∈ (Visited.mk location file).directories, ¬isExcluded directory := by
  induction node using Node.inductEntries generalizing location with
  | file content =>
    cases location with
    | nil =>
      have way : (Visited.mk [] file).directories = [] := by cases file <;> rfl
      simp [visitedFrom, way, Node.isFile]
    | cons name names => simp [visitedFrom, Node.get?]
  | directory entries ih =>
    rw [visitedFrom_directory, List.mem_cons, List.mem_flatMap]
    simp only [mem_visitedVia]
    cases location with
    | nil =>
      have way : (Visited.mk [] file).directories = [] := by cases file <;> rfl
      simp [way, Node.isFile]
    | cons name names =>
      rw [Node.get?]
      constructor
      · rintro (⟨⟨⟩⟩ | ⟨⟨_, entry⟩, member, _, ⟨⟩, entered, further⟩)
        obtain ⟨there, childSound⟩ := sound.of_entry member
        obtain ⟨⟨child, found, kind⟩, apart⟩ := (ih _ member childSound).mp further
        refine ⟨⟨child, by rwa [there], kind⟩, fun directory way => ?_⟩
        rcases Visited.mem_directories_cons.mp way with ⟨inside, rfl⟩ | onward
        · refine entered fun file => inside ?_
          rwa [← kind, ← Node.isFile_iff_of_get? found]
        · exact apart directory onward
      · rintro ⟨⟨child, found, kind⟩, apart⟩
        split at found
        · next entry there =>
          obtain ⟨before, after, same, -⟩ := List.lookup_eq_some_iff.mp there
          have member : (name, entry) ∈ entries := by simp [same]
          refine .inr ⟨_, member, _, rfl, fun inside => ?_, ?_⟩
          · refine apart name (Visited.mem_directories_cons.mpr (.inl ⟨fun file => inside ?_, rfl⟩))
            rwa [← kind, ← Node.isFile_iff_of_get? found] at file
          · refine (ih _ member (sound.of_entry member).2).mpr ⟨⟨child, found, kind⟩, ?_⟩
            exact fun directory onward => apart directory (Visited.mem_directories_cons.mpr (.inr onward))
        · cases found

/-- The same, told of the disk below a directory of which the walk is. -/
theorem mem_visitedFrom_at {disk : Disk} (sound : disk.root.WellNamed) {above location : List String}
    {entries : List (String × Node)} (here : disk.root.get? above = some (.directory entries)) {file : Bool} :
    ⟨location, file⟩ ∈ visitedFrom (.directory entries) ↔
      (∃ child, disk.root.get? (above ++ location) = some child ∧ child.isFile = file) ∧
        ∀ directory ∈ (Visited.mk location file).directories, ¬isExcluded directory := by
  rw [mem_visitedFrom (sound.of_get? here), Node.get?_append, here]
  rfl

theorem nodup_visitedFrom {node : Node} (sound : node.WellNamed) : (visitedFrom node).Nodup := by
  induction node using Node.inductEntries with
  | file content => simp [visitedFrom]
  | directory entries ih =>
    rw [visitedFrom_directory, List.nodup_cons, List.nodup_flatMap]
    refine ⟨?_, ?_, ?_⟩
    · simp [mem_visitedVia]
    · rintro ⟨name, child⟩ member
      unfold visitedVia
      split
      · exact .nil
      · refine (ih _ member (sound.of_entry member).2).map fun a b same => ?_
        obtain ⟨location, file⟩ := Visited.mk.inj same
        cases a
        cases b
        exact congrArg₂ Visited.mk (List.cons.inj location).2 file
    · have distinct := (sound [] entries rfl).1
      rw [List.nodup_iff_pairwise_ne, List.pairwise_map] at distinct
      refine distinct.imp fun {a b} different => ?_
      rintro ⟨location, file⟩ here there
      obtain ⟨names, rfl, -⟩ := mem_visitedVia.mp here
      obtain ⟨others, same, -⟩ := mem_visitedVia.mp there
      exact different (List.cons.inj same).1

/-- No location is come upon twice. -/
theorem nodup_locations {node : Node} (sound : node.WellNamed) :
    ((visitedFrom node).map (·.location)).Nodup := by
  refine (nodup_visitedFrom sound).map_on ?_
  rintro ⟨location, file⟩ here ⟨_, kind⟩ there ⟨⟩
  obtain ⟨⟨child, found, rfl⟩, -⟩ := (mem_visitedFrom sound).mp here
  obtain ⟨⟨other, alsoFound, rfl⟩, -⟩ := (mem_visitedFrom sound).mp there
  rw [Option.some.inj (found.symm.trans alsoFound)]

/-- Sorting by names leaves nothing before what it has to follow. -/
theorem ascending_sorted_by {names : α → List String} {items : List α}
    (distinct : (items.map names).Nodup) :
    (items.mergeSort fun a b => !(names b < names a)).Pairwise fun a b => names a < names b := by
  have sorted : (items.mergeSort fun a b => !(names b < names a)).Pairwise fun a b =>
      !decide (names b < names a) := by
    apply List.pairwise_mergeSort
    · intro a b c
      simp only [Bool.not_eq_true', decide_eq_false_iff_not, List.not_lt]
      exact List.le_trans
    · intro a b
      simp only [Bool.or_eq_true, Bool.not_eq_true', decide_eq_false_iff_not, List.not_lt]
      exact List.le_total (names a) (names b)
  have reordered := List.mergeSort_perm items fun a b => !(names b < names a)
  have apart := (reordered.map names).nodup_iff.mpr distinct
  rw [List.nodup_iff_pairwise_ne, List.pairwise_map] at apart
  refine (sorted.and apart).imp fun {a b} ⟨notAfter, different⟩ => ?_
  simp only [Bool.not_eq_true', decide_eq_false_iff_not, List.not_lt] at notAfter
  by_contra notBefore
  exact different (List.le_antisymm notAfter (List.not_lt.mp notBefore))

/-- The same items in ascending order of names are the same list. -/
theorem eq_of_perm_of_ascending {names : α → List String} {items others : List α} (same : items.Perm others)
    (ascending : items.Pairwise fun a b => names a < names b)
    (alsoAscending : others.Pairwise fun a b => names a < names b) : items = others := by
  refine same.eq_of_pairwise (fun a b _ _ before after => ?_) ascending alsoAscending
  exact absurd after (List.lt_asymm before)

theorem inOrder_perm (visited : List Visited) : (inOrder visited).Perm visited :=
  List.mergeSort_perm visited _

theorem mem_inOrder {visited : Visited} {all : List Visited} : visited ∈ inOrder all ↔ visited ∈ all :=
  (inOrder_perm all).mem_iff

theorem ascending_inOrder {visited : List Visited} (distinct : (visited.map (·.location)).Nodup) :
    (inOrder visited).Pairwise fun a b => a.location < b.location :=
  ascending_sorted_by distinct

/-- To leave out visits before or after sorting is the same. -/
theorem filter_inOrder {all some : List Visited} {kept : Visited → Bool}
    (distinct : (all.map (·.location)).Nodup) (same : (all.filter kept).Perm some) :
    (inOrder all).filter kept = inOrder some := by
  have alsoDistinct : (some.map (·.location)).Nodup :=
    ((same.map _).nodup_iff).mp (distinct.sublist (List.filter_sublist.map _))
  refine eq_of_perm_of_ascending (((inOrder_perm all).filter kept).trans (same.trans (inOrder_perm some).symm))
    ((ascending_inOrder distinct).filter kept) (ascending_inOrder alsoDistinct)

/-- A location whose last name is that of a fact file, below directories none of which is excluded. -/
def IsGathered (names : List String) : Prop :=
  ∃ directories name, names = directories ++ [name] ∧
    (∀ directory ∈ directories, ¬isExcluded directory) ∧ isFactFileName name

def gathered (disk : Disk) (root : Path) (visited : List Visited) : List (List String) :=
  (visited.filter fun visited => isFactFile disk (visited.path root)).map (·.location)

theorem nodup_gathered (disk : Disk) (root : Path) {visited : List Visited}
    (distinct : (visited.map (·.location)).Nodup) : (gathered disk root visited).Nodup :=
  distinct.sublist (List.filter_sublist.map _)

theorem mem_gathered_inOrder {disk : Disk} {root : Path} {all : List Visited} {names : List String} :
    names ∈ gathered disk root (inOrder all) ↔ names ∈ gathered disk root all :=
  (((inOrder_perm all).filter _).map _).mem_iff

section

variable {disk : Disk} {root : Path} {entries : List (String × Node)} {names : List String}

theorem gather_of_directory (found : disk.node root = .ok (.directory entries))
    (entered : ¬isExcluded (rootName root)) :
    gather disk root = (forM (inOrder (visitedFrom (.directory entries))) (enter disk root)).map fun _ =>
      (gathered disk root (inOrder (visitedFrom (.directory entries)))).map root.below := by
  rw [gather, found]
  simp only [entered, gathered, List.filter_map, List.map_map]
  rfl

@[simp] theorem enter_directory : enter disk root ⟨names, false⟩ =
    ((disk.list (root.below names)).map fun _ => ()).mapError (.unreadable (root.below names)) := rfl

theorem fileName?_below {directories : List String} {name : String} (present : root.text ≠ "")
    (named : ∀ each ∈ directories ++ [name], Path.IsName each) :
    (root.below (directories ++ [name])).fileName? = some name := by
  have notAbove : name ≠ ".." := (named name (by simp)).notAbove
  rw [Path.fileName?, Path.names_below present named, ← List.append_assoc, List.getLast?_concat]
  split
  · next same => exact absurd (Option.some.inj same) notAbove
  · rfl

/-- Of a directory the fact files are gathered that its paths lead to. -/
theorem mem_gathered (sound : (Node.directory entries).WellNamed)
    (found : disk.node root = .ok (.directory entries)) :
    names ∈ gathered disk root (visitedFrom (.directory entries)) ↔
      IsGathered names ∧ disk.isFile (root.below names) ∧
        ∃ content, (Node.directory entries).HoldsFile names content := by
  have present := Disk.text_ne_of_node found
  simp only [gathered, List.mem_map, List.mem_filter, isFactFile, Bool.and_eq_true]
  constructor
  · rintro ⟨⟨names, file⟩, ⟨member, isFile, isFact⟩, rfl⟩
    obtain ⟨⟨child, there, kind⟩, apart⟩ := (mem_visitedFrom sound).mp member
    have named := sound.isName (Option.isSome_of_eq_some there)
    obtain ⟨content, reached⟩ := Disk.isFile_iff.mp isFile
    have held := Disk.get?_of_node_below found named reached
    obtain rfl : file = true := by
      rw [← kind, Option.some.inj (there.symm.trans held)]
      rfl
    refine ⟨?_, isFile, content, held⟩
    rcases List.eq_nil_or_concat' names with rfl | ⟨directories, name, rfl⟩
    · cases held
    · rw [Visited.path, ← Path.below, fileName?_below present named] at isFact
      exact ⟨directories, name, rfl, by simpa [Visited.directories] using apart, by simpa using isFact⟩
  · rintro ⟨⟨directories, name, rfl, apart, isFact⟩, isFile, content, held⟩
    have named := sound.isName (Option.isSome_of_eq_some held)
    refine ⟨⟨directories ++ [name], true⟩, ⟨?_, isFile, ?_⟩, rfl⟩
    · exact (mem_visitedFrom sound).mpr ⟨⟨_, held, rfl⟩, by simpa [Visited.directories] using apart⟩
    · rw [Visited.path, ← Path.below, fileName?_below present named]
      simpa using isFact

end

end FactFile
end PropertyAudit
