import PropertyAudit.Disk
import PropertyAudit.Proofs.Results

/-! Locations and the paths that lead to them. Where names can stand in paths, the path of an entry
leads to that entry, unless a name or the path as a whole is too long for the system. -/
namespace PropertyAudit

namespace Path

/-- A text that stands for one step downward in a path. -/
structure IsName (text : String) : Prop where
  notEmpty : text ≠ ""
  notHere : text ≠ "."
  notAbove : text ≠ ".."
  undivided : '/' ∉ text.toList

theorem isName_iff {text : String} :
    IsName text ↔ text ≠ "" ∧ text ≠ "." ∧ text ≠ ".." ∧ '/' ∉ text.toList :=
  ⟨fun ⟨notEmpty, notHere, notAbove, undivided⟩ => ⟨notEmpty, notHere, notAbove, undivided⟩,
    fun ⟨notEmpty, notHere, notAbove, undivided⟩ => ⟨notEmpty, notHere, notAbove, undivided⟩⟩

instance (text : String) : Decidable (IsName text) := decidable_of_iff _ isName_iff.symm

theorem IsName.isNeutral_eq_false {name : String} (named : IsName name) : isNeutral name = false := by
  simp [isNeutral, named.notEmpty, named.notHere]

end Path

theorem Text.splitChars_of_not_mem {separator : Char} {chars : List Char}
    (absent : separator ∉ chars) : splitChars separator chars = [chars] := by
  induction chars with
  | nil => rfl
  | cons c rest ih =>
    have ⟨different, restAbsent⟩ := not_or.mp (mt List.mem_cons.mpr absent)
    rw [splitChars, if_neg (Ne.symm different), ih restAbsent]

/-- A separator ends one segment, and what follows it is split by itself. -/
theorem Text.splitChars_append (separator : Char) (before after : List Char) :
    splitChars separator (before ++ separator :: after) =
      splitChars separator before ++ splitChars separator after := by
  induction before with
  | nil => simp [splitChars]
  | cons c rest ih =>
    rw [List.cons_append, splitChars, splitChars, ih]
    split
    · rfl
    · cases some : splitChars separator rest with
      | nil => exact absurd some (splitChars_ne_nil separator rest)
      | cons segment segments => rfl

namespace Path

variable {path : Path} {name : String}

/-- The path of an entry: the path, an empty step apart, and then the name. -/
theorem segments_join (present : path.text ≠ "") (named : IsName name) :
    ∃ before, (path.segments = before ∨ path.segments = before ++ [""]) ∧
      (path.join name).segments = before ++ [name] := by
  have relative : (Path.mk name).isAbsolute = false := by
    rw [isAbsolute, beq_eq_false_iff_ne]
    intro first
    exact named.undivided (List.mem_of_mem_head? first)
  have last := Text.splitChars_of_not_mem named.undivided
  by_cases closed : path.text.toList.getLast? = some '/'
  · obtain ⟨before, split⟩ := List.getLast?_eq_some_iff.mp closed
    refine ⟨(Text.splitChars '/' before).map String.ofList, .inr ?_, ?_⟩
    · rw [segments, Text.segments, split, Text.splitChars_append, List.map_append]
      rfl
    · simp [join, relative, present, segments, Text.segments, split, Text.splitChars_append, last]
  · refine ⟨path.segments, .inl rfl, ?_⟩
    simp [join, relative, present, closed, segments, Text.segments, Text.splitChars_append, last]

theorem text_join_ne (present : path.text ≠ "") (named : IsName name) : (path.join name).text ≠ "" := by
  unfold join
  split
  · exact named.notEmpty
  · split <;> simp [present]

theorem isAbsolute_join (present : path.text ≠ "") (named : IsName name) :
    (path.join name).isAbsolute = path.isAbsolute := by
  have relative : (Path.mk name).isAbsolute = false := by
    rw [isAbsolute, beq_eq_false_iff_ne]
    intro first
    exact named.undivided (List.mem_of_mem_head? first)
  cases start : path.text.toList with
  | nil => exact absurd (String.toList_eq_nil_iff.mp start) present
  | cons c rest =>
    unfold join
    split
    · simp_all
    · split <;> simp [isAbsolute, start]

/-- The text of a path begins those of what is below. -/
theorem exists_text_join (present : path.text ≠ "") (named : IsName name) :
    ∃ rest, (path.join name).text = path.text ++ rest := by
  have relative : (Path.mk name).isAbsolute = false := by
    rw [isAbsolute, beq_eq_false_iff_ne]
    intro first
    exact named.undivided (List.mem_of_mem_head? first)
  unfold join
  simp only [relative, present, beq_iff_eq, Bool.or_eq_true, Bool.false_eq_true, or_self, if_false]
  split
  · exact ⟨name, rfl⟩
  · exact ⟨"/" ++ name, String.append_assoc⟩

def below (path : Path) (names : List String) : Path := names.foldl join path

theorem exists_text_below {names : List String} (present : path.text ≠ "")
    (named : ∀ name ∈ names, IsName name) :
    ∃ rest, (path.below names).text = path.text ++ rest := by
  induction names generalizing path with
  | nil => exact ⟨"", String.append_empty.symm⟩
  | cons name names ih =>
    have ⟨first, others⟩ := List.forall_mem_cons.mp named
    obtain ⟨rest, joined⟩ := exists_text_join present first
    obtain ⟨further, below⟩ := ih (text_join_ne present first) others
    exact ⟨rest ++ further, by rw [Path.below, List.foldl_cons, ← Path.below, below, joined, String.append_assoc]⟩

theorem names_join (present : path.text ≠ "") (named : IsName name) :
    (path.join name).names = path.names ++ [name] := by
  have empty : isNeutral "" := by decide
  obtain ⟨before, plain | closed, joined⟩ := segments_join present named
  · simp [Path.names, plain, joined, named.isNeutral_eq_false]
  · simp [Path.names, closed, joined, named.isNeutral_eq_false, empty]

theorem names_below {names : List String} (present : path.text ≠ "")
    (named : ∀ name ∈ names, IsName name) : (path.below names).names = path.names ++ names := by
  induction names generalizing path with
  | nil => simp [below]
  | cons name names ih =>
    have ⟨first, rest⟩ := List.forall_mem_cons.mp named
    rw [below, List.foldl_cons, ← below, ih (text_join_ne present first) rest, names_join present first,
      List.append_assoc, List.singleton_append]

end Path

namespace Node

variable {node child : Node} {location names : List String} {content : List UInt8}

/-- A file of that content stands at the location. -/
def HoldsFile (node : Node) (location : List String) (content : List UInt8) : Prop :=
  node.get? location = some (.file content)

def HoldsDirectory (node : Node) (location : List String) : Prop :=
  ∃ entries, node.get? location = some (.directory entries)

def WellNamed (node : Node) : Prop :=
  ∀ location entries, node.get? location = some (.directory entries) →
    (entries.map (·.1)).Nodup ∧ ∀ entry ∈ entries, Path.IsName entry.1

theorem holdsDirectory_of_get? (found : node.get? location = some child) (kind : child.isFile = false) :
    node.HoldsDirectory location := by
  cases child with
  | file content => cases kind
  | directory entries => exact ⟨entries, found⟩

@[simp] theorem get?_nil (node : Node) : node.get? [] = some node := by
  cases node <;> rfl

/-- What is found in a directory with a new entry. -/
theorem get?_concat_entry {entries : List (String × Node)} {name other : String}
    (fresh : name ∉ entries.map (·.1)) :
    (directory (entries ++ [(name, child)])).get? (other :: names) =
      if other = name then child.get? names else (directory entries).get? (other :: names) := by
  rw [get?, get?, List.lookup_append]
  by_cases same : other = name
  · have absent : entries.lookup name = none := by
      rw [List.lookup_eq_none_iff]
      intro entry member
      rw [bne_iff_ne]
      exact fun equal => fresh (equal ▸ List.mem_map_of_mem member)
    simp [same, absent]
  · have different : (other == name) = false := by simpa using same
    simp [same, different, List.lookup_cons]

theorem get?_of_fresh {entries : List (String × Node)} {name : String} (fresh : name ∉ entries.map (·.1)) :
    (directory entries).get? (name :: names) = none := by
  rw [get?]
  split
  · next child there =>
    obtain ⟨before, after, rfl, -⟩ := List.lookup_eq_some_iff.mp there
    exact absurd (by simp) fresh
  · rfl

theorem get?_with_entry {entries : List (String × Node)} {name other : String} {found : Node}
    (fresh : name ∉ entries.map (·.1)) (there : (directory entries).get? (other :: names) = some found) :
    (directory (entries ++ [(name, child)])).get? (other :: names) = some found := by
  have different : other ≠ name := by
    rintro rfl
    cases (get?_of_fresh fresh).symm.trans there
  rwa [get?_concat_entry fresh, if_neg different]

theorem get?_cases {entries : List (String × Node)} {name other : String} {found : Node}
    (fresh : name ∉ entries.map (·.1))
    (there : (directory (entries ++ [(name, child)])).get? (other :: names) = some found) :
    (directory entries).get? (other :: names) = some found ∨
      other = name ∧ child.get? names = some found := by
  rw [get?_concat_entry fresh] at there
  split at there
  · next same => exact .inr ⟨same, there⟩
  · exact .inl there

theorem get?_singleton {name first : String} :
    (directory [(name, child)]).get? (first :: names) = if first = name then child.get? names else none := by
  have fresh : name ∉ ([] : List (String × Node)).map (·.1) := List.not_mem_nil
  exact get?_concat_entry fresh

/-- The files of a directory with a single file in it. -/
theorem holdsFile_singleton_iff {name : String} {other : List UInt8} :
    (directory [(name, file content)]).HoldsFile names other ↔ names = [name] ∧ other = content := by
  cases names with
  | nil => simp [HoldsFile]
  | cons first names =>
    rw [HoldsFile, get?_singleton]
    by_cases same : first = name
    · cases names <;> simp [same, get?, eq_comm]
    · simp [same]

theorem holdsDirectory_singleton_iff {name : String} :
    (directory [(name, file content)]).HoldsDirectory names ↔ names = [] := by
  cases names with
  | nil => simp [HoldsDirectory]
  | cons first names =>
    rw [HoldsDirectory, get?_singleton]
    by_cases same : first = name
    · cases names <;> simp [same, get?]
    · simp [same]

theorem get?_append (node : Node) (above below : List String) :
    node.get? (above ++ below) = (node.get? above).bind (·.get? below) := by
  induction above generalizing node with
  | nil => simp
  | cons name names ih =>
    cases node with
    | file content => rfl
    | directory entries =>
      simp only [List.cons_append, get?]
      cases entries.lookup name with
      | none => rfl
      | some child => exact ih child

theorem get?_concat_eq_some_iff {name : String} :
    node.get? (location ++ [name]) = some child ↔
      ∃ entries, node.get? location = some (.directory entries) ∧ entries.lookup name = some child := by
  rw [get?_append, Option.bind_eq_some_iff]
  constructor
  · rintro ⟨above, found, last⟩
    cases above with
    | file content => cases last
    | directory entries =>
      refine ⟨entries, found, ?_⟩
      rw [get?] at last
      split at last
      · next entry there => rwa [there, ← get?_nil entry]
      · cases last
  · rintro ⟨entries, found, there⟩
    exact ⟨_, found, by simp [get?, there]⟩

theorem wellNamed_file (content : List UInt8) : (file content).WellNamed := by
  intro location entries found
  cases location <;> cases found

theorem wellNamed_directory {entries : List (String × Node)}
    (distinct : (entries.map (·.1)).Nodup)
    (sound : ∀ entry ∈ entries, Path.IsName entry.1 ∧ entry.2.WellNamed) :
    (directory entries).WellNamed := by
  intro location others found
  cases location with
  | nil =>
    obtain rfl := directory.inj (Option.some.inj found)
    exact ⟨distinct, fun entry member => (sound entry member).1⟩
  | cons name names =>
    rw [get?] at found
    split at found
    · next child there =>
      obtain ⟨before, after, rfl, -⟩ := List.lookup_eq_some_iff.mp there
      exact (sound (name, child) (by simp)).2 names others found
    · cases found

theorem WellNamed.of_get? (sound : node.WellNamed) (found : node.get? location = some child) :
    child.WellNamed := by
  intro below entries here
  apply sound (location ++ below)
  rw [get?_append, found]
  exact here

theorem WellNamed.isName (sound : node.WellNamed) (found : (node.get? location).isSome) :
    ∀ name ∈ location, Path.IsName name := by
  induction location generalizing node with
  | nil => simp
  | cons name names ih =>
    cases node with
    | file content => cases found
    | directory entries =>
      rw [get?] at found
      split at found
      · next child there =>
        have here : (directory entries).get? [name] = some child := by simp [get?, there]
        obtain ⟨before, after, rfl, -⟩ := List.lookup_eq_some_iff.mp there
        have named := (sound [] _ rfl).2 (name, child) (by simp)
        exact List.forall_mem_cons.mpr ⟨named, ih (sound.of_get? here) found⟩
      · cases found

end Node

namespace Disk

variable {disk : Disk} {path : Path} {location names : List String} {name : String}
  {content : List UInt8}

def follow (disk : Disk) (path : Path) : Except IoFault (List String) :=
  path.segments.foldlM (step disk.root) (disk.origin path)

theorem locate_eq_ok_iff :
    disk.locate path = .ok location ↔ checked path = .ok () ∧ disk.follow path = .ok location := by
  unfold locate follow
  rw [bind_eq_ok_iff]
  exact ⟨fun ⟨(), found⟩ => found, fun found => ⟨(), found⟩⟩

theorem node_eq_ok_iff {node : Node} :
    disk.node path = .ok node ↔ ∃ location, disk.locate path = .ok location ∧
      disk.root.get? location = some node := by
  rw [Disk.node, bind_eq_ok_iff]
  refine exists_congr fun location => and_congr_right fun _ => ?_
  cases disk.root.get? location with
  | none => simp
  | some found => simp

theorem node_of_locate {node : Node} (located : disk.locate path = .ok location)
    (found : disk.root.get? location = some node) : disk.node path = .ok node :=
  node_eq_ok_iff.mpr ⟨location, located, found⟩

theorem isFile_iff : disk.isFile path ↔ ∃ content, disk.node path = .ok (.file content) := by
  unfold isFile
  rcases disk.node path with - | (_ | _) <;> simp [Node.isFile]

theorem checked_eq_ok_iff :
    checked path = .ok () ↔
      '\x00' ∉ path.text.toList ∧ path.text ≠ "" ∧ path.text.utf8ByteSize ≤ pathLimit := by
  unfold checked
  by_cases nul : '\x00' ∈ path.text.toList
  · simp [nul]
  · by_cases empty : path.text = ""
    · simp [empty]
    · by_cases long : pathLimit < path.text.utf8ByteSize
      · simp [nul, empty, long]
      · simp [nul, empty, long, Nat.le_of_not_lt]

theorem text_ne_of_checked (passed : checked path = .ok ()) : path.text ≠ "" :=
  (checked_eq_ok_iff.mp passed).2.1

theorem text_ne_of_node {node : Node} (found : disk.node path = .ok node) : path.text ≠ "" := by
  obtain ⟨location, located, -⟩ := node_eq_ok_iff.mp found
  exact text_ne_of_checked (locate_eq_ok_iff.mp located).1

/-- An empty segment asks for no more than a step to a name does. -/
theorem step_empty_bind (root : Node) (location : List String) (name : String) :
    (step root location "" >>= fun location => step root location name) =
      step root location name := by
  cases here : root.get? location with
  | none => simp [step, here, bind, Except.bind]
  | some node =>
    cases node with
    | file content => simp [step, here, bind, Except.bind]
    | directory entries =>
      have stays : step root location "" = .ok location := by simp [step, here, Path.isNeutral]
      rw [stays]
      rfl

theorem follow_join (present : path.text ≠ "") (named : Path.IsName name) :
    disk.follow (path.join name) =
      disk.follow path >>= fun location => step disk.root location name := by
  obtain ⟨before, plain | closed, joined⟩ := Path.segments_join present named
  · simp [follow, origin, Path.isAbsolute_join present named, plain, joined]
  · simp [follow, origin, Path.isAbsolute_join present named, closed, joined, step_empty_bind]

theorem follow_below (present : path.text ≠ "") (named : ∀ name ∈ names, Path.IsName name) :
    disk.follow (path.below names) =
      disk.follow path >>= fun location => names.foldlM (step disk.root) location := by
  induction names generalizing path with
  | nil => simp [Path.below]
  | cons name names ih =>
    have ⟨first, rest⟩ := List.forall_mem_cons.mp named
    rw [Path.below, List.foldl_cons, ← Path.below, ih (Path.text_join_ne present first) rest,
      follow_join present first]
    simp

theorem step_of_get? (named : Path.IsName name)
    (found : (disk.root.get? (location ++ [name])).isSome) :
    step disk.root location name =
      if nameLimit < name.utf8ByteSize then .error .nameTooLong else .ok (location ++ [name]) := by
  obtain ⟨child, found⟩ := Option.isSome_iff_exists.mp found
  obtain ⟨entries, above, there⟩ := Node.get?_concat_eq_some_iff.mp found
  simp [step, above, there, named.isNeutral_eq_false, named.notAbove]

/-- The names on the way to what is there decide by their lengths alone whether it is reached. -/
theorem foldlM_step_of_get? (named : ∀ name ∈ names, Path.IsName name)
    (found : (disk.root.get? (location ++ names)).isSome) :
    names.foldlM (step disk.root) location =
      if names.any (nameLimit < ·.utf8ByteSize) then .error .nameTooLong
      else .ok (location ++ names) := by
  induction names generalizing location with
  | nil => simp [pure, Except.pure]
  | cons name names ih =>
    have ⟨first, rest⟩ := List.forall_mem_cons.mp named
    rw [List.append_cons] at found
    have here : (disk.root.get? (location ++ [name])).isSome := by
      rw [Node.get?_append] at found
      exact Option.isSome_of_isSome_bind found
    rw [List.foldlM_cons, step_of_get? first here]
    by_cases long : nameLimit < name.utf8ByteSize
    · simp [long, bind, Except.bind]
    · simp [long, bind, Except.bind, ih rest found]

/-- A step to a name leads to that name. -/
theorem eq_concat_of_step {root : Node} {name : String} {target : List String} (named : Path.IsName name)
    (led : step root location name = .ok target) : target = location ++ [name] := by
  unfold step at led
  split at led
  · cases led
  · cases led
  · rw [if_neg (by simp [named.isNeutral_eq_false]), if_neg (by simp [named.notAbove])] at led
    split at led
    · cases led
    · split at led
      · exact (Except.ok.inj led).symm
      · cases led

theorem eq_append_of_foldlM_step {root : Node} {target : List String}
    (named : ∀ name ∈ names, Path.IsName name)
    (led : names.foldlM (step root) location = .ok target) : target = location ++ names := by
  induction names generalizing location with
  | nil =>
    obtain rfl := Except.ok.inj led
    simp
  | cons name names ih =>
    have ⟨first, rest⟩ := List.forall_mem_cons.mp named
    rw [List.foldlM_cons, bind_eq_ok_iff] at led
    obtain ⟨next, stepped, further⟩ := led
    rw [ih rest further, eq_concat_of_step first stepped, List.append_assoc, List.singleton_append]

theorem get?_of_node_at {child : Node} (located : disk.locate path = .ok location)
    (named : ∀ name ∈ names, Path.IsName name) (reached : disk.node (path.below names) = .ok child) :
    disk.root.get? (location ++ names) = some child := by
  obtain ⟨target, locatedBelow, there⟩ := node_eq_ok_iff.mp reached
  obtain ⟨passed, followed⟩ := locate_eq_ok_iff.mp located
  have led := (locate_eq_ok_iff.mp locatedBelow).2
  rw [follow_below (text_ne_of_checked passed) named, followed] at led
  obtain rfl := eq_append_of_foldlM_step named led
  exact there

/-- What the path of a location below a node leads to is there. -/
theorem get?_of_node_below {node child : Node} (found : disk.node path = .ok node)
    (named : ∀ name ∈ names, Path.IsName name) (reached : disk.node (path.below names) = .ok child) :
    node.get? names = some child := by
  obtain ⟨location, located, above⟩ := node_eq_ok_iff.mp found
  have there := get?_of_node_at located named reached
  rwa [Node.get?_append, above] at there

/-- Whether a path below a directory leads to what is there comes down to lengths. -/
theorem locate_below (located : disk.locate path = .ok location)
    (named : ∀ name ∈ names, Path.IsName name) (found : (disk.root.get? (location ++ names)).isSome) :
    disk.locate (path.below names) =
      checked (path.below names) >>= fun _ =>
        if names.any (nameLimit < ·.utf8ByteSize) then .error .nameTooLong
        else .ok (location ++ names) := by
  obtain ⟨passed, followed⟩ := locate_eq_ok_iff.mp located
  have led : disk.follow (path.below names) =
      if names.any (nameLimit < ·.utf8ByteSize) then .error .nameTooLong
      else .ok (location ++ names) := by
    rw [follow_below (text_ne_of_checked passed) named, followed]
    exact foldlM_step_of_get? named found
  rw [locate, ← follow, led]

/-- Where a path leads somewhere, so do those on the way. -/
theorem locate_of_below {more target : List String} (located : disk.locate path = .ok location)
    (named : ∀ name ∈ names ++ more, Path.IsName name)
    (further : disk.locate (path.below (names ++ more)) = .ok target) :
    disk.locate (path.below names) = .ok (location ++ names) := by
  have ⟨first, second⟩ := List.forall_mem_append.mp named
  obtain ⟨passed, followed⟩ := locate_eq_ok_iff.mp located
  obtain ⟨alsoPassed, alsoFollowed⟩ := locate_eq_ok_iff.mp further
  have present := text_ne_of_checked passed
  refine locate_eq_ok_iff.mpr ⟨?_, ?_⟩
  · have above := text_ne_of_checked passed
    have below : (path.below names).text ≠ "" := by
      obtain ⟨rest, starts⟩ := Path.exists_text_below present first
      simp [starts, above]
    obtain ⟨rest, starts⟩ := Path.exists_text_below below second
    rw [Path.below, List.foldl_append, ← Path.below, ← Path.below] at alsoPassed
    obtain ⟨noNul, -, short⟩ := checked_eq_ok_iff.mp alsoPassed
    rw [starts, String.toList_append, List.mem_append, not_or] at noNul
    rw [starts, String.utf8ByteSize_append] at short
    exact checked_eq_ok_iff.mpr ⟨noNul.1, below, Nat.le_of_add_right_le short⟩
  · rw [follow_below present named, followed] at alsoFollowed
    have steps : (names ++ more).foldlM (step disk.root) location = .ok target := alsoFollowed
    rw [List.foldlM_append] at steps
    obtain ⟨middle, led, -⟩ := bind_eq_ok_iff.mp steps
    rw [follow_below present first, followed]
    exact eq_append_of_foldlM_step first led ▸ led

theorem opened_of_locate {node : Node} (located : disk.locate path = .ok location)
    (found : disk.root.get? location = some node) :
    disk.opened path = (disk.refusal? location).elim (.ok node) .error := by
  rw [opened, located]
  simp only [bind, Except.bind, found]
  cases disk.refusal? location <;> rfl

theorem node_of_opened {node : Node} (found : disk.opened path = .ok node) : disk.node path = .ok node := by
  obtain ⟨location, located, found⟩ := bind_eq_ok_iff.mp found
  refine node_eq_ok_iff.mpr ⟨location, located, ?_⟩
  split at found
  · cases found
  · cases found
  · next there _ => rw [there, Except.ok.inj found]

theorem exists_locate_of_read (found : disk.read path = .ok content) :
    ∃ location, disk.locate path = .ok location := by
  obtain ⟨node, opened, -⟩ := bind_eq_ok_iff.mp found
  obtain ⟨location, located, -⟩ := bind_eq_ok_iff.mp opened
  exact ⟨location, located⟩

theorem isFile_of_read (found : disk.read path = .ok content) : disk.isFile path := by
  obtain ⟨node, opened, found⟩ := bind_eq_ok_iff.mp found
  cases node with
  | file other => exact isFile_iff.mpr ⟨other, node_of_opened opened⟩
  | directory entries => cases found

theorem list_eq_ok_iff {entries : List (String × Node)} :
    disk.list path = .ok entries ↔ disk.opened path = .ok (.directory entries) := by
  unfold list
  rcases disk.opened path with fault | (content | others) <;> simp [bind, Except.bind]

/-- What is there on the first disk is there on the second, and each directory is still one. -/
structure Keeps (before after : Disk) : Prop where
  working : after.working = before.working
  directories : ∀ location, before.root.HoldsDirectory location → after.root.HoldsDirectory location
  present : ∀ location, (before.root.get? location).isSome → (after.root.get? location).isSome

namespace Keeps

variable {before after : Disk} {target : List String}

theorem step (keeps : before.Keeps after) {segment : String}
    (led : step before.root location segment = .ok target) :
    step after.root location segment = .ok target := by
  unfold Disk.step at led
  split at led
  · cases led
  · cases led
  · next entries here =>
    obtain ⟨others, there⟩ := keeps.directories location ⟨entries, here⟩
    have among (present : (entries.lookup segment).isSome) : (others.lookup segment).isSome := by
      obtain ⟨child, present⟩ := Option.isSome_iff_exists.mp present
      have found : before.root.get? (location ++ [segment]) = some child :=
        Node.get?_concat_eq_some_iff.mpr ⟨entries, here, present⟩
      obtain ⟨later, found⟩ := Option.isSome_iff_exists.mp
        (keeps.present _ (Option.isSome_iff_exists.mpr ⟨child, found⟩))
      obtain ⟨same, alsoHere, alsoPresent⟩ := Node.get?_concat_eq_some_iff.mp found
      obtain rfl := Node.directory.inj (Option.some.inj (there.symm.trans alsoHere))
      exact Option.isSome_iff_exists.mpr ⟨later, alsoPresent⟩
    simp only [Disk.step, there]
    split at led
    · next neutral => simpa [neutral] using led
    · next notNeutral =>
      split at led
      · next upward => simpa [notNeutral, upward] using led
      · next downward =>
        split at led
        · cases led
        · next short =>
          split at led
          · next present => simpa [notNeutral, downward, short, among present] using led
          · cases led

theorem of_files (working : after.working = before.working)
    (directories : ∀ location, before.root.HoldsDirectory location → after.root.HoldsDirectory location)
    (files : ∀ location content, before.root.HoldsFile location content →
      ∃ other, after.root.HoldsFile location other) : before.Keeps after := by
  refine ⟨working, directories, fun location found => ?_⟩
  obtain ⟨node, found⟩ := Option.isSome_iff_exists.mp found
  cases node with
  | file content =>
    obtain ⟨other, there⟩ := files location content found
    exact Option.isSome_iff_exists.mpr ⟨_, there⟩
  | directory entries =>
    obtain ⟨others, there⟩ := directories location ⟨entries, found⟩
    exact Option.isSome_iff_exists.mpr ⟨_, there⟩

theorem origin (keeps : before.Keeps after) (path : Path) : after.origin path = before.origin path := by
  unfold Disk.origin
  rw [keeps.working]

theorem foldlM_step (keeps : before.Keeps after) {segments start : List String}
    (led : segments.foldlM (Disk.step before.root) start = .ok location) :
    segments.foldlM (Disk.step after.root) start = .ok location := by
  induction segments generalizing start with
  | nil => exact led
  | cons segment segments ih =>
    rw [List.foldlM_cons] at led ⊢
    cases first : Disk.step before.root start segment with
    | error fault =>
      rw [first] at led
      cases led
    | ok next =>
      rw [first] at led
      rw [keeps.step first]
      exact ih led

/-- Paths that lead somewhere go on leading there. -/
theorem locate (keeps : before.Keeps after) (located : before.locate path = .ok location) :
    after.locate path = .ok location := by
  obtain ⟨passed, followed⟩ := locate_eq_ok_iff.mp located
  refine locate_eq_ok_iff.mpr ⟨passed, ?_⟩
  rw [follow, keeps.origin]
  exact keeps.foldlM_step followed

/-- What was there is reached as before, or is as far out of reach as before. -/
theorem locate_below (keeps : before.Keeps after) (located : before.locate path = .ok location)
    (named : ∀ name ∈ names, Path.IsName name) (found : (before.root.get? (location ++ names)).isSome) :
    (∃ fault, before.locate (path.below names) = .error fault ∧
      after.locate (path.below names) = .error fault) ∨
    before.locate (path.below names) = .ok (location ++ names) ∧
      after.locate (path.below names) = .ok (location ++ names) := by
  rw [Disk.locate_below located named found,
    Disk.locate_below (keeps.locate located) named (keeps.present _ found)]
  cases checked (path.below names) with
  | error fault => exact .inl ⟨fault, rfl, rfl⟩
  | ok _ =>
    by_cases long : names.any (nameLimit < ·.utf8ByteSize)
    · exact .inl ⟨.nameTooLong, if_pos long, if_pos long⟩
    · exact .inr ⟨if_neg long, if_neg long⟩

end Keeps

/-- The second disk is the first with files put at the locations `added`, where none stood, and with
whatever new directories they stand in. These can be listed. -/
structure Gains (before after : Disk) (added : List (List String)) : Prop where
  working : after.working = before.working
  refusals : ∀ location ∉ added, after.refusal? location = before.refusal? location
  directories : ∀ location, before.root.HoldsDirectory location → after.root.HoldsDirectory location
  above : ∀ location, after.root.HoldsDirectory location → before.root.HoldsDirectory location ∨
    after.refusal? location = none ∧ ∃ file ∈ added, location <+: file
  kept : ∀ location content,
    before.root.HoldsFile location content → after.root.HoldsFile location content
  only : ∀ location content, after.root.HoldsFile location content →
    before.root.HoldsFile location content ∨ location ∈ added
  new : ∀ location ∈ added, (∃ content, after.root.HoldsFile location content) ∧
    ∀ content, ¬before.root.HoldsFile location content
  distinct : added.Nodup

namespace Gains

variable {before after : Disk} {added : List (List String)}

theorem keeps (gains : before.Gains after added) : before.Keeps after :=
  .of_files gains.working gains.directories fun location content held =>
    ⟨content, gains.kept location content held⟩

/-- What was there is still of its kind. -/
theorem isFile_of_get? (gains : before.Gains after added) {node : Node}
    (found : before.root.get? location = some node) :
    ∃ later, after.root.get? location = some later ∧ later.isFile = node.isFile := by
  cases node with
  | file content => exact ⟨_, gains.kept _ _ found, rfl⟩
  | directory entries =>
    obtain ⟨others, there⟩ := gains.directories _ ⟨entries, found⟩
    exact ⟨_, there, rfl⟩

section Below

variable (gains : before.Gains after added) (located : before.locate path = .ok location)
  (named : ∀ name ∈ names, Path.IsName name)

include gains located named

theorem isFile_below (held : before.root.HoldsFile (location ++ names) content) :
    after.isFile (path.below names) = before.isFile (path.below names) := by
  have later := gains.kept _ _ held
  rw [Node.HoldsFile] at held later
  rcases gains.keeps.locate_below located named (Option.isSome_of_eq_some held) with
    ⟨fault, here, there⟩ | ⟨here, there⟩
  · simp [isFile, Disk.node, here, there, bind, Except.bind]
  · simp [isFile, Disk.node, here, there, bind, Except.bind, held, later]

/-- A file that was there is read as before, or can be had as little as before. -/
theorem read_below (held : before.root.HoldsFile (location ++ names) content) :
    after.read (path.below names) = before.read (path.below names) := by
  have old : location ++ names ∉ added := fun new => (gains.new _ new).2 content held
  have later := gains.kept _ _ held
  rw [Node.HoldsFile] at held later
  rcases gains.keeps.locate_below located named (Option.isSome_of_eq_some held) with
    ⟨fault, here, there⟩ | ⟨here, there⟩
  · simp [read, opened, here, there, bind, Except.bind]
  · simp only [read, opened_of_locate here held, opened_of_locate there later, gains.refusals _ old]

/-- A directory that was there is listed just if it was, though more may be listed. -/
theorem list_below (held : before.root.HoldsDirectory (location ++ names)) :
    (after.list (path.below names)).map (fun _ => ()) =
      (before.list (path.below names)).map fun _ => () := by
  obtain ⟨others, later⟩ := gains.directories _ held
  have old : location ++ names ∉ added := by
    intro new
    obtain ⟨⟨content, file⟩, -⟩ := gains.new _ new
    cases file.symm.trans later
  obtain ⟨entries, held⟩ := held
  rcases gains.keeps.locate_below located named (Option.isSome_of_eq_some held) with
    ⟨fault, here, there⟩ | ⟨here, there⟩
  · simp [list, opened, here, there, bind, Except.bind, Except.map]
  · rw [list, list, opened_of_locate here held, opened_of_locate there later, gains.refusals _ old]
    cases before.refusal? (location ++ names) <;> rfl

end Below

/-- A new entry of the topmost directory brings the files below it. -/
theorem of_new_entry {entries : List (String × Node)} {child : Node} {working : List String}
    {refusals : List (List String × IoFault)} (fresh : name ∉ entries.map (·.1))
    (files : ∀ names, names ∈ added ↔ ∃ content, child.HoldsFile names content)
    (directories : ∀ names, child.HoldsDirectory names → ∃ file ∈ added, names <+: file)
    (opens : ∀ names, refusals.lookup (name :: names) = none) (distinct : added.Nodup) :
    Gains ⟨.directory entries, working, refusals⟩
      ⟨.directory (entries ++ [(name, child)]), working, refusals⟩ (added.map (name :: ·)) where
  working := rfl
  refusals _ _ := rfl
  directories := by
    rintro (_ | ⟨other, names⟩) ⟨others, found⟩
    · exact ⟨_, rfl⟩
    · exact ⟨others, Node.get?_with_entry fresh found⟩
  above := by
    rintro (_ | ⟨other, names⟩) ⟨others, found⟩
    · exact .inl ⟨_, rfl⟩
    · rcases Node.get?_cases fresh found with old | ⟨rfl, new⟩
      · exact .inl ⟨others, old⟩
      · obtain ⟨file, member, below⟩ := directories names ⟨others, new⟩
        refine .inr ⟨opens names, _, List.mem_map_of_mem member, ?_⟩
        exact List.cons_prefix_cons.mpr ⟨rfl, below⟩
  kept := by
    rintro (_ | ⟨other, names⟩) content held
    · cases held
    · exact Node.get?_with_entry fresh held
  only := by
    rintro (_ | ⟨other, names⟩) content held
    · cases held
    · rcases Node.get?_cases fresh held with old | ⟨rfl, new⟩
      · exact .inl old
      · exact .inr (List.mem_map_of_mem ((files names).mpr ⟨content, new⟩))
  new := by
    intro location member
    obtain ⟨names, new, rfl⟩ := List.mem_map.mp member
    obtain ⟨content, held⟩ := (files names).mp new
    refine ⟨⟨content, ?_⟩, fun content held => ?_⟩
    · rw [Node.HoldsFile, Node.get?_concat_entry fresh, if_pos rfl]
      exact held
    · cases (Node.get?_of_fresh fresh).symm.trans held
  distinct := List.Pairwise.map (name :: ·) (fun _ _ different same => different (List.cons.inj same).2) distinct

end Gains
end Disk
end PropertyAudit
