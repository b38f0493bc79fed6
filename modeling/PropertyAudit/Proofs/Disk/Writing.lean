import PropertyAudit.Proofs.Disk.Locations

/-! Writing a file. It is read back, its path leads to it, and nothing else on the disk changes. -/
namespace PropertyAudit

namespace Node

variable {node : Node} {above : List String} {name : String} {content : List UInt8}

def surface : Node → Option (List UInt8)
  | file content => some content
  | directory _ => none

theorem holdsFile_iff_surface {location : List String} :
    node.HoldsFile location content ↔ (node.get? location).map surface = some (some content) := by
  rw [HoldsFile]
  rcases node.get? location with - | (_ | _) <;> simp [surface]

theorem holdsDirectory_iff_surface {location : List String} :
    node.HoldsDirectory location ↔ (node.get? location).map surface = some none := by
  rw [HoldsDirectory]
  rcases node.get? location with - | (_ | _) <;> simp [surface]

theorem get?_put_cons (entries : List (String × Node)) (names : List String) (new : Node)
    (other : String) (rest : List String) :
    ((directory entries).put (name :: names) new).get? (other :: rest) =
      if other = name then (((entries.lookup name).getD (directory [])).put names new).get? rest
      else (directory entries).get? (other :: rest) := by
  simp only [put, get?, Association.lookup_put]
  by_cases same : other = name <;> simp [same]

/-- A file put into a directory, unless in the place of another directory, changes no other place. -/
theorem surface_put (parent : node.HoldsDirectory above) (vacant : ¬node.HoldsDirectory (above ++ [name]))
    (other : List String) :
    ((node.put (above ++ [name]) (file content)).get? other).map surface =
      if other = above ++ [name] then some (some content) else (node.get? other).map surface := by
  induction above generalizing node other with
  | nil =>
    obtain ⟨entries, found⟩ := parent
    obtain rfl := Option.some.inj ((get?_nil node).symm.trans found)
    cases other with
    | nil => rfl
    | cons first rest =>
      rw [List.nil_append, get?_put_cons, put]
      by_cases same : first = name
      · subst same
        cases rest with
        | nil => simp [surface]
        | cons next rest =>
          have nothing : (directory entries).get? (first :: next :: rest) = none := by
            rw [get?]
            cases there : entries.lookup first with
            | none => rfl
            | some child =>
              cases child with
              | file _ => rfl
              | directory others => exact absurd ⟨others, by simp [get?, there]⟩ vacant
          rw [if_pos rfl, nothing]
          simp [get?]
      · simp [same]
  | cons top above ih =>
    obtain ⟨entries, found⟩ := parent
    cases node with
    | file _ => cases found
    | directory listed =>
      cases there : listed.lookup top with
      | none => simp [get?, there] at found
      | some child =>
        have below (names : List String) :
            (directory listed).get? (top :: names) = child.get? names := by simp [get?, there]
        rw [below] at found
        have stillVacant : ¬child.HoldsDirectory (above ++ [name]) := by
          rintro ⟨others, held⟩
          exact vacant ⟨others, (below _).trans held⟩
        cases other with
        | nil => rfl
        | cons first rest =>
          rw [List.cons_append, get?_put_cons, there, Option.getD_some]
          by_cases same : first = top
          · subst same
            simp [below, ih ⟨_, found⟩ stillVacant]
          · simp [same]

end Node

namespace Disk

variable {before after : Disk} {path : Path} {location : List String} {content : List UInt8}

/-- The second disk is the first with a file of that content at the location, and with nothing else made
or changed. -/
structure Stores (before after : Disk) (location : List String) (content : List UInt8) : Prop where
  working : after.working = before.working
  refusals : after.refusals = before.refusals
  directories : ∀ other, after.root.HoldsDirectory other ↔ before.root.HoldsDirectory other
  files : ∀ other bytes, after.root.HoldsFile other bytes ↔
    if other = location then bytes = content else before.root.HoldsFile other bytes

/-- A path that a file can be written to: a name below a directory, where no directory has that name. -/
structure Aims (disk : Disk) (path : Path) (above : List String) (name : String) : Prop where
  passed : checked path = .ok ()
  leads : ∃ segments, path.segments = segments ++ [name] ∧
    segments.foldlM (step disk.root) (disk.origin path) = .ok above
  parent : disk.root.HoldsDirectory above
  vacant : ¬disk.root.HoldsDirectory (above ++ [name])
  opens : disk.refusal? (above ++ [name]) = none
  notNeutral : Path.isNeutral name = false
  notAbove : name ≠ ".."
  short : name.utf8ByteSize ≤ nameLimit

/-- Nothing is dropped from the end of segments that end in a name. -/
theorem eq_concat_of_dropWhile {segments before : List String} {last : String}
    (backward : segments.reverse.dropWhile (· == "") = last :: before)
    (closed : segments.reverse.head? ≠ some "") : segments = before.reverse ++ [last] ∧ last ≠ "" := by
  cases whole : segments.reverse with
  | nil => simp [whole] at backward
  | cons first rest =>
    have present : first ≠ "" := by simpa [whole] using closed
    rw [whole, List.dropWhile_cons_of_neg (by simpa using present)] at backward
    obtain ⟨rfl, rfl⟩ := List.cons.inj backward
    exact ⟨by rw [← List.reverse_cons, ← whole, List.reverse_reverse], present⟩

theorem aims_of_target {disk : Disk} (aimed : disk.target path = .ok location) :
    ∃ above name, location = above ++ [name] ∧ disk.Aims path above name := by
  unfold target at aimed
  obtain ⟨⟨⟩, passed, aimed⟩ := bind_eq_ok_iff.mp aimed
  dsimp only at aimed
  split at aimed
  · cases aimed
  · next last before backward =>
    obtain ⟨above, led, aimed⟩ := bind_eq_ok_iff.mp aimed
    split at aimed
    · cases aimed
    · cases aimed
    · next entries found =>
      split at aimed
      · cases aimed
      · next downward =>
        split at aimed
        · cases aimed
        · next long =>
          split at aimed
          · cases aimed
          · cases aimed
          · next opens vacant =>
            simp only [Bool.or_eq_true, beq_iff_eq, not_or] at downward
            obtain ⟨⟨notHere, notAbove⟩, closed⟩ := downward
            obtain ⟨whole, present⟩ := eq_concat_of_dropWhile backward closed
            refine ⟨above, last, (Except.ok.inj aimed).symm, {
              passed
              leads := ⟨_, whole, led⟩
              parent := ⟨entries, found⟩
              vacant := ?_
              opens
              notNeutral := by simp [Path.isNeutral, present, notHere]
              notAbove
              short := Nat.le_of_not_lt long }⟩
            rintro ⟨others, held⟩
            obtain ⟨listed, same, there⟩ := Node.get?_concat_eq_some_iff.mp held
            obtain rfl := Node.directory.inj (Option.some.inj (found.symm.trans same))
            exact vacant others there

theorem Stores.keeps (stores : before.Stores after location content) : before.Keeps after := by
  refine .of_files stores.working (fun other => (stores.directories other).mpr) fun other bytes held => ?_
  by_cases same : other = location
  · exact ⟨content, (stores.files other content).mpr (by rw [if_pos same])⟩
  · exact ⟨bytes, (stores.files other bytes).mpr (by rwa [if_neg same])⟩

theorem stores_of_aims {disk : Disk} {above : List String} {name : String}
    (aims : disk.Aims path above name) (content : List UInt8) :
    disk.Stores { disk with root := disk.root.put (above ++ [name]) (.file content) } (above ++ [name])
      content where
  working := rfl
  refusals := rfl
  directories other := by
    rw [Node.holdsDirectory_iff_surface, Node.surface_put aims.parent aims.vacant,
      Node.holdsDirectory_iff_surface]
    split
    · next same =>
      have vacant := aims.vacant
      rw [← same, Node.holdsDirectory_iff_surface] at vacant
      simp [vacant]
    · rfl
  files other bytes := by
    rw [Node.holdsFile_iff_surface, Node.surface_put aims.parent aims.vacant, Node.holdsFile_iff_surface]
    split
    · simp [eq_comm]
    · rfl

theorem Stores.locate {above : List String} {name : String} (aims : before.Aims path above name)
    (stores : before.Stores after (above ++ [name]) content) :
    after.locate path = .ok (above ++ [name]) := by
  obtain ⟨segments, split, led⟩ := aims.leads
  have held := (stores.files (above ++ [name]) content).mpr (by rw [if_pos rfl])
  obtain ⟨entries, parent, there⟩ := Node.get?_concat_eq_some_iff.mp held
  have last : step after.root above name = .ok (above ++ [name]) := by
    simp [step, parent, there, aims.notNeutral, aims.notAbove, Nat.not_lt.mpr aims.short]
  refine locate_eq_ok_iff.mpr ⟨aims.passed, ?_⟩
  rw [follow, stores.keeps.origin, split, List.foldlM_append, stores.keeps.foldlM_step led]
  exact (bind_pure _).trans last

theorem aims_of_write (written : before.write path content = .ok after) :
    ∃ above name, before.Aims path above name ∧ before.Stores after (above ++ [name]) content := by
  obtain ⟨location, aimed, done⟩ := bind_eq_ok_iff.mp written
  obtain ⟨above, name, rfl, aims⟩ := aims_of_target aimed
  obtain rfl := Except.ok.inj done
  exact ⟨above, name, aims, stores_of_aims aims content⟩

end Disk
end PropertyAudit
