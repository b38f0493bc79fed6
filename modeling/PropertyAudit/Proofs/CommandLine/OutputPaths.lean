import PropertyAudit.CommandLine.Run
import PropertyAudit.Proofs.Disk.Writing

/-! Where reports may be written to. A path is judged by the names in it, without empty segments and
single dots, and used as it is written. Both views agree on parent directories, so whatever is accepted
leads further down from the working directory with every segment, and nothing is written above it. -/
namespace PropertyAudit

namespace Path

variable {path : Path} {segment : String} {segments start : List String}

def enter (location : List String) (segment : String) : List String :=
  if isNeutral segment then location
  else if segment == ".." then location.dropLast
  else location ++ [segment]

def walk (start : List String) (segments : List String) : List String := segments.foldl enter start

theorem prefix_enter (notAbove : segment ≠ "..") : start <+: enter start segment := by
  rw [enter]
  split
  · exact List.prefix_rfl
  · rw [if_neg (by simpa using notAbove)]
    exact List.prefix_append _ _

theorem prefix_walk (notAbove : ".." ∉ segments) : start <+: walk start segments := by
  induction segments generalizing start with
  | nil => exact List.prefix_rfl
  | cons segment segments ih =>
    rw [List.mem_cons, not_or] at notAbove
    exact (prefix_enter (Ne.symm notAbove.1)).trans (ih notAbove.2)

/-- Dropping what names nothing neither hides a parent directory nor makes one. -/
theorem parent_mem_names_iff : ".." ∈ path.names ↔ ".." ∈ path.segments := by
  have named : isNeutral ".." = false := by decide
  simp [names, List.mem_filter, named]

end Path

namespace Disk

variable {root : Node} {segment : String} {segments location target : List String}

/-- On a disk a segment leads to where its name does, if it leads anywhere. -/
theorem eq_enter_of_step (led : step root location segment = .ok target) :
    target = Path.enter location segment := by
  rw [step] at led
  rw [Path.enter]
  split at led
  · cases led
  · cases led
  · split
    · next neutral =>
      rw [if_pos neutral] at led
      exact (Except.ok.inj led).symm
    · next named =>
      rw [if_neg named] at led
      split
      · next above =>
        rw [if_pos above] at led
        exact (Except.ok.inj led).symm
      · next inward =>
        rw [if_neg inward] at led
        split at led
        · cases led
        · split at led
          · exact (Except.ok.inj led).symm
          · cases led

theorem eq_walk_of_foldlM_step (led : segments.foldlM (step root) location = .ok target) :
    target = Path.walk location segments := by
  induction segments generalizing location with
  | nil => exact (Except.ok.inj led).symm
  | cons segment segments ih =>
    rw [List.foldlM_cons, bind_eq_ok_iff] at led
    obtain ⟨next, stepped, further⟩ := led
    rw [ih further, eq_enter_of_step stepped]
    rfl

/-- A file written to a relative path without parent directories stands below the working directory. -/
theorem stores_below_working {before after : Disk} {path : Path} {content : List UInt8}
    (relative : path.isAbsolute = false) (notAbove : ".." ∉ path.segments)
    (written : before.write path content = .ok after) :
    ∃ names name, before.Stores after (before.working ++ names ++ [name]) content := by
  obtain ⟨above, name, aims, stores⟩ := aims_of_write written
  obtain ⟨segments, split, led⟩ := aims.leads
  have downward : ".." ∉ segments := fun member =>
    notAbove (split ▸ List.mem_append_left _ member)
  rw [origin, relative, if_neg Bool.false_ne_true] at led
  obtain ⟨names, below⟩ : before.working <+: above :=
    eq_walk_of_foldlM_step led ▸ Path.prefix_walk downward
  exact ⟨names, name, below ▸ stores⟩

end Disk

namespace CommandLine

open PropertyAudit.Path (walk)

theorem outputPath_eq_ok_iff {text : String} {path : Path} :
    outputPath text = .ok path ↔ path = ⟨text⟩ ∧ '\x00' ∉ text.toList ∧
      text.toList.head? ≠ some '/' ∧ ".." ∉ Text.segments '/' text := by
  have parent : ".." ∈ (Path.mk text).names ↔ ".." ∈ Text.segments '/' text :=
    Path.parent_mem_names_iff
  have absolute : (Path.mk text).isAbsolute = true ↔ text.toList.head? = some '/' := by
    rw [Path.isAbsolute, beq_iff_eq]
  unfold outputPath
  simp only [List.contains_iff_mem, absolute, parent]
  split
  · next nul => simp [nul]
  · next noNul =>
    split
    · next rooted => simp [rooted]
    · next relative =>
      split
      · next above => simp [above]
      · next inward =>
        simp only [noNul, relative, inward, not_false_eq_true, ne_eq, and_true, Except.ok.injEq]
        exact eq_comm

/-- A path is accepted exactly if it holds no NUL, does not begin with a slash and has no segment that
is the parent directory. It is then used as it stands: walking its segments leads nowhere but further
below the working directory, whichever that is, and a file written to it stands below the working
directory, with all else on the disk as it was. -/
theorem outputPath_stays_inside (text : String) :
    ((∃ path, outputPath text = .ok path) ↔
      '\x00' ∉ text.toList ∧ text.toList.head? ≠ some '/' ∧ ".." ∉ Text.segments '/' text) ∧
    ∀ path, outputPath text = .ok path → path.text = text ∧
      (∀ working walked, walked <+: path.segments → working <+: walk working walked) ∧
      ∀ (before after : Disk) (content : List UInt8), before.write path content = .ok after →
        ∃ names name, before.Stores after (before.working ++ names ++ [name]) content := by
  constructor
  · constructor
    · rintro ⟨path, accepted⟩
      exact (outputPath_eq_ok_iff.mp accepted).2
    · intro sound
      exact ⟨_, outputPath_eq_ok_iff.mpr ⟨rfl, sound⟩⟩
  · intro path accepted
    obtain ⟨rfl, -, relative, downward⟩ := outputPath_eq_ok_iff.mp accepted
    refine ⟨rfl, fun working walked front => ?_, fun before after content written => ?_⟩
    · exact Path.prefix_walk fun member => downward (front.subset member)
    · have rootless : (Path.mk text).isAbsolute = false := by
        simpa [Path.isAbsolute] using relative
      exact Disk.stores_below_working rootless downward written

/-- Names that only look like dots are entered, a doubled slash and single dots are passed over, and a
parent directory deep in a path is found. -/
theorem outputPath_stays_inside_among_dots :
    (∃ path, outputPath "./..x//.../r." = .ok path) ∧
      walk ["home"] ((Path.mk "./..x//.../r.").segments) = ["home", "..x", "...", "r."] ∧
      ¬∃ path, outputPath "a/./b//../r." = .ok path := by
  refine ⟨(outputPath_stays_inside _).1.mpr (by decide +kernel), by decide +kernel, fun accepted => ?_⟩
  have sound := (outputPath_stays_inside _).1.mp accepted
  exact absurd sound.2.2 (by decide +kernel)

end CommandLine
end PropertyAudit
