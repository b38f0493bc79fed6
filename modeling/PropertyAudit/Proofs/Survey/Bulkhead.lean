import PropertyAudit.Proofs.FactFile.Gathering
import PropertyAudit.Proofs.Survey.Batch

/-! A fact file that cannot be decoded costs a survey nothing but itself: it is counted, and everything
else is as if it were not there. A fact file that cannot be read ends the survey. -/
namespace PropertyAudit

namespace FactFile

variable {disk : Disk} {path : Path}

def isMalformed (disk : Disk) (path : Path) : Bool :=
  match load disk path with
  | .error (.malformed _ _) => true
  | _ => false

/-- How loading may end. Only content that holds no facts is passed over. -/
theorem load_cases (disk : Disk) (path : Path) :
    (∃ content, disk.read path = .ok content ∧
      ((∃ facts, load disk path = .ok facts ∧ isMalformed disk path = false) ∨
        ∃ fault, load disk path = .error (.malformed path fault) ∧ isMalformed disk path = true)) ∨
    ∃ fault, disk.read path = .error fault ∧ load disk path = .error (.unreadable path fault) ∧
      isMalformed disk path = false := by
  unfold isMalformed load
  cases disk.read path with
  | error fault => exact .inr ⟨fault, rfl, rfl, rfl⟩
  | ok content =>
    refine .inl ⟨content, rfl, ?_⟩
    cases decoded : ofBytes content with
    | ok facts => exact .inl ⟨facts, by simp [decoded, Except.mapError, bind, Except.bind]⟩
    | error fault => exact .inr ⟨fault, by simp [decoded, Except.mapError, bind, Except.bind]⟩

theorem isMalformed_iff :
    isMalformed disk path ↔ ∃ fault, load disk path = .error (.malformed path fault) := by
  rcases load_cases disk path with ⟨-, -, ⟨facts, loaded, not⟩ | ⟨fault, loaded, malformed⟩⟩ |
    ⟨fault, -, loaded, not⟩
  · simp [loaded, not]
  · simp [loaded, malformed]
  · simp [loaded, not]

theorem exists_read_of_isMalformed (malformed : isMalformed disk path) :
    ∃ content, disk.read path = .ok content := by
  rcases load_cases disk path with ⟨content, read, -⟩ | ⟨-, -, -, not⟩
  · exact ⟨content, read⟩
  · cases malformed.symm.trans not

theorem load_congr {before after : Disk} (same : after.read path = before.read path) :
    load after path = load before path := by
  rw [load, load, same]

end FactFile

def Survey.withSkipped (survey : Survey) (count : Nat) : Survey :=
  { survey with
    filesScanned := survey.filesScanned + count
    filesSkipped := survey.filesSkipped + count }

theorem Survey.filesScanned_ofAudits (root : Path) (filesScanned : Nat) (audits : List ClassAudit) :
    (ofAudits root filesScanned audits).filesScanned = filesScanned := by
  have run (survey : Survey) : (audits.foldl Survey.add survey).filesScanned = survey.filesScanned := by
    induction audits generalizing survey with
    | nil => rfl
    | cons audit audits ih => rw [List.foldl_cons, ih, add_eq]
  exact run _

theorem Disk.isFile_eq_false {disk : Disk} {path : Path} {location : List String}
    (located : disk.locate path = .ok location) (directory : disk.root.HoldsDirectory location) :
    disk.isFile path = false := by
  obtain ⟨entries, found⟩ := directory
  rw [Disk.isFile, disk.node_of_locate located found]
  rfl

namespace Plan

open FactFile (isMalformed load)

variable {plan : Plan} {disk before after : Disk}

/-- Files are loaded up to the first that cannot be read; if there is none, those without facts are
counted and the others kept in order. -/
theorem loadAll_eq (disk : Disk) (paths : List Path) :
    (∃ path ∈ paths, ∃ fault, disk.read path = .error fault ∧
      loadAll disk paths = .error (.unreadable path fault)) ∨
    (∀ path ∈ paths, ∃ content, disk.read path = .ok content) ∧
      ∃ loaded, loadAll disk paths = .ok (loaded, paths.countP (isMalformed disk)) ∧
        loaded.length + paths.countP (isMalformed disk) = paths.length := by
  induction paths with
  | nil => exact .inr ⟨by simp, [], rfl, rfl⟩
  | cons path paths ih =>
    rcases FactFile.load_cases disk path with ⟨content, read, here⟩ | ⟨fault, read, unreadable, -⟩
    · rcases ih with ⟨other, member, fault, unread, failed⟩ | ⟨readable, rest, done, total⟩
      · refine .inl ⟨other, .tail _ member, fault, unread, ?_⟩
        rcases here with ⟨facts, loaded, -⟩ | ⟨fault, malformed, -⟩
        · rw [loadAll, loaded, failed]
          rfl
        · rw [loadAll, malformed, failed]
          rfl
      · refine .inr ⟨List.forall_mem_cons.mpr ⟨⟨content, read⟩, readable⟩, ?_⟩
        rcases here with ⟨facts, loaded, kept⟩ | ⟨fault, malformed, skipped⟩
        · rw [loadAll, loaded, done, List.countP_cons_of_neg (by simp [kept]), List.length_cons]
          exact ⟨(path, facts) :: rest, rfl, by rw [List.length_cons]; omega⟩
        · rw [loadAll, malformed, done, List.countP_cons_of_pos skipped, List.length_cons]
          exact ⟨rest, rfl, by omega⟩
    · refine .inl ⟨path, .head _, fault, read, ?_⟩
      rw [loadAll, unreadable]
      rfl

/-- Of two disks the second has, at the locations not kept, files without facts; at those kept, the
files are the same. Loading from it skips the former. -/
theorem loadAll_filter {locations : List (List String)} {pathOf : List String → Path}
    {kept : List String → Bool}
    (same : ∀ location ∈ locations, kept location →
      load after (pathOf location) = load before (pathOf location))
    (malformed : ∀ location ∈ locations, ¬kept location → isMalformed after (pathOf location)) :
    loadAll after (locations.map pathOf) =
      (loadAll before ((locations.filter kept).map pathOf)).map fun loaded =>
        (loaded.1, loaded.2 + locations.countP (!kept ·)) := by
  induction locations with
  | nil => rfl
  | cons location locations ih =>
    have ⟨sameHere, sameRest⟩ := List.forall_mem_cons.mp same
    have ⟨malformedHere, malformedRest⟩ := List.forall_mem_cons.mp malformed
    have rest := ih sameRest malformedRest
    by_cases here : kept location
    · rw [List.filter_cons_of_pos here, List.map_cons, List.map_cons, loadAll, loadAll, sameHere here,
        rest, List.countP_cons_of_neg (by simp [here])]
      cases load before (pathOf location) with
      | ok facts => cases loadAll before ((locations.filter kept).map pathOf) <;> rfl
      | error failure =>
        by_cases recoverable : failure.isRecoverable
        · simp only [recoverable, if_true]
          cases loadAll before ((locations.filter kept).map pathOf) with
          | error _ => rfl
          | ok loaded =>
            simp only [Except.map, bind, Except.bind]
            rw [Nat.add_right_comm]
        · simp only [recoverable, Bool.false_eq_true, if_false]
          rfl
    · obtain ⟨fault, found⟩ := FactFile.isMalformed_iff.mp (malformedHere here)
      rw [List.filter_cons_of_neg here, List.map_cons, loadAll, found, rest,
        List.countP_cons_of_pos (by simp [here])]
      cases loadAll before ((locations.filter kept).map pathOf) <;> rfl

/-- The file that settings are taken from when the root is a directory. -/
def settingsPath? (plan : Plan) : Option Path :=
  match plan.preloaded, plan.settingsFile with
  | some _, _ => none
  | none, some path => some path
  | none, none => if plan.findsSettings then some (plan.root.join Settings.fileName) else none

theorem settings_congr (directory : before.isFile plan.root = false)
    (alsoDirectory : after.isFile plan.root = false)
    (same : ∀ path ∈ plan.settingsPath?,
      after.exists? path = before.exists? path ∧ after.readText path = before.readText path) :
    plan.settings after = plan.settings before := by
  unfold settings
  unfold settingsPath? at same
  cases preloaded : plan.preloaded with
  | some settings => rfl
  | none =>
    simp only [preloaded] at same ⊢
    cases named : plan.settingsFile with
    | some path =>
      simp only [named, Option.mem_def, Option.some.injEq, forall_eq'] at same ⊢
      rw [Settings.load, Settings.load, same.2]
    | none =>
      simp only [named] at same ⊢
      split
      · next looks =>
        simp only [looks, if_true, Option.mem_def, Option.some.injEq, forall_eq'] at same
        simp only [Settings.find, directory, alsoDirectory, Bool.false_eq_true, if_false, same.1,
          Settings.load, same.2]
      · rfl

theorem surveyFiles_congr (sameSettings : plan.settings after = plan.settings before)
    (files : List (Path × FactFile)) :
    plan.surveyFiles after files = plan.surveyFiles before files := by
  have sameAuditor : plan.auditor after = plan.auditor before := by
    rw [auditor, auditor, sameSettings]
  rw [surveyFiles, surveyFiles, sameAuditor]

theorem survey_of_gathered {paths : List Path}
    (gathered : FactFile.gather disk plan.root = .ok paths) :
    plan.survey disk = (loadAll disk paths).mapError .facts >>= fun loaded =>
      (plan.surveyFiles disk loaded.1).map fun survey =>
        { survey with filesSkipped := loaded.2, filesScanned := survey.filesScanned + loaded.2 } := by
  rw [survey, gathered]
  rfl

theorem filesScanned_of_surveyFiles {files : List (Path × FactFile)} {survey : Survey}
    (done : plan.surveyFiles disk files = .ok survey) : survey.filesScanned = files.length := by
  obtain ⟨auditor, -, -, rfl⟩ := eq_ofAudits_of_surveyFiles done
  exact Survey.filesScanned_ofAudits _ _ _

/-- The second disk has, beside what the first one has, files without facts at the locations `added`:
below the directory that is the root of the plan, and below no excluded one. The root is not excluded
either, and the settings file, if one is looked for, reads as before. -/
structure GainsMalformed (plan : Plan) (before after : Disk) (location : List String)
    (added : List (List String)) : Prop where
  sound : before.root.WellNamed
  alsoSound : after.root.WellNamed
  located : before.locate plan.root = .ok location
  directory : before.root.HoldsDirectory location
  entered : ¬FactFile.isExcluded (FactFile.rootName plan.root)
  gains : before.Gains after (added.map (location ++ ·))
  gathered : ∀ names ∈ added, FactFile.IsGathered names
  malformed : ∀ names ∈ added, isMalformed after (plan.root.below names)
  settings : ∀ path ∈ plan.settingsPath?,
    after.exists? path = before.exists? path ∧ after.readText path = before.readText path

/-- Something stood before at a location below the root, which is itself at `above`. -/
def WasThere (before : Disk) (above : List String) (visited : FactFile.Visited) : Prop :=
  (before.root.get? (above ++ visited.location)).isSome

instance (before : Disk) (above : List String) (visited : FactFile.Visited) :
    Decidable (WasThere before above visited) :=
  inferInstanceAs (Decidable ((before.root.get? (above ++ visited.location)).isSome))

namespace GainsMalformed

variable {location : List String} {added : List (List String)}

open FactFile (Visited visitedFrom inOrder enter mem_inOrder mem_visitedFrom_at)

variable {names : List String} {entries others : List (String × Node)}

theorem alsoLocated (gained : plan.GainsMalformed before after location added) :
    after.locate plan.root = .ok location := gained.gains.keeps.locate gained.located

/-- A file below the root is one of those before or one of those added, and not both. -/
theorem isFile_below_iff (gained : plan.GainsMalformed before after location added)
    (named : ∀ name ∈ names, Path.IsName name) :
    before.isFile (plan.root.below names) ↔ after.isFile (plan.root.below names) ∧ names ∉ added := by
  have among : location ++ names ∈ added.map (location ++ ·) ↔ names ∈ added := by simp
  constructor
  · intro isFile
    obtain ⟨content, reached⟩ := Disk.isFile_iff.mp isFile
    have was := Disk.get?_of_node_at gained.located named reached
    refine ⟨by rwa [gained.gains.isFile_below gained.located named was], fun new => ?_⟩
    exact (gained.gains.new _ (among.mpr new)).2 content was
  · rintro ⟨isFile, old⟩
    obtain ⟨content, reached⟩ := Disk.isFile_iff.mp isFile
    rcases gained.gains.only _ _ (Disk.get?_of_node_at gained.alsoLocated named reached) with was | new
    · rwa [← gained.gains.isFile_below gained.located named was]
    · exact absurd (among.mp new) old

section Walks

variable (gained : plan.GainsMalformed before after location added)
  (there : after.root.get? location = some (.directory others))

include gained there

theorem enter_eq {file : Bool} (member : ⟨names, file⟩ ∈ visitedFrom (.directory others))
    (was : WasThere before location ⟨names, file⟩) :
    enter after plan.root ⟨names, file⟩ = enter before plan.root ⟨names, file⟩ := by
  obtain ⟨⟨child, found, kind⟩, -⟩ := (mem_visitedFrom_at gained.alsoSound there).mp member
  obtain ⟨old, was⟩ := Option.isSome_iff_exists.mp was
  obtain ⟨later, alsoFound, same⟩ := gained.gains.isFile_of_get? was
  obtain rfl := Option.some.inj (found.symm.trans alsoFound)
  cases file with
  | true => rfl
  | false =>
    have held := Node.holdsDirectory_of_get? was (same.symm.trans kind)
    have named : ∀ name ∈ names, Path.IsName name := fun name member =>
      gained.sound.isName (Option.isSome_of_eq_some was) name (List.mem_append_right _ member)
    rw [FactFile.enter_directory, FactFile.enter_directory,
      gained.gains.list_below gained.located named held]

/-- New directories are listed, for they stand on the way to files that are read. -/
theorem enter_eq_ok {file : Bool} (member : ⟨names, file⟩ ∈ visitedFrom (.directory others))
    (new : ¬WasThere before location ⟨names, file⟩) :
    enter after plan.root ⟨names, file⟩ = .ok () := by
  obtain ⟨⟨child, found, kind⟩, -⟩ := (mem_visitedFrom_at gained.alsoSound there).mp member
  cases file with
  | true => rfl
  | false =>
    obtain ⟨listed, found⟩ := Node.holdsDirectory_of_get? found kind
    rcases gained.gains.above _ ⟨listed, found⟩ with ⟨entries, was⟩ | ⟨opens, file, among, onWay⟩
    · exact absurd (Option.isSome_of_eq_some was) new
    · obtain ⟨file, added, rfl⟩ := List.mem_map.mp among
      obtain ⟨more, rfl⟩ := (List.prefix_append_right_inj location).mp onWay
      obtain ⟨⟨content, held⟩, -⟩ := gained.gains.new _ among
      obtain ⟨content, read⟩ := FactFile.exists_read_of_isMalformed (gained.malformed _ added)
      obtain ⟨target, located⟩ := Disk.exists_locate_of_read read
      have named : ∀ name ∈ names ++ more, Path.IsName name := fun name member =>
        gained.alsoSound.isName (Option.isSome_of_eq_some held) name (List.mem_append_right _ member)
      have reached := Disk.locate_of_below gained.alsoLocated named located
      have listing : after.list (plan.root.below names) = .ok listed := by
        rw [Disk.list_eq_ok_iff, Disk.opened_of_locate reached found, opens]
        rfl
      rw [FactFile.enter_directory, listing]
      rfl

theorem mem_gathered_iff :
    names ∈ FactFile.gathered after plan.root (inOrder (visitedFrom (.directory others))) ↔
      FactFile.IsGathered names ∧ after.isFile (plan.root.below names) ∧
        ∃ content, (Node.directory others).HoldsFile names content := by
  rw [FactFile.mem_gathered_inOrder, FactFile.mem_gathered (gained.alsoSound.of_get? there)
    (Disk.node_of_locate gained.alsoLocated there)]

theorem countP_gathered :
    (FactFile.gathered after plan.root (inOrder (visitedFrom (.directory others)))).countP (· ∈ added) =
      added.length := by
  have distinct : ((inOrder (visitedFrom (.directory others))).map (·.location)).Nodup :=
    ((FactFile.inOrder_perm _).map _).nodup_iff.mpr (FactFile.nodup_locations (gained.alsoSound.of_get? there))
  rw [List.countP_eq_length_filter]
  refine List.Perm.length_eq ?_
  refine (List.perm_ext_iff_of_nodup ((FactFile.nodup_gathered _ _ distinct).filter _)
    gained.gains.distinct.of_map).mpr fun names => ?_
  rw [List.mem_filter, decide_eq_true_iff, gained.mem_gathered_iff there]
  refine ⟨And.right, fun member => ⟨⟨gained.gathered names member, ?_, ?_⟩, member⟩⟩
  · obtain ⟨content, read⟩ := FactFile.exists_read_of_isMalformed (gained.malformed names member)
    exact Disk.isFile_of_read read
  · obtain ⟨⟨content, held⟩, -⟩ := gained.gains.new _ (List.mem_map_of_mem member)
    rw [Node.HoldsFile, Node.get?_append, there] at held
    exact ⟨content, held⟩

theorem holdsFile_of_gathered
    (member : names ∈ FactFile.gathered after plan.root (inOrder (visitedFrom (.directory others))))
    (old : names ∉ added) : ∃ content, before.root.HoldsFile (location ++ names) content := by
  obtain ⟨-, -, content, held⟩ := (gained.mem_gathered_iff there).mp member
  have later : after.root.HoldsFile (location ++ names) content := by
    rwa [Node.HoldsFile, Node.get?_append, there]
  rcases gained.gains.only _ _ later with was | new
  · exact ⟨content, was⟩
  · exact absurd (by simpa using new) old

variable (here : before.root.get? location = some (.directory entries))

include here

/-- Without what is new a walk comes upon what it came upon before. -/
theorem filter_visitedFrom :
    (inOrder (visitedFrom (.directory others))).filter (WasThere before location ·) =
      inOrder (visitedFrom (.directory entries)) := by
  have sound := gained.sound.of_get? here
  have alsoSound := gained.alsoSound.of_get? there
  refine FactFile.filter_inOrder (FactFile.nodup_locations alsoSound) ?_
  rw [List.perm_ext_iff_of_nodup ((FactFile.nodup_visitedFrom alsoSound).filter _)
    (FactFile.nodup_visitedFrom sound)]
  rintro ⟨names, file⟩
  rw [List.mem_filter, decide_eq_true_iff, mem_visitedFrom_at gained.sound here,
    mem_visitedFrom_at gained.alsoSound there, WasThere]
  constructor
  · rintro ⟨⟨⟨child, found, rfl⟩, apart⟩, was⟩
    obtain ⟨old, was⟩ := Option.isSome_iff_exists.mp was
    obtain ⟨later, alsoFound, kind⟩ := gained.gains.isFile_of_get? was
    rw [found] at alsoFound
    obtain rfl := Option.some.inj alsoFound
    exact ⟨⟨old, was, kind.symm⟩, apart⟩
  · rintro ⟨⟨child, found, rfl⟩, apart⟩
    obtain ⟨later, alsoFound, kind⟩ := gained.gains.isFile_of_get? found
    exact ⟨⟨⟨later, alsoFound, kind⟩, apart⟩, Option.isSome_of_eq_some found⟩

theorem forM_enter_eq :
    forM (inOrder (visitedFrom (.directory others))) (enter after plan.root) =
      forM (inOrder (visitedFrom (.directory entries))) (enter before plan.root) := by
  rw [← gained.filter_visitedFrom there here]
  refine forM_filter _ (fun visited member was => ?_) fun visited member new => ?_
  · exact gained.enter_eq there (mem_inOrder.mp member) (of_decide_eq_true was)
  · exact gained.enter_eq_ok there (mem_inOrder.mp member) (by simpa using new)

/-- What is gathered without the files added is what is gathered with them, less these. -/
theorem gathered_eq :
    FactFile.gathered before plan.root (inOrder (visitedFrom (.directory entries))) =
      (FactFile.gathered after plan.root (inOrder (visitedFrom (.directory others)))).filter
        (· ∉ added) := by
  rw [← gained.filter_visitedFrom there here, FactFile.gathered, FactFile.gathered, List.filter_map,
    List.filter_filter, List.filter_filter]
  refine congrArg (List.map _) (List.filter_congr ?_)
  rintro ⟨names, file⟩ member
  obtain ⟨⟨child, found, rfl⟩, -⟩ := (mem_visitedFrom_at gained.alsoSound there).mp (mem_inOrder.mp member)
  have named : ∀ name ∈ names, Path.IsName name := fun name member =>
    gained.alsoSound.isName (Option.isSome_of_eq_some found) name (List.mem_append_right _ member)
  have same := gained.isFile_below_iff named
  have was (isFile : before.isFile (plan.root.below names)) :
      WasThere before location ⟨names, child.isFile⟩ := by
    obtain ⟨content, reached⟩ := Disk.isFile_iff.mp isFile
    exact Option.isSome_of_eq_some (Disk.get?_of_node_at gained.located named reached)
  have path : (Visited.mk names child.isFile).path plan.root = plan.root.below names := rfl
  rw [Bool.eq_iff_iff]
  simp only [Bool.and_eq_true, decide_eq_true_iff, Function.comp_apply, path, FactFile.isFactFile]
  tauto

end Walks

/-- The files added make no directory fail to be listed, and what else is gathered stays the same. -/
theorem gather_eq (gained : plan.GainsMalformed before after location added) :
    ∃ (listed : Except Failure Unit) (locations : List (List String)),
      FactFile.gather after plan.root = listed.map (fun _ => locations.map plan.root.below) ∧
      FactFile.gather before plan.root =
        listed.map (fun _ => (locations.filter (· ∉ added)).map plan.root.below) ∧
      locations.countP (· ∈ added) = added.length ∧
      ∀ names ∈ locations, names ∉ added →
        ∃ content, before.root.HoldsFile (location ++ names) content := by
  obtain ⟨entries, here⟩ := gained.directory
  obtain ⟨others, there⟩ := gained.gains.directories location gained.directory
  refine ⟨_, _, FactFile.gather_of_directory (Disk.node_of_locate gained.alsoLocated there) gained.entered,
    ?_, gained.countP_gathered there, fun names => gained.holdsFile_of_gathered there⟩
  rw [FactFile.gather_of_directory (Disk.node_of_locate gained.located here) gained.entered,
    gained.forM_enter_eq there here, gained.gathered_eq there here]

theorem loadAll (gained : plan.GainsMalformed before after location added)
    {locations : List (List String)}
    (held : ∀ names ∈ locations, names ∉ added →
      ∃ content, before.root.HoldsFile (location ++ names) content) :
    Plan.loadAll after (locations.map plan.root.below) =
      (Plan.loadAll before ((locations.filter (· ∉ added)).map plan.root.below)).map fun loaded =>
        (loaded.1, loaded.2 + locations.countP (· ∈ added)) := by
  have same : ∀ names ∈ locations, decide (names ∉ added) →
      load after (plan.root.below names) = load before (plan.root.below names) := by
    intro names member old
    obtain ⟨content, there⟩ := held names member (of_decide_eq_true old)
    have named : ∀ name ∈ names, Path.IsName name := fun name member =>
      gained.sound.isName (Option.isSome_of_eq_some there) name (List.mem_append_right _ member)
    exact FactFile.load_congr (gained.gains.read_below gained.located named there)
  have skipped : ∀ names ∈ locations, ¬decide (names ∉ added) →
      isMalformed after (plan.root.below names) := by
    intro names _ new
    exact gained.malformed names (by simpa using new)
  simpa using loadAll_filter same skipped

end GainsMalformed

theorem survey_of_gainsMalformed {location : List String} {added : List (List String)}
    (gained : plan.GainsMalformed before after location added) :
    plan.survey after = (plan.survey before).map (·.withSkipped added.length) := by
  obtain ⟨listed, locations, fromAfter, fromBefore, count, held⟩ := gained.gather_eq
  have sameSettings : plan.settings after = plan.settings before :=
    settings_congr (Disk.isFile_eq_false gained.located gained.directory)
      (Disk.isFile_eq_false gained.alsoLocated
        (gained.gains.directories location gained.directory)) gained.settings
  cases listed with
  | error failure =>
    rw [survey, survey, fromAfter, fromBefore]
    rfl
  | ok listed =>
    rw [survey_of_gathered fromAfter, survey_of_gathered fromBefore, gained.loadAll held, count]
    cases Plan.loadAll before ((locations.filter (· ∉ added)).map plan.root.below) with
    | error failure => rfl
    | ok loaded =>
      simp only [Except.map, Except.mapError, bind, Except.bind,
        surveyFiles_congr sameSettings loaded.1]
      cases plan.surveyFiles before loaded.1 with
      | error fault => rfl
      | ok survey => simp only [Survey.withSkipped, Nat.add_assoc]

theorem counts_of_survey {survey : Survey} (done : plan.survey disk = .ok survey) :
    ∃ paths, FactFile.gather disk plan.root = .ok paths ∧
      survey.filesScanned = paths.length ∧ survey.filesSkipped = paths.countP (isMalformed disk) := by
  obtain ⟨paths, gathered, -⟩ := bind_eq_ok_iff.mp done
  rw [mapError_eq_ok_iff] at gathered
  refine ⟨paths, gathered, ?_⟩
  rw [survey_of_gathered gathered] at done
  rcases loadAll_eq disk paths with ⟨path, -, fault, -, failed⟩ | ⟨-, loaded, loads, total⟩
  · rw [failed] at done
    cases done
  · rw [loads] at done
    obtain ⟨inner, summed, rfl⟩ := map_eq_ok_iff.mp done
    have scanned := filesScanned_of_surveyFiles summed
    exact ⟨by rw [← total, ← scanned], rfl⟩

theorem survey_of_unreadable {paths : List Path} {path : Path} {fault : IoFault}
    (gathered : FactFile.gather disk plan.root = .ok paths) (member : path ∈ paths)
    (unread : disk.read path = .error fault) :
    ∃ first ∈ paths, ∃ cause, disk.read first = .error cause ∧
      plan.survey disk = .error (.facts (.unreadable first cause)) := by
  rw [survey_of_gathered gathered]
  rcases loadAll_eq disk paths with ⟨first, member, cause, here, failed⟩ | ⟨readable, -⟩
  · exact ⟨first, member, cause, here, by rw [failed]; rfl⟩
  · obtain ⟨content, read⟩ := readable path member
    cases unread.symm.trans read

/-- Files without facts, put anywhere below the root where files are gathered, are counted as met and
as skipped; otherwise the survey is the same, or fails the same way. Whenever a survey succeeds, the
files it has met are those gathered, and it has skipped those of them that hold no facts; but a
gathered file that cannot be read ends it. -/
theorem survey_skips_malformed_files (plan : Plan) :
    (∀ before after location added, plan.GainsMalformed before after location added →
      plan.survey after = (plan.survey before).map (·.withSkipped added.length)) ∧
    (∀ disk survey, plan.survey disk = .ok survey →
      ∃ paths, FactFile.gather disk plan.root = .ok paths ∧
        survey.filesScanned = paths.length ∧
        survey.filesSkipped = paths.countP (isMalformed disk)) ∧
    ∀ disk paths, FactFile.gather disk plan.root = .ok paths →
      ∀ path ∈ paths, ∀ fault, disk.read path = .error fault →
        ∃ first ∈ paths, ∃ cause, disk.read first = .error cause ∧
          plan.survey disk = .error (.facts (.unreadable first cause)) :=
  ⟨fun _ _ _ _ => survey_of_gainsMalformed, fun _ _ => counts_of_survey,
    fun _ _ gathered _ member _ => survey_of_unreadable gathered member⟩

/-- A file that breaks off is put into a new directory, and one may not be read. -/
theorem survey_skips_malformed_file_in_new_directory :
    let plan : Plan := .start ⟨"."⟩
    let old : String × Node := ("a.json", .file [0x7B, 0x7D])
    let before : Disk := ⟨.directory [old], [], []⟩
    let after : Disk := ⟨.directory [old, ("b", .directory [("c.json", .file [0x7B])])], [], []⟩
    let closed : Disk := ⟨.directory [old], [], [(["a.json"], .denied)]⟩
    plan.GainsMalformed before after [] [["b", "c.json"]] ∧
      plan.survey after = (plan.survey before).map (·.withSkipped 1) ∧
      (plan.survey before).toOption.map (fun survey => (survey.filesScanned, survey.filesSkipped)) =
        some (1, 0) ∧
      FactFile.gather closed plan.root = .ok [⟨"./a.json"⟩] ∧
      plan.survey closed = .error (.facts (.unreadable ⟨"./a.json"⟩ .denied)) := by
  intro plan old before after closed
  have oldNamed : Path.IsName "a.json" := ⟨by decide, by decide, by decide, by decide⟩
  have above : Path.IsName "b" := ⟨by decide, by decide, by decide, by decide⟩
  have newNamed : Path.IsName "c.json" := ⟨by decide, by decide, by decide, by decide⟩
  have inNew (names : List String) : names ∈ [["c.json"]] ↔
      ∃ content, (Node.directory [("c.json", .file [0x7B])]).HoldsFile names content := by
    simp [Node.holdsFile_singleton_iff]
  have onWay (names : List String)
      (held : (Node.directory [("c.json", .file [0x7B])]).HoldsDirectory names) :
      ∃ file ∈ [["c.json"]], names <+: file := by
    rw [Node.holdsDirectory_singleton_iff.mp held]
    exact ⟨_, List.mem_singleton_self _, List.nil_prefix⟩
  have located : before.locate plan.root = .ok [] := by decide +kernel
  have gained : plan.GainsMalformed before after [] [["b", "c.json"]] := {
    sound := Node.wellNamed_directory (by decide) (by simpa [old] using ⟨oldNamed, Node.wellNamed_file _⟩)
    alsoSound := by
      have inner : (Node.directory [("c.json", .file [0x7B])]).WellNamed :=
        Node.wellNamed_directory (by decide) (by simpa using ⟨newNamed, Node.wellNamed_file _⟩)
      exact Node.wellNamed_directory (by decide)
        (by simpa [old] using ⟨⟨oldNamed, Node.wellNamed_file _⟩, above, inner⟩)
    located
    directory := ⟨_, rfl⟩
    entered := by decide +kernel
    gains := Disk.Gains.of_new_entry (by decide) inNew onWay (fun _ => rfl) (by decide)
    gathered := by
      intro names member
      rw [List.mem_singleton.mp member]
      exact ⟨["b"], "c.json", rfl, by decide +kernel, by decide +kernel⟩
    malformed := by
      intro names member
      rw [List.mem_singleton.mp member]
      decide +kernel
    settings := by
      rintro path ⟨⟩
      exact ⟨by decide +kernel, by decide +kernel⟩ }
  have gathered (refusals : List (List String × IoFault)) (opens : refusals.lookup [] = none) :
      FactFile.gather ⟨.directory [old], [], refusals⟩ ⟨"."⟩ = .ok [⟨"./a.json"⟩] := by
    have walk : FactFile.inOrder (FactFile.visitedFrom (.directory [old])) = [⟨[], false⟩, ⟨["a.json"], true⟩] :=
      List.mergeSort_of_pairwise (by decide +kernel)
    have reached : Disk.locate ⟨.directory [old], [], refusals⟩ ⟨"."⟩ = .ok [] := located
    have listed : Disk.list ⟨.directory [old], [], refusals⟩ ⟨"."⟩ = .ok [old] := by
      rw [Disk.list_eq_ok_iff, Disk.opened_of_locate reached rfl, Disk.refusal?, opens]
      rfl
    have file : FactFile.gathered ⟨.directory [old], [], refusals⟩ ⟨"."⟩
        [⟨[], false⟩, ⟨["a.json"], true⟩] = [["a.json"]] := rfl
    rw [FactFile.gather_of_directory (Disk.node_of_locate reached rfl) (by decide +kernel), walk,
      List.forM_cons, FactFile.enter_directory, Path.below, List.foldl_nil, listed, file]
    rfl
  have denied : closed.read ⟨"./a.json"⟩ = .error .denied := by decide +kernel
  obtain ⟨skips, -, ends⟩ := plan.survey_skips_malformed_files
  refine ⟨gained, skips _ _ _ _ gained, ?_, gathered _ rfl, ?_⟩
  · rw [survey_of_gathered (gathered _ rfl)]
    decide +kernel
  · obtain ⟨first, member, cause, unread, failed⟩ :=
      ends closed _ (gathered _ rfl) _ (List.mem_singleton_self _) _ denied
    obtain rfl := List.mem_singleton.mp member
    obtain rfl := Except.error.inj (denied.symm.trans unread)
    exact failed

end Plan
end PropertyAudit
