import PropertyAudit.CommandLine.Run

/-! The program. It takes down the files that a run may look at, runs, and writes what the run
wrote. -/
namespace PropertyAudit.CommandLine

/-- Taking down notes what the system does not open. -/
abbrev TakingDown := StateT (List (List String × IoFault)) IO

def faultOf : IO.Error → IoFault
  | .permissionDenied .. => .denied
  | _ => .inputOutput

def refuse (location : List String) (fault : IO.Error) : TakingDown Unit :=
  modify ((location, faultOf fault) :: ·)

/-- The place of a text in the file system. -/
def placeOf (text : String) : IO IO.FS.DirEntry := return ⟨← IO.currentDir, text⟩

def isRelevant (name : String) : Bool := FactFile.isFactFileName name || name == Settings.fileName

def contentOf (location : List String) (place : IO.FS.DirEntry) : TakingDown Node := do
  try return .file (← IO.FS.readBinFile place.path).toList
  catch fault =>
    refuse location fault
    return .file []

/-- The files below a directory that a run may look at. Links to directories are not followed. -/
partial def entriesBelow (location : List String) (place : IO.FS.DirEntry) :
    TakingDown (List (String × Node)) := do
  let listed ← try place.path.readDir catch fault => do
    refuse location fault
    pure #[]
  let mut entries := []
  for entry in listed do
    let name := entry.fileName
    let below := location ++ [name]
    if ← entry.path.isDir then
      let isLink := (← entry.path.symlinkMetadata).type == .symlink
      let children ← if isLink || FactFile.isExcluded name then pure [] else entriesBelow below entry
      entries := (name, .directory children) :: entries
    else if isRelevant name then
      entries := (name, ← contentOf below entry) :: entries
  return entries.reverse

/-- What stands at a location; of a directory only that it is there, unless `below` is wanted, too.
-/
def nodeAt (location : List String) (below : Bool) : TakingDown (Option Node) := do
  let place ← placeOf ("/" ++ "/".intercalate location)
  if ← place.path.isDir then
    return some (.directory (← if below then entriesBelow location place else pure []))
  else if ← place.path.pathExists then
    return some (← contentOf location place)
  else
    return none

def takeDown (disk : Disk) (path : Path) (below : Bool) : TakingDown Disk := do
  let mut root := disk.root
  let mut location := disk.origin path
  for segment in path.names do
    location := if segment == ".." then location.dropLast else location ++ [segment]
    if (root.get? location).isNone then
      if let some node ← nodeAt location false then
        root := root.put location node
  if below then
    if let some node ← nodeAt location true then
      root := root.put location node
  return { disk with root }

def diskFor (arguments : Arguments) : IO Disk := do
  let working := (Path.mk (← IO.currentDir).toString).names
  let start : Disk := { root := (Node.directory []).put working (.directory []), working }
  let beside := (arguments.root.parent?.getD arguments.root).join Settings.fileName
  let paths := beside :: (arguments.config.toList ++ arguments.output.toList).map Path.mk
  let taking : TakingDown Disk := do
    paths.foldlM (takeDown · · false) (← takeDown start arguments.root true)
  let (disk, refusals) ← taking.run []
  return { disk with refusals }

def perform (arguments : Arguments) : IO Outcome := do
  let outcome := arguments.run (← diskFor arguments)
  if outcome.exit ≠ 2 then
    if let some file := arguments.output then
      if let .ok content := outcome.disk.read ⟨file⟩ then
        IO.FS.writeBinFile (← placeOf file).path ⟨content.toArray⟩
  return outcome

def outcomeOf (texts : List String) : IO Outcome := do
  match Request.ofArguments texts with
  | .run arguments =>
    try perform arguments
    catch fault => return ⟨2, "", "[ERROR] " ++ toString fault ++ "\n", .empty⟩
  | _ => return run texts .empty

end PropertyAudit.CommandLine

def main (texts : List String) : IO UInt32 := do
  let outcome ← PropertyAudit.CommandLine.outcomeOf texts
  IO.print outcome.stdout
  IO.eprint outcome.stderr
  return outcome.exit.toUInt32
