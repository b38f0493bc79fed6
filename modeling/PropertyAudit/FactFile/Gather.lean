import PropertyAudit.Failure
import PropertyAudit.FactFile.Decoder

/-! Finding and loading fact files. -/
namespace PropertyAudit.FactFile

def excludedDirectories : List String := ["target", ".git", "node_modules", "vendor"]

def isExcluded (name : String) : Bool := excludedDirectories.contains name

def isFactFileName (name : String) : Bool := Path.extension? name == some "json"

/-- What a walk comes upon, told from where it starts. -/
structure Visited where
  location : List String
  isFile : Bool
deriving DecidableEq

namespace Visited

def below (name : String) (visited : Visited) : Visited :=
  { visited with location := name :: visited.location }

def path (root : Path) (visited : Visited) : Path := visited.location.foldl Path.join root

end Visited

mutual
/-- All that a walk from a node comes upon. Directories of excluded names are passed by. -/
def visitedFrom : Node → List Visited
  | .file _ => [⟨[], true⟩]
  | .directory entries => ⟨[], false⟩ :: visitedAmong entries

def visitedAmong : List (String × Node) → List Visited
  | [] => []
  | (name, child) :: entries =>
    (if !child.isFile && isExcluded name then [] else (visitedFrom child).map (.below name)) ++
      visitedAmong entries
end

def inOrder (visited : List Visited) : List Visited :=
  visited.mergeSort fun a b => !(b.location < a.location)

/-- A directory has to be listed before a walk goes on. -/
def enter (disk : Disk) (root : Path) (visited : Visited) : Except Failure Unit :=
  if visited.isFile then .ok ()
  else
    let path := visited.path root
    ((disk.list path).map fun _ => ()).mapError (.unreadable path)

def isFactFile (disk : Disk) (path : Path) : Bool :=
  disk.isFile path && path.fileName?.any isFactFileName

/-- The name by which a root is excluded: its last one, or else its whole text. -/
def rootName (root : Path) : String := root.fileName?.getD root.text

/-- The fact files at or below a root, in the order of their names. A root that is a file is taken
whatever its name. Of several directories that cannot be listed the first in that order is told. -/
def gather (disk : Disk) (root : Path) : Except Failure (List Path) :=
  match disk.node root with
  | .error _ => .error (.missingRoot root)
  | .ok (.file _) => .ok [root]
  | .ok directory =>
    if isExcluded (rootName root) then .ok []
    else do
      let visited := inOrder (visitedFrom directory)
      forM visited (enter disk root)
      return (visited.map (·.path root)).filter (isFactFile disk)

def parse (path : Path) (text : String) : Except Failure FactFile :=
  (ofText text).mapError (.malformed path)

def load (disk : Disk) (path : Path) : Except Failure FactFile := do
  let content ← (disk.read path).mapError (.unreadable path)
  (ofBytes content).mapError (.malformed path)

end PropertyAudit.FactFile
