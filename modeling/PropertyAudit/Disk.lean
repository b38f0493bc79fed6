import PropertyAudit.Association
import PropertyAudit.Path
import PropertyAudit.Text.Encoding

/-! Files and directories as a value. Reading asks it, and writing gives a new one. -/
namespace PropertyAudit

inductive Node where
  | file (content : List UInt8)
  | directory (entries : List (String × Node))

namespace Node

/-- The node at a location below this one. -/
def get? : Node → List String → Option Node
  | node, [] => some node
  | file _, _ :: _ => none
  | directory entries, name :: names =>
    match entries.lookup name with
    | some child => child.get? names
    | none => none

/-- Puts `new` at a location below the node, making the directories on the way. -/
def put : Node → List String → Node → Node
  | _, [], new => new
  | node, name :: names, new =>
    let entries := match node with
      | directory entries => entries
      | file _ => []
    let child := (entries.lookup name).getD (directory [])
    directory (Association.put name (child.put names new) entries)

def isFile : Node → Bool
  | file _ => true
  | directory _ => false

end Node

inductive IoFault where
  | notFound
  | inputOutput
  | denied
  | notDirectory
  | isDirectory
  | nameTooLong
  | nulInPath
  | invalidText
deriving Repr, DecidableEq

def IoFault.message : IoFault → String
  | .notFound => "No such file or directory (os error 2)"
  | .inputOutput => "Input/output error (os error 5)"
  | .denied => "Permission denied (os error 13)"
  | .notDirectory => "Not a directory (os error 20)"
  | .isDirectory => "Is a directory (os error 21)"
  | .nameTooLong => "File name too long (os error 36)"
  | .nulInPath => "file name contained an unexpected NUL byte"
  | .invalidText => "stream did not contain valid UTF-8"

/-- All files, and the location of the working directory among them. -/
structure Disk where
  root : Node
  working : List String
  /-- Locations of what the system does not open. Paths lead there and further all the same. -/
  refusals : List (List String × IoFault) := []

namespace Disk

def empty : Disk := ⟨.directory [], [], []⟩

def refusal? (disk : Disk) (location : List String) : Option IoFault := disk.refusals.lookup location

/-- The longest name and the longest path, in bytes. -/
def nameLimit : Nat := 255

def pathLimit : Nat := 4095

/-- The location that a segment leads to. -/
def step (root : Node) (location : List String) (segment : String) :
    Except IoFault (List String) :=
  match root.get? location with
  | none => .error .notFound
  | some (.file _) => .error .notDirectory
  | some (.directory entries) =>
    if Path.isNeutral segment then .ok location
    else if segment == ".." then .ok location.dropLast
    else if nameLimit < segment.utf8ByteSize then .error .nameTooLong
    else if (entries.lookup segment).isSome then .ok (location ++ [segment])
    else .error .notFound

def checked (path : Path) : Except IoFault Unit :=
  if path.text.toList.contains '\x00' then .error .nulInPath
  else if path.text == "" then .error .notFound
  else if pathLimit < path.text.utf8ByteSize then .error .nameTooLong
  else .ok ()

def origin (disk : Disk) (path : Path) : List String :=
  if path.isAbsolute then [] else disk.working

def locate (disk : Disk) (path : Path) : Except IoFault (List String) := do
  checked path
  path.segments.foldlM (step disk.root) (disk.origin path)

def node (disk : Disk) (path : Path) : Except IoFault Node := do
  match disk.root.get? (← disk.locate path) with
  | some node => .ok node
  | none => .error .notFound

def isFile (disk : Disk) (path : Path) : Bool :=
  match disk.node path with
  | .ok node => node.isFile
  | .error _ => false

def exists? (disk : Disk) (path : Path) : Bool := (disk.node path).toBool

/-- What a path leads to, unless the system refuses to open it. -/
def opened (disk : Disk) (path : Path) : Except IoFault Node := do
  let location ← disk.locate path
  match disk.root.get? location, disk.refusal? location with
  | none, _ => .error .notFound
  | some _, some fault => .error fault
  | some node, none => .ok node

def read (disk : Disk) (path : Path) : Except IoFault (List UInt8) := do
  match ← disk.opened path with
  | .file content => .ok content
  | .directory _ => .error .isDirectory

def list (disk : Disk) (path : Path) : Except IoFault (List (String × Node)) := do
  match ← disk.opened path with
  | .file _ => .error .notDirectory
  | .directory entries => .ok entries

def readText (disk : Disk) (path : Path) : Except IoFault String := do
  match Text.ofBytes? (← disk.read path) with
  | some text => .ok text
  | none => .error .invalidText

/-- The location of a file written to the path, in the place of any file there. Its directory has to be
there. -/
def target (disk : Disk) (path : Path) : Except IoFault (List String) := do
  checked path
  let backward := path.segments.reverse
  match backward.dropWhile (· == "") with
  | [] => .error .isDirectory
  | last :: before =>
    let location ← before.reverse.foldlM (step disk.root) (disk.origin path)
    match disk.root.get? location with
    | none => .error .notFound
    | some (.file _) => .error .notDirectory
    | some (.directory entries) =>
      if last == "." || last == ".." || backward.head? == some "" then .error .isDirectory
      else if nameLimit < last.utf8ByteSize then .error .nameTooLong
      else
        match entries.lookup last, disk.refusal? (location ++ [last]) with
        | some (.directory _), _ => .error .isDirectory
        | _, some fault => .error fault
        | _, none => .ok (location ++ [last])

def write (disk : Disk) (path : Path) (content : List UInt8) : Except IoFault Disk := do
  let location ← disk.target path
  .ok { disk with root := disk.root.put location (.file content) }

end Disk
end PropertyAudit
