/-
**Files in memory.**

A small tree of directories and files.  Paths are relative to its root.  A name on the way of a path
has to be a directory, `.` and empty names stay where they are, and `..` goes back.

Main definitions:

* `Files` — the files and directories, by the names on the way to them;
* `Files.locate` — where a path leads;
* `Files.content`, `Files.createDirectory?`, `Files.write?` — reading and changing;
* `Files.storage` — files in memory as a place where files are kept;
* `Files.changedSince` — what a run has written.
-/

import Interconnect.Storage
import Interconnect.Text.Fields

set_option autoImplicit false

namespace Interconnect

/-- A place in a tree of files: the names on the way to it. -/
abbrev Location := List String

/-- A directory or a file. -/
inductive Files.Entry where
  | directory
  | file (data : ByteArray)

/-- Files and directories.  The root is a directory without an entry. -/
structure Files where
  /-- The entries; the first one for a place counts. -/
  entries : List (Location × Files.Entry)

namespace Files

/-- A root directory with nothing in it. -/
def empty : Files := ⟨[]⟩

/-- What is at a place. -/
def lookup? (f : Files) (loc : Location) : Option Entry :=
  if loc.isEmpty then some .directory else f.entries.lookup loc

/-- Puts something at a place, instead of what was there. -/
def put (f : Files) (loc : Location) (e : Entry) : Files :=
  ⟨(loc, e) :: f.entries.filter fun old => old.1 != loc⟩

/-! ### Paths -/

/-- Whether a file can have the name. -/
def isUsable (name : String) : Bool := name.utf8ByteSize ≤ 255 && !name.toList.contains '\x00'

/-- The names in a path.  An absolute path leads out of the tree. -/
def names? (path : String) : Option (List String) :=
  match path.toList with
  | '/' :: _ => none
  | cs =>
      let names := (Text.fields '/' cs).map String.ofList
      if names.all isUsable then some names else none

/-- Goes from a place, which has to be a directory, to the one with a name in it. -/
def step (f : Files) (here : Location) (name : String) : Option Location :=
  match f.lookup? here with
  | some .directory =>
      if name = "" ∨ name = "." then some here
      else if name = ".." then some here.dropLast
      else some (here ++ [name])
  | _ => none

/-- Where a path leads. -/
def locate (f : Files) (path : String) : Option Location := do
  (← names? path).foldlM f.step []

/-! ### Reading and changing -/

/-- What is in the file at a path. -/
def content (f : Files) (path : String) : Content :=
  match (f.locate path).bind f.lookup? with
  | none => .missing
  | some .directory => .unreadable
  | some (.file data) => .bytes data

/-- Goes one name further and creates the directory there if there is nothing. -/
def enter (here : Files × Location) (name : String) : Option (Files × Location) := do
  let next ← here.1.step here.2 name
  match here.1.lookup? next with
  | none => return (here.1.put next .directory, next)
  | some .directory => return (here.1, next)
  | some (.file _) => none

/-- Makes sure that there is a directory at a path. -/
def createDirectory? (f : Files) (path : String) : Option Files := do
  let (f, _) ← (← names? path).foldlM enter (f, [])
  return f

/-- Writes a text to the file at a path, which must not be a directory. -/
def write? (f : Files) (path text : String) : Option Files := do
  let target ← f.locate path
  match f.lookup? target with
  | some .directory => none
  | _ => return f.put target (.file text.toUTF8)

/-! ### Files as storage -/

/-- Uses the changed files if the change succeeds. -/
def attempt (change : Files → Option Files) : StateM Files Bool := fun f =>
  match change f with
  | some changed => (true, changed)
  | none => (false, f)

/-- Files in memory as a place where files are kept. -/
def storage : Storage (StateM Files) where
  read path := fun f => (f.content path, f)
  createDirectory path := attempt fun f => f.createDirectory? path
  write path text := attempt fun f => f.write? path text

/-- The path to a place. -/
def pathTo (loc : Location) : String := "/".intercalate loc

/-- The paths and contents of the files that are new or changed since earlier. -/
def changedSince (now earlier : Files) : List (String × ByteArray) :=
  now.entries.filterMap fun e =>
    match e.2, earlier.lookup? e.1 with
    | .directory, _ => none
    | .file data, some (.file old) => if data == old then none else some (pathTo e.1, data)
    | .file data, _ => some (pathTo e.1, data)

end Files

end Interconnect
