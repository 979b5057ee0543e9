/-
**Where files are kept.**

The program reads one file and writes a few.  What it needs for that is collected in `Storage`, so
that the same run can go against a disk or against files in memory.

Main definitions:

* `Content` — what reading a file gives;
* `Storage` — reading, creating directories and writing;
* `joinPath` — the path of a file in a directory.
-/

set_option autoImplicit false

namespace Interconnect

/-- What reading a file gives. -/
inductive Content where
  /-- There is nothing that can be opened. -/
  | missing
  /-- There is something that cannot be read, such as a directory. -/
  | unreadable
  /-- The bytes of the file. -/
  | bytes (data : ByteArray)

/-- A place where files are kept.  Creating and writing say whether they succeeded. -/
structure Storage (m : Type → Type) where
  /-- Reads the file at a path. -/
  read : String → m Content
  /-- Makes sure that there is a directory at a path. -/
  createDirectory : String → m Bool
  /-- Writes a text to the file at a path. -/
  write : String → String → m Bool

/-- The path of a file in a directory. -/
def joinPath (directory name : String) : String :=
  if directory.isEmpty || directory.toList.getLast? == some '/' then directory ++ name
  else directory ++ "/" ++ name

end Interconnect
