/-
**Output files.**

The netlist is written in the format that was chosen, the routing table always as JSON.  The files
are written one after the other, and writing ends with the first file that cannot be written.

Main definitions:

* `Generated.netlistFile`, `Generated.routesFile` — the files with their contents;
* `Generated.outputs` — the files to write;
* `Storage.writeAll` — writes files into a directory;
* `WriteError` — why a file is not written.
-/

import Interconnect.Generation
import Interconnect.Netlist.Schema
import Interconnect.Storage
import Interconnect.Value.Json
import Interconnect.Value.Yaml

set_option autoImplicit false

namespace Interconnect

/-- A value as a text in a format. -/
def OutputFormat.text : OutputFormat → Value → String
  | yaml, v => v.yaml
  | json, v => v.json

/-- The kinds of output files. -/
inductive OutputKind where
  | netlist
  | routes
  deriving DecidableEq, Repr

/-- A file to be written. -/
structure OutputFile where
  /-- What the file is. -/
  kind : OutputKind
  /-- Its name. -/
  name : String
  /-- Its content. -/
  text : String
  deriving DecidableEq, Repr

namespace Generated

/-- The file with the netlist. -/
def netlistFile (g : Generated) (format : OutputFormat) : OutputFile :=
  { kind := .netlist, name := "topology." ++ format.name, text := format.text g.netlist.toValue }

/-- The file with the routing table. -/
def routesFile (g : Generated) : OutputFile :=
  { kind := .routes, name := "routes.json", text := OutputFormat.json.text g.routes.toValue }

/-- The files to write: the netlist, and the routing table if it is asked for. -/
def outputs (g : Generated) (format : OutputFormat) (withRoutes : Bool) : List OutputFile :=
  g.netlistFile format :: if withRoutes then [g.routesFile] else []

end Generated

/-- Why files are not written. -/
inductive WriteError where
  /-- There is no directory for them. -/
  | directory (path : String)
  /-- A file cannot be written. -/
  | file (kind : OutputKind) (path : String)
  deriving DecidableEq, Repr

/-- The wording of the error. -/
def WriteError.message : WriteError → String
  | directory path => "Failed to create output directory '" ++ path ++ "'"
  | file .netlist path => "Failed to write netlist '" ++ path ++ "'"
  | file .routes path => "Failed to write routes '" ++ path ++ "'"

/-- The files that were written, with their paths, and why there are no more. -/
structure Written where
  /-- The kinds and paths of the files. -/
  files : List (OutputKind × String)
  /-- What went wrong. -/
  failure : Option WriteError
  deriving DecidableEq, Repr

namespace Storage

variable {m : Type → Type} [Monad m]

/-- Writes files into a directory that exists. -/
def writeFiles (s : Storage m) (directory : String) : List OutputFile → m Written
  | [] => return { files := [], failure := none }
  | f :: rest => do
      let path := joinPath directory f.name
      if ← s.write path f.text then
        let written ← s.writeFiles directory rest
        return { written with files := (f.kind, path) :: written.files }
      else
        return { files := [], failure := some (.file f.kind path) }

/-- Writes files into a directory, which is created if there is none. -/
def writeAll (s : Storage m) (directory : String) (files : List OutputFile) : m Written := do
  if ← s.createDirectory directory then s.writeFiles directory files
  else return { files := [], failure := some (.directory directory) }

end Storage

end Interconnect
