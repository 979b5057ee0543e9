/-
**Loading configurations.**

A configuration is loaded from the bytes of a file, which have to be UTF-8, and checked at once.

Main definitions:

* `Config.ofBytes` — the configuration in some bytes;
* `Config.load` — the configuration in what was found at a path;
* `LoadError` — why there is none.
-/

import Interconnect.Config.Schema
import Interconnect.Config.Validation
import Interconnect.Storage

set_option autoImplicit false

namespace Interconnect

/-- Why no configuration is loaded from a path. -/
inductive LoadError where
  /-- There is no file at the path. -/
  | missing (path : String)
  /-- What is at the path cannot be read. -/
  | unreadable (path : String)
  /-- The file does not hold a configuration. -/
  | content (path : String) (cause : Config.YamlError)
  /-- The configuration is not valid. -/
  | invalid (cause : Config.Invalid)

/-- The wording of the error.  That a configuration is not valid does not depend on its file. -/
def LoadError.message : LoadError → String
  | missing path => "Failed to open configuration '" ++ path ++ "'"
  | unreadable path => "Failed to parse configuration '" ++ path ++ "'"
  | content path _ => "Failed to parse configuration '" ++ path ++ "'"
  | invalid cause => cause.message

namespace Config

/-- The configuration in the bytes of a file. -/
def ofBytes (data : ByteArray) : Except YamlError Config :=
  match String.fromUTF8? data with
  | none => .error .illFormed
  | some text => ofYaml text

/-- The configuration in what was found at a path, if it is valid. -/
def load (path : String) : Content → Except LoadError Config
  | .missing => .error (.missing path)
  | .unreadable => .error (.unreadable path)
  | .bytes data => do
      let config ← (ofBytes data).mapError (.content path)
      config.validate.mapError .invalid
      return config

end Config

end Interconnect
