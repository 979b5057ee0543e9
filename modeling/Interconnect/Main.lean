/-
**The command line.**

The program itself is pure; this module connects it to the disk, to the standard streams and to the
environment.

Main definitions:

* `diskStorage` — the disk as a place where files are kept;
* `fixedLimit` — the limit of the log that the environment fixes;
* `main` — the program.
-/

import Interconnect.Command.Run

set_option autoImplicit false

namespace Interconnect

/-- Whether an action succeeds. -/
def succeeds (action : IO Unit) : IO Bool := do
  try
    action
    return true
  catch _ => return false

/-- Reads a file.  A file that cannot be opened is missing. -/
def readDisk (path : String) : IO Content := do
  match ← (IO.FS.Handle.mk path .read).toBaseIO with
  | .error _ => return .missing
  | .ok handle =>
      match ← handle.readBinToEnd.toBaseIO with
      | .error _ => return .unreadable
      | .ok data => return .bytes data

/-- The disk as a place where files are kept. -/
def diskStorage : Storage IO where
  read := readDisk
  createDirectory path := succeeds (if path.isEmpty then pure () else IO.FS.createDirAll path)
  write path text := succeeds (IO.FS.writeFile path text)

/-- The limit of the log that a setting fixes.  An empty setting leaves only errors, and a name that
no level has leaves nothing. -/
def fixedLimit (setting : String) : LogLevel :=
  if setting.isEmpty then .error else (LogLevel.ofName? setting).getD .off

/-- The environment variable that fixes the limit of the log. -/
def limitVariable : String := "RUST_LOG"

/-- How the program is used. -/
def usage : String :=
  "Usage: treenet --config PATH [--output PATH] [--shape SHAPE] [--total-hosts COUNT] [--json]\n" ++
    "               [--routes] [--dry-run]\n"

end Interconnect

open Interconnect in
/-- Runs the program with the arguments of the command line. -/
def main (args : List String) : IO UInt32 := do
  let setting ← IO.getEnv limitVariable
  let report ← execute diskStorage args (setting.map fixedLimit)
  IO.print report.printed
  report.log.forM fun line => IO.eprintln line
  if report.explained then
    if report.status == 0 then IO.print usage else IO.eprint usage
  match report.headline with
  | some line => IO.eprintln ("Error: " ++ line)
  | none => pure ()
  return report.status.toUInt32
