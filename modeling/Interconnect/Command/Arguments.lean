/-
**Command lines.**

Arguments are read from left to right.  An option gets its value from the same argument, behind `=`
or directly behind its letter, or from the next argument, which must not look like an option.  The
first thing that is wrong ends reading, and so does a request for help or for the version.

Main definitions:

* `Arguments` — what a run is asked to do;
* `Arguments.Stop` — why there is no run;
* `Arguments.parse` — the arguments of a command line.
-/

import Interconnect.Config.Overrides
import Interconnect.Text.Numeral

set_option autoImplicit false

namespace Interconnect

/-- What a run is asked to do. -/
structure Arguments where
  /-- The path of the configuration. -/
  config : String
  /-- The directory for the output. -/
  output : String := "tree_output"
  /-- The shape to use instead of the configured one. -/
  shape : Option String := none
  /-- The number of hosts to use instead of the configured one. -/
  totalHosts : Option Nat := none
  /-- Whether the netlist is written as JSON in any case. -/
  json : Bool := false
  /-- Whether the routing table is written, too. -/
  routes : Bool := false
  /-- Whether nothing is written. -/
  dryRun : Bool := false
  deriving DecidableEq, Repr

namespace Arguments

/-- What to use instead of the values of the configuration. -/
def overrides (a : Arguments) : Config.Overrides :=
  { shape := a.shape, totalHosts := a.totalHosts
    outputFormat := if a.json then some .json else none }

/-- Why there is no run. -/
inductive Stop where
  /-- The command line is wrong. -/
  | misuse
  /-- Help is asked for. -/
  | help
  /-- The version is asked for. -/
  | version
  deriving DecidableEq, Repr

/-! ### Options -/

/-- The options with a value. -/
inductive Setting where
  | config
  | output
  | shape
  | totalHosts
  deriving DecidableEq, Repr

/-- The options without a value. -/
inductive Switch where
  | json
  | routes
  | dryRun
  | help
  | version
  deriving DecidableEq, Repr

/-- The options. -/
inductive Flag where
  | setting (s : Setting)
  | switch (s : Switch)
  deriving DecidableEq, Repr

/-- The option with a long name.  Names are not abbreviated. -/
def Flag.ofName? : String → Option Flag
  | "config" => some (.setting .config)
  | "output" => some (.setting .output)
  | "shape" => some (.setting .shape)
  | "total-hosts" => some (.setting .totalHosts)
  | "json" => some (.switch .json)
  | "routes" => some (.switch .routes)
  | "dry-run" => some (.switch .dryRun)
  | "help" => some (.switch .help)
  | "version" => some (.switch .version)
  | _ => none

/-- The option with a letter. -/
def Flag.ofLetter? : Char → Option Flag
  | 'c' => some (.setting .config)
  | 'o' => some (.setting .output)
  | 'h' => some (.switch .help)
  | 'V' => some (.switch .version)
  | _ => none

/-! ### Values -/

/-- What was given so far.  No option can be given twice. -/
structure Given where
  config : Option String := none
  output : Option String := none
  shape : Option String := none
  totalHosts : Option Nat := none
  json : Bool := false
  routes : Bool := false
  dryRun : Bool := false
  deriving DecidableEq, Repr

/-- A path, which is not empty. -/
def path (value : String) : Except Stop String :=
  if value.isEmpty then .error .misuse else .ok value

/-- A number of hosts: a numeral below 2 ^ 64, which may have a plus sign. -/
def count (value : String) : Except Stop Nat :=
  let digits :=
    match value.toList with
    | '+' :: cs => cs
    | cs => cs
  match Text.Numeral.read? digits with
  | some n => .ok n
  | none => .error .misuse

/-- The value of an option that was not given before. -/
def once {α β : Type} (old : Option α) (read : β → Except Stop α) (value : β) :
    Except Stop (Option α) :=
  match old with
  | some _ => .error .misuse
  | none => (read value).map some

/-- Gives an option its value. -/
def Given.set (g : Given) (value : String) : Setting → Except Stop Given
  | .config => do return { g with config := ← once g.config path value }
  | .output => do return { g with output := ← once g.output path value }
  | .shape => do return { g with shape := ← once g.shape .ok value }
  | .totalHosts => do return { g with totalHosts := ← once g.totalHosts count value }

/-- Turns on an option that is not on. -/
def Given.raise (g : Given) : Switch → Except Stop Given
  | .json => if g.json then .error .misuse else .ok { g with json := true }
  | .routes => if g.routes then .error .misuse else .ok { g with routes := true }
  | .dryRun => if g.dryRun then .error .misuse else .ok { g with dryRun := true }
  | .help => .error .help
  | .version => .error .version

/-! ### Reading -/

/-- What an argument says. -/
inductive Word where
  /-- An option, perhaps with a value in the same argument. -/
  | flag (f : Flag) (value : Option String)
  /-- The end of the options. -/
  | terminator
  /-- No option that is known, or no option at all. -/
  | other
  deriving DecidableEq, Repr

/-- What stands behind the equals sign, if there is one. -/
def afterEquals? : List Char → Option String
  | '=' :: value => some (String.ofList value)
  | _ => none

/-- The value behind a letter, with or without an equals sign. -/
def afterLetter? : List Char → Option String
  | [] => none
  | '=' :: value => some (String.ofList value)
  | value => some (String.ofList value)

/-- What the characters of an argument say. -/
def Word.ofChars : List Char → Word
  | ['-', '-'] => .terminator
  | '-' :: '-' :: cs =>
      match Flag.ofName? (String.ofList (cs.takeWhile (· != '='))) with
      | some f => .flag f (afterEquals? (cs.dropWhile (· != '=')))
      | none => .other
  | '-' :: c :: cs =>
      match Flag.ofLetter? c with
      | some (.setting s) => .flag (.setting s) (afterLetter? cs)
      | some (.switch s) => .flag (.switch s) none
      | none => .other
  | _ => .other

/-- Whether an argument looks like an option; a lone `-` does not. -/
def looksLikeFlag (arg : String) : Bool :=
  match arg.toList with
  | '-' :: _ :: _ => true
  | _ => false

/-- Reads arguments after what was given before them. -/
def readFrom (g : Given) : List String → Except Stop Given
  | [] => .ok g
  | arg :: rest =>
      match Word.ofChars arg.toList with
      | .flag (.setting s) (some value) => (g.set value s).bind fun g => readFrom g rest
      | .flag (.setting s) none =>
          match rest with
          | [] => .error .misuse
          | value :: rest =>
              if looksLikeFlag value then .error .misuse
              else (g.set value s).bind fun g => readFrom g rest
      | .flag (.switch s) none => (g.raise s).bind fun g => readFrom g rest
      | .flag (.switch _) (some _) => .error .misuse
      | .terminator => if rest.isEmpty then .ok g else .error .misuse
      | .other => .error .misuse

/-- The arguments of a command line.  A configuration is needed. -/
def parse (args : List String) : Except Stop Arguments := do
  let g ← readFrom {} args
  match g.config with
  | none => .error .misuse
  | some config =>
      let base : Arguments := { config }
      return { config, output := g.output.getD base.output, shape := g.shape
               totalHosts := g.totalHosts, json := g.json, routes := g.routes
               dryRun := g.dryRun }

end Arguments

end Interconnect
