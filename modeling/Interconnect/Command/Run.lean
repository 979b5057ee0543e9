/-
**Runs of the program.**

A run reads a configuration, applies the overrides of the command line, builds the tree and writes
the files.  Everything between reading and writing is a function of what was read.

The limit of the log can be fixed from outside.  If it is not, it is `info` until the configuration
is known and what the configuration says from there on.

Main definitions:

* `Failure` — why a run fails;
* `Arguments.prepare` — the part between reading and writing;
* `Arguments.run` — a run with some arguments;
* `Report`, `execute` — what the program answers to a command line.
-/

import Interconnect.Command.Arguments
import Interconnect.Command.Building
import Interconnect.Config.Loading

set_option autoImplicit false

namespace Interconnect

/-! ### Failures -/

/-- Why a run fails. -/
inductive Failure where
  /-- No configuration is loaded. -/
  | loading (cause : LoadError)
  /-- The configuration is not valid with the overrides. -/
  | overriding (cause : Config.Invalid)
  /-- No netlist is generated. -/
  | generating (cause : GenerationError)
  /-- Files are not written. -/
  | writing (cause : WriteError)

/-- The wording of the failure. -/
def Failure.message : Failure → String
  | loading cause => cause.message
  | overriding cause => cause.message
  | generating cause => cause.message
  | writing cause => cause.message

/-- The first line of the wording. -/
def Failure.headline (f : Failure) : String :=
  String.ofList (f.message.toList.takeWhile (· != '\n'))

/-- Whether the program stopped at an overflow. -/
def Failure.isOverflow : Failure → Bool
  | loading (.invalid (.network .overflow)) => true
  | overriding (.network .overflow) => true
  | generating (.tree .overflow) => true
  | _ => false

/-- The exit status for a failure. -/
def Failure.status (f : Failure) : Nat := if f.isOverflow then 101 else 1

/-- The first line of the report of a failure; the program reports nothing when it stops. -/
def Failure.report? (f : Failure) : Option String := if f.isOverflow then none else some f.headline

/-! ### Events -/

/-- The events of replacing values of a network. -/
def Config.Network.overrideEvents (n : Network) (o : Overrides) : List Event :=
  (o.shape.map fun shape => Event.otherShape n.shape shape).toList ++
    match o.totalHosts with
    | none => []
    | some total =>
        Event.otherTotalHosts n.totalHosts total ::
          if n.hostNames.any fun names => names.length != total then [.namesDropped] else []

/-- The events of summing up a tree. -/
def Topology.summaryEvents (t : Topology) : List Event :=
  t.tree.layout.counts.zipIdx.map (fun (count, level) => Event.levelSize level count) ++
    [.treeSize t]

/-- The events of writing files. -/
def Written.events (w : Written) : List Event :=
  w.files.map (fun (kind, path) => Event.wrote kind path) ++
    match w.failure with
    | some _ => []
    | none => w.files.map (fun (_, path) => Event.generated path) ++ [.completed]

/-! ### Running -/

/-- A computation that keeps a log and can fail. -/
abbrev Logged := ExceptT Failure (StateM Log)

/-- Reports events. -/
def report (es : List Event) : Logged Unit := modify fun l => l.addAll es

/-- Goes on with a result, or fails. -/
def orFail {ε α : Type} (result : Except ε α) (failure : ε → Failure) : Logged α :=
  ExceptT.mk (pure (result.mapError failure))

/-- Uses another limit for the log, unless it is fixed. -/
def useLimit (fixed : Option LogLevel) (limit : LogLevel) : Logged Unit :=
  modify fun l => { l with limit := fixed.getD limit }

namespace Arguments

/-- Loads the configuration and replaces values of it. -/
def configuration (a : Arguments) (found : Content) : Logged Config := do
  report [.loading a.config]
  let loaded ← orFail (Config.load a.config found) .loading
  report (.loaded loaded.network :: loaded.network.overrideEvents a.overrides)
  let (config, outcome) := loaded.applyOverrides a.overrides
  orFail outcome .overriding
  return config

/-- Generates the netlist for what was found at the path of the configuration. -/
def prepare (a : Arguments) (fixed : Option LogLevel) (found : Content) :
    Logged (Config × Generated) := do
  let config ← a.configuration found
  useLimit fixed config.logLevel
  report [.chosen a.config, .planned config.network]
  report config.buildEvents
  let generated ← orFail config.generate .generating
  report (.assembled generated.topology :: generated.topology.summaryEvents)
  return (config, generated)

/-- Runs the program. -/
def run {m : Type → Type} [Monad m] (a : Arguments) (s : Storage m) (fixed : Option LogLevel) :
    m (Log × Option Failure) := do
  let found ← s.read a.config
  match (a.prepare fixed found).run (Log.start (fixed.getD .info)) with
  | (.error failure, log) => return (log, some failure)
  | (.ok (config, generated), log) =>
      if a.dryRun then return (log.add .dryRun, none)
      else do
        let written ← s.writeAll a.output (generated.outputs config.outputFormat a.routes)
        return (log.addAll written.events, written.failure.map .writing)

end Arguments

/-! ### The program -/

/-- What the program answers to a command line. -/
structure Report where
  /-- The exit status: zero if all went well, one if the run failed, two if the command line is
  wrong, 101 if the program stopped at an overflow. -/
  status : Nat
  /-- What is printed. -/
  printed : String := ""
  /-- Whether it is explained how the program is used. -/
  explained : Bool := false
  /-- The lines of the log. -/
  log : List String := []
  /-- The first line of the report of a failure. -/
  headline : Option String := none
  deriving DecidableEq, Repr

/-- The name and the version of the program. -/
def versionLine : String := "treenet 0.1.0\n"

/-- Runs the program with a command line. -/
def execute {m : Type → Type} [Monad m] (s : Storage m) (args : List String)
    (fixed : Option LogLevel) : m Report :=
  match Arguments.parse args with
  | .error .misuse => return { status := 2, explained := true }
  | .error .help => return { status := 0, explained := true }
  | .error .version => return { status := 0, printed := versionLine }
  | .ok a => do
      let (log, failure) ← a.run s fixed
      return { status := (failure.map Failure.status).getD 0, log := log.lines
               headline := failure.bind Failure.report? }

end Interconnect
