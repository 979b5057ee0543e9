/-
**Overrides.**

The shape, the number of hosts and the output format of a configuration can be overridden from the
command line.  Host names that no longer fit the number of hosts are dropped, and the result is
checked again.  It is used even if it does not pass.

Main definitions:

* `Config.Overrides` — the values to use instead;
* `Config.override` — a configuration with the values replaced;
* `Config.applyOverrides` — the same, with the outcome of the check.
-/

import Interconnect.Config.Validation

set_option autoImplicit false

namespace Interconnect.Config

/-- The values to use instead of those in a configuration. -/
structure Overrides where
  /-- The shape. -/
  shape : Option String := none
  /-- The number of hosts. -/
  totalHosts : Option Nat := none
  /-- The format of the netlist. -/
  outputFormat : Option OutputFormat := none
  deriving DecidableEq, Repr

/-- Uses another shape. -/
def Network.withShape (n : Network) (shape : Option String) : Network :=
  { n with shape := shape.getD n.shape }

/-- Uses another number of hosts and drops names that do not fit it. -/
def Network.withTotalHosts (n : Network) : Option Nat → Network
  | none => n
  | some total =>
      { n with
        totalHosts := total
        hostNames := n.hostNames.filter fun names => names.length == total }

/-- Replaces the values of a configuration. -/
def override (c : Config) (o : Overrides) : Config :=
  { c with
    general := { c.general with outputFormat := o.outputFormat.or c.general.outputFormat }
    network := (c.network.withShape o.shape).withTotalHosts o.totalHosts }

/-- Replaces the values of a configuration and checks the result. -/
def applyOverrides (c : Config) (o : Overrides) : Config × Except Invalid Unit :=
  (c.override o, (c.override o).validate)

end Interconnect.Config
