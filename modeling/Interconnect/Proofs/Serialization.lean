/-
**Configurations survive being written.**

A configuration is written as a tree in which the settings that are unset are left out.  Reading
puts a default in the place of what is left out, and unset settings are the only ones for which that
is the value they had: all others are always written.  Latencies and formats go by way of their
texts, from which they are read back.  What is left to ask of the tree is that its texts stay texts,
since an unquoted `null` would be read as a setting that is unset.

Main results:

* `General.reads_toValue`, `Network.reads_toValue`, `RouterParams.reads_toValue` — the parts of a
  configuration are read wherever their trees stand;
* `ofNode_toValue` — a configuration is read back from its tree.
-/

import Interconnect.Config.Schema
import Interconnect.Proofs.LatencyDisplay
import Interconnect.Proofs.ValueNodes

set_option autoImplicit false

namespace Interconnect.Config

-- powers are those of the core library, whatever else is imported
attribute [local instance (high)] instPowNat

open Yaml Yaml.Spot

variable {style : String → ScalarStyle}

/-! ### Single settings -/

theorem reads_latency (l : Latency) : Reads style readLatency (latencyValue l) l :=
  .meaning l.parse_toString

theorem reads_format (f : OutputFormat) :
    Reads style (Spot.choice formatChoices : Reader LatencyError _) (.text f.name) f := by
  cases f <;> exact .choice (by decide)

/-- An unset setting is the same whether its field was left out or not. -/
theorem join_map_some {α : Type} (a : Option α) : (a.map some).join = a := by
  cases a <;> rfl

/-! ### The parts of a configuration -/

theorem General.reads_toValue (hstyle : KeepsTexts style) (g : General) :
    Reads style General.ofSpot g.toValue g := by
  have hlevel : Takes style GeneralFields.read {} (Value.optional "log_level" .text g.logLevel)
      { logLevel := g.logLevel.map some } :=
    .optional (fun level => GeneralFields.mk level none) fun t =>
      ((reads_text t).optional hstyle).field
  have hformat : Takes style GeneralFields.read { logLevel := g.logLevel.map some }
      (Value.optional "output_format" (fun f => .text f.name) g.outputFormat)
      { logLevel := g.logLevel.map some, outputFormat := g.outputFormat.map some } :=
    .optional (fun format => GeneralFields.mk _ format) fun f =>
      ((reads_format f).optional hstyle).field
  intro s hs
  refine bind_eq_ok_iff.2 ⟨_, (hlevel.append hformat).reads_fields "GeneralConfig" s hs, ?_⟩
  rw [join_map_some, join_map_some]
  rfl

theorem Network.reads_toValue (hstyle : KeepsTexts style) {n : Network}
    (h : n.totalHosts < 2 ^ (64 : Nat)) : Reads style Network.ofSpot n.toValue n := by
  have htree : Takes style NetworkFields.read {}
      [("name", .text n.name), ("shape", .text n.shape), ("total_hosts", .number n.totalHosts)]
      { name := some n.name, shape := some n.shape, totalHosts := some n.totalHosts } :=
    .cons (reads_text _).field (.cons (reads_text _).field (.cons (reads_word h).field .nil))
  have hhosts : Takes style NetworkFields.read
      { name := some n.name, shape := some n.shape, totalHosts := some n.totalHosts }
      (Value.optional "host_names" .texts n.hostNames)
      { name := some n.name, shape := some n.shape, totalHosts := some n.totalHosts,
        hostNames := n.hostNames.map some } :=
    .optional (fun names => NetworkFields.mk _ _ _ names none none none) fun ts =>
      ((reads_texts ts).optional hstyle).field
  have hlinks : Takes style NetworkFields.read
      { name := some n.name, shape := some n.shape, totalHosts := some n.totalHosts,
        hostNames := n.hostNames.map some }
      [("memory_name", .text n.memoryName), ("link_latency", latencyValue n.linkLatency)]
      { name := some n.name, shape := some n.shape, totalHosts := some n.totalHosts,
        hostNames := n.hostNames.map some, memoryName := some n.memoryName,
        linkLatency := some n.linkLatency } :=
    .cons (reads_text _).field (.cons (reads_latency _).field .nil)
  have hhostLinks : Takes style NetworkFields.read
      { name := some n.name, shape := some n.shape, totalHosts := some n.totalHosts,
        hostNames := n.hostNames.map some, memoryName := some n.memoryName,
        linkLatency := some n.linkLatency }
      (Value.optional "host_link_latency" latencyValue n.hostLinkLatency)
      { name := some n.name, shape := some n.shape, totalHosts := some n.totalHosts,
        hostNames := n.hostNames.map some, memoryName := some n.memoryName,
        linkLatency := some n.linkLatency, hostLinkLatency := n.hostLinkLatency.map some } :=
    .optional (fun latency => NetworkFields.mk _ _ _ _ _ _ latency) fun l =>
      ((reads_latency l).optional hstyle).field
  have hfields := ((htree.append hhosts).append hlinks).append hhostLinks
  intro s hs
  refine bind_eq_ok_iff.2 ⟨_, hfields.reads_fields "NetworkConfig" s hs, ?_⟩
  refine bind_eq_ok_iff.2 ⟨n.shape, rfl, bind_eq_ok_iff.2 ⟨n.totalHosts, rfl, ?_⟩⟩
  rw [join_map_some, join_map_some]
  rfl

theorem RouterParams.reads_toValue (p : RouterParams) :
    Reads style RouterParams.ofSpot (.mapping p.entries) p := by
  have hfields : Takes style RouterFields.read {} p.entries
      { linkBw := some p.linkBw, xbarBw := some p.xbarBw, flitSize := some p.flitSize,
        inputLatency := some p.inputLatency, outputLatency := some p.outputLatency,
        inputBufSize := some p.inputBufSize, outputBufSize := some p.outputBufSize,
        xbarArb := some p.xbarArb } :=
    .cons (reads_text _).field (.cons (reads_text _).field (.cons (reads_text _).field
      (.cons (reads_latency _).field (.cons (reads_latency _).field (.cons (reads_text _).field
        (.cons (reads_text _).field (.cons (reads_text _).field .nil)))))))
  intro s hs
  exact bind_eq_ok_iff.2 ⟨_, hfields.reads_fields "RouterParams" s hs, rfl⟩

/-! ### The whole -/

/-- **Configurations survive being written.**  A configuration is read back from its tree, whatever
its texts and numbers are and whichever of its settings are unset, if the texts of the tree are
written in styles in which they stay texts. -/
theorem ofNode_toValue (hstyle : KeepsTexts style) {c : Config}
    (h : c.network.totalHosts < 2 ^ (64 : Nat)) : ofNode (c.toValue.toNode style) = .ok c := by
  have hfields : Takes style Fields.read {}
      [("general", c.general.toValue), ("network", c.network.toValue),
        ("router", .mapping c.router.entries)]
      { general := some c.general, network := some c.network, router := some c.router } :=
    .cons (c.general.reads_toValue hstyle).field (.cons (Network.reads_toValue hstyle h).field
      (.cons c.router.reads_toValue.field .nil))
  refine bind_eq_ok_iff.2 ⟨_, hfields.reads_fields "Config" (Spot.root _) rfl, ?_⟩
  exact bind_eq_ok_iff.2 ⟨c.network, rfl, rfl⟩

/-- Texts that look like something else, unset and empty settings, and the largest numbers. -/
theorem ofNode_toValue_words :
    let c : Config :=
      { general := { logLevel := some "null" }
        network := { name := "~", shape := "007", totalHosts := 2 ^ (64 : Nat) - 1,
                     hostNames := some ["", "true", "a: b"], linkLatency := ⟨0, by decide⟩,
                     hostLinkLatency := some ⟨2 ^ (64 : Nat) - 1, by decide⟩ }
        router := { linkBw := "1e3", xbarBw := "" } }
    KeepsTexts Value.scalarStyle ∧ c.network.totalHosts < 2 ^ (64 : Nat) ∧
      ofNode (c.toValue.toNode Value.scalarStyle) = .ok c := by
  intro c
  have hword : c.network.totalHosts < 2 ^ (64 : Nat) := by decide
  exact ⟨keepsTexts_scalarStyle, hword, ofNode_toValue keepsTexts_scalarStyle hword⟩

-- without quotes, a level with the name `null` would be unset when it is read
example :
    let c : Config :=
      { general := { logLevel := some "null" }, network := { shape := "1", totalHosts := 1 } }
    (ofNode (c.toValue.toNode fun _ => .plain)).toOption.map (fun c => c.general.logLevel) =
      some none := by
  decide +kernel

end Interconnect.Config
