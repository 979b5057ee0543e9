/-
**What is generated from valid configurations.**

Validation looks at names one by one, and the builder at the names of links as well.  A valid
configuration is refused by the builder in two ways: if the memory has a name that is generated for
a host, and if two links of the tree would have one name.  Apart from the first, everything is
generated exactly if the edges of the tree have different names, and nothing else can go wrong.

Main results:

* `Config.configuredBuilder_eq_ok_iff` — which builder is made for a configuration;
* `Config.exists_generate`, `Config.unambiguous_of_generate`, `Config.eq_linkName_of_generate` —
  when something is generated, and why not;
* `Config.generate_ok_iff_of_validate` — valid configurations.
-/

import Interconnect.Generation
import Interconnect.Proofs.Assembly
import Interconnect.Proofs.Validation

set_option autoImplicit false

namespace Interconnect

open EndpointPair

namespace Config

variable {c : Config} {tree : Tree}

/-! ### The builder -/

/-- The builder that is made for a configuration. -/
def builderFor (c : Config) (tree : Tree) : Builder :=
  { options := c.network.treeOptions, stage := .configured tree, links := .empty }

/-- **The builder of a configuration** is made if its tree is planned. -/
theorem configuredBuilder_eq_ok_iff {b : Builder} :
    c.configuredBuilder = .ok b ↔ ∃ tree, c.network.tree? = some tree ∧ b = c.builderFor tree ∧
      Builder.plan c.network.treeOptions tree.shape c.network.totalHosts
        c.network.effectiveHostNames = .ok tree := by
  unfold configuredBuilder
  simp only [bind_eq_ok_iff, mapError_eq_ok_iff, Builder.configure, Builder.new,
    Network.tree?_eq_some_iff]
  constructor
  · rintro ⟨shape, hshape, tree, hplan, hb⟩
    cases hb
    obtain ⟨rfl, hhosts, -, hlayout, -⟩ := Builder.plan_eq_ok_iff.1 hplan
    exact ⟨tree, ⟨hshape, hlayout, hhosts⟩, rfl, hplan⟩
  · rintro ⟨tree, ⟨hshape, -, -⟩, rfl, hplan⟩
    exact ⟨tree.shape, hshape, tree, hplan, rfl⟩

theorem sound_builderFor (hp : Builder.plan c.network.treeOptions tree.shape c.network.totalHosts
    c.network.effectiveHostNames = .ok tree) : (c.builderFor tree).Sound where
  planned := by
    intro t htree
    cases htree
    obtain ⟨-, hhosts, hlength, -⟩ := Builder.plan_eq_ok_iff.1 hp
    rwa [hhosts, hlength]
  links := LinkTable.consistent_empty

/-- A build of the builder builds the tree of the configuration. -/
theorem tree_eq_of_build {t : Topology} {b : Builder} (h : (c.builderFor tree).build = .ok (t, b)) :
    t.tree = tree ∧ t.memoryName = c.network.memoryName :=
  Builder.tree_eq_of_build rfl h

theorem built_of_build (hp : Builder.plan c.network.treeOptions tree.shape c.network.totalHosts
    c.network.effectiveHostNames = .ok tree) {t : Topology} {b : Builder}
    (h : (c.builderFor tree).build = .ok (t, b)) : t.Built b.links :=
  (sound_builderFor hp).built_of_build h

/-! ### What the builder decides -/

/-- Something that is generated was built. -/
theorem exists_build_of_generate {g : Generated} (h : c.generate = .ok g) :
    ∃ tree t b, c.network.tree? = some tree ∧
      Builder.plan c.network.treeOptions tree.shape c.network.totalHosts
        c.network.effectiveHostNames = .ok tree ∧ (c.builderFor tree).build = .ok (t, b) := by
  obtain ⟨t, ht, -⟩ := bind_eq_ok_iff.1 h
  obtain ⟨b, hb, ht⟩ := bind_eq_ok_iff.1 ht
  obtain ⟨⟨t', b'⟩, hbuild, ht⟩ := bind_eq_ok_iff.1 ht
  cases ht
  obtain ⟨tree, htree, rfl, hp⟩ := configuredBuilder_eq_ok_iff.1 hb
  exact ⟨tree, t, b', htree, hp, mapError_eq_ok_iff.1 hbuild⟩

variable (ht : c.network.tree? = some tree)
  (hp : Builder.plan c.network.treeOptions tree.shape c.network.totalHosts
    c.network.effectiveHostNames = .ok tree)

include ht hp

/-- What was built is generated. -/
theorem exists_generate_of_build {t : Topology} {b : Builder}
    (h : (c.builderFor tree).build = .ok (t, b)) : ∃ g, c.generate = .ok g := by
  obtain ⟨netlist, hassemble⟩ := (built_of_build hp h).exists_assemble c.router
  have htopology : c.buildTopology = .ok t :=
    bind_eq_ok_iff.2 ⟨_, configuredBuilder_eq_ok_iff.2 ⟨tree, ht, rfl, hp⟩,
      bind_eq_ok_iff.2 ⟨_, mapError_eq_ok_iff.2 h, rfl⟩⟩
  exact ⟨_, bind_eq_ok_iff.2 ⟨t, htopology,
    bind_eq_ok_iff.2 ⟨netlist, mapError_eq_ok_iff.2 hassemble, rfl⟩⟩⟩

theorem generate_eq_error_of_build {e : TreeError} (h : (c.builderFor tree).build = .error e) :
    c.generate = .error (.tree e) :=
  bind_eq_error_iff.2 (.inl (bind_eq_error_iff.2 (.inr
    ⟨_, configuredBuilder_eq_ok_iff.2 ⟨tree, ht, rfl, hp⟩, bind_eq_error_iff.2
      (.inl (mapError_eq_error_iff.2 ⟨e, h, rfl⟩))⟩)))

/-- **A planned tree is generated** if its edges have different names. -/
theorem exists_generate (hu : Unambiguous (tree.edges c.network.memoryName)) :
    ∃ g, c.generate = .ok g := by
  obtain ⟨t, b, hbuild⟩ := (sound_builderFor hp).exists_build rfl hu
  exact exists_generate_of_build ht hp hbuild

/-- **A planned tree is not generated** only for two of its edges that have one link name. -/
theorem eq_linkName_of_generate {e : GenerationError} (h : c.generate = .error e) :
    ∃ clash, e = .tree (.configuration (.linkName clash)) ∧
      clash.IsAmong (tree.edges c.network.memoryName) := by
  cases hbuild : (c.builderFor tree).build with
  | ok r =>
      obtain ⟨g, hg⟩ := exists_generate_of_build ht hp hbuild
      cases hg.symm.trans h
  | error e' =>
      -- the builder is new, so the pairs that it has to link are the edges
      obtain ⟨clash, rfl, hclash⟩ := (sound_builderFor hp).isAmong_of_build rfl hbuild
      cases (generate_eq_error_of_build ht hp hbuild).symm.trans h
      exact ⟨clash, rfl, hclash⟩

omit hp

/-- The edges of a tree that is generated have different names. -/
theorem unambiguous_of_generate {g : Generated} (h : c.generate = .ok g) :
    Unambiguous (tree.edges c.network.memoryName) := by
  obtain ⟨tree', t, b, ht', hp, hbuild⟩ := exists_build_of_generate h
  cases ht.symm.trans ht'
  -- the edges are pairs of links of one consistent table
  have hb := built_of_build hp hbuild
  obtain ⟨htree, hmemory⟩ := tree_eq_of_build hbuild
  rw [← htree, ← hmemory]
  exact hb.consistent.unambiguous.subset hb.edges_subset

omit ht

/-! ### Valid configurations -/

/-- **Valid configurations are generated exactly if the edges of their trees have different names.**
Two edges with one name are the only thing that is refused, and the builder refuses it: the tree is
planned, the builder is configured, and a tree that was built has a netlist. -/
theorem generate_ok_iff_of_validate (hv : c.validate = .ok ())
    (hm : c.network.hostNames = none → c.network.memoryName ∉ c.network.effectiveHostNames) :
    ∃ tree, c.network.tree? = some tree ∧ c.configuredBuilder = .ok (c.builderFor tree) ∧
      ((∃ g, c.generate = .ok g) ↔ Unambiguous (tree.edges c.network.memoryName)) ∧
      ∀ e, c.generate = .error e → ∃ clash, e = .tree (.configuration (.linkName clash)) ∧
        clash.IsAmong (tree.edges c.network.memoryName) := by
  obtain ⟨_, -, hrest⟩ := bind_eq_ok_iff.1 hv
  obtain ⟨_, hnetwork, -⟩ := bind_eq_ok_iff.1 hrest
  have hnetwork := mapError_eq_ok_iff.1 hnetwork
  obtain ⟨-, -, tree, ht, -⟩ := Network.validate_eq_ok_iff.1 hnetwork
  have hp := Network.plan_of_validate hnetwork ht hm
  refine ⟨tree, ht, configuredBuilder_eq_ok_iff.2 ⟨tree, ht, rfl, hp⟩, ⟨?_, ?_⟩, ?_⟩
  · rintro ⟨g, hg⟩
    exact unambiguous_of_generate ht hg
  · exact exists_generate ht hp
  · exact fun e he => eq_linkName_of_generate ht hp he

/-- Names with underscores that do not clash. -/
theorem generate_ok_iff_of_validate_underscores :
    let c : Config := { network := { shape := "1x2", totalHosts := 2,
                                     hostNames := some ["s_rtr_1", "rtr_x_0"] } }
    c.validate = .ok () ∧
      (c.network.hostNames = none → c.network.memoryName ∉ c.network.effectiveHostNames) ∧
      ∃ tree, c.network.tree? = some tree ∧ c.configuredBuilder = .ok (c.builderFor tree) ∧
        Unambiguous (tree.edges c.network.memoryName) ∧ ∃ g, c.generate = .ok g := by
  intro c
  have hv : c.validate = .ok () := by decide +kernel
  refine ⟨hv, nofun, ?_⟩
  obtain ⟨tree, ht, hb, hgenerate, -⟩ := generate_ok_iff_of_validate hv nofun
  have hcheck : c.network.tree?.all fun tree =>
      decide (Unambiguous (tree.edges c.network.memoryName)) := by
    decide +kernel
  rw [ht] at hcheck
  have hu : Unambiguous (tree.edges c.network.memoryName) := of_decide_eq_true hcheck
  exact ⟨tree, ht, hb, hu, hgenerate.2 hu⟩

/-- **Not everything that is valid is generated**: the names of two links clash, or the memory has
the name that is generated for a host. -/
theorem exists_validate_not_generate :
    (let c : Config := { network := { shape := "1x2", totalHosts := 2,
                                      hostNames := some ["s_rtr_1", "rtr_0_s"] } }
     c.validate = .ok () ∧ c.generate = .error (.tree (.configuration (.linkName
       { wanted := ⟨"rtr_0_s", "rtr_1"⟩, holder := ⟨"rtr_0", "s_rtr_1"⟩ })))) ∧
    (let c : Config := { network := { shape := "1", totalHosts := 1, memoryName := "host0" } }
     c.validate = .ok () ∧
       c.generate = .error (.tree (.configuration (.hostIsMemory "host0")))) := by
  refine ⟨⟨?_, ?_⟩, ⟨?_, ?_⟩⟩ <;> decide +kernel

end Config

end Interconnect
