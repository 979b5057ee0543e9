/-
**The links of a builder.**

Links come into the table of a builder in two ways: they are asked for by the names of their ends,
or building makes them for the wires of a tree.  Either way a link joins two different components of
the tree, and its latency depends on its names only: it is that of the links to hosts if one of the
ends is the name of a host.  That the two ways agree rests on the names, since the name of a router
or of the memory is never that of a host.

Before there is a tree the memory is the only endpoint, and so there is no link.

Main definitions:

* `Tree.latencyOf` — the latency that a pair of endpoints gets;
* `Tree.Allows` — a tree can have a wire;
* `Builder.Registered` — all links of a builder are allowed by its tree;
* `Builder.WellLinked` — what is true of the links of a builder.

Main results:

* `Builder.Registered.step`, `Builder.registered_run` — every call makes allowed links only;
* `Builder.wellLinked_run` — the links of a builder after any calls.
-/

import Interconnect.Proofs.BuiltTrees
import Interconnect.Proofs.ByteOrder
import Interconnect.Proofs.PortPairs

set_option autoImplicit false

namespace Interconnect

open EndpointPair Text

namespace Tree

/-! ### The names of endpoints -/

variable {t : Tree} {memoryName : String}

theorem isHost_iff {name : String} : t.isHost name = true ↔ name ∈ t.hostNames :=
  List.contains_iff_mem

/-- A name of a component is that of a host if and only if the component is one. -/
theorem Named.isHost_nameOf_iff (hn : t.Named memoryName) {c : Component} (hc : t.Has c) :
    t.isHost (t.nameOf memoryName c) = true ↔ ∃ id, c = .host id := by
  rw [isHost_iff]
  constructor
  · intro hmem
    obtain ⟨id, hid, hname⟩ := List.mem_iff_getElem.1 hmem
    rw [← nameOf_host hid] at hname
    have hhost : t.Has (.host id) := hid
    exact ⟨id, (hn.nameOf_inj hhost hc hname).symm⟩
  · rintro ⟨id, rfl⟩
    rw [nameOf_host hc]
    exact List.getElem_mem hc

/-- **A name of an endpoint belongs to one component.** -/
theorem Named.existsUnique_component (hn : t.Named memoryName) {c : Component} (hc : t.Has c) :
    ∃! c', t.Has c' ∧ t.nameOf? memoryName c' = some (t.nameOf memoryName c) := by
  refine ⟨c, ⟨hc, nameOf?_eq_some hc⟩, ?_⟩
  rintro c' ⟨hc', hname⟩
  rw [nameOf?_eq_some hc', Option.some_inj] at hname
  exact hn.nameOf_inj hc' hc hname

/-- The latency of the links to a component can be told from its name. -/
theorem Named.latencyTo_eq {o : TreeOptions} (hn : t.Named o.memoryName) {c : Component}
    (hc : t.Has c) :
    o.latencyTo c =
      if t.isHost (t.nameOf o.memoryName c) then o.hostLatency else o.linkLatency := by
  have hhost := hn.isHost_nameOf_iff hc
  cases c with
  | host id => rw [if_pos (hhost.2 ⟨id, rfl⟩), TreeOptions.latencyTo]
  | router id =>
      rw [if_neg (mt hhost.1 (by rintro ⟨_, ⟨⟩⟩)), TreeOptions.latencyTo]
  | memory =>
      rw [if_neg (mt hhost.1 (by rintro ⟨_, ⟨⟩⟩)), TreeOptions.latencyTo]

/-! ### Wires that a tree can have -/

/-- The latency of the link between two endpoints. -/
def latencyOf (t : Tree) (o : TreeOptions) (pair : EndpointPair) : Latency :=
  if t.isHost pair.first || t.isHost pair.second then o.hostLatency else o.linkLatency

theorem latencyOf_of (t : Tree) (o : TreeOptions) (a b : String) :
    t.latencyOf o (.of a b) =
      if t.isHost a || t.isHost b then o.hostLatency else o.linkLatency := by
  unfold latencyOf
  rcases first_second_of a b with ⟨h₁, h₂⟩ | ⟨h₁, h₂⟩
  · rw [h₁, h₂]
  · rw [h₁, h₂, Bool.or_comm]

/-- A tree can have a wire: it goes from a component to another one and has their latency. -/
structure Allows (t : Tree) (o : TreeOptions) (w : Wire) : Prop where
  ends : ∃ c c', t.Has c ∧ t.Has c' ∧ c ≠ c' ∧
    w.ends = .of (t.nameOf o.memoryName c) (t.nameOf o.memoryName c')
  latency_eq : w.latency = t.latencyOf o w.ends

namespace WellFormed

variable {o : TreeOptions} {level index : Nat}

/-- **The wires that building makes are allowed.** -/
theorem allows_wireTo (hw : t.WellFormed) (hn : t.Named o.memoryName)
    (h : index < t.layout.count level) (port : Nat) :
    t.Allows o (t.wireTo o (t.layout.idAt level index) (t.facing level index port)) := by
  have hself : t.Has (.router (t.layout.idAt level index)) := Layout.idAt_lt h
  have hface := hw.has_facing h port
  refine ⟨⟨_, _, hself, hface, (hw.facing_ne_self h port).symm, rfl⟩, ?_⟩
  -- the latency is chosen by what the port leads to, since a router is no host
  have hrouter : t.isHost (routerName (t.layout.idAt level index)) = false := by
    rw [Bool.eq_false_iff]
    intro hhost
    obtain ⟨id, hid⟩ := (hn.isHost_nameOf_iff hself).1 hhost
    cases hid
  rw [wireTo, latencyOf_of, hrouter, Bool.false_or, hn.latencyTo_eq hface]

theorem allows_of_needs (hw : t.WellFormed) (hn : t.Named o.memoryName) {w : Wire}
    (h : t.Needs o (List.range t.layout.totalRouters) w) : t.Allows o w := by
  obtain ⟨id, hid, place, ws, hplace, hws, hmem⟩ := h
  obtain ⟨level, index, hindex, rfl⟩ :=
    Layout.exists_idAt_of_lt_totalRouters (List.mem_range.1 hid)
  rw [hw.place_idAt hindex] at hplace
  cases hplace
  rw [hw.wires_idAt o hindex, components_eq_map_facing] at hws
  cases hws
  obtain ⟨c, hc, rfl⟩ := List.mem_map.1 hmem
  obtain ⟨port, -, rfl⟩ := List.mem_map.1 hc
  exact hw.allows_wireTo hn hindex port

end WellFormed

end Tree

namespace Builder

variable {b b' : Builder}

/-! ### Every call makes allowed links -/

/-- **The endpoints that can be linked** are the components of the tree. -/
theorem hasEndpoint_iff {t : Tree} (ht : b.tree? = some t) {name : String} :
    b.hasEndpoint name ↔ ∃ c, t.Has c ∧ t.nameOf b.options.memoryName c = name := by
  unfold hasEndpoint
  rw [ht, Option.any_some, Bool.or_eq_true, Bool.or_eq_true, beq_iff_eq, Tree.isHost_iff,
    Tree.isRouter_eq_true_iff]
  constructor
  · rintro (rfl | hhost | ⟨id, hid, rfl⟩)
    · exact ⟨.memory, trivial, rfl⟩
    · obtain ⟨id, hid, rfl⟩ := List.mem_iff_getElem.1 hhost
      exact ⟨.host id, hid, Tree.nameOf_host hid⟩
    · exact ⟨.router id, hid, rfl⟩
  · rintro ⟨c, hc, rfl⟩
    cases c with
    | host id =>
        rw [Tree.nameOf_host hc]
        exact .inr (.inl (List.getElem_mem hc))
    | router id => exact .inr (.inr ⟨id, hc, rfl⟩)
    | memory => exact .inl rfl

theorem allows_of_hasEndpoint {t : Tree} (ht : b.tree? = some t) {first second : String}
    (hfirst : b.hasEndpoint first) (hsecond : b.hasEndpoint second) (hne : first ≠ second) :
    t.Allows b.options ⟨.of first second, b.latencyBetween first second⟩ := by
  obtain ⟨c, hc, rfl⟩ := (hasEndpoint_iff ht).1 hfirst
  obtain ⟨c', hc', rfl⟩ := (hasEndpoint_iff ht).1 hsecond
  refine ⟨⟨c, c', hc, hc', fun he => hne (by rw [he]), rfl⟩, ?_⟩
  rw [Tree.latencyOf_of, latencyBetween, isHost, isHost, ht, Option.any_some, Option.any_some]

/-- The links of a builder are allowed by its tree; without a tree there are none. -/
structure Registered (b : Builder) : Prop where
  unconfigured : b.tree? = none → b.links.links = []
  allowed : ∀ t, b.tree? = some t → ∀ l ∈ b.links.links,
    t.Allows b.options ⟨l.endpoints, l.latency⟩

/-- The links stay allowed if a call makes only wires that its tree allows. -/
theorem Registered.of_growsTo (hr : b.Registered) {t : Tree} (ht : b.tree? = some t)
    (ht' : b'.tree? = some t) (ho : b'.options = b.options) {wanted : Wire → Prop}
    (hg : b.links.GrowsTo wanted b'.links) (hwanted : ∀ w, wanted w → t.Allows b.options w) :
    b'.Registered where
  unconfigured := by
    intro hnone
    rw [ht'] at hnone
    cases hnone
  allowed := by
    intro t' htree l hl
    rw [ht'] at htree
    cases htree
    rw [ho]
    rcases hg.made l hl with hold | hnew
    · exact hr.allowed t ht l hold
    · exact hwanted _ hnew

/-- **Every call makes allowed links only.** -/
theorem Registered.step (hr : b.Registered) (hb : b.Sound) (h : b.Step b') : b'.Registered := by
  cases h with
  | refused => exact hr
  | configured hstage =>
      -- there was no link before
      have hnil := hr.unconfigured (by rw [tree?, hstage])
      refine ⟨fun _ => hnil, fun _ _ l hl => ?_⟩
      rw [hnil] at hl
      cases hl
  | @linked first second id links hfirst hsecond hne hconnect =>
      cases ht : b.tree? with
      | none =>
          -- both ends would be the memory
          simp only [hasEndpoint, ht, Option.any_none, Bool.or_false, beq_iff_eq] at hfirst hsecond
          exact absurd (hfirst.trans hsecond.symm) hne
      | some t =>
          refine hr.of_growsTo ht ht rfl (LinkTable.connect_spec hb.links hconnect).1 ?_
          rintro w rfl
          exact allows_of_hasEndpoint ht hfirst hsecond hne
  | @built t routers links hstage hroute =>
      have ht : b.tree? = some t := by rw [tree?, hstage]
      refine hr.of_growsTo ht rfl rfl (Tree.wireRouters_spec hb.links hroute).1 ?_
      intro w hneeds
      exact (hb.wellFormed ht).allows_of_needs (hb.named ht) hneeds

theorem registered_new (o : TreeOptions) : (new o).Registered where
  unconfigured := fun _ => rfl
  allowed := by intro t ht; cases ht

theorem registered_run (o : TreeOptions) (calls : List Call) : ((new o).run calls).Registered := by
  have h : (new o).Sound ∧ (new o).Registered := ⟨sound_new o, registered_new o⟩
  refine (run_induction (p := fun b => b.Sound ∧ b.Registered) ?_ h calls).2
  rintro b b' ⟨hb, hr⟩ hstep
  exact ⟨hb.step hstep, hr.step hb hstep⟩

/-! ### The links of a builder -/

/-- The links of a builder that was created with the options `o`. -/
structure WellLinked (b : Builder) (o : TreeOptions) : Prop where
  id_eq : ∀ i link, b.link? i = some link → link.id = i
  name_eq : ∀ link ∈ b.links.links,
    link.name = "link_" ++ link.endpoints.first ++ "_" ++ link.endpoints.second
  ordered : ∀ link ∈ b.links.links,
    utf8Bytes link.endpoints.first < utf8Bytes link.endpoints.second
  endpoints_nodup : (b.links.links.map Link.endpoints).Nodup
  names_nodup : (b.links.links.map Link.name).Nodup
  endpoint : ∀ t, b.tree? = some t → ∀ link ∈ b.links.links, ∀ name, link.connects name →
    ∃! c, t.Has c ∧ t.nameOf? o.memoryName c = some name
  latency_eq : ∀ t, b.tree? = some t → ∀ link ∈ b.links.links,
    link.latency = t.latencyOf o link.endpoints
  unconfigured : b.tree? = none → b.links.links = []

theorem Registered.wellLinked (hr : b.Registered) (hb : b.Sound) : b.WellLinked b.options where
  id_eq := fun _ _ h => hb.links.id_eq h
  name_eq := hb.links.name_eq
  ordered := by
    intro link hlink
    cases ht : b.tree? with
    | none =>
        rw [hr.unconfigured ht] at hlink
        cases hlink
    | some t =>
        obtain ⟨c, c', hc, hc', hne, hends⟩ := (hr.allowed t ht link hlink).ends
        -- different components have different names
        rw [show link.endpoints = _ from hends]
        exact utf8Bytes_first_lt_second (mt ((hb.named ht).nameOf_inj hc hc') hne)
  endpoints_nodup := hb.links.endpoints_nodup
  names_nodup := hb.links.names_nodup
  endpoint := by
    intro t ht link hlink name hname
    obtain ⟨c, c', hc, hc', -, hends⟩ := (hr.allowed t ht link hlink).ends
    rw [Link.connects, show link.endpoints = _ from hends, contains_of_iff] at hname
    rcases hname with rfl | rfl
    · exact (hb.named ht).existsUnique_component hc
    · exact (hb.named ht).existsUnique_component hc'
  latency_eq := fun t ht link hlink => (hr.allowed t ht link hlink).latency_eq
  unconfigured := hr.unconfigured

/-- **The links of a builder after any calls**, whether they succeed or fail. -/
theorem wellLinked_run (o : TreeOptions) (calls : List Call) :
    ((new o).run calls).WellLinked o := by
  have h := (registered_run o calls).wellLinked (sound_run o calls)
  rwa [options_run] at h

/-- Links that were asked for, and those that building made; two of the calls fail. -/
theorem wellLinked_run_two_levels :
    ∃ b, b = (new { hostLinkLatency := some ⟨3000, by decide⟩ }).run
        [.getLink "mem" "rtr_0", .configure ⟨[2, 2], by decide, by decide⟩ 4 ["a", "b", "c", "d"],
          .getLink "mem" "c", .getLink "rtr_2" "rtr_0", .build, .build, .getLink "b" "a"] ∧
      b.links.links.length = 9 ∧ b.WellLinked { hostLinkLatency := some ⟨3000, by decide⟩ } :=
  ⟨_, rfl, by decide +kernel, wellLinked_run _ _⟩

end Builder

end Interconnect
