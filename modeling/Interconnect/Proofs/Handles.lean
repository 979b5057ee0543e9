/-
**Handles of links.**

The number of a link is handed out to whoever asks for the link between two names, and it may be
kept and used at any time later.  This is safe: whatever calls follow, asking again in either order
gives the same number and changes nothing, and the number stands for the same link.  The links that
a topology has on its ports can be asked for by name in the same way, since building uses the table
of the builder.

Main definitions:

* `Builder.Holds` — a builder has a link for two names;
* `Builder.Permanent` — handles that are given out stay valid.

Main results:

* `Builder.Sound.holds_iff` — when a builder has a link;
* `Builder.Holds.of_extends` — it keeps the link;
* `Builder.permanent_run` — handles stay valid, whatever is done before and after.
-/

import Interconnect.Proofs.BuilderLinks
import Interconnect.Proofs.Connections

set_option autoImplicit false

namespace Interconnect

open EndpointPair

theorem LinkTable.find?_of_prefix {t t' : LinkTable} (h : t.links <+: t'.links)
    {pair : EndpointPair} {l : Link} (hl : t.find? pair = some l) : t'.find? pair = some l := by
  obtain ⟨rest, hrest⟩ := h
  unfold find? at *
  rw [← hrest, List.find?_append, hl]
  rfl

namespace Builder

/-! ### Links that a builder has -/

/-- A builder has a link for two names: it gives the number of the link in either order without a
change, and the number stands for the link. -/
structure Holds (b : Builder) (first second : String) (link : Link) : Prop where
  forth : b.getLink first second = .ok (link.id, b)
  back : b.getLink second first = .ok (link.id, b)
  link? : b.link? link.id = some link

/-- **The order of the names does not matter.** -/
theorem getLink_comm (b : Builder) (first second : String) {r : Nat × Builder} :
    b.getLink first second = .ok r ↔ b.getLink second first = .ok r := by
  obtain ⟨id, b'⟩ := r
  rw [getLink_eq_ok_iff, getLink_eq_ok_iff, of_comm first second, latencyBetween, latencyBetween,
    Bool.or_comm, ne_comm, and_left_comm]

/-- **When a builder has a link**: both names are endpoints, and the link is in the table. -/
theorem Sound.holds_iff {b : Builder} (hb : b.Sound) {first second : String} {link : Link} :
    b.Holds first second link ↔
      b.hasEndpoint first ∧ b.hasEndpoint second ∧ first ≠ second ∧
        b.links.find? (.of first second) = some link := by
  constructor
  · rintro ⟨hforth, -, hlink⟩
    obtain ⟨hfirst, hsecond, hne, links, hconnect, hlinks⟩ := getLink_eq_ok_iff.1 hforth
    have hlinks : b.links = links := congrArg Builder.links hlinks
    obtain ⟨l, hl, hid⟩ := LinkTable.find?_connect hconnect
    rw [← hlinks] at hl
    -- the link that is found has the number, and so it is the link
    have hget := hb.links.get?_id (List.mem_of_find?_eq_some hl)
    rw [hid, show b.links.get? link.id = some link from hlink, Option.some_inj] at hget
    exact ⟨hfirst, hsecond, hne, by rw [hl, hget]⟩
  · rintro ⟨hfirst, hsecond, hne, hfind⟩
    have hforth : b.getLink first second = .ok (link.id, b) :=
      getLink_eq_ok_iff.2
        ⟨hfirst, hsecond, hne, b.links, LinkTable.connect_eq_of_find? hfind _, rfl⟩
    exact ⟨hforth, (b.getLink_comm first second).1 hforth,
      hb.links.get?_id (List.mem_of_find?_eq_some hfind)⟩

theorem Extends.hasEndpoint {b b' : Builder} (h : b.Extends b') {name : String}
    (hname : b.hasEndpoint name) : b'.hasEndpoint name := by
  unfold Builder.hasEndpoint at *
  rw [h.options_eq]
  cases ht : b.tree? with
  | none =>
      rw [ht, Option.any_none, Bool.or_false] at hname
      rw [hname, Bool.true_or]
  | some t =>
      rw [ht] at hname
      rw [h.tree? t ht]
      exact hname

/-- **A builder keeps a link.** -/
theorem Holds.of_extends {b b' : Builder} (hb : b.Sound) (hb' : b'.Sound) (hext : b.Extends b')
    {first second : String} {link : Link} (h : b.Holds first second link) :
    b'.Holds first second link := by
  obtain ⟨hfirst, hsecond, hne, hfind⟩ := hb.holds_iff.1 h
  exact hb'.holds_iff.2 ⟨hext.hasEndpoint hfirst, hext.hasEndpoint hsecond, hne,
    LinkTable.find?_of_prefix hext.links hfind⟩

theorem Holds.run {b : Builder} (hb : b.Sound) {first second : String} {link : Link}
    (h : b.Holds first second link) (later : List Call) : (b.run later).Holds first second link :=
  h.of_extends hb (hb.run later) (hb.extends_run later)

/-- What a builder hands out is a link that it has. -/
theorem Sound.exists_holds {b b' : Builder} (hb : b.Sound) {first second : String} {id : Nat}
    (h : b.getLink first second = .ok (id, b')) :
    ∃ link, link.id = id ∧ b'.Holds first second link := by
  have hb' : b'.Sound := hb.step (step_of_getLink h)
  obtain ⟨hfirst, hsecond, hne, links, hconnect, rfl⟩ := getLink_eq_ok_iff.1 h
  obtain ⟨link, hfind, hid⟩ := LinkTable.find?_connect hconnect
  exact ⟨link, hid, hb'.holds_iff.2 ⟨hfirst, hsecond, hne, hfind⟩⟩

/-! ### Links on ports -/

/-- **A builder has the links of the tree it has built**, under the names of their ends. -/
theorem Sound.exists_holds_of_build {b b' : Builder} (hb : b.Sound) {t : Topology}
    (h : b.build = .ok (t, b')) {r : Router} (hr : r ∈ t.routers)
    {port : Nat} (hport : port < r.numPorts) :
    ∃ link face name, r.linkOnPort? port = some link.id ∧ r.faces[port]? = some face ∧
      t.tree.nameOf? t.memoryName face = some name ∧ b'.Holds r.name name link := by
  have hb' : b'.Sound := hb.step (step_of_build h)
  have ht := hb.built_of_build h
  have hw := ht.wellFormed
  obtain ⟨htree, hmemory⟩ := tree?_of_build h
  obtain ⟨level, index, link, hindex, hs, hport, hlink, hid, hpair⟩ :=
    ht.exists_link_of_port hr hport
  -- the router and what the port leads to are different components of the tree
  have hself : t.tree.Has (.router (t.tree.layout.idAt level index)) := Layout.idAt_lt hindex
  have hhas := hw.has_facing hindex port
  refine ⟨link, _, _, hid, hs.faces_getElem? hport, Tree.nameOf?_eq_some hhas, ?_⟩
  rw [hs.name_eq]
  refine hb'.holds_iff.2 ⟨?_, ?_, hw.routerName_ne_nameOf ht.named hindex port, ?_⟩
  · exact (hasEndpoint_iff htree).2 ⟨_, hself, rfl⟩
  · exact (hasEndpoint_iff htree).2 ⟨_, hhas, by rw [hmemory]⟩
  · rw [← Tree.pairOn, ← hpair]
    exact hb'.links.find?_endpoints (ht.mem_links_iff.1 hlink).1

/-! ### All handles -/

/-- Handles that a builder gives out stay valid. -/
structure Permanent (b : Builder) : Prop where
  kept : ∀ first second id b', b.getLink first second = .ok (id, b') →
    ∃ link, link.id = id ∧ ∀ later, (b'.run later).Holds first second link
  symm : ∀ first second r, b.getLink first second = .ok r ↔ b.getLink second first = .ok r
  port : ∀ t b', b.build = .ok (t, b') → ∀ r ∈ t.routers, ∀ port < r.numPorts,
    ∃ link face name, r.linkOnPort? port = some link.id ∧ r.faces[port]? = some face ∧
      t.tree.nameOf? t.memoryName face = some name ∧
      ∀ later, (b'.run later).Holds r.name name link
  link : ∀ t b', b.build = .ok (t, b') → ∀ link ∈ t.links,
    t.link? link.id = some link ∧ ∀ later, (b'.run later).link? link.id = some link

theorem Sound.permanent {b : Builder} (hb : b.Sound) : b.Permanent where
  kept := by
    intro first second id b' h
    obtain ⟨link, hid, hholds⟩ := hb.exists_holds h
    exact ⟨link, hid, hholds.run (hb.step (step_of_getLink h))⟩
  symm := fun first second _ => b.getLink_comm first second
  port := by
    intro t b' h r hr port hport
    obtain ⟨link, face, name, hid, hface, hname, hholds⟩ := hb.exists_holds_of_build h hr hport
    exact ⟨link, face, name, hid, hface, hname, hholds.run (hb.step (step_of_build h))⟩
  link := by
    intro t b' h link hlink
    have hb' : b'.Sound := hb.step (step_of_build h)
    have ht := hb.built_of_build h
    have hmem := (ht.mem_links_iff.1 hlink).1
    refine ⟨ht.link?_id hlink, fun later => ?_⟩
    exact (hb'.run later).links.get?_id ((hb'.extends_run later).links.subset hmem)

/-- **Handles stay valid**, whatever is done with the builder before and after. -/
theorem permanent_run (o : TreeOptions) (calls : List Call) : ((new o).run calls).Permanent :=
  (sound_run o calls).permanent

/-- A link that was asked for before the tree is built, which needs it. -/
theorem permanent_run_two_levels :
    ∃ b, b = (new {}).run [.configure ⟨[2, 2], by decide, by decide⟩ 4 ["a", "b", "c", "d"],
        .getLink "rtr_2" "rtr_0"] ∧
      (∃ r, b.getLink "rtr_0" "rtr_2" = .ok r) ∧
      (∃ t b', b.build = .ok (t, b') ∧ t.routers ≠ []) ∧ b.Permanent := by
  have hlink := exists_ok_of_isSome
    (x := ((new {}).run [.configure ⟨[2, 2], by decide, by decide⟩ 4 ["a", "b", "c", "d"],
      .getLink "rtr_2" "rtr_0"]).getLink "rtr_0" "rtr_2") (by decide +kernel)
  obtain ⟨⟨t, b'⟩, hbuild, hcheck⟩ := exists_ok_of_any
    (p := fun r => decide (r.1.routers ≠ []))
    (x := ((new {}).run [.configure ⟨[2, 2], by decide, by decide⟩ 4 ["a", "b", "c", "d"],
      .getLink "rtr_2" "rtr_0"]).build) (by decide +kernel)
  exact ⟨_, rfl, hlink, ⟨t, b', hbuild, of_decide_eq_true hcheck⟩, permanent_run _ _⟩

end Builder

end Interconnect
