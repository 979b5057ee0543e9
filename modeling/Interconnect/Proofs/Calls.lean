/-
**Calls to a builder.**

A builder is used by calling it any number of times, in any order and with any arguments; a call
that fails leaves it as it was.  What calls can do is said once, as four kinds of steps with
everything that is known when they happen, so that an invariant of builders has four cases and its
proof does not look into the calls.  The first invariant is that the links of the builder are
consistent, and that a tree that it has was planned with the options of the builder.

Main definitions:

* `Builder.Call`, `Builder.call`, `Builder.run` — calls, and the builder after some calls;
* `Layout.IsFree`, `Tree.Named` — a name that a host can have, and a tree with different names;
* `Builder.Step` — what a call can do;
* `Builder.Sound` — what is true of a builder after any calls;
* `Builder.Extends` — a builder has what another one had.

Main results:

* `Builder.plan_eq_ok_iff` — when a tree is planned;
* `Builder.step_call`, `Builder.run_induction` — calls do nothing else, and what every step keeps is
  true after any calls;
* `Builder.sound_run` — builders are sound after any calls;
* `Builder.Sound.extends_run` — calls take nothing away.
-/

import Interconnect.Proofs.Wiring

set_option autoImplicit false

namespace Interconnect

open EndpointPair Text

/-! ### The names of a tree -/

/-- A name that a host can have: it is not blank, and neither the memory nor a router has it. -/
def Layout.IsFree (l : Layout) (memoryName name : String) : Prop :=
  isBlankText name = false ∧ name ≠ memoryName ∧ l.hasRouterNamed name = false

/-- The names of the routers of a layout are those of the numbers below the number of routers. -/
theorem Layout.hasRouterNamed_eq_true_iff {l : Layout} {name : String} :
    l.hasRouterNamed name = true ↔ ∃ k < l.totalRouters, name = routerName k := by
  rw [hasRouterNamed, Option.any_eq_true]
  constructor
  · rintro ⟨k, hid, hk⟩
    exact ⟨k, of_decide_eq_true hk, (routerId?_eq_some_iff.1 hid).1⟩
  · rintro ⟨k, hk, rfl⟩
    have hword : k < 2 ^ 64 := Nat.lt_trans hk (l.totalRouters_eq ▸ l.sum_lt)
    exact ⟨k, routerId?_eq_some_iff.2 ⟨rfl, hword⟩, decide_eq_true hk⟩

theorem Layout.hasRouterNamed_eq_false_iff {l : Layout} {name : String} :
    l.hasRouterNamed name = false ↔ ∀ k < l.totalRouters, name ≠ routerName k := by
  rw [← Bool.not_eq_true, hasRouterNamed_eq_true_iff]
  simp only [not_exists, not_and, ne_eq]

/-- The names of the hosts are different and can be names of hosts, and the memory does not have the
name of a router. -/
structure Tree.Named (t : Tree) (memoryName : String) : Prop where
  hosts_nodup : t.hostNames.Nodup
  host_free : ∀ name ∈ t.hostNames, t.layout.IsFree memoryName name
  memory_not_router : t.isRouter memoryName = false

namespace Tree.Named

variable {t : Tree} {memoryName name : String}

theorem host_ne_memory (hn : t.Named memoryName) (h : name ∈ t.hostNames) : name ≠ memoryName :=
  (hn.host_free name h).2.1

theorem host_not_router (hn : t.Named memoryName) (h : name ∈ t.hostNames) :
    t.isRouter name = false :=
  (hn.host_free name h).2.2

end Tree.Named

namespace Builder

theorem checkHost_eq_ok_iff {memoryName : String} {layout : Layout} {seen : List String}
    {name : String} :
    checkHost memoryName layout seen name = .ok () ↔
      layout.IsFree memoryName name ∧ name ∉ seen := by
  unfold checkHost Layout.IsFree
  simp only [ite_error_eq_ok_iff, Bool.not_eq_true, List.contains_iff_mem, and_true, and_assoc]

/-- Host names are accepted if each of them is and no two are the same. -/
theorem checkHosts_eq_ok_iff {memoryName : String} {layout : Layout} {seen names : List String} :
    checkHosts memoryName layout seen names = .ok () ↔
      names.Nodup ∧ ∀ name ∈ names, layout.IsFree memoryName name ∧ name ∉ seen :=
  checkEach_eq_ok_iff (fun _ => rfl) (fun _ _ _ => rfl) fun _ _ => checkHost_eq_ok_iff

/-- **A tree is planned** if the shape fits the number of hosts, there is a name for every host, and
the names are different. -/
theorem plan_eq_ok_iff {o : TreeOptions} {shape : Shape} {totalHosts : Nat}
    {hostNames : List String} {t : Tree} :
    plan o shape totalHosts hostNames = .ok t ↔
      t.shape = shape ∧ t.hostNames = hostNames ∧ hostNames.length = totalHosts ∧
        shape.layout totalHosts = .ok t.layout ∧ t.Named o.memoryName := by
  unfold plan
  simp only [bind_eq_ok_iff, mapError_eq_ok_iff, ite_error_eq_ok_iff, Bool.not_eq_true, not_not]
  constructor
  · rintro ⟨layout, hlayout, hmemory, hlength, _, hhosts, h⟩
    cases h
    obtain ⟨hnodup, hnames⟩ := checkHosts_eq_ok_iff.1 hhosts
    have hfree : ∀ name ∈ hostNames, layout.IsFree o.memoryName name :=
      fun name hname => (hnames name hname).1
    exact ⟨rfl, rfl, hlength, hlayout, hnodup, hfree, hmemory⟩
  · rintro ⟨rfl, rfl, rfl, hlayout, hn⟩
    have hnames : ∀ name ∈ t.hostNames, t.layout.IsFree o.memoryName name ∧ name ∉ [] :=
      fun name hname => ⟨hn.host_free name hname, List.not_mem_nil⟩
    have hhosts := checkHosts_eq_ok_iff.2 ⟨hn.hosts_nodup, hnames⟩
    exact ⟨t.layout, hlayout, hn.memory_not_router, rfl, (), hhosts, rfl⟩

/-! ### Calls -/

/-- A call to a builder. -/
inductive Call where
  | configure (shape : Shape) (totalHosts : Nat) (hostNames : List String)
  | getLink (first second : String)
  | build
  deriving DecidableEq, Repr

/-- The builder after a call; a call that fails leaves it as it was. -/
def call (b : Builder) : Call → Builder
  | .configure shape totalHosts hostNames =>
      ((b.configure shape totalHosts hostNames).toOption).getD b
  | .getLink first second => ((b.getLink first second).toOption.map Prod.snd).getD b
  | .build => (b.build.toOption.map Prod.snd).getD b

/-- The builder after some calls, one after the other. -/
def run (b : Builder) (calls : List Call) : Builder := calls.foldl call b

/-! ### What calls do -/

/-- What a call can do to a builder: nothing if it is refused, and else configure a tree, hand out a
link or build. -/
inductive Step (b : Builder) : Builder → Prop
  | refused : Step b b
  | configured {t : Tree} (hstage : b.stage = .unconfigured)
      (hplan : plan b.options t.shape t.hostNames.length t.hostNames = .ok t) :
      Step b { b with stage := .configured t }
  | linked {first second : String} {id : Nat} {links : LinkTable}
      (hfirst : b.hasEndpoint first) (hsecond : b.hasEndpoint second) (hne : first ≠ second)
      (hconnect : b.links.connect (.of first second) (b.latencyBetween first second) =
        .ok (id, links)) : Step b { b with links }
  | built {t : Tree} {routers : List Router} {links : LinkTable}
      (hstage : b.stage = .configured t)
      (hroute : t.wireRouters b.options b.links (List.range t.layout.totalRouters) =
        .ok (routers, links)) : Step b { b with stage := .built t, links }

/-- **A builder is configured** if it was not and the tree can be planned. -/
theorem configure_eq_ok_iff {b b' : Builder} {shape : Shape} {totalHosts : Nat}
    {hostNames : List String} :
    b.configure shape totalHosts hostNames = .ok b' ↔
      b.stage = .unconfigured ∧ ∃ t, plan b.options shape totalHosts hostNames = .ok t ∧
        b' = { b with stage := .configured t } := by
  unfold Builder.configure
  cases hstage : b.stage with
  | unconfigured =>
      simp only [bind_eq_ok_iff, true_and]
      constructor
      · rintro ⟨t, hplan, h⟩
        cases h
        exact ⟨t, hplan, rfl⟩
      · rintro ⟨t, hplan, rfl⟩
        exact ⟨t, hplan, rfl⟩
  | configured t => simp
  | built t => simp

theorem step_of_configure {b b' : Builder} {shape : Shape} {totalHosts : Nat}
    {hostNames : List String} (h : b.configure shape totalHosts hostNames = .ok b') :
    b.Step b' := by
  obtain ⟨hstage, t, hplan, rfl⟩ := configure_eq_ok_iff.1 h
  obtain ⟨rfl, rfl, rfl, -⟩ := plan_eq_ok_iff.1 hplan
  exact .configured hstage hplan

/-- **A link is handed out** for two different names of endpoints that can be connected. -/
theorem getLink_eq_ok_iff {b b' : Builder} {first second : String} {id : Nat} :
    b.getLink first second = .ok (id, b') ↔
      b.hasEndpoint first ∧ b.hasEndpoint second ∧ first ≠ second ∧ ∃ links,
        b.links.connect (.of first second) (b.latencyBetween first second) = .ok (id, links) ∧
          b' = { b with links } := by
  unfold Builder.getLink
  simp only [ite_error_eq_ok_iff, not_not, ne_eq]
  refine and_congr_right fun _ => and_congr_right fun _ => and_congr_right fun _ => ?_
  cases b.links.connect (.of first second) (b.latencyBetween first second) with
  | error clash => simp
  | ok r =>
      obtain ⟨i, links⟩ := r
      simp only [Except.ok.injEq, Prod.mk.injEq, and_assoc]
      constructor
      · rintro ⟨rfl, rfl⟩
        exact ⟨links, rfl, rfl, rfl⟩
      · rintro ⟨_, rfl, rfl, rfl⟩
        exact ⟨rfl, rfl⟩

theorem step_of_getLink {b b' : Builder} {first second : String} {id : Nat}
    (h : b.getLink first second = .ok (id, b')) : b.Step b' := by
  obtain ⟨hfirst, hsecond, hne, links, hconnect, rfl⟩ := getLink_eq_ok_iff.1 h
  exact .linked hfirst hsecond hne hconnect

/-- A build has made all routers of the tree that was configured, and found the links to the hosts
and to the memory on their ports. -/
theorem build_spec {b b' : Builder} {topology : Topology} (h : b.build = .ok (topology, b')) :
    ∃ t, b.stage = .configured t ∧
      b' = { b with stage := .built t, links := b'.links } ∧
      t.wireRouters b.options b.links (List.range t.layout.totalRouters) =
        .ok (topology.routers, b'.links) ∧
      t.hostLinks topology.routers = .ok topology.hostLinks ∧
      t.memoryLink topology.routers = .ok topology.memoryLink ∧
      topology =
        { networkName := b.options.networkName, memoryName := b.options.memoryName, tree := t,
          routers := topology.routers,
          links := b'.links.restrict (topology.routers.flatMap Router.ports)
          hostLinks := topology.hostLinks, memoryLink := topology.memoryLink } := by
  unfold build at h
  split at h
  · cases h
  · cases h
  · rename_i t hstage
    obtain ⟨⟨routers, links⟩, hroute, h⟩ := bind_eq_ok_iff.1 h
    obtain ⟨hostLinks, hhosts, h⟩ := bind_eq_ok_iff.1 h
    obtain ⟨memoryLink, hmemory, h⟩ := bind_eq_ok_iff.1 h
    cases h
    exact ⟨t, hstage, rfl, hroute, hhosts, hmemory, rfl⟩

theorem step_of_build {b b' : Builder} {topology : Topology}
    (h : b.build = .ok (topology, b')) : b.Step b' := by
  obtain ⟨t, hstage, hb', hroute, -⟩ := build_spec h
  rw [hb']
  exact .built hstage hroute

/-- **Calls do nothing else.** -/
theorem step_call (b : Builder) (c : Call) : b.Step (b.call c) := by
  cases c with
  | configure shape totalHosts hostNames =>
      rw [Builder.call]
      cases h : b.configure shape totalHosts hostNames with
      | ok b' => exact step_of_configure h
      | error e => exact .refused
  | getLink first second =>
      rw [Builder.call]
      cases h : b.getLink first second with
      | ok r => exact step_of_getLink h
      | error e => exact .refused
  | build =>
      rw [Builder.call]
      cases h : b.build with
      | ok r => exact step_of_build h
      | error e => exact .refused

/-- **What every step keeps is true after any calls.** -/
theorem run_induction {p : Builder → Prop} (hstep : ∀ b b', p b → b.Step b' → p b') {b : Builder}
    (h : p b) (calls : List Call) : p (b.run calls) := by
  induction calls generalizing b with
  | nil => exact h
  | cons c calls ih => exact ih (hstep b _ h (b.step_call c))

/-! ### Sound builders -/

/-- The links of a builder are consistent, and its tree was planned with its options. -/
structure Sound (b : Builder) : Prop where
  planned : ∀ t, b.tree? = some t →
    plan b.options t.shape t.hostNames.length t.hostNames = .ok t
  links : b.links.Consistent

theorem sound_new (o : TreeOptions) : (new o).Sound where
  planned := by intro t ht; cases ht
  links := LinkTable.consistent_empty

theorem Sound.step {b b' : Builder} (hb : b.Sound) (h : b.Step b') : b'.Sound := by
  cases h with
  | refused => exact hb
  | configured _ hplan =>
      refine ⟨fun t' ht' => ?_, hb.links⟩
      cases ht'
      exact hplan
  | linked _ _ _ hconnect =>
      exact ⟨hb.planned, (LinkTable.connect_spec hb.links hconnect).1.consistent hb.links⟩
  | built hstage hroute =>
      refine ⟨fun t' ht' => ?_, (Tree.wireRouters_spec hb.links hroute).1.consistent hb.links⟩
      cases ht'
      exact hb.planned _ (by rw [tree?, hstage])

theorem Sound.run {b : Builder} (hb : b.Sound) (calls : List Call) : (b.run calls).Sound :=
  run_induction (fun _ _ hb h => hb.step h) hb calls

/-- **Builders are sound after any calls.** -/
theorem sound_run (o : TreeOptions) (calls : List Call) : ((new o).run calls).Sound :=
  (sound_new o).run calls

/-! ### What stays -/

/-- A builder has what another one had: the options, the tree if there was one, and the links in
their places. -/
structure Extends (b b' : Builder) : Prop where
  options_eq : b'.options = b.options
  tree? : ∀ t, b.tree? = some t → b'.tree? = some t
  links : b.links.links <+: b'.links.links

theorem Extends.refl (b : Builder) : b.Extends b := ⟨rfl, fun _ h => h, List.prefix_rfl⟩

theorem Extends.trans {b b' b'' : Builder} (h : b.Extends b') (h' : b'.Extends b'') :
    b.Extends b'' where
  options_eq := h'.options_eq.trans h.options_eq
  tree? := fun t ht => h'.tree? t (h.tree? t ht)
  links := h.links.trans h'.links

theorem Sound.extends_step {b b' : Builder} (hb : b.Sound) (h : b.Step b') : b.Extends b' := by
  cases h with
  | refused => exact .refl b
  | configured hstage =>
      refine ⟨rfl, fun t ht => ?_, List.prefix_rfl⟩
      rw [Builder.tree?, hstage] at ht
      cases ht
  | linked _ _ _ hconnect =>
      exact ⟨rfl, fun _ ht => ht, (LinkTable.connect_spec hb.links hconnect).1.kept⟩
  | built hstage hroute =>
      refine ⟨rfl, fun t ht => ?_, (Tree.wireRouters_spec hb.links hroute).1.kept⟩
      rw [Builder.tree?, hstage] at ht
      exact ht

/-- **Calls take nothing away.** -/
theorem Sound.extends_run {b : Builder} (hb : b.Sound) (calls : List Call) :
    b.Extends (b.run calls) := by
  have h : b.Sound ∧ b.Extends b := ⟨hb, .refl b⟩
  refine (run_induction (p := fun b' => b'.Sound ∧ b.Extends b') ?_ h calls).2
  rintro b₁ b₂ ⟨hb₁, hext⟩ hstep
  exact ⟨hb₁.step hstep, hext.trans (hb₁.extends_step hstep)⟩

theorem options_run (o : TreeOptions) (calls : List Call) : ((new o).run calls).options = o :=
  ((sound_new o).extends_run calls).options_eq

end Builder

end Interconnect
