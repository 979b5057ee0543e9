/-
**Builders that are changed in place.**

A call to a builder gives the next builder or an error.  This module says the same of a builder that
is changed in place, where what a call has done is still there when the call fails: a link that was
made before another one is refused stays in its table.  The calls are written down once more in this
way, with the state after a failure as part of what they do.  They do what the other calls do, and a
call that fails leaves every part of the builder as it was: whatever can be refused is looked at
before something is changed, and routers are wired in a copy of the table, which takes the place of
the table when all of them are wired.

Main definitions:

* `Computes` — a computation that changes a state in place does what a function does;
* `LinkTable.connectInPlace`, `Tree.wireRoutersInPlace` — connecting wires in a table, one by one;
* `Builder.Call.perform` — a call to a builder that is changed in place;
* `Builder.attempt` — the same call as a function of the builder.

Main results:

* `Tree.computes_wireRoutersInPlace` — routers are wired in place as they are by the function;
* `Builder.perform_eq` — a call in place does what the function does, and nothing if that fails.
-/

import Interconnect.Proofs.Calls

set_option autoImplicit false

namespace Interconnect

/-! ### Computations in place -/

section Computes

variable {ε σ α β : Type}

/-- A computation that changes a state in place has the answer and the state of a function.  If the
function fails, so does the computation; what it has done to the state by then is left open. -/
structure Computes (x : EStateM ε σ α) (f : σ → Except ε (α × σ)) : Prop where
  ok : ∀ {s a s'}, f s = .ok (a, s') → x.run s = .ok a s'
  error : ∀ {s e}, f s = .error e → ∃ s', x.run s = .error e s'

theorem computes_pure (a : α) : Computes (pure a : EStateM ε σ α) fun s => .ok (a, s) where
  ok := by intro s a' s' h; cases h; rfl
  error := by intro s e h; cases h

theorem Computes.bind {x : EStateM ε σ α} {f : σ → Except ε (α × σ)} {k : α → EStateM ε σ β}
    {g : α → σ → Except ε (β × σ)} (hx : Computes x f) (hk : ∀ a, Computes (k a) (g a)) :
    Computes (x >>= k) fun s => f s >>= fun r => g r.1 r.2 where
  ok := by
    intro s b s' h
    obtain ⟨⟨a, s₁⟩, hf, hg⟩ := bind_eq_ok_iff.1 h
    rw [EStateM.run_bind, hx.ok hf]
    exact (hk a).ok hg
  error := by
    intro s e h
    rcases bind_eq_error_iff.1 h with hf | ⟨⟨a, s₁⟩, hf, hg⟩
    · obtain ⟨s', hs'⟩ := hx.error hf
      exact ⟨s', by rw [EStateM.run_bind, hs']⟩
    · obtain ⟨s', hs'⟩ := (hk a).error hg
      exact ⟨s', by rw [EStateM.run_bind, hx.ok hf]; exact hs'⟩

/-- A step that does not look at the state. -/
theorem computes_ofExcept_bind {x : Except ε α} {k : α → EStateM ε σ β}
    {g : α → σ → Except ε (β × σ)} (hk : ∀ a, Computes (k a) (g a)) :
    Computes (MonadExcept.ofExcept x >>= k) fun s => x >>= fun a => g a s := by
  cases x with
  | error e => exact ⟨nofun, fun {s _} h => ⟨s, by cases h; rfl⟩⟩
  | ok a => exact hk a

end Computes

/-! ### Tables -/

namespace LinkTable

/-- Connects two endpoints in a table that is changed in place. -/
def connectInPlace (pair : EndpointPair) (latency : Latency) : EStateM TreeError LinkTable Nat := do
  let t ← get
  match t.find? pair with
  | some l => return l.id
  | none =>
      match t.named? pair.linkName with
      | some l => throw (.configuration (.linkName { wanted := pair, holder := l.endpoints }))
      | none =>
          set (t.push pair latency)
          return t.links.length

/-- Connects wires one after the other; if one of them is refused, those before it stay. -/
def connectAllInPlace : List Wire → EStateM TreeError LinkTable (List Nat)
  | [] => return []
  | w :: ws => do
      let id ← connectInPlace w.ends w.latency
      let ids ← connectAllInPlace ws
      return id :: ids

/-- **Connecting in place** does what connecting does, and nothing if the link is refused. -/
theorem run_connectInPlace (t : LinkTable) (pair : EndpointPair) (latency : Latency) :
    (connectInPlace pair latency).run t =
      match t.connect pair latency with
      | .ok (id, t') => .ok id t'
      | .error clash => .error (.configuration (.linkName clash)) t := by
  simp only [connectInPlace, connect, EStateM.run_bind, EStateM.run_get]
  cases t.find? pair with
  | some l => rfl
  | none =>
      cases t.named? pair.linkName with
      | some l => rfl
      | none => rfl

theorem computes_connectInPlace (pair : EndpointPair) (latency : Latency) :
    Computes (connectInPlace pair latency) fun t =>
      (t.connect pair latency).mapError fun c => .configuration (.linkName c) where
  ok := by
    intro t id t' h
    rw [run_connectInPlace, mapError_eq_ok_iff.1 h]
  error := by
    intro t e h
    obtain ⟨clash, hclash, rfl⟩ := mapError_eq_error_iff.1 h
    exact ⟨t, by rw [run_connectInPlace, hclash]⟩

theorem computes_connectAllInPlace (ws : List Wire) :
    Computes (connectAllInPlace ws) fun t =>
      (t.connectAll ws).mapError fun c => .configuration (.linkName c) := by
  induction ws with
  | nil => exact computes_pure []
  | cons w ws ih =>
      have hstep := (computes_connectInPlace w.ends w.latency).bind fun id =>
        ih.bind fun ids => computes_pure (id :: ids)
      refine ⟨fun {t r t'} h => hstep.ok ?_, fun {t e} h => hstep.error ?_⟩
      all_goals
        -- an error is wrapped after all calls on one side and after each of them on the other
        rw [← h, connectAll]
        cases t.connect w.ends w.latency with
        | error c => rfl
        | ok r =>
            simp only [bind, Except.bind, Except.mapError]
            cases r.2.connectAll ws <;> rfl

end LinkTable

/-! ### Routers -/

namespace Tree

/-- Makes the router with a number, and connects its ports in a table that is changed in place. -/
def wireRouterInPlace (t : Tree) (o : TreeOptions) (id : Nat) :
    EStateM TreeError LinkTable Router := do
  let place ← MonadExcept.ofExcept (t.place id)
  let wires ← MonadExcept.ofExcept (t.wires o id place)
  let ports ← LinkTable.connectAllInPlace wires
  return { id, name := routerName id, level := place.level, numPorts := place.fanout + 1,
           downlinks := place.downlinks, uplink := place.uplink, ports }

/-- Makes routers one after the other; if one of them fails, the links of those before it stay. -/
def wireRoutersInPlace (t : Tree) (o : TreeOptions) :
    List Nat → EStateM TreeError LinkTable (List Router)
  | [] => return []
  | id :: ids => do
      let router ← t.wireRouterInPlace o id
      let routers ← t.wireRoutersInPlace o ids
      return router :: routers

theorem computes_wireRouterInPlace (t : Tree) (o : TreeOptions) (id : Nat) :
    Computes (t.wireRouterInPlace o id) fun table => t.wireRouter o table id := by
  exact computes_ofExcept_bind fun place => computes_ofExcept_bind fun ws =>
    (LinkTable.computes_connectAllInPlace ws).bind fun ports => computes_pure _

theorem computes_wireRoutersInPlace (t : Tree) (o : TreeOptions) (ids : List Nat) :
    Computes (t.wireRoutersInPlace o ids) fun table => t.wireRouters o table ids := by
  induction ids with
  | nil => exact computes_pure []
  | cons id ids ih =>
      exact (t.computes_wireRouterInPlace o id).bind fun router =>
        ih.bind fun routers => computes_pure (router :: routers)

/-- Routers whose wiring fails have left two links in the table in which they were wired. -/
example :
    let l : Layout := ⟨[2, 1], [0, 2], by decide, rfl⟩
    let t : Tree := ⟨⟨[1, 2], by decide, by decide⟩, l, ["s_rtr_1", "rtr_0_s"]⟩
    (match (t.wireRoutersInPlace {} [0, 1, 2]).run .empty with
      | .ok _ _ => 0
      | .error _ table => table.links.length) = 2 := by
  decide +kernel

end Tree

namespace Builder

/-! ### Calls in place -/

/-- Changes the links of a builder; what was done to them is there also after a failure. -/
def onLinks {α : Type} (x : EStateM TreeError LinkTable α) : EStateM TreeError Builder α := fun b =>
  match x.run b.links with
  | .ok a links => .ok a { b with links }
  | .error e links => .error e { b with links }

theorem run_onLinks {α : Type} (x : EStateM TreeError LinkTable α) (b : Builder) :
    (onLinks x).run b =
      match x.run b.links with
      | .ok a links => .ok a { b with links }
      | .error e links => .error e { b with links } := rfl

/-- Fixes the shape, the number of hosts and their names in place. -/
def configureInPlace (shape : Shape) (totalHosts : Nat) (hostNames : List String) :
    EStateM TreeError Builder Unit := do
  let b ← get
  match b.stage with
  | .built _ => throw .alreadyBuilt
  | .configured _ => throw .alreadyConfigured
  | .unconfigured =>
      let tree ← MonadExcept.ofExcept (plan b.options shape totalHosts hostNames)
      set { b with stage := .configured tree }

/-- The number of the link between two endpoints, which is made in the table of the builder. -/
def getLinkInPlace (first second : String) : EStateM TreeError Builder Nat := do
  let b ← get
  if ¬ b.hasEndpoint first then throw (.unknownEndpoint first)
  else if ¬ b.hasEndpoint second then throw (.unknownEndpoint second)
  else if first = second then throw (.configuration (.selfLink first))
  else onLinks (LinkTable.connectInPlace (.of first second) (b.latencyBetween first second))

/-- Makes all routers and connects them in a copy of the table of links.  The copy takes the place
of the table when all of them are connected. -/
def buildInPlace : EStateM TreeError Builder Topology := do
  let b ← get
  match b.stage with
  | .built _ => throw .alreadyBuilt
  | .unconfigured => throw .notConfigured
  | .configured tree =>
      let ids := List.range tree.layout.totalRouters
      match (tree.wireRoutersInPlace b.options ids).run b.links with
      | .error e _ => throw e
      | .ok routers links =>
          let hostLinks ← MonadExcept.ofExcept (tree.hostLinks routers)
          let memoryLink ← MonadExcept.ofExcept (tree.memoryLink routers)
          set { b with stage := .built tree, links }
          return { networkName := b.options.networkName, memoryName := b.options.memoryName, tree,
                   routers, links := links.restrict (routers.flatMap Router.ports), hostLinks,
                   memoryLink }

/-- What a call that succeeds gives back. -/
inductive Answer where
  | configured
  | link (id : Nat)
  | topology (t : Topology)
  deriving DecidableEq, Repr

/-- A call to a builder that is changed in place. -/
def Call.perform : Call → EStateM TreeError Builder Answer
  | .configure shape totalHosts hostNames => do
      configureInPlace shape totalHosts hostNames
      return .configured
  | .getLink first second => return .link (← getLinkInPlace first second)
  | .build => return .topology (← buildInPlace)

/-- A call as a function of the builder. -/
def attempt (b : Builder) : Call → Except TreeError (Answer × Builder)
  | .configure shape totalHosts hostNames =>
      (b.configure shape totalHosts hostNames).map fun b' => (.configured, b')
  | .getLink first second => (b.getLink first second).map fun r => (.link r.1, r.2)
  | .build => b.build.map fun r => (.topology r.1, r.2)

/-- What a call in place has to do, given what the function does. -/
def commit {α : Type} (b : Builder) :
    Except TreeError (α × Builder) → EStateM.Result TreeError Builder α
  | .ok (a, b') => .ok a b'
  | .error e => .error e b

theorem run_configureInPlace (b : Builder) (shape : Shape) (totalHosts : Nat)
    (hostNames : List String) :
    (configureInPlace shape totalHosts hostNames).run b =
      b.commit ((b.configure shape totalHosts hostNames).map fun b' => ((), b')) := by
  simp only [configureInPlace, configure, EStateM.run_bind, EStateM.run_get]
  cases b.stage with
  | built t => rfl
  | configured t => rfl
  | unconfigured => cases plan b.options shape totalHosts hostNames <;> rfl

theorem run_getLinkInPlace (b : Builder) (first second : String) :
    (getLinkInPlace first second).run b = b.commit (b.getLink first second) := by
  simp only [getLinkInPlace, getLink, EStateM.run_bind, EStateM.run_get]
  by_cases hfirst : b.hasEndpoint first
  · by_cases hsecond : b.hasEndpoint second
    · by_cases hne : first = second
      · simp only [hsecond, hne, not_true_eq_false, if_false, if_true]
        rfl
      · -- a link that is refused has left the table as it was
        simp only [hfirst, hsecond, hne, not_true_eq_false, if_false, run_onLinks,
          LinkTable.run_connectInPlace]
        cases b.links.connect (.of first second) (b.latencyBetween first second) <;> rfl
    · simp only [hfirst, hsecond, not_true_eq_false, if_false]
      rfl
  · simp only [hfirst]
    rfl

theorem run_buildInPlace (b : Builder) : buildInPlace.run b = b.commit b.build := by
  simp only [buildInPlace, build, EStateM.run_bind, EStateM.run_get]
  cases b.stage with
  | built t => rfl
  | unconfigured => rfl
  | configured t =>
      have hwire := t.computes_wireRoutersInPlace b.options (List.range t.layout.totalRouters)
      cases h : t.wireRouters b.options b.links (List.range t.layout.totalRouters) with
      | ok r =>
          simp only [hwire.ok h, h, bind, Except.bind]
          cases t.hostLinks r.1 with
          | error e => rfl
          | ok hostLinks => cases t.memoryLink r.1 <;> rfl
      | error e =>
          -- the table that the wiring has left is dropped
          obtain ⟨table, htable⟩ := hwire.error h
          simp only [htable, h]
          rfl

/-- **A call in place does what the function does**, and a call that fails does nothing. -/
theorem perform_eq (b : Builder) (c : Call) : c.perform.run b = b.commit (b.attempt c) := by
  cases c with
  | configure shape totalHosts hostNames =>
      simp only [Call.perform, attempt, EStateM.run_bind, run_configureInPlace]
      cases b.configure shape totalHosts hostNames <;> rfl
  | getLink first second =>
      simp only [Call.perform, attempt, EStateM.run_bind, run_getLinkInPlace]
      cases b.getLink first second <;> rfl
  | build =>
      simp only [Call.perform, attempt, EStateM.run_bind, run_buildInPlace]
      cases b.build <;> rfl

end Builder

end Interconnect
