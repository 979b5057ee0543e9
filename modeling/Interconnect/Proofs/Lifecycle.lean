/-
**The life of a builder.**

A builder is configured once and built once, in this order, and links can be asked for at any time.
Here this is read off the answers that calls to a builder in place have given: every answer moves
the builder from one stage to another, the stages are in a row, and so the stage that a builder is
in tells how many calls of each kind have succeeded.

Main definitions:

* `Builder.after`, `Builder.outcome` — the builder after a call in place, and what the call gives;
* `Builder.runInPlace`, `Builder.outcomes` — the same for some calls, one after the other;
* `Builder.Moves` — the stages before and after a call with an outcome;
* `Builder.Lifecycle` — what is true of a builder with a history of calls.

Main results:

* `Builder.moves_after` — calls do not move a builder in any other way;
* `Builder.isConfigured_runInPlace`, `Builder.isBuilt_runInPlace` — the stage counts the successes;
* `Builder.lifecycle_run` — failed calls change nothing, and the life of a builder goes one way.
-/

import Interconnect.Proofs.InPlace

set_option autoImplicit false

namespace Interconnect

namespace Builder

variable {b : Builder}

/-! ### Histories of calls in place -/

/-- The builder after a call in place, whether it succeeds or not. -/
def after (b : Builder) (c : Call) : Builder :=
  match c.perform.run b with
  | .ok _ b' => b'
  | .error _ b' => b'

/-- What a call in place gives back. -/
def outcome (b : Builder) (c : Call) : Except TreeError Answer :=
  match c.perform.run b with
  | .ok a _ => .ok a
  | .error e _ => .error e

/-- The builder after some calls in place. -/
def runInPlace (b : Builder) (calls : List Call) : Builder := calls.foldl after b

/-- What calls in place give back, one after the other. -/
def outcomes (b : Builder) : List Call → List (Except TreeError Answer)
  | [] => []
  | c :: calls => b.outcome c :: (b.after c).outcomes calls

/-- Whether an outcome is that of a call that has configured the builder. -/
def configures : Except TreeError Answer → Bool
  | .ok .configured => true
  | _ => false

/-- Whether an outcome is that of a call that has built the tree. -/
def builds : Except TreeError Answer → Bool
  | .ok (.topology _) => true
  | _ => false

theorem after_eq (b : Builder) (c : Call) : b.after c = b.call c := by
  unfold after
  rw [perform_eq]
  cases c with
  | configure shape totalHosts hostNames =>
      simp only [attempt, call]
      cases b.configure shape totalHosts hostNames <;> rfl
  | getLink first second =>
      simp only [attempt, call]
      cases b.getLink first second <;> rfl
  | build =>
      simp only [attempt, call]
      cases b.build <;> rfl

/-- **Histories in place are histories.** -/
theorem runInPlace_eq (b : Builder) (calls : List Call) : b.runInPlace calls = b.run calls := by
  unfold runInPlace run
  rw [show after = call from funext fun b => funext fun c => b.after_eq c]

theorem runInPlace_append (b : Builder) (calls later : List Call) :
    b.runInPlace (calls ++ later) = (b.runInPlace calls).runInPlace later :=
  List.foldl_append

/-- An outcome in a history belongs to a call, which came after the calls of the outcomes before. -/
theorem exists_calls_of_outcomes {calls : List Call} {before rest : List (Except TreeError Answer)}
    {x : Except TreeError Answer} (h : b.outcomes calls = before ++ x :: rest) :
    ∃ earlier c later, calls = earlier ++ c :: later ∧ b.outcomes earlier = before ∧
      (b.runInPlace earlier).outcome c = x := by
  induction before generalizing b calls with
  | nil =>
      cases calls with
      | nil => cases h
      | cons c calls =>
          obtain ⟨hx, -⟩ := List.cons.inj h
          exact ⟨[], c, calls, rfl, rfl, hx⟩
  | cons y before ih =>
      cases calls with
      | nil => cases h
      | cons c calls =>
          obtain ⟨hy, hrest⟩ := List.cons.inj h
          obtain ⟨earlier, c', later, rfl, rfl, hx⟩ := ih hrest
          exact ⟨c :: earlier, c', later, rfl, by rw [outcomes, hy], hx⟩

/-! ### Stages -/

/-- The stages of a builder before and after a call, by what the call gives back. -/
inductive Moves : Stage → Except TreeError Answer → Stage → Prop
  | failed (s : Stage) (e : TreeError) : Moves s (.error e) s
  | configured (t : Tree) : Moves .unconfigured (.ok .configured) (.configured t)
  | linked (s : Stage) (id : Nat) : Moves s (.ok (.link id)) s
  | built (t : Tree) (topology : Topology) :
      Moves (.configured t) (.ok (.topology topology)) (.built t)

theorem moves_of_attempt {c : Call} {a : Answer} {b' : Builder}
    (h : b.attempt c = .ok (a, b')) : Moves b.stage (.ok a) b'.stage := by
  cases c with
  | configure shape totalHosts hostNames =>
      obtain ⟨b₁, hb₁, hr⟩ := map_eq_ok_iff.1 h
      cases hr
      obtain ⟨hstage, t, -, rfl⟩ := configure_eq_ok_iff.1 hb₁
      rw [hstage]
      exact .configured t
  | getLink first second =>
      obtain ⟨⟨id, b₁⟩, hb₁, hr⟩ := map_eq_ok_iff.1 h
      cases hr
      obtain ⟨-, -, -, links, -, rfl⟩ := getLink_eq_ok_iff.1 hb₁
      exact .linked b.stage id
  | build =>
      obtain ⟨⟨topology, b₁⟩, hb₁, hr⟩ := map_eq_ok_iff.1 h
      cases hr
      obtain ⟨t, hstage, hb', -, -⟩ := build_spec hb₁
      rw [hstage, hb']
      exact .built t topology

/-- **What a call does to the stage** is told by what it gives back. -/
theorem moves_after (b : Builder) (c : Call) : Moves b.stage (b.outcome c) (b.after c).stage := by
  unfold outcome after
  rw [perform_eq]
  cases h : b.attempt c with
  | ok r =>
      obtain ⟨a, b'⟩ := r
      exact moves_of_attempt h
  | error e => exact .failed b.stage e

/-! ### Counting successes -/

theorem isConfigured_after (b : Builder) (c : Call) :
    (b.after c).isConfigured.toNat = b.isConfigured.toNat + (configures (b.outcome c)).toNat := by
  have hmoves := b.moves_after c
  unfold isConfigured tree?
  generalize b.stage = s, b.outcome c = x, (b.after c).stage = s' at hmoves ⊢
  cases hmoves <;> rfl

theorem isBuilt_after (b : Builder) (c : Call) :
    (b.after c).isBuilt.toNat = b.isBuilt.toNat + (builds (b.outcome c)).toNat := by
  have hmoves := b.moves_after c
  unfold isBuilt
  generalize b.stage = s, b.outcome c = x, (b.after c).stage = s' at hmoves ⊢
  cases hmoves <;> rfl

/-- A Boolean of builders that counts the successes of every call counts those of a history. -/
theorem count_runInPlace {q : Builder → Bool} {p : Except TreeError Answer → Bool}
    (hstep : ∀ b c, (q (after b c)).toNat = (q b).toNat + (p (b.outcome c)).toNat) (b : Builder)
    (calls : List Call) :
    (q (b.runInPlace calls)).toNat = (q b).toNat + (b.outcomes calls).countP p := by
  induction calls generalizing b with
  | nil => rfl
  | cons c calls ih =>
      have hcons : (b.outcomes (c :: calls)).countP p =
          (p (b.outcome c)).toNat + ((b.after c).outcomes calls).countP p := by
        rw [outcomes, List.countP_cons, Nat.add_comm]
        cases p (b.outcome c) <;> rfl
      calc (q (b.runInPlace (c :: calls))).toNat
          = (q (b.after c)).toNat + ((b.after c).outcomes calls).countP p := ih (b.after c)
        _ = (q b).toNat + (b.outcomes (c :: calls)).countP p := by
            rw [hstep, hcons, Nat.add_assoc]

/-- **A builder is configured** if one call has configured it. -/
theorem isConfigured_runInPlace (o : TreeOptions) (calls : List Call) :
    ((new o).runInPlace calls).isConfigured.toNat =
      ((new o).outcomes calls).countP configures := by
  rw [count_runInPlace isConfigured_after]
  exact Nat.zero_add _

/-- **A builder is built** if one call has built it. -/
theorem isBuilt_runInPlace (o : TreeOptions) (calls : List Call) :
    ((new o).runInPlace calls).isBuilt.toNat = ((new o).outcomes calls).countP builds := by
  rw [count_runInPlace isBuilt_after]
  exact Nat.zero_add _

theorem exists_configured_before {o : TreeOptions} {calls : List Call}
    {before rest : List (Except TreeError Answer)} {t : Topology}
    (h : (new o).outcomes calls = before ++ .ok (.topology t) :: rest) :
    .ok .configured ∈ before := by
  obtain ⟨earlier, c, -, -, rfl, hbuild⟩ := exists_calls_of_outcomes h
  -- the builder was configured when the tree was built, and so some call has configured it
  have hstage : ((new o).runInPlace earlier).isConfigured = true := by
    have hmoves := ((new o).runInPlace earlier).moves_after c
    rw [hbuild] at hmoves
    unfold isConfigured tree?
    generalize ((new o).runInPlace earlier).stage = s,
      (((new o).runInPlace earlier).after c).stage = s' at hmoves ⊢
    cases hmoves
    rfl
  have hcount := isConfigured_runInPlace o earlier
  rw [hstage] at hcount
  obtain ⟨x, hx, hconfigures⟩ := List.countP_pos_iff.1 (Nat.lt_of_lt_of_eq Nat.zero_lt_one hcount)
  unfold configures at hconfigures
  split at hconfigures
  · exact hx
  · cases hconfigures

theorem isBuilt_of_mem_outcomes {o : TreeOptions} {calls : List Call} {t : Topology}
    (h : .ok (.topology t) ∈ (new o).outcomes calls) :
    ((new o).runInPlace calls).isBuilt = true := by
  have hcount := isBuilt_runInPlace o calls
  have hpos : 0 < ((new o).outcomes calls).countP builds := List.countP_pos_iff.2 ⟨_, h, rfl⟩
  cases hb : ((new o).runInPlace calls).isBuilt with
  | true => rfl
  | false =>
      rw [hb] at hcount
      exact absurd hcount (Nat.ne_of_lt hpos)

theorem exists_stage_of_isBuilt (h : b.isBuilt = true) : ∃ t, b.stage = .built t := by
  unfold isBuilt at h
  split at h
  · exact ⟨_, ‹_›⟩
  · cases h

/-! ### The life of a builder -/

/-- What is true of a new builder after some calls in place.  Calls are what the functions say, a
call that fails has changed nothing, and the builder is configured once, then built once, and never
after that. -/
structure Lifecycle (o : TreeOptions) (calls : List Call) : Prop where
  run_eq : (new o).runInPlace calls = (new o).run calls
  perform_eq : ∀ c : Call, c.perform.run ((new o).runInPlace calls) =
    ((new o).run calls).commit (((new o).run calls).attempt c)
  unchanged : ∀ (c : Call) (e : TreeError) (b' : Builder),
    c.perform.run ((new o).runInPlace calls) = .error e b' → b' = (new o).runInPlace calls
  one_configure : ((new o).outcomes calls).countP configures ≤ 1
  one_build : ((new o).outcomes calls).countP builds ≤ 1
  configured_first : ∀ before t rest,
    (new o).outcomes calls = before ++ .ok (.topology t) :: rest → .ok .configured ∈ before
  kept : ∀ t, ((new o).runInPlace calls).tree? = some t →
    ∀ later, ((new o).runInPlace (calls ++ later)).tree? = some t
  no_configure : ∀ t, .ok (.topology t) ∈ (new o).outcomes calls →
    ∀ shape totalHosts hostNames,
      (Call.configure shape totalHosts hostNames).perform.run ((new o).runInPlace calls) =
        .error .alreadyBuilt ((new o).runInPlace calls)
  no_build : ∀ t, .ok (.topology t) ∈ (new o).outcomes calls →
    Call.build.perform.run ((new o).runInPlace calls) =
      .error .alreadyBuilt ((new o).runInPlace calls)

/-- **The life of a builder**: whatever calls are made, failed calls change nothing, and the builder
is configured and built in one way. -/
theorem lifecycle_run (o : TreeOptions) (calls : List Call) : Lifecycle o calls where
  run_eq := (new o).runInPlace_eq calls
  perform_eq := by
    intro c
    rw [runInPlace_eq, perform_eq]
  unchanged := by
    intro c e b' h
    rw [perform_eq] at h
    cases hattempt : ((new o).runInPlace calls).attempt c with
    | ok r =>
        rw [hattempt] at h
        cases h
    | error e' =>
        rw [hattempt] at h
        cases h
        rfl
  one_configure := by
    rw [← isConfigured_runInPlace]
    exact Bool.toNat_le _
  one_build := by
    rw [← isBuilt_runInPlace]
    exact Bool.toNat_le _
  configured_first := fun _ _ _ h => exists_configured_before h
  kept := by
    intro t ht later
    rw [runInPlace_append, runInPlace_eq, runInPlace_eq]
    rw [runInPlace_eq] at ht
    exact ((sound_run o calls).extends_run later).tree? t ht
  no_configure := by
    intro t ht shape totalHosts hostNames
    obtain ⟨tree, hstage⟩ := exists_stage_of_isBuilt (isBuilt_of_mem_outcomes ht)
    rw [perform_eq, attempt, configure, hstage]
    rfl
  no_build := by
    intro t ht
    obtain ⟨tree, hstage⟩ := exists_stage_of_isBuilt (isBuilt_of_mem_outcomes ht)
    rw [perform_eq, attempt, build, hstage]
    rfl

end Builder

end Interconnect
