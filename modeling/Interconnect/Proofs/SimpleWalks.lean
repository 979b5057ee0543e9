/-
**Simple walks in a forest.**

In a forest every node has at most one parent, with a larger number than its own.  A walk that goes
from child to parent and from parent to child and passes nothing twice has no choice: it cannot get
below a node without passing that node, nor out from below it without passing its parent, so every
step is told by whether the end is below.  Two such walks with the same ends are the same.

Main definitions:

* `IsForest` — parents in a forest;
* `SimpleWalk` — a walk along parents and children that passes nothing twice.

Main results:

* `IsForest.not_below_of_isChain`, `IsForest.below_of_isChain` — walks that stay outside and inside
  of a subtree;
* `SimpleWalk.reverse` — a walk can be walked back;
* `SimpleWalk.unique` — there is one walk between two nodes at most.
-/

import Mathlib.Data.List.Chain
import Mathlib.Data.List.Nodup
import Mathlib.Logic.Relation

set_option autoImplicit false

namespace Interconnect

open Relation

/-- Every node has at most one parent, and the parent has a larger number. -/
structure IsForest (parent : Nat → Nat → Prop) : Prop where
  lt : ∀ a b, parent a b → a < b
  unique : ∀ a b c, parent a b → parent a c → b = c

/-- A walk along parents and children that passes nothing twice. -/
structure SimpleWalk (parent : Nat → Nat → Prop) (start target : Nat) (walk : List Nat) : Prop where
  starts : walk.head? = some start
  ends : walk.getLast? = some target
  nodup : walk.Nodup
  adjacent : walk.IsChain fun a b => parent a b ∨ parent b a

variable {parent : Nat → Nat → Prop} {start target : Nat} {walk : List Nat}

/-! ### Below a node -/

namespace IsForest

theorem le_of_below (hf : IsForest parent) {a b : Nat} (h : ReflTransGen parent a b) : a ≤ b := by
  induction h with
  | refl => exact Nat.le_refl a
  | tail _ hstep ih => exact Nat.le_trans ih (Nat.le_of_lt (hf.lt _ _ hstep))

/-- The parent of what is below a node is below it as well, unless it is the parent of the node. -/
theorem parent_below (hf : IsForest parent) {a b top : Nat} (h : ReflTransGen parent a top)
    (hb : parent a b) : a = top ∨ ReflTransGen parent b top := by
  rcases h.cases_head with rfl | ⟨c, hc, hrest⟩
  · exact .inl rfl
  · rw [hf.unique a b c hb hc]
    exact .inr hrest

/-- **A walk that starts outside of a subtree stays outside** if it does not pass the top. -/
theorem not_below_of_isChain (hf : IsForest parent) {top : Nat}
    (hchain : walk.IsChain fun a b => parent a b ∨ parent b a) (htop : top ∉ walk)
    (hstart : ∀ a ∈ walk.head?, ¬ ReflTransGen parent a top) :
    ∀ a ∈ walk, ¬ ReflTransGen parent a top := by
  induction walk with
  | nil => nofun
  | cons a rest ih =>
      have ha : ¬ ReflTransGen parent a top := hstart a rfl
      rw [List.mem_cons, not_or] at htop
      refine List.forall_mem_cons.2 ⟨ha, ih hchain.tail htop.2 ?_⟩
      cases rest with
      | nil => nofun
      | cons b rest =>
          rintro _ ⟨⟩ hb
          rcases (List.isChain_cons_cons.1 hchain).1 with hup | hdown
          · exact ha (.head hup hb)
          · -- the parent of the next one is not below, so the next one is the top
            rcases hf.parent_below hb hdown with rfl | ha'
            · exact htop.2 List.mem_cons_self
            · exact ha ha'

/-- **A walk that starts inside of a subtree stays inside** if it does not pass the parent of the
top. -/
theorem below_of_isChain (hf : IsForest parent) {top above : Nat} (htop : parent top above)
    (hchain : walk.IsChain fun a b => parent a b ∨ parent b a) (habove : above ∉ walk)
    (hstart : ∀ a ∈ walk.head?, ReflTransGen parent a top) :
    ∀ a ∈ walk, ReflTransGen parent a top := by
  induction walk with
  | nil => nofun
  | cons a rest ih =>
      have ha : ReflTransGen parent a top := hstart a rfl
      rw [List.mem_cons, not_or] at habove
      refine List.forall_mem_cons.2 ⟨ha, ih hchain.tail habove.2 ?_⟩
      cases rest with
      | nil => nofun
      | cons b rest =>
          rintro _ ⟨⟩
          rcases (List.isChain_cons_cons.1 hchain).1 with hup | hdown
          · rcases hf.parent_below ha hup with rfl | hb
            · exact absurd List.mem_cons_self (hf.unique a b above hup htop ▸ habove.2)
            · exact hb
          · exact .head hdown ha

/-- Two nodes with the same parent that have something in common below them are the same. -/
theorem eq_of_below (hf : IsForest parent) {a b c above : Nat} (hb : parent b above)
    (hc : parent c above) (hab : ReflTransGen parent a b) (hac : ReflTransGen parent a c) :
    b = c := by
  -- the parent would be below one of them
  have hsame : ∀ {b c : Nat}, parent b above → parent c above → ReflTransGen parent b c →
      b = c := by
    intro b c hb hc hbc
    rcases hf.parent_below hbc hb with rfl | habove
    · rfl
    · exact absurd (hf.le_of_below habove) (Nat.not_le.2 (hf.lt c above hc))
  rcases ReflTransGen.total_of_right_unique hf.unique hab hac with hbc | hcb
  · exact hsame hb hc hbc
  · exact (hsame hc hb hcb).symm

end IsForest

/-! ### One walk between two nodes -/

namespace SimpleWalk

theorem exists_cons (h : SimpleWalk parent start target walk) : ∃ rest, walk = start :: rest :=
  List.head?_eq_some_iff.1 h.starts

/-- The rest of a walk that has a step. -/
theorem tail {a b : Nat} {rest : List Nat} (h : SimpleWalk parent start target (a :: b :: rest)) :
    SimpleWalk parent b target (b :: rest) where
  starts := rfl
  ends := by rw [← h.ends, List.getLast?_cons_cons]
  nodup := (List.nodup_cons.1 h.nodup).2
  adjacent := h.adjacent.tail

/-- **A walk can be walked back.** -/
theorem reverse (h : SimpleWalk parent start target walk) :
    SimpleWalk parent target start walk.reverse where
  starts := by rw [List.head?_reverse, h.ends]
  ends := by rw [List.getLast?_reverse, h.starts]
  nodup := List.nodup_reverse.2 h.nodup
  adjacent := List.isChain_reverse.2 (h.adjacent.imp fun _ _ => Or.symm)

/-- The end of a walk that goes up first is not below the start. -/
theorem not_below_of_up (hf : IsForest parent) {a b : Nat} {rest : List Nat}
    (h : SimpleWalk parent start target (a :: b :: rest)) (hup : parent a b) :
    ¬ ReflTransGen parent target a := by
  refine hf.not_below_of_isChain h.tail.adjacent (List.nodup_cons.1 h.nodup).1 ?_ target
    (List.mem_of_getLast? h.tail.ends)
  rintro _ ⟨⟩ hb
  exact absurd (hf.le_of_below hb) (Nat.not_le.2 (hf.lt a b hup))

/-- The end of a walk that goes down first is below the child that comes next. -/
theorem below_of_down (hf : IsForest parent) {a b : Nat} {rest : List Nat}
    (h : SimpleWalk parent start target (a :: b :: rest)) (hdown : parent b a) :
    ReflTransGen parent target b := by
  refine hf.below_of_isChain hdown h.tail.adjacent (List.nodup_cons.1 h.nodup).1 ?_ target
    (List.mem_of_getLast? h.tail.ends)
  rintro _ ⟨⟩
  exact .refl

/-- The first steps of two walks with the same ends are the same. -/
theorem next_eq (hf : IsForest parent) {a b b' : Nat} {rest rest' : List Nat}
    (h : SimpleWalk parent start target (a :: b :: rest))
    (h' : SimpleWalk parent start target (a :: b' :: rest')) : b = b' := by
  have hstep := (List.isChain_cons_cons.1 h.adjacent).1
  have hstep' := (List.isChain_cons_cons.1 h'.adjacent).1
  rcases hstep with hup | hdown <;> rcases hstep' with hup' | hdown'
  · exact hf.unique a b b' hup hup'
  · exact absurd ((h'.below_of_down hf hdown').tail hdown') (h.not_below_of_up hf hup)
  · exact absurd ((h.below_of_down hf hdown).tail hdown) (h'.not_below_of_up hf hup')
  · exact hf.eq_of_below hdown hdown' (h.below_of_down hf hdown) (h'.below_of_down hf hdown')

/-- A walk that ends where it starts has no step. -/
theorem ne_of_step {a b : Nat} {rest : List Nat}
    (h : SimpleWalk parent start target (a :: b :: rest)) : a ≠ target := by
  rintro rfl
  exact (List.nodup_cons.1 h.nodup).1 (List.mem_of_getLast? h.tail.ends)

/-- **There is one walk between two nodes at most.** -/
theorem unique (hf : IsForest parent) {walk' : List Nat}
    (h : SimpleWalk parent start target walk) (h' : SimpleWalk parent start target walk') :
    walk = walk' := by
  induction walk generalizing start walk' with
  | nil => cases h.starts
  | cons a rest ih =>
      obtain rfl : a = start := Option.some_inj.1 h.starts
      obtain ⟨rest', rfl⟩ := h'.exists_cons
      cases rest with
      | nil =>
          cases rest' with
          | nil => rfl
          | cons b' rest' => exact absurd (Option.some_inj.1 h.ends) h'.ne_of_step
      | cons b rest =>
          cases rest' with
          | nil => exact absurd (Option.some_inj.1 h'.ends) h.ne_of_step
          | cons b' rest' =>
              obtain rfl := h.next_eq hf h'
              rw [ih h.tail h'.tail]

end SimpleWalk

end Interconnect
