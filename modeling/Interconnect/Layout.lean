/-
**Router layouts.**

A shape fits a number of hosts if the hosts can be grouped by the first fan-out into leaf routers,
those by the second fan-out into routers of the next level, and so on, always without remainder,
and a single router is left at the end.  The layout records how many routers each level has.
Routers are numbered level by level from the leaves, so the routers of one level have consecutive
numbers and the root has the last one.

Numbers of routers are 64-bit words.  A sum of them that needs more than 64 bits is an overflow, at
which the program stops: there is no layout then, though the shape fits.

Main definitions:

* `Word.add?`, `Word.sum?` — sums of words, which may overflow;
* `Layout` — the number of routers on each level, and the number of the first of them;
* `Shape.layout` — the layout of a shape for a number of hosts;
* `Layout.offset?`, `Layout.totalRouters`, `Layout.rootId`, `Layout.levelOf?` — the numbering;
* `LayoutError`, `LayoutFailure` — why a shape does not fit, and why there is no layout.

Main results:

* `Word.sum?_of_lt` — adding up words whose sum is a word does not overflow;
* `Layout.sum_lt` — the routers of a layout can be numbered by words.
-/

import Interconnect.Shape

set_option autoImplicit false

namespace Interconnect

-- powers and the zero of a sum are those of the core library, whatever else is imported
attribute [local instance (high)] instPowNat Zero.ofOfNat0

/-- Why a shape does not fit a number of hosts. -/
inductive LayoutError where
  /-- There is no host. -/
  | noHosts
  /-- The `below` hosts or routers under a level do not make groups of `fanout`. -/
  | uneven (below level fanout : Nat)
  /-- The last level has several routers. -/
  | severalRoots (shape : Shape) (hosts roots : Nat)
  deriving DecidableEq, Repr

/-- The wording of the error. -/
def LayoutError.message : LayoutError → String
  | noHosts => "total_hosts must be positive"
  | uneven below level fanout =>
      toString below ++ " " ++ (if level = 0 then "hosts" else "routers") ++ " at level " ++
        toString level ++ " cannot be divided evenly by fan-out " ++ toString fanout
  | severalRoots shape hosts roots =>
      "shape " ++ toString shape ++ " with " ++ toString hosts ++ " hosts leaves " ++
        toString roots ++ " routers at the top level, expected a single root"

/-- Why there is no layout. -/
inductive LayoutFailure where
  /-- The shape does not fit the number of hosts. -/
  | misfit (cause : LayoutError)
  /-- It fits, but counting the routers overflows.  Nobody is told: the program stops. -/
  | overflow
  deriving DecidableEq, Repr

/-! ### Sums of words -/

namespace Word

/-- The sum of two words, if it is a word. -/
def add? (m n : Nat) : Option Nat := if m + n < 2 ^ (64 : Nat) then some (m + n) else none

/-- The sum of `total` and some more words, one added after the other. -/
def sum? (total : Nat) : List Nat → Option Nat
  | [] => some total
  | n :: ns => (add? total n).bind (sum? · ns)

/-- The sums in front of each of some words, from `total` on.  The sum behind the last word is taken
as well. -/
def sumsBefore? (total : Nat) : List Nat → Option (List Nat)
  | [] => some []
  | n :: ns => (add? total n).bind fun next => (sumsBefore? next ns).map (total :: ·)

/-- The first of some words with which the sum, from `total` on, is larger than `id`, if there is
one; the words are numbered from `level` on. -/
def findSum? (id level total : Nat) : List Nat → Option (Option Nat)
  | [] => some none
  | n :: ns =>
      (add? total n).bind fun next =>
        if id < next then some (some level) else findSum? id (level + 1) next ns

theorem add?_of_lt {m n : Nat} (h : m + n < 2 ^ (64 : Nat)) : add? m n = some (m + n) := if_pos h

theorem add?_eq_some_iff {m n k : Nat} : add? m n = some k ↔ k = m + n ∧ k < 2 ^ (64 : Nat) := by
  unfold add?
  split <;> simp only [Option.some.injEq, reduceCtorEq, false_iff] <;> omega

/-- If the sum of some words is a word, the first can be added, and the rest after it. -/
theorem add?_of_sum_lt {total n : Nat} {ns : List Nat}
    (h : total + (n :: ns).sum < 2 ^ (64 : Nat)) :
    add? total n = some (total + n) ∧ total + n + ns.sum < 2 ^ (64 : Nat) := by
  rw [List.sum_cons, ← Nat.add_assoc] at h
  exact ⟨add?_of_lt (Nat.lt_of_le_of_lt (Nat.le_add_right _ _) h), h⟩

/-- **Adding up words whose sum is a word does not overflow.** -/
theorem sum?_of_lt {total : Nat} {ns : List Nat} (h : total + ns.sum < 2 ^ (64 : Nat)) :
    sum? total ns = some (total + ns.sum) := by
  induction ns generalizing total with
  | nil => rfl
  | cons n ns ih =>
      obtain ⟨hadd, hrest⟩ := add?_of_sum_lt h
      rw [sum?, hadd, Option.bind_some, ih hrest, List.sum_cons, Nat.add_assoc]

theorem sumsBefore?_of_lt {total : Nat} {ns : List Nat} (h : total + ns.sum < 2 ^ (64 : Nat)) :
    sumsBefore? total ns =
      some ((List.range ns.length).map fun i => total + (ns.take i).sum) := by
  induction ns generalizing total with
  | nil => rfl
  | cons n ns ih =>
      obtain ⟨hadd, hrest⟩ := add?_of_sum_lt h
      rw [sumsBefore?, hadd, Option.bind_some, ih hrest, List.length_cons, List.range_succ_eq_map]
      simp [Nat.add_assoc, Function.comp_def]

/-- The sums in front of words are only there if the sum of all of them is a word. -/
theorem sum_lt_of_sumsBefore? {total : Nat} {ns sums : List Nat} (htotal : total < 2 ^ (64 : Nat))
    (h : sumsBefore? total ns = some sums) : total + ns.sum < 2 ^ (64 : Nat) := by
  induction ns generalizing total sums with
  | nil => simpa using htotal
  | cons n ns ih =>
      obtain ⟨next, hnext, h⟩ := Option.bind_eq_some_iff.1 h
      obtain ⟨rest, hrest, -⟩ := Option.map_eq_some_iff.1 h
      obtain ⟨rfl, hlt⟩ := add?_eq_some_iff.1 hnext
      rw [List.sum_cons, ← Nat.add_assoc]
      exact ih hlt hrest

theorem findSum?_of_lt {id level total : Nat} {ns : List Nat}
    (h : total + ns.sum < 2 ^ (64 : Nat)) :
    findSum? id level total ns =
      some (((List.range ns.length).find? fun i => id < total + (ns.take (i + 1)).sum).map
        (level + ·)) := by
  induction ns generalizing level total with
  | nil => rfl
  | cons n ns ih =>
      obtain ⟨hadd, hrest⟩ := add?_of_sum_lt h
      rw [findSum?, hadd, Option.bind_some, List.length_cons, List.range_succ_eq_map,
        List.find?_cons, List.find?_map]
      by_cases hid : id < total + n
      · simp [hid]
      · rw [if_neg hid, ih hrest]
        -- behind the first word, the rest is searched with the sum up to it
        simp only [List.take_succ_cons, List.sum_cons, List.take_zero, List.sum_nil, Nat.add_zero,
          hid, decide_false, Option.map_map, Function.comp_def, Nat.add_assoc, Nat.add_comm 1]
        rfl

end Word

/-! ### Layouts -/

/-- The number of routers on each level, the leaves first. -/
structure Layout where
  /-- One number for each level. -/
  counts : List Nat
  /-- For each level the number of its first router. -/
  offsets : List Nat
  /-- They were added up, and no sum overflowed. -/
  offsets_eq : Word.sumsBefore? 0 counts = some offsets
  /-- The top level has one router. -/
  top_eq : counts.getLast? = some 1
  deriving DecidableEq, Repr

namespace Layout

theorem zero_add_sum_lt (l : Layout) : 0 + l.counts.sum < 2 ^ (64 : Nat) :=
  Word.sum_lt_of_sumsBefore? (by decide) l.offsets_eq

/-- **The routers of a layout can be numbered by words.** -/
theorem sum_lt (l : Layout) : l.counts.sum < 2 ^ (64 : Nat) := by
  simpa only [Nat.zero_add] using l.zero_add_sum_lt

theorem sum?_counts (l : Layout) : Word.sum? 0 l.counts = some l.counts.sum := by
  rw [Word.sum?_of_lt l.zero_add_sum_lt, Nat.zero_add]

theorem findSum?_counts (l : Layout) (id : Nat) :
    Word.findSum? id 0 0 l.counts =
      some ((List.range l.counts.length).find? fun level =>
        id < (l.counts.take (level + 1)).sum) := by
  rw [Word.findSum?_of_lt l.zero_add_sum_lt]
  simp

/-- The number of levels. -/
def numLevels (l : Layout) : Nat := l.counts.length

/-- The number of routers. -/
def totalRouters (l : Layout) : Nat :=
  (Word.sum? 0 l.counts).get (by rw [sum?_counts]; rfl)

/-- The number of the first router of a level, if there is such a level. -/
def offset? (l : Layout) (level : Nat) : Option Nat := l.offsets[level]?

/-- The number of the root, which is the last one. -/
def rootId (l : Layout) : Nat := l.totalRouters - 1

/-- The level of a router: the first one that ends behind it. -/
def levelOf? (l : Layout) (id : Nat) : Option Nat :=
  (Word.findSum? id 0 0 l.counts).get (by rw [findSum?_counts]; rfl)

/-- The layout with given numbers of routers. -/
def ofCounts (counts : List Nat) (htop : counts.getLast? = some 1) : Except LayoutFailure Layout :=
  match h : Word.sumsBefore? 0 counts with
  | some offsets => .ok ⟨counts, offsets, h, htop⟩
  | none => .error .overflow

end Layout

namespace Shape

/-- The numbers of routers on the levels from `level` on, with `below` hosts or routers under them,
for the remaining fan-outs. -/
def group (level below : Nat) : List Nat → Except LayoutError (List Nat)
  | [] => .ok []
  | f :: fs =>
      if below % f = 0 then (group (level + 1) (below / f) fs).map (below / f :: ·)
      else .error (.uneven below level f)

/-- The layout of a shape for a number of hosts. -/
def layout (s : Shape) (hosts : Nat) : Except LayoutFailure Layout :=
  if hosts = 0 then .error (.misfit .noHosts)
  else do
    let counts ← (group 0 hosts s.fanouts).mapError .misfit
    if htop : counts.getLast? = some 1 then Layout.ofCounts counts htop
    else .error (.misfit (.severalRoots s hosts (counts.getLastD hosts)))

end Shape

end Interconnect
