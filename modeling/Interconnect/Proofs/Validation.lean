/-
**What validation accepts.**

Validation and the builder check the names of a tree on their own.  Names that are listed pass the
one check exactly if they pass the other.  Names that are left out are generated and not checked by
validation; they are different, and none of them is blank or the name of a router, so the builder
refuses them only if the memory has one of them.

Main definitions:

* `Config.Network.tree?` — the tree of a network whose shape can be read and fits its hosts.

Main results:

* `Config.Network.validate_eq_ok_iff` — what validation accepts;
* `Config.Network.isFree_defaultHostName` — generated names can be names of hosts;
* `Config.Network.plan_of_validate` — the tree of a valid network is planned.
-/

import Interconnect.Config.Validation
import Interconnect.Proofs.Calls

set_option autoImplicit false

namespace Interconnect.Config.Network

open Text

/-! ### Listed names -/

theorem checkHost_eq_ok_iff {memoryName : String} {layout : Layout} {seen : List String}
    {name : String} :
    checkHost memoryName layout seen name = .ok () ↔
      layout.IsFree memoryName name ∧ name ∉ seen := by
  unfold checkHost Layout.IsFree
  simp only [ite_error_eq_ok_iff, Bool.not_eq_true, List.contains_iff_mem, not_or, and_true,
    and_assoc]

theorem checkHosts_eq_ok_iff {memoryName : String} {layout : Layout} {seen names : List String} :
    checkHosts memoryName layout seen names = .ok () ↔
      names.Nodup ∧ ∀ name ∈ names, layout.IsFree memoryName name ∧ name ∉ seen :=
  checkEach_eq_ok_iff (fun _ => rfl) (fun _ _ _ => rfl) fun _ _ => checkHost_eq_ok_iff

/-- Names that are listed are accepted if there are as many as hosts and they are different and
free. -/
theorem checkHostNames_eq_ok_iff {n : Network} {layout : Layout} :
    n.checkHostNames layout = .ok () ↔ ∀ names, n.hostNames = some names →
      names.length = n.totalHosts ∧ names.Nodup ∧
        ∀ name ∈ names, layout.IsFree n.memoryName name := by
  unfold checkHostNames
  cases n.hostNames with
  | none => exact ⟨fun _ => nofun, fun _ => rfl⟩
  | some names =>
      simp only [ite_error_eq_ok_iff, not_not, checkHosts_eq_ok_iff, List.not_mem_nil,
        not_false_eq_true, and_true, Option.some.injEq, forall_eq']

/-! ### The whole network -/

/-- The tree of a network, if its shape can be read and fits the number of hosts. -/
def tree? (n : Network) : Option Tree := do
  let shape ← n.parsedShape.toOption
  let layout ← (shape.layout n.totalHosts).toOption
  return { shape, layout, hostNames := n.effectiveHostNames }

theorem tree?_eq_some_iff {n : Network} {tree : Tree} :
    n.tree? = some tree ↔ n.parsedShape = .ok tree.shape ∧
      tree.shape.layout n.totalHosts = .ok tree.layout ∧
      tree.hostNames = n.effectiveHostNames := by
  unfold tree?
  constructor
  · intro h
    obtain ⟨shape, hshape, h⟩ := Option.bind_eq_some_iff.1 h
    obtain ⟨layout, hlayout, h⟩ := Option.bind_eq_some_iff.1 h
    cases h
    exact ⟨toOption_eq_some_iff.1 hshape, toOption_eq_some_iff.1 hlayout, rfl⟩
  · rintro ⟨hshape, hlayout, hnames⟩
    refine Option.bind_eq_some_iff.2 ⟨_, toOption_eq_some_iff.2 hshape,
      Option.bind_eq_some_iff.2 ⟨_, toOption_eq_some_iff.2 hlayout, ?_⟩⟩
    rw [← hnames]
    rfl

/-- **What validation accepts**: names that are not blank, a shape that can be read and fits, a
memory without the name of a router, and the names of hosts that are listed. -/
theorem validate_eq_ok_iff {n : Network} :
    n.validate = .ok () ↔ isBlankText n.name = false ∧ isBlankText n.memoryName = false ∧
      ∃ tree, n.tree? = some tree ∧ tree.isRouter n.memoryName = false ∧
        n.checkHostNames tree.layout = .ok () := by
  unfold validate
  simp only [ite_error_eq_ok_iff, bind_eq_ok_iff, mapError_eq_ok_iff, Bool.not_eq_true,
    tree?_eq_some_iff]
  refine and_congr_right fun _ => and_congr_right fun _ => ?_
  constructor
  · rintro ⟨shape, hshape, layout, hlayout, hmemory, hnames⟩
    exact ⟨⟨shape, layout, n.effectiveHostNames⟩, ⟨hshape, hlayout, rfl⟩, hmemory, hnames⟩
  · rintro ⟨tree, ⟨hshape, hlayout, -⟩, hmemory, hnames⟩
    exact ⟨tree.shape, hshape, tree.layout, hlayout, hmemory, hnames⟩

/-! ### Generated names -/

theorem toList_defaultHostName (i : Nat) :
    (defaultHostName i).toList = 'h' :: 'o' :: 's' :: 't' :: (toString i).toList := by
  simp [defaultHostName]

theorem defaultHostName_injective {i j : Nat} (h : defaultHostName i = defaultHostName j) :
    i = j := by
  have := congrArg String.toList h
  simp only [toList_defaultHostName, List.cons.injEq, true_and, String.toList_inj] at this
  exact Numeral.toString_injective this

/-- **Generated names can be names of hosts** unless the memory has them. -/
theorem isFree_defaultHostName (layout : Layout) {memoryName : String} {i : Nat}
    (h : defaultHostName i ≠ memoryName) : layout.IsFree memoryName (defaultHostName i) := by
  refine ⟨?_, h, ?_⟩
  · have hletter : isBlank 'h' = false := by decide
    rw [isBlankText, toList_defaultHostName, List.all_cons, hletter, Bool.false_and]
  · unfold Layout.hasRouterNamed
    cases hid : routerId? (defaultHostName i) with
    | none => rfl
    | some id =>
        have hname := congrArg String.toList (routerId?_eq_some_iff.1 hid).1
        rw [toList_defaultHostName, toList_routerName] at hname
        cases hname

theorem nodup_generated (totalHosts : Nat) :
    ((List.range totalHosts).map defaultHostName).Nodup :=
  List.nodup_range.map fun _ _ => defaultHostName_injective

theorem length_effectiveHostNames {n : Network} (h : n.hostNames = none) :
    n.effectiveHostNames.length = n.totalHosts := by
  rw [effectiveHostNames, h, Option.getD_none, List.length_map, List.length_range]

/-! ### Valid networks -/

/-- The names of a valid network are different and free, if the memory does not have the name that
is generated for a host. -/
theorem named_of_validate {n : Network} {tree : Tree} (hv : n.validate = .ok ())
    (ht : n.tree? = some tree) (hm : n.hostNames = none → n.memoryName ∉ n.effectiveHostNames) :
    n.effectiveHostNames.length = n.totalHosts ∧ tree.Named n.memoryName := by
  obtain ⟨-, -, tree', ht', hmemory, hnames⟩ := validate_eq_ok_iff.1 hv
  cases ht.symm.trans ht'
  obtain ⟨-, -, hhosts⟩ := tree?_eq_some_iff.1 ht
  rw [checkHostNames_eq_ok_iff] at hnames
  rw [effectiveHostNames] at hm hhosts
  cases hlisted : n.hostNames with
  | some names =>
      rw [hlisted, Option.getD_some] at hhosts
      obtain ⟨hlength, hnodup, hfree⟩ := hnames names hlisted
      exact ⟨by rwa [effectiveHostNames, hlisted], by rwa [hhosts], by rwa [hhosts], hmemory⟩
  | none =>
      -- nothing was checked, so the names are as they are generated
      rw [hlisted, Option.getD_none] at hhosts hm
      refine ⟨length_effectiveHostNames hlisted, by rw [hhosts]; exact nodup_generated _, ?_,
        hmemory⟩
      rw [hhosts]
      intro name hname
      obtain ⟨i, -, rfl⟩ := List.mem_map.1 hname
      refine isFree_defaultHostName tree.layout ?_
      rintro he
      exact hm rfl (he ▸ hname)

/-- **The tree of a valid network is planned.** -/
theorem plan_of_validate {n : Network} {tree : Tree} (hv : n.validate = .ok ())
    (ht : n.tree? = some tree) (hm : n.hostNames = none → n.memoryName ∉ n.effectiveHostNames) :
    Builder.plan n.treeOptions tree.shape n.totalHosts n.effectiveHostNames = .ok tree := by
  obtain ⟨hlength, hnamed⟩ := named_of_validate hv ht hm
  obtain ⟨-, hlayout, hhosts⟩ := tree?_eq_some_iff.1 ht
  exact Builder.plan_eq_ok_iff.2 ⟨rfl, hhosts, hlength, hlayout, hnamed⟩

end Interconnect.Config.Network
