/-
**Overrides of valid configurations.**

What validation asks of a network falls into two parts.  The names have to be fit to be used at all,
which can be said without a tree; and the shape has to fit the hosts and leave the names to the
routers, which needs the layout.  Overrides keep the first part: the names stay as they are, and a
list of host names that is not as long as the new number of hosts is dropped.  So only the second
part has to be looked at again, and a configuration that was valid is never refused for the number
of its host names.

Main definitions:

* `Config.Overridden` — what overriding does to a configuration;
* `Config.Network.WellNamed`, `Config.Network.FitsTree` — the two parts of what validation asks;
* `Config.NetworkFault.IsOfTree` — the faults of the second part.

Main results:

* `Config.overridden_override`, `Config.override_override` — what is replaced, and that doing it
  again changes nothing;
* `Config.Network.validate_eq_ok_iff_fitsTree` — validation asks for the two parts and nothing else;
* `Config.Network.WellNamed.override` — overrides keep the first part;
* `Config.Network.WellNamed.isOfTree_of_validate` — then only the second part can fail;
* `Config.applyOverrides_spec` — all of it for a configuration that was valid.
-/

import Interconnect.Config.Overrides
import Interconnect.Proofs.Validation

set_option autoImplicit false

namespace Interconnect

open Text

namespace Config

/-! ### What overriding does -/

/-- A configuration comes from another one by overriding: the values that are given are used, host
names that do not fit the number of hosts that is given are dropped, and nothing else changes. -/
structure Overridden (c : Config) (o : Overrides) (c' : Config) : Prop where
  shape_eq : c'.network.shape = o.shape.getD c.network.shape
  totalHosts_eq : c'.network.totalHosts = o.totalHosts.getD c.network.totalHosts
  outputFormat_eq : c'.general.outputFormat = o.outputFormat.or c.general.outputFormat
  hostNames_eq : c'.network.hostNames ≠ none → c'.network.hostNames = c.network.hostNames
  dropped_iff : ∀ names, c.network.hostNames = some names →
    (c'.network.hostNames = none ↔ ∃ total, o.totalHosts = some total ∧ names.length ≠ total)
  rest_eq : c' =
    { c with
      general := { c.general with outputFormat := c'.general.outputFormat }
      network := { c.network with
                   shape := c'.network.shape
                   totalHosts := c'.network.totalHosts
                   hostNames := c'.network.hostNames } }

namespace Network

variable {n : Network} {shape : Option String} {total : Option Nat}

/-- Names are still listed if they were listed before and fit the number of hosts. -/
theorem hostNames_withTotalHosts_eq_some_iff {names : List String} :
    (n.withTotalHosts total).hostNames = some names ↔
      n.hostNames = some names ∧ ∀ k, total = some k → names.length = k := by
  cases total <;> simp [withTotalHosts, Option.filter_eq_some_iff]

theorem hostNames_withTotalHosts_eq_none_iff {names : List String} (h : n.hostNames = some names) :
    (n.withTotalHosts total).hostNames = none ↔ ∃ k, total = some k ∧ names.length ≠ k := by
  cases total <;> simp [withTotalHosts, h]

theorem shape_withTotalHosts : (n.withTotalHosts total).shape = n.shape := by
  cases total <;> rfl

theorem totalHosts_withTotalHosts :
    (n.withTotalHosts total).totalHosts = total.getD n.totalHosts := by
  cases total <;> rfl

theorem withShape_withTotalHosts :
    (n.withTotalHosts total).withShape shape = (n.withShape shape).withTotalHosts total := by
  cases total <;> rfl

@[simp] theorem withShape_withShape :
    (n.withShape shape).withShape shape = n.withShape shape := by
  cases shape <;> rfl

@[simp] theorem withTotalHosts_withTotalHosts :
    (n.withTotalHosts total).withTotalHosts total = n.withTotalHosts total := by
  cases total with
  | none => rfl
  | some total => simp [withTotalHosts, Option.filter_filter]

end Network

/-- **What overriding does.** -/
theorem overridden_override (c : Config) (o : Overrides) : c.Overridden o (c.override o) where
  shape_eq := Network.shape_withTotalHosts
  totalHosts_eq := Network.totalHosts_withTotalHosts
  outputFormat_eq := rfl
  hostNames_eq := by
    intro hsome
    obtain ⟨names, hnames⟩ := Option.ne_none_iff_exists'.1 hsome
    rw [hnames]
    exact (Network.hostNames_withTotalHosts_eq_some_iff.1 hnames).1.symm
  dropped_iff := by
    intro names hnames
    have hlisted : (c.network.withShape o.shape).hostNames = some names := hnames
    exact Network.hostNames_withTotalHosts_eq_none_iff hlisted
  rest_eq := by
    cases h : o.totalHosts <;> simp [override, Network.withTotalHosts, Network.withShape, h]

/-- **Overriding twice is overriding once.** -/
theorem override_override (c : Config) (o : Overrides) :
    (c.override o).override o = c.override o := by
  simp only [override, Network.withShape_withTotalHosts, Network.withShape_withShape,
    Network.withTotalHosts_withTotalHosts, ← Option.or_assoc, Option.or_self]

/-! ### What validation asks -/

theorem validate_eq_ok_iff {c : Config} :
    c.validate = .ok () ↔
      c.general.validate = .ok () ∧ c.network.validate = .ok () ∧ c.router.validate = .ok () := by
  constructor
  · intro h
    obtain ⟨_, hgeneral, h⟩ := bind_eq_ok_iff.1 h
    obtain ⟨_, hnetwork, hrouter⟩ := bind_eq_ok_iff.1 h
    exact ⟨hgeneral, mapError_eq_ok_iff.1 hnetwork, hrouter⟩
  · rintro ⟨hgeneral, hnetwork, hrouter⟩
    exact bind_eq_ok_iff.2 ⟨(), hgeneral,
      bind_eq_ok_iff.2 ⟨(), mapError_eq_ok_iff.2 hnetwork, hrouter⟩⟩

namespace Network

/-- The names can be used: those of the network and of the memory are not blank, and host names that
are listed are as many as hosts, different, not blank, and not the name of the memory. -/
structure WellNamed (n : Network) : Prop where
  name_not_blank : isBlankText n.name = false
  memoryName_not_blank : isBlankText n.memoryName = false
  hostNames : ∀ names, n.hostNames = some names → names.length = n.totalHosts ∧ names.Nodup ∧
    ∀ name ∈ names, isBlankText name = false ∧ name ≠ n.memoryName

/-- There is a tree that leaves the names alone: the shape can be read and fits the number of hosts,
and neither the memory nor a host that is listed has the name of one of the routers. -/
def FitsTree (n : Network) : Prop :=
  ∃ shape layout, Shape.parse n.shape = .ok shape ∧ shape.layout n.totalHosts = .ok layout ∧
    ∀ k < layout.totalRouters, n.memoryName ≠ routerName k ∧
      ∀ names, n.hostNames = some names → routerName k ∉ names

variable {n : Network}

/-- **What validation asks**: names that can be used, and a tree that leaves them alone. -/
theorem validate_eq_ok_iff_fitsTree : n.validate = .ok () ↔ n.WellNamed ∧ n.FitsTree := by
  rw [validate_eq_ok_iff]
  constructor
  · rintro ⟨hname, hmemory, tree, htree, hrouter, hhosts⟩
    obtain ⟨hshape, hlayout, -⟩ := tree?_eq_some_iff.1 htree
    rw [checkHostNames_eq_ok_iff] at hhosts
    have hmemory' := Layout.hasRouterNamed_eq_false_iff.1 hrouter
    refine ⟨⟨hname, hmemory, fun names hlisted => ?_⟩, tree.shape, tree.layout,
      mapError_eq_ok_iff.1 hshape, hlayout, fun k hk => ⟨hmemory' k hk, ?_⟩⟩
    · obtain ⟨hlength, hnodup, hfree⟩ := hhosts names hlisted
      exact ⟨hlength, hnodup, fun name hmem => ⟨(hfree name hmem).1, (hfree name hmem).2.1⟩⟩
    · intro names hlisted hmem
      obtain ⟨-, -, hfree⟩ := hhosts names hlisted
      exact Layout.hasRouterNamed_eq_false_iff.1 (hfree _ hmem).2.2 k hk rfl
  · rintro ⟨⟨hname, hmemory, hhosts⟩, shape, layout, hshape, hlayout, hrouter⟩
    have hmemory' : layout.hasRouterNamed n.memoryName = false :=
      Layout.hasRouterNamed_eq_false_iff.2 fun k hk => (hrouter k hk).1
    refine ⟨hname, hmemory, ⟨shape, layout, n.effectiveHostNames⟩,
      tree?_eq_some_iff.2 ⟨mapError_eq_ok_iff.2 hshape, hlayout, rfl⟩, hmemory', ?_⟩
    rw [checkHostNames_eq_ok_iff]
    intro names hlisted
    obtain ⟨hlength, hnodup, hfree⟩ := hhosts names hlisted
    refine ⟨hlength, hnodup, fun name hmem => ⟨(hfree name hmem).1, (hfree name hmem).2, ?_⟩⟩
    rw [Layout.hasRouterNamed_eq_false_iff]
    rintro k hk rfl
    exact (hrouter k hk).2 names hlisted hmem

/-! ### What overrides keep -/

namespace WellNamed

theorem withShape (hn : n.WellNamed) (shape : Option String) : (n.withShape shape).WellNamed :=
  ⟨hn.name_not_blank, hn.memoryName_not_blank, hn.hostNames⟩

/-- The names that are still listed are as many as the hosts. -/
theorem withTotalHosts (hn : n.WellNamed) (total : Option Nat) :
    (n.withTotalHosts total).WellNamed := by
  cases total with
  | none => exact hn
  | some total =>
      refine ⟨hn.name_not_blank, hn.memoryName_not_blank, fun names hnames => ?_⟩
      obtain ⟨hlisted, hlength⟩ := hostNames_withTotalHosts_eq_some_iff.1 hnames
      exact ⟨hlength total rfl, (hn.hostNames names hlisted).2⟩

end WellNamed

end Network

/-- **Overrides keep the names in order.** -/
theorem Network.WellNamed.override {c : Config} (hn : c.network.WellNamed) (o : Overrides) :
    (c.override o).network.WellNamed :=
  (hn.withShape o.shape).withTotalHosts o.totalHosts

/-- What is not the network is as valid with overrides as it was before. -/
theorem validate_override {c : Config} (hv : c.validate = .ok ()) (o : Overrides) :
    (c.override o).validate = (c.override o).network.validate.mapError .network := by
  obtain ⟨hgeneral, -, hrouter⟩ := validate_eq_ok_iff.1 hv
  have hgeneral : (c.override o).general.validate = .ok () := hgeneral
  have hrouter : (c.override o).router.validate = .ok () := hrouter
  rw [validate, hgeneral, hrouter]
  cases (c.override o).network.validate <;> rfl

/-! ### What can fail -/

/-- The faults that depend on the tree: there is no tree, its routers cannot be counted, or one of
them has a name that is used already.  A fault of a single name, and names of the wrong number, are
not among them. -/
inductive NetworkFault.IsOfTree : NetworkFault → Prop
  | tree (cause : Misconfiguration) : IsOfTree (.tree cause)
  | overflow : IsOfTree .overflow
  | memoryIsRouter (name : String) : IsOfTree (.memoryIsRouter name)
  | hostTaken (name : String) : IsOfTree (.hostTaken name)

namespace Network

variable {n : Network} {fault : NetworkFault}

/-- Names that can be used are refused only for a router that has one of them. -/
theorem exists_of_checkHosts_eq_error {memoryName : String} {layout : Layout}
    {seen names : List String} (hnodup : names.Nodup)
    (hnames : ∀ name ∈ names, isBlankText name = false ∧ name ≠ memoryName ∧ name ∉ seen)
    (h : checkHosts memoryName layout seen names = .error fault) :
    ∃ name ∈ names, layout.hasRouterNamed name = true ∧ fault = .hostTaken name := by
  induction names generalizing seen with
  | nil => cases h
  | cons name names ih =>
      obtain ⟨hblank, hmemory, hseen⟩ := hnames name List.mem_cons_self
      rw [List.nodup_cons] at hnodup
      rw [checkHosts] at h
      by_cases hrouter : layout.hasRouterNamed name = true
      · have htaken : checkHost memoryName layout seen name = .error (.hostTaken name) := by
          simp [checkHost, hblank, hrouter]
        rw [htaken] at h
        cases h
        exact ⟨name, List.mem_cons_self, hrouter, rfl⟩
      · -- the first name passes, and the others are not among those that were seen by then
        have hfree : layout.IsFree memoryName name := ⟨hblank, hmemory, eq_false_of_ne_true hrouter⟩
        rw [checkHost_eq_ok_iff.2 ⟨hfree, hseen⟩] at h
        have hrest : ∀ other ∈ names,
            isBlankText other = false ∧ other ≠ memoryName ∧ other ∉ name :: seen := by
          intro other hother
          obtain ⟨hblank', hmemory', hseen'⟩ := hnames other (List.mem_cons_of_mem _ hother)
          refine ⟨hblank', hmemory', ?_⟩
          rw [List.mem_cons, not_or]
          exact ⟨fun he => hnodup.1 (he ▸ hother), hseen'⟩
        obtain ⟨other, hother, htaken⟩ := ih hnodup.2 hrest h
        exact ⟨other, List.mem_cons_of_mem _ hother, htaken⟩

/-- **Only the tree is at fault** if the names can be used. -/
theorem WellNamed.isOfTree_of_validate (hn : n.WellNamed) (h : n.validate = .error fault) :
    fault.IsOfTree := by
  have hname := hn.name_not_blank
  have hmemory := hn.memoryName_not_blank
  simp only [validate, hname, hmemory, Bool.false_eq_true, if_false] at h
  rcases bind_eq_error_iff.1 h with hshape | ⟨shape, -, h⟩
  · obtain ⟨cause, -, rfl⟩ := mapError_eq_error_iff.1 hshape
    exact .tree _
  rcases bind_eq_error_iff.1 h with hlayout | ⟨layout, -, h⟩
  · obtain ⟨cause | _, -, rfl⟩ := mapError_eq_error_iff.1 hlayout
    · exact .tree _
    · exact .overflow
  split at h
  · cases h
    exact .memoryIsRouter _
  · unfold checkHostNames at h
    split at h
    · cases h
    · rename_i names hlisted
      obtain ⟨hlength, hnodup, hnames⟩ := hn.hostNames names hlisted
      rw [if_neg (not_not.2 hlength)] at h
      obtain ⟨name, -, -, rfl⟩ := exists_of_checkHosts_eq_error hnodup
        (fun name hmem => ⟨(hnames name hmem).1, (hnames name hmem).2, List.not_mem_nil⟩) h
      exact .hostTaken name

end Network

/-! ### The whole -/

/-- **Overrides.**  The values that are given are used, and nothing else changes but that names are
dropped that do not fit them.  A configuration that was valid stays so exactly if its shape fits and
no name becomes that of a router; nothing else is ever at fault, least of all the number of names.
Overriding a second time has the same outcome. -/
theorem applyOverrides_spec (c : Config) (o : Overrides) :
    c.Overridden o (c.applyOverrides o).1 ∧
      (c.validate = .ok () →
        ((c.applyOverrides o).2 = .ok () ↔ (c.applyOverrides o).1.network.FitsTree) ∧
        (∀ e, (c.applyOverrides o).2 = .error e →
          ∃ fault, e = .network fault ∧ fault.IsOfTree) ∧
        ∀ listed total,
          (c.applyOverrides o).2 ≠ .error (.network (.hostCount listed total))) ∧
      (c.applyOverrides o).1.applyOverrides o = c.applyOverrides o := by
  refine ⟨c.overridden_override o, fun hv => ?_, ?_⟩
  · have hn : (c.override o).network.WellNamed :=
      (Network.validate_eq_ok_iff_fitsTree.1 (validate_eq_ok_iff.1 hv).2.1).1.override o
    have hfault : ∀ e, (c.override o).validate = .error e →
        ∃ fault, e = .network fault ∧ fault.IsOfTree := by
      intro e he
      rw [validate_override hv] at he
      obtain ⟨fault, hfault, rfl⟩ := mapError_eq_error_iff.1 he
      exact ⟨fault, rfl, hn.isOfTree_of_validate hfault⟩
    refine ⟨?_, hfault, fun listed total he => ?_⟩
    · rw [applyOverrides, validate_override hv, mapError_eq_ok_iff,
        Network.validate_eq_ok_iff_fitsTree]
      exact and_iff_right hn
    · obtain ⟨fault, hnetwork, htree⟩ := hfault _ he
      cases hnetwork
      cases htree
  · rw [applyOverrides, applyOverrides, override_override]

/-- A host that has the name of a router once there is a second level, and names that are dropped
because there are more hosts. -/
theorem applyOverrides_spec_router_name :
    (let c : Config := { network := { shape := "2", totalHosts := 2,
                                      hostNames := some ["rtr_1", "b"] } }
     c.validate = .ok () ∧
       ¬ (c.applyOverrides { shape := some "1x2" }).1.network.FitsTree ∧
       (c.applyOverrides { shape := some "1x2" }).2 =
         .error (.network (.hostTaken "rtr_1"))) ∧
    (let c : Config := { network := { shape := "2", totalHosts := 2,
                                      hostNames := some ["rtr_1", "b"] } }
     let o : Overrides := { shape := some "2x2", totalHosts := some 4 }
     c.validate = .ok () ∧ (c.applyOverrides o).1.network.hostNames = none ∧
       (c.applyOverrides o).1.network.FitsTree) := by
  constructor
  · intro c
    have hv : c.validate = .ok () := by decide +kernel
    have hout : (c.applyOverrides { shape := some "1x2" }).2 =
        .error (.network (.hostTaken "rtr_1")) := by decide +kernel
    refine ⟨hv, fun hfits => ?_, hout⟩
    have hok := ((applyOverrides_spec c { shape := some "1x2" }).2.1 hv).1.2 hfits
    cases hok.symm.trans hout
  · intro c o
    have hv : c.validate = .ok () := by decide +kernel
    obtain ⟨hover, hvalid, -⟩ := applyOverrides_spec c o
    exact ⟨hv, (hover.dropped_iff _ rfl).2 ⟨4, rfl, by decide⟩,
      (hvalid hv).1.1 (by decide +kernel)⟩

end Config

end Interconnect
