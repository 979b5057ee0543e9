/-
**What validation and the builder accept.**

The rules for the names of a tree are checked by validation, before anything is built, and by the
builder, which may be used without a configuration.  The two look at them in another order and with
other errors, so it has to be shown that they accept the same networks.  They do if the names of the
hosts are listed.  Names that are left out are generated for the builder and not looked at by
validation, and then there is one difference: the memory may have a name that is generated.

Main definitions:

* `Config.Network.BuilderAccepts`, `Config.Network.BuilderRefuses` — a new builder is configured for
  a network, or fails to be.

Main results:

* `Config.Network.builderAccepts_iff` — what the builder accepts;
* `Config.Network.validate_of_builderAccepts` — validation accepts all of it;
* `Config.Network.builderRefuses_of_mem` — a memory with a generated name is the reason for which
  the builder refuses a network;
* `Config.Network.validate_iff_builderAccepts` — where the two agree and where they do not.
-/

import Interconnect.Proofs.Validation

set_option autoImplicit false

namespace Interconnect

open Text

namespace Builder

/-- A new builder accepts what can be planned. -/
theorem configure_new_eq_ok_iff {o : TreeOptions} {shape : Shape} {totalHosts : Nat}
    {hostNames : List String} {b : Builder} :
    (new o).configure shape totalHosts hostNames = .ok b ↔
      ∃ t, plan o shape totalHosts hostNames = .ok t ∧
        b = { new o with stage := .configured t } :=
  configure_eq_ok_iff.trans (and_iff_right rfl)

theorem configure_new_eq_error_iff {o : TreeOptions} {shape : Shape} {totalHosts : Nat}
    {hostNames : List String} {e : TreeError} :
    (new o).configure shape totalHosts hostNames = .error e ↔
      plan o shape totalHosts hostNames = .error e := by
  simp only [configure, new, bind_eq_error_iff]
  constructor
  · rintro (hplan | ⟨t, -, h⟩)
    · exact hplan
    · cases h
  · exact .inl

/-- The memory is the first host that is refused if all other names are free and new. -/
theorem checkHosts_eq_hostIsMemory {memoryName : String} {layout : Layout}
    {seen names : List String}
    (hblank : isBlankText memoryName = false) (hmem : memoryName ∈ names) (hnodup : names.Nodup)
    (hfree : ∀ name ∈ names, name ≠ memoryName → layout.IsFree memoryName name ∧ name ∉ seen) :
    checkHosts memoryName layout seen names = .error (.hostIsMemory memoryName) := by
  induction names generalizing seen with
  | nil => simp at hmem
  | cons name names ih =>
      rw [List.nodup_cons] at hnodup
      rw [checkHosts]
      by_cases hname : name = memoryName
      · simp [checkHost, hname, hblank, Except.bind]
      · -- the first name passes, so it is one of those that were seen by the others
        rw [checkHost_eq_ok_iff.2 (hfree name List.mem_cons_self hname)]
        refine ih (by simpa [Ne.symm hname] using hmem) hnodup.2 ?_
        intro other hother hne
        obtain ⟨hother', hseen⟩ := hfree other (List.mem_cons_of_mem _ hother) hne
        refine ⟨hother', ?_⟩
        simp only [List.mem_cons, not_or]
        exact ⟨fun he => hnodup.1 (he ▸ hother), hseen⟩

end Builder

namespace Config.Network

variable {n : Network}

/-- A new builder accepts the shape of a network, if it can be read, with the number and the names
of its hosts. -/
def BuilderAccepts (n : Network) : Prop :=
  ∃ shape b, n.parsedShape = .ok shape ∧
    (Builder.new n.treeOptions).configure shape n.totalHosts n.effectiveHostNames = .ok b

/-- A new builder refuses the shape of a network, which can be read, with an error. -/
def BuilderRefuses (n : Network) (e : TreeError) : Prop :=
  ∃ shape, n.parsedShape = .ok shape ∧
    (Builder.new n.treeOptions).configure shape n.totalHosts n.effectiveHostNames = .error e

theorem BuilderRefuses.not_accepts {e : TreeError} (h : n.BuilderRefuses e) :
    ¬ n.BuilderAccepts := by
  rintro ⟨shape, b, hshape, haccepts⟩
  obtain ⟨shape', hshape', hrefuses⟩ := h
  cases hshape.symm.trans hshape'
  cases haccepts.symm.trans hrefuses

/-! ### What the builder accepts -/

/-- **What the builder accepts**: a tree with a name for every host and different names. -/
theorem builderAccepts_iff :
    n.BuilderAccepts ↔ ∃ tree, n.tree? = some tree ∧ n.effectiveHostNames.length = n.totalHosts ∧
      tree.Named n.memoryName := by
  simp only [BuilderAccepts, Builder.configure_new_eq_ok_iff, Builder.plan_eq_ok_iff,
    tree?_eq_some_iff]
  constructor
  · rintro ⟨shape, b, hshape, tree, ⟨rfl, hhosts, hlength, hlayout, hnamed⟩, -⟩
    exact ⟨tree, ⟨hshape, hlayout, hhosts⟩, hlength, hnamed⟩
  · rintro ⟨tree, ⟨hshape, hlayout, hhosts⟩, hlength, hnamed⟩
    exact ⟨tree.shape, _, hshape, tree, ⟨rfl, hhosts, hlength, hlayout, hnamed⟩, rfl⟩

/-- **Validation accepts what the builder accepts**, as far as the builder looks. -/
theorem validate_of_builderAccepts (hname : isBlankText n.name = false)
    (hmemory : isBlankText n.memoryName = false) (h : n.BuilderAccepts) : n.validate = .ok () := by
  obtain ⟨tree, htree, hlength, hnamed⟩ := builderAccepts_iff.1 h
  obtain ⟨-, -, hhosts⟩ := tree?_eq_some_iff.1 htree
  refine validate_eq_ok_iff.2 ⟨hname, hmemory, tree, htree, hnamed.memory_not_router, ?_⟩
  rw [checkHostNames_eq_ok_iff]
  intro names hlisted
  have heffective : n.effectiveHostNames = names := by simp [effectiveHostNames, hlisted]
  rw [heffective] at hhosts hlength
  exact ⟨hlength, hhosts ▸ hnamed.hosts_nodup, hhosts ▸ hnamed.host_free⟩

/-- The builder accepts what validation accepts, unless the memory has a name that is generated. -/
theorem builderAccepts_of_validate (hv : n.validate = .ok ())
    (hm : n.hostNames = none → n.memoryName ∉ n.effectiveHostNames) : n.BuilderAccepts := by
  obtain ⟨-, -, tree, htree, -⟩ := validate_eq_ok_iff.1 hv
  obtain ⟨hlength, hnamed⟩ := named_of_validate hv htree hm
  exact builderAccepts_iff.2 ⟨tree, htree, hlength, hnamed⟩

/-! ### Where they do not agree -/

theorem mem_effectiveHostNames_iff (h : n.hostNames = none) :
    n.memoryName ∈ n.effectiveHostNames ↔ ∃ i < n.totalHosts, n.memoryName = defaultHostName i := by
  simp [effectiveHostNames, h, eq_comm]

/-- **A memory with a generated name is refused**, and for that reason. -/
theorem builderRefuses_of_mem (hmemory : isBlankText n.memoryName = false)
    (hnone : n.hostNames = none) {tree : Tree} (htree : n.tree? = some tree)
    (hrouter : tree.isRouter n.memoryName = false) (hmem : n.memoryName ∈ n.effectiveHostNames) :
    n.BuilderRefuses (.configuration (.hostIsMemory n.memoryName)) := by
  obtain ⟨hshape, hlayout, -⟩ := tree?_eq_some_iff.1 htree
  refine ⟨tree.shape, hshape, Builder.configure_new_eq_error_iff.2 ?_⟩
  -- the layout fits and the number of names is right, so only the names can be at fault
  have hlength := length_effectiveHostNames hnone
  have hnodup : n.effectiveHostNames.Nodup := by
    rw [effectiveHostNames, hnone, Option.getD_none]
    exact nodup_generated _
  have hfree : ∀ name ∈ n.effectiveHostNames, name ≠ n.memoryName →
      tree.layout.IsFree n.memoryName name ∧ name ∉ ([] : List String) := by
    intro name hname hne
    simp only [effectiveHostNames, hnone, Option.getD_none, List.mem_map, List.mem_range] at hname
    obtain ⟨i, -, rfl⟩ := hname
    exact ⟨isFree_defaultHostName tree.layout hne, by simp⟩
  have hcheck := Builder.checkHosts_eq_hostIsMemory hmemory hmem hnodup hfree
  have hrouter : tree.layout.hasRouterNamed n.memoryName = false := hrouter
  simp [Builder.plan, hlayout, treeOptions, hrouter, hlength, hcheck, bind, Except.bind,
    Except.mapError]

/-- **Where validation and the builder agree.**  Names that are listed are accepted by both or by
neither.  If names are left out, everything that the builder accepts is valid, and a valid network
is refused exactly if the memory has one of the names that are generated. -/
theorem validate_iff_builderAccepts (n : Network) (hname : isBlankText n.name = false)
    (hmemory : isBlankText n.memoryName = false) :
    (∀ names, n.hostNames = some names → (n.validate = .ok () ↔ n.BuilderAccepts)) ∧
      (n.hostNames = none → (n.BuilderAccepts → n.validate = .ok ()) ∧
        ∀ e, n.validate = .ok () ∧ n.BuilderRefuses e ↔
          e = .configuration (.hostIsMemory n.memoryName) ∧ ∃ shape layout,
            n.parsedShape = .ok shape ∧ shape.layout n.totalHosts = .ok layout ∧
              (∀ k < layout.totalRouters, n.memoryName ≠ routerName k) ∧
              ∃ i < n.totalHosts, n.memoryName = defaultHostName i) := by
  refine ⟨fun names hlisted => ⟨fun hv => ?_, validate_of_builderAccepts hname hmemory⟩,
    fun hnone => ⟨validate_of_builderAccepts hname hmemory, fun e => ⟨?_, ?_⟩⟩⟩
  · exact builderAccepts_of_validate hv (by simp [hlisted])
  · rintro ⟨hv, hrefuses⟩
    have hmem : n.memoryName ∈ n.effectiveHostNames := by
      by_contra hm
      exact hrefuses.not_accepts (builderAccepts_of_validate hv fun _ => hm)
    obtain ⟨-, -, tree, htree, hrouter, -⟩ := validate_eq_ok_iff.1 hv
    obtain ⟨hshape, hlayout, -⟩ := tree?_eq_some_iff.1 htree
    -- the builder refuses with one error only
    obtain ⟨shape, hshape', hconfigure⟩ := hrefuses
    obtain ⟨shape', hshape'', hconfigure'⟩ := builderRefuses_of_mem hmemory hnone htree hrouter hmem
    cases hshape'.symm.trans hshape''
    cases hconfigure.symm.trans hconfigure'
    exact ⟨rfl, tree.shape, tree.layout, hshape, hlayout,
      Layout.hasRouterNamed_eq_false_iff.1 hrouter, (mem_effectiveHostNames_iff hnone).1 hmem⟩
  · rintro ⟨rfl, shape, layout, hshape, hlayout, hfree, hgenerated⟩
    have hrouter := Layout.hasRouterNamed_eq_false_iff.2 hfree
    have htree : n.tree? = some ⟨shape, layout, n.effectiveHostNames⟩ :=
      tree?_eq_some_iff.2 ⟨hshape, hlayout, rfl⟩
    have hnames : n.checkHostNames layout = .ok () := by simp [checkHostNames, hnone]
    have hmem := (mem_effectiveHostNames_iff hnone).2 hgenerated
    exact ⟨validate_eq_ok_iff.2 ⟨hname, hmemory, _, htree, hrouter, hnames⟩,
      builderRefuses_of_mem hmemory hnone htree hrouter hmem⟩

/-- A network with listed names that both accept, and one whose memory has a generated name. -/
theorem validate_iff_builderAccepts_host_names :
    (let n : Network := { shape := "1x2", totalHosts := 2, hostNames := some ["rtr_9", "b"] }
     isBlankText n.name = false ∧ isBlankText n.memoryName = false ∧
       n.validate = .ok () ∧ n.BuilderAccepts) ∧
    (let n : Network := { shape := "1x2", totalHosts := 2, memoryName := "host1" }
     isBlankText n.name = false ∧ isBlankText n.memoryName = false ∧ n.validate = .ok () ∧
       n.BuilderRefuses (.configuration (.hostIsMemory "host1"))) := by
  constructor
  · intro n
    have hname : isBlankText n.name = false := by decide +kernel
    have hmemory : isBlankText n.memoryName = false := by decide +kernel
    have hv : n.validate = .ok () := by decide +kernel
    exact ⟨hname, hmemory, hv, ((validate_iff_builderAccepts n hname hmemory).1 _ rfl).1 hv⟩
  · intro n
    have hname : isBlankText n.name = false := by decide +kernel
    have hmemory : isBlankText n.memoryName = false := by decide +kernel
    have hshape : n.parsedShape = .ok ⟨[1, 2], by simp, by simp⟩ := by decide +kernel
    have hlayout : Shape.layout ⟨[1, 2], by simp, by simp⟩ n.totalHosts =
        .ok ⟨[2, 1], [0, 2], rfl, rfl⟩ := by decide +kernel
    have hboth := ((validate_iff_builderAccepts n hname hmemory).2 rfl).2 _ |>.2
      ⟨rfl, _, _, hshape, hlayout, by decide +kernel, 1, by decide, by decide +kernel⟩
    exact ⟨hname, hmemory, hboth⟩

end Config.Network

end Interconnect
