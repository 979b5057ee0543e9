/-
**Names of hosts without underscores.**

The name of a link joins the names of its ends with an underscore, so two different pairs can have
one link name only if underscores in the names of their ends make up for each other.  In a tree
whose hosts have names without underscores they cannot: the name of a router has one, the name of
the memory may have any number, and only one edge leads to the memory.  So such a tree can be built
whenever it is configured, provided that no other links were asked for.

Main definitions:

* `Text.underscores` — the number of underscores in a name.

Main results:

* `EndpointPair.eq_of_linkName_eq` — pairs with one link name are the same if their first names have
  equally many underscores;
* `Tree.WellFormed.unambiguous_edges` — the edges have different link names if no host has an
  underscore in its name;
* `Builder.exists_build_of_configure` — such a tree is built.
-/

import Interconnect.Proofs.BuilderLinks
import Interconnect.Proofs.Clashes
import Interconnect.Proofs.Digits
import Interconnect.Proofs.Validation

set_option autoImplicit false

namespace Interconnect

open Text EndpointPair

/-! ### Underscores -/

namespace Text

/-- The number of underscores in a name. -/
def underscores (name : String) : Nat := name.toList.count '_'

theorem underscores_eq_zero_iff {name : String} : underscores name = 0 ↔ '_' ∉ name.toList :=
  List.count_eq_zero

theorem underscores_append (a b : String) :
    underscores (a ++ b) = underscores a + underscores b := by
  rw [underscores, String.toList_append, List.count_append]
  rfl

/-- A text can be split in one way at a separator that has a given number of others before it. -/
theorem append_cons_inj {sep : Char} {front back front' back' : List Char}
    (hc : front.count sep = front'.count sep) (h : front ++ sep :: back = front' ++ sep :: back') :
    front = front' ∧ back = back' := by
  induction front generalizing front' with
  | nil =>
      cases front' with
      | nil => exact ⟨rfl, List.tail_eq_of_cons_eq h⟩
      | cons c' cs' =>
          rw [← List.head_eq_of_cons_eq h, List.count_cons_self] at hc
          cases hc
  | cons c cs ih =>
      cases front' with
      | nil =>
          rw [List.head_eq_of_cons_eq h, List.count_cons_self] at hc
          cases hc
      | cons c' cs' =>
          obtain rfl := List.head_eq_of_cons_eq h
          rw [List.count_cons, List.count_cons, Nat.add_right_cancel_iff] at hc
          obtain ⟨rfl, rfl⟩ := ih hc (List.tail_eq_of_cons_eq h)
          exact ⟨rfl, rfl⟩

end Text

/-- There is no underscore in the decimal form of a number. -/
theorem underscore_not_mem_toString (n : Nat) : '_' ∉ (toString n).toList := by
  intro h
  exact absurd ((Digits.ofNat n).isDigit_of_mem '_' h) (by decide)

theorem underscores_routerName (id : Nat) : underscores (routerName id) = 1 := by
  have hdigits := List.count_eq_zero.2 (underscore_not_mem_toString id)
  rw [underscores, toList_routerName, List.count_cons, List.count_cons, List.count_cons,
    List.count_cons, hdigits]
  rfl

/-- There is no underscore in the name that is generated for a host. -/
theorem Config.Network.underscores_defaultHostName (i : Nat) :
    underscores (defaultHostName i) = 0 := by
  rw [underscores_eq_zero_iff, toList_defaultHostName]
  simp only [List.mem_cons, not_or]
  exact ⟨by decide, by decide, by decide, by decide, underscore_not_mem_toString i⟩

/-! ### Pairs with one link name -/

namespace EndpointPair

theorem toList_linkName (p : EndpointPair) :
    p.linkName.toList = "link_".toList ++ (p.first.toList ++ '_' :: p.second.toList) := by
  simp [linkName]

theorem underscores_linkName (p : EndpointPair) :
    underscores p.linkName = underscores p.first + underscores p.second + 2 := by
  have hfront : underscores "link_" = 1 := by decide
  have hmiddle : underscores "_" = 1 := by decide
  rw [linkName, underscores_append, underscores_append, underscores_append, hfront, hmiddle]
  omega

theorem underscores_linkName_of (a b : String) :
    underscores (EndpointPair.of a b).linkName = underscores a + underscores b + 2 := by
  rw [underscores_linkName]
  rcases first_second_of a b with ⟨h₁, h₂⟩ | ⟨h₁, h₂⟩
  · rw [h₁, h₂]
  · rw [h₁, h₂, Nat.add_comm (underscores b)]

/-- A router and another name with one underscore have one whichever comes first. -/
theorem underscores_first_of_router (id : Nat) {name : String} (h : underscores name = 1) :
    underscores (EndpointPair.of (routerName id) name).first = 1 := by
  rcases first_second_of (routerName id) name with ⟨h₁, -⟩ | ⟨h₁, -⟩
  · rw [h₁, underscores_routerName]
  · rw [h₁, h]

/-- **Pairs with one link name are the same** if their first names have equally many underscores. -/
theorem eq_of_linkName_eq {p q : EndpointPair} (h : p.linkName = q.linkName)
    (hc : underscores p.first = underscores q.first) : p = q := by
  have hchars := congrArg String.toList h
  rw [toList_linkName, toList_linkName, List.append_cancel_left_eq] at hchars
  obtain ⟨hfirst, hsecond⟩ := append_cons_inj hc hchars
  rw [String.toList_inj] at hfirst hsecond
  cases p
  cases q
  exact congrArg₂ EndpointPair.mk hfirst hsecond

/-- If a router comes first in one pair and another name does in a pair with the same link name,
that name has an underscore: else it would be `rtr`, with the number behind it. -/
theorem underscores_first_ne_zero {p q : EndpointPair} {id id' : Nat}
    (h : p.linkName = q.linkName) (hp : p.first = routerName id) (hq : q.second = routerName id') :
    underscores q.first ≠ 0 := by
  intro hzero
  have hchars := congrArg String.toList h
  rw [toList_linkName, toList_linkName, List.append_cancel_left_eq, hp, hq, toList_routerName,
    toList_routerName] at hchars
  have hfront : ['r', 't', 'r'].count '_' = q.first.toList.count '_' := hzero.symm
  obtain ⟨-, hrest⟩ := append_cons_inj hfront hchars
  -- the number of the first router would begin with the name of the second one
  cases hdigits : (toString id).toList with
  | nil => exact (Digits.ofNat id).chars_ne_nil hdigits
  | cons c cs =>
      have hc : c ∈ (Digits.ofNat id).chars := by
        rw [Digits.chars_ofNat, hdigits]
        exact List.mem_cons_self
      have hdigit := (Digits.ofNat id).isDigit_of_mem c hc
      rw [hdigits] at hrest
      rw [List.head_eq_of_cons_eq hrest] at hdigit
      cases hdigit

/-- Different pairs of an unambiguous list have different link names. -/
theorem Unambiguous.nodup_linkNames {pairs : List EndpointPair} (h : Unambiguous pairs)
    (hnodup : pairs.Nodup) : (pairs.map linkName).Nodup :=
  hnodup.map_on fun p hp q hq hname => h p hp q hq hname

end EndpointPair

/-! ### The edges of a tree -/

namespace Tree

variable {t : Tree} {memoryName : String}

/-- An edge joins a router with something that is above or below it, the memory with the root. -/
theorem WellFormed.exists_of_mem_edges (hw : t.WellFormed) {pair : EndpointPair}
    (h : pair ∈ t.edges memoryName) :
    ∃ id c, t.Has c ∧ (c = .memory → id = t.layout.rootId) ∧
      pair = .of (routerName id) (t.nameOf memoryName c) := by
  rcases List.mem_append.1 h with h | h
  · obtain ⟨host, hhost, rfl⟩ := List.mem_map.1 h
    exact ⟨_, .host host, List.mem_range.1 hhost, nofun, of_comm _ _⟩
  · obtain ⟨⟨level, index⟩, hp, rfl⟩ := List.mem_map.1 h
    obtain ⟨hlevel, hindex⟩ := mem_positions.1 hp
    refine ⟨_, _, hw.has_above hindex, fun hmemory => ?_, rfl⟩
    rw [hw.idAt_eq_rootId_iff hindex]
    by_contra hnot
    rw [above_of_lt (by omega)] at hmemory
    cases hmemory

/-- Only the memory has a name with more than one underscore. -/
theorem eq_memory_of_one_lt_underscores (hplain : ∀ name ∈ t.hostNames, '_' ∉ name.toList)
    {c : Component} (hc : t.Has c) (h : 1 < underscores (t.nameOf memoryName c)) : c = .memory := by
  cases c with
  | host id =>
      rw [nameOf_host hc, underscores_eq_zero_iff.2 (hplain _ (List.getElem_mem hc))] at h
      cases h
  | router id =>
      rw [nameOf_router, underscores_routerName] at h
      exact absurd h (Nat.lt_irrefl 1)
  | memory => rfl

/-- **The edges have different link names** if no host has an underscore in its name. -/
theorem WellFormed.unambiguous_edges (hw : t.WellFormed)
    (hplain : ∀ name ∈ t.hostNames, '_' ∉ name.toList) : Unambiguous (t.edges memoryName) := by
  intro p hp q hq hname
  obtain ⟨id, c, hc, hroot, rfl⟩ := hw.exists_of_mem_edges hp
  obtain ⟨id', c', hc', hroot', rfl⟩ := hw.exists_of_mem_edges hq
  -- both edges join a router with something, so the other ends have equally many underscores
  have hcount : underscores (t.nameOf memoryName c) = underscores (t.nameOf memoryName c') := by
    have h := congrArg underscores hname
    rw [underscores_linkName_of, underscores_linkName_of, underscores_routerName,
      underscores_routerName] at h
    omega
  rcases Nat.lt_trichotomy (underscores (t.nameOf memoryName c')) 1 with hlt | hone | hmany
  · -- the ends without an underscore cannot be on different sides
    have hzero := Nat.lt_one_iff.1 hlt
    rcases first_second_of (routerName id) (t.nameOf memoryName c) with ⟨h₁, h₂⟩ | ⟨h₁, h₂⟩ <;>
      rcases first_second_of (routerName id') (t.nameOf memoryName c') with ⟨h₁', h₂'⟩ | ⟨h₁', h₂'⟩
    · exact eq_of_linkName_eq hname
        (by rw [h₁, h₁', underscores_routerName, underscores_routerName])
    · exact absurd (by rw [h₁', hzero]) (underscores_first_ne_zero hname h₁ h₂')
    · exact absurd (by rw [h₁, hcount, hzero]) (underscores_first_ne_zero hname.symm h₁' h₂)
    · exact eq_of_linkName_eq hname (by rw [h₁, h₁', hcount])
  · -- all four ends have one underscore
    have hfirst := underscores_first_of_router id (hcount.trans hone)
    have hfirst' := underscores_first_of_router id' hone
    exact eq_of_linkName_eq hname (hfirst.trans hfirst'.symm)
  · -- both are the edge of the root
    have hmemory := eq_memory_of_one_lt_underscores hplain hc (by rwa [hcount])
    have hmemory' := eq_memory_of_one_lt_underscores hplain hc' hmany
    rw [hroot hmemory, hroot' hmemory', hmemory, hmemory']

end Tree

/-! ### Building without other links -/

namespace Builder

variable {o : TreeOptions} {calls : List Call} {shape : Shape} {totalHosts : Nat}
  {hostNames : List String} {b : Builder}

/-- A builder that was configured just now has no links: the memory was the only endpoint. -/
theorem pairs_of_configure (h : ((new o).run calls).configure shape totalHosts hostNames = .ok b)
    (t : Tree) : b.pairs t = t.edges o.memoryName := by
  obtain ⟨hstage, t', -, rfl⟩ := configure_eq_ok_iff.1 h
  have hnil := (registered_run o calls).unconfigured (by rw [tree?, hstage])
  rw [pairs, hnil, options_run]
  rfl

/-- **What is configured is built**, if the names of the hosts are the generated ones or have no
underscore, and no links were asked for in between: all edges of the tree have different link
names. -/
theorem exists_build_of_configure
    (h : ((new o).run calls).configure shape totalHosts hostNames = .ok b)
    (hnames : hostNames = (List.range totalHosts).map Config.Network.defaultHostName ∨
      ∀ name ∈ hostNames, '_' ∉ name.toList) :
    ∃ t, b.stage = .configured t ∧ t.shape = shape ∧ t.hostNames = hostNames ∧
      (∃ topology b', b.build = .ok (topology, b')) ∧
      ((t.edges o.memoryName).map EndpointPair.linkName).Nodup ∧
      (t.edges o.memoryName).length = totalHosts + t.layout.totalRouters := by
  obtain ⟨-, t, hplan, hb⟩ := configure_eq_ok_iff.1 h
  have hstage : b.stage = .configured t := by rw [hb]
  have hsound : b.Sound := (sound_run o calls).step (step_of_configure h)
  rw [options_run] at hplan
  obtain ⟨rfl, rfl, rfl, hlayout, hnamed⟩ := plan_eq_ok_iff.1 hplan
  have hplain : ∀ name ∈ t.hostNames, '_' ∉ name.toList := by
    rcases hnames with hgenerated | hplain
    · intro name hname
      rw [hgenerated] at hname
      obtain ⟨i, -, rfl⟩ := List.mem_map.1 hname
      exact underscores_eq_zero_iff.1 (Config.Network.underscores_defaultHostName i)
    · exact hplain
  have hw : t.WellFormed := ⟨Shape.balanced_of_layout hlayout⟩
  have hunambiguous : Unambiguous (t.edges o.memoryName) := hw.unambiguous_edges hplain
  refine ⟨t, hstage, rfl, rfl, ?_, hunambiguous.nodup_linkNames (hw.edges_nodup hnamed), ?_⟩
  · rw [← pairs_of_configure h] at hunambiguous
    exact hsound.exists_build hstage hunambiguous
  · rw [Tree.length_edges, hw.length_positions]

/-- A memory whose name looks like that of a router, and eleven routers. -/
theorem exists_build_of_configure_underscores :
    ∃ b t, ((new { memoryName := "rtr_3_x" }).run []).configure
        ⟨[1, 10], by decide, by decide⟩ 10 ["a", "b", "c", "d", "e", "f", "g", "h", "i", "rtr"] =
          .ok b ∧
      (∀ name ∈ ["a", "b", "c", "d", "e", "f", "g", "h", "i", "rtr"], '_' ∉ name.toList) ∧
      b.stage = .configured t ∧ (∃ topology b', b.build = .ok (topology, b')) ∧
      ((t.edges "rtr_3_x").map EndpointPair.linkName).Nodup := by
  have hnames : ∀ name ∈ ["a", "b", "c", "d", "e", "f", "g", "h", "i", "rtr"],
      '_' ∉ name.toList := by decide
  obtain ⟨b, h⟩ := exists_ok_of_isSome
    (x := ((new { memoryName := "rtr_3_x" }).run []).configure ⟨[1, 10], by decide, by decide⟩ 10
      ["a", "b", "c", "d", "e", "f", "g", "h", "i", "rtr"]) (by decide +kernel)
  obtain ⟨t, hstage, -, -, hok, hnodup, -⟩ := exists_build_of_configure h (.inr hnames)
  exact ⟨b, t, h, hnames, hstage, hok, hnodup⟩

end Builder

end Interconnect
