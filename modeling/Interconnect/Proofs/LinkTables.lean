/-
**How tables of links grow.**

A table of links is only ever changed by connecting pairs of endpoints.  This module says what that
does: links stay where they are, new links are made for wanted wires only, and as long as numbers
are places and names are unique, they remain so.  It also says why connecting fails: two different
pairs among those that are there and those that are wanted have one link name.

Main definitions:

* `LinkTable.Consistent` — numbers are places, and names are unique;
* `LinkTable.Joins` — the link with a number joins a pair of endpoints;
* `LinkTable.GrowsTo` — what happens to a table when some wires are connected;
* `EndpointPair.Unambiguous` — different pairs have different link names;
* `LinkNameClash.IsAmong` — two different pairs of a list with one link name.

Main results:

* `LinkTable.connectAll_spec` — connecting wires grows the table and joins the ends of every wire;
* `LinkTable.isAmong_of_connectAll` — if connecting fails, two of the pairs have one link name;
* `LinkTable.Consistent.unambiguous` — the pairs of a consistent table are unambiguous.
-/

import Interconnect.Builder
import Interconnect.Proofs.Outcomes
import Mathlib.Data.List.Nodup

set_option autoImplicit false

namespace Interconnect

/-! ### Pairs of endpoints -/

namespace EndpointPair

/-- No two different pairs of a list have the same link name. -/
def Unambiguous (pairs : List EndpointPair) : Prop :=
  ∀ p ∈ pairs, ∀ q ∈ pairs, p.linkName = q.linkName → p = q

instance (pairs : List EndpointPair) : Decidable (Unambiguous pairs) :=
  inferInstanceAs (Decidable (∀ p ∈ pairs, ∀ q ∈ pairs, p.linkName = q.linkName → p = q))

theorem Unambiguous.subset {pairs pairs' : List EndpointPair} (h : Unambiguous pairs)
    (hsub : pairs' ⊆ pairs) : Unambiguous pairs' :=
  fun p hp q hq hn => h p (hsub hp) q (hsub hq) hn

/-- Two pairs are the same if and only if they have the same ends, in either order. -/
theorem of_eq_of_iff {a b c d : String} :
    EndpointPair.of a b = EndpointPair.of c d ↔ a = c ∧ b = d ∨ a = d ∧ b = c := by
  constructor
  · unfold EndpointPair.of
    split <;> split <;> intro h <;> cases h <;> simp
  · rintro (⟨rfl, rfl⟩ | ⟨rfl, rfl⟩)
    · rfl
    · exact of_comm a b

/-- The ends of a pair in canonical order, in one order or the other. -/
theorem first_second_of (a b : String) :
    (EndpointPair.of a b).first = a ∧ (EndpointPair.of a b).second = b ∨
      (EndpointPair.of a b).first = b ∧ (EndpointPair.of a b).second = a := by
  unfold EndpointPair.of
  split
  · exact .inl ⟨rfl, rfl⟩
  · exact .inr ⟨rfl, rfl⟩

theorem contains_of_iff {a b name : String} :
    (EndpointPair.of a b).contains name ↔ a = name ∨ b = name := by
  unfold contains
  rw [Bool.or_eq_true, beq_iff_eq, beq_iff_eq]
  rcases first_second_of a b with ⟨h₁, h₂⟩ | ⟨h₁, h₂⟩
  · rw [h₁, h₂]
  · rw [h₁, h₂, or_comm]

theorem contains_of_right (a b : String) : (EndpointPair.of a b).contains b :=
  contains_of_iff.2 (.inr rfl)

end EndpointPair

/-- A clash is between two different pairs of a list, which have one link name. -/
structure LinkNameClash.IsAmong (c : LinkNameClash) (pairs : List EndpointPair) : Prop where
  wanted_mem : c.wanted ∈ pairs
  holder_mem : c.holder ∈ pairs
  ne : c.wanted ≠ c.holder
  linkName_eq : c.wanted.linkName = c.holder.linkName

theorem LinkNameClash.IsAmong.not_unambiguous {c : LinkNameClash} {pairs : List EndpointPair}
    (h : c.IsAmong pairs) : ¬ EndpointPair.Unambiguous pairs :=
  fun hu => h.ne (hu _ h.wanted_mem _ h.holder_mem h.linkName_eq)

namespace LinkTable

open EndpointPair

/-! ### Consistent tables -/

/-- The numbers of the links are their places, the links are named after their endpoints, and no two
links have the same name. -/
structure Consistent (t : LinkTable) : Prop where
  ids_eq : t.links.map Link.id = List.range t.links.length
  name_eq : ∀ l ∈ t.links, l.name = l.endpoints.linkName
  names_nodup : (t.links.map Link.name).Nodup

/-- The link with a number joins a pair of endpoints. -/
def Joins (t : LinkTable) (id : Nat) (pair : EndpointPair) : Prop :=
  ∃ l, t.get? id = some l ∧ l.endpoints = pair

theorem consistent_empty : LinkTable.empty.Consistent := ⟨rfl, nofun, List.nodup_nil⟩

namespace Consistent

variable {t : LinkTable}

theorem id_eq (hc : t.Consistent) {id : Nat} {l : Link} (h : t.get? id = some l) : l.id = id := by
  obtain ⟨hlt, hl⟩ := List.getElem?_eq_some_iff.1 h
  have hid : (t.links.map Link.id)[id]? = (List.range t.links.length)[id]? := by rw [hc.ids_eq]
  rw [List.getElem?_map, List.getElem?_range hlt] at hid
  rw [show t.links[id]? = some l from h] at hid
  exact Option.some_inj.1 hid

theorem get?_id (hc : t.Consistent) {l : Link} (h : l ∈ t.links) : t.get? l.id = some l := by
  obtain ⟨i, hi⟩ := List.mem_iff_getElem?.1 h
  rwa [hc.id_eq (show t.get? i = some l from hi)]

/-- Links with the same name are the same link. -/
theorem eq_of_name_eq (hc : t.Consistent) {l l' : Link} (h : l ∈ t.links) (h' : l' ∈ t.links)
    (hn : l.name = l'.name) : l = l' :=
  List.inj_on_of_nodup_map hc.names_nodup h h' hn

theorem eq_of_linkName_eq (hc : t.Consistent) {l l' : Link} (h : l ∈ t.links) (h' : l' ∈ t.links)
    (hn : l.endpoints.linkName = l'.endpoints.linkName) : l = l' :=
  hc.eq_of_name_eq h h' (by rw [hc.name_eq l h, hc.name_eq l' h', hn])

/-- **The pairs of a consistent table are unambiguous.** -/
theorem unambiguous (hc : t.Consistent) : Unambiguous (t.links.map Link.endpoints) := by
  intro p hp q hq hn
  obtain ⟨l, hl, rfl⟩ := List.mem_map.1 hp
  obtain ⟨l', hl', rfl⟩ := List.mem_map.1 hq
  rw [hc.eq_of_linkName_eq hl hl' hn]

theorem endpoints_nodup (hc : t.Consistent) : (t.links.map Link.endpoints).Nodup := by
  have hnames : (t.links.map Link.endpoints).map EndpointPair.linkName = t.links.map Link.name := by
    rw [List.map_map]
    exact (List.map_congr_left hc.name_eq).symm
  exact List.Nodup.of_map EndpointPair.linkName (hnames ▸ hc.names_nodup)

/-- A link is found by its pair. -/
theorem find?_endpoints (hc : t.Consistent) {l : Link} (h : l ∈ t.links) :
    t.find? l.endpoints = some l := by
  unfold find?
  cases hf : t.links.find? fun l' => l'.endpoints == l.endpoints with
  | none => exact absurd (List.find?_eq_none.1 hf l h) (by simp)
  | some l' =>
      have hends : l'.endpoints = l.endpoints := by simpa using List.find?_some hf
      have hmem := List.mem_of_find?_eq_some hf
      rw [hc.eq_of_linkName_eq hmem h (congrArg EndpointPair.linkName hends)]

/-- A pair of endpoints has one link. -/
theorem joins_inj (hc : t.Consistent) {id id' : Nat} {pair : EndpointPair} (h : t.Joins id pair)
    (h' : t.Joins id' pair) : id = id' := by
  obtain ⟨l, hl, rfl⟩ := h
  obtain ⟨l', hl', he⟩ := h'
  have hsame : l = l' := hc.eq_of_linkName_eq (List.mem_of_getElem? hl) (List.mem_of_getElem? hl')
    (congrArg EndpointPair.linkName he.symm)
  rw [← hc.id_eq hl, ← hc.id_eq hl', hsame]

end Consistent

/-- A link joins one pair of endpoints. -/
theorem Joins.pair_eq {t : LinkTable} {id : Nat} {p q : EndpointPair} (h : t.Joins id p)
    (h' : t.Joins id q) : p = q := by
  obtain ⟨l, hl, rfl⟩ := h
  obtain ⟨l', hl', rfl⟩ := h'
  rw [hl] at hl'
  rw [Option.some_inj.1 hl']

/-! ### Growing -/

/-- A table grows into another one when some wires are connected: its links keep their places, new
links are made for these wires, and consistency is kept. -/
structure GrowsTo (wanted : Wire → Prop) (t t' : LinkTable) : Prop where
  kept : t.links <+: t'.links
  made : ∀ l ∈ t'.links, l ∈ t.links ∨ wanted ⟨l.endpoints, l.latency⟩
  consistent : t.Consistent → t'.Consistent

namespace GrowsTo

variable {wanted wanted' : Wire → Prop} {t t' t'' : LinkTable}

theorem refl (wanted : Wire → Prop) (t : LinkTable) : GrowsTo wanted t t :=
  ⟨List.prefix_rfl, fun _ h => .inl h, id⟩

theorem trans (h : GrowsTo wanted t t') (h' : GrowsTo wanted t' t'') : GrowsTo wanted t t'' where
  kept := h.kept.trans h'.kept
  made := fun l hl => (h'.made l hl).elim (h.made l) .inr
  consistent := fun hc => h'.consistent (h.consistent hc)

theorem mono (h : GrowsTo wanted t t') (himp : ∀ w, wanted w → wanted' w) : GrowsTo wanted' t t' :=
  ⟨h.kept, fun l hl => (h.made l hl).imp_right (himp _), h.consistent⟩

theorem get?_eq (h : GrowsTo wanted t t') {id : Nat} {l : Link} (hl : t.get? id = some l) :
    t'.get? id = some l := by
  obtain ⟨rest, hrest⟩ := h.kept
  unfold get? at *
  rw [← hrest, List.getElem?_append_left (List.getElem?_eq_some_iff.1 hl).1, hl]

/-- Links go on joining what they join. -/
theorem joins (h : GrowsTo wanted t t') {id : Nat} {pair : EndpointPair} (hj : t.Joins id pair) :
    t'.Joins id pair := by
  obtain ⟨l, hl, he⟩ := hj
  exact ⟨l, h.get?_eq hl, he⟩

/-- If the pairs of a table and those of the wires are on a list, so are the pairs afterwards. -/
theorem endpoints_subset (h : GrowsTo wanted t t') {pairs : List EndpointPair}
    (ht : ∀ l ∈ t.links, l.endpoints ∈ pairs) (hw : ∀ w, wanted w → w.ends ∈ pairs) :
    ∀ l ∈ t'.links, l.endpoints ∈ pairs := by
  intro l hl
  rcases h.made l hl with hold | hnew
  · exact ht l hold
  · exact hw _ hnew

end GrowsTo

/-! ### Connecting one pair -/

theorem push_growsTo {t : LinkTable} {pair : EndpointPair} (latency : Latency)
    (h : t.named? pair.linkName = none) :
    GrowsTo (· = ⟨pair, latency⟩) t (t.push pair latency) where
  kept := List.prefix_append _ _
  made := by
    intro l hl
    rcases List.mem_append.1 hl with hold | hnew
    · exact .inl hold
    · rw [List.mem_singleton] at hnew
      subst hnew
      exact .inr rfl
  consistent := by
    intro hc
    -- the new link has the next number, and a name that no link had
    have hfresh : ∀ l ∈ t.links, l.name ≠ pair.linkName := by
      simpa [named?] using h
    constructor
    · simp only [push, List.map_append, List.length_append, List.map_singleton,
        List.length_singleton, List.range_succ, hc.ids_eq]
    · intro l hl
      rcases List.mem_append.1 hl with hold | hnew
      · exact hc.name_eq l hold
      · rw [List.mem_singleton.1 hnew]
    · simp only [push, List.map_append, List.map_singleton]
      rw [List.nodup_append]
      refine ⟨hc.names_nodup, List.nodup_singleton _, ?_⟩
      intro name hname other hother heq
      obtain ⟨l, hl, rfl⟩ := List.mem_map.1 hname
      rw [List.mem_singleton] at hother
      exact hfresh l hl (heq.trans hother)

/-- **Connecting a pair** grows the table for it, and the number that comes back joins it. -/
theorem connect_spec {t t' : LinkTable} {pair : EndpointPair} {latency : Latency} {id : Nat}
    (hc : t.Consistent) (h : t.connect pair latency = .ok (id, t')) :
    GrowsTo (· = ⟨pair, latency⟩) t t' ∧ t'.Joins id pair := by
  unfold connect at h
  split at h
  · rename_i l hl
    cases h
    refine ⟨.refl _ _, l, hc.get?_id (List.mem_of_find?_eq_some hl), ?_⟩
    simpa using List.find?_some hl
  · split at h
    · cases h
    · rename_i hname
      cases h
      exact ⟨push_growsTo latency hname, _, List.getElem?_concat_length, rfl⟩

/-- Connecting fails if another pair of the table has the link name. -/
theorem isAmong_of_connect {t : LinkTable} {pair : EndpointPair} {pairs : List EndpointPair}
    {latency : Latency} {clash : LinkNameClash} (hc : t.Consistent)
    (ht : ∀ l ∈ t.links, l.endpoints ∈ pairs) (hp : pair ∈ pairs)
    (h : t.connect pair latency = .error clash) : clash.IsAmong pairs := by
  unfold connect at h
  split at h
  · cases h
  · rename_i hfind
    split at h
    · rename_i l hl
      cases h
      -- the link that has the name is not the link of the pair, which was not found
      have hmem := List.mem_of_find?_eq_some hl
      have hname : l.name = pair.linkName := by simpa using List.find?_some hl
      have hnone : ∀ l ∈ t.links, l.endpoints ≠ pair := by simpa [find?] using hfind
      rw [hc.name_eq l hmem] at hname
      exact ⟨hp, ht l hmem, (hnone l hmem).symm, hname.symm⟩
    · cases h

/-! ### Connecting wires -/

/-- **Connecting wires** grows the table for them, and the numbers that come back join their
ends. -/
theorem connectAll_spec {t t' : LinkTable} {ws : List Wire} {ids : List Nat} (hc : t.Consistent)
    (h : t.connectAll ws = .ok (ids, t')) :
    GrowsTo (· ∈ ws) t t' ∧ List.Forall₂ (fun id w => t'.Joins id w.ends) ids ws := by
  induction ws generalizing t ids with
  | nil =>
      cases h
      exact ⟨.refl _ _, .nil⟩
  | cons w ws ih =>
      rw [connectAll] at h
      obtain ⟨⟨id, t₁⟩, hfirst, h⟩ := bind_eq_ok_iff.1 h
      obtain ⟨⟨rest, t₂⟩, hrest, h⟩ := bind_eq_ok_iff.1 h
      cases h
      obtain ⟨hgrow, hjoin⟩ := connect_spec hc hfirst
      obtain ⟨hgrow', hjoins⟩ := ih (hgrow.consistent hc) hrest
      refine ⟨(hgrow.mono ?_).trans (hgrow'.mono fun v hv => List.mem_cons_of_mem _ hv),
        .cons (hgrow'.joins hjoin) hjoins⟩
      rintro v rfl
      exact List.mem_cons_self

/-- **Connecting wires fails** only if two of the pairs have one link name. -/
theorem isAmong_of_connectAll {t : LinkTable} {ws : List Wire} {pairs : List EndpointPair}
    {clash : LinkNameClash} (hc : t.Consistent) (ht : ∀ l ∈ t.links, l.endpoints ∈ pairs)
    (hw : ∀ w ∈ ws, w.ends ∈ pairs) (h : t.connectAll ws = .error clash) :
    clash.IsAmong pairs := by
  induction ws generalizing t with
  | nil => cases h
  | cons w ws ih =>
      obtain ⟨hends, hw⟩ := List.forall_mem_cons.1 hw
      rw [connectAll] at h
      rcases bind_eq_error_iff.1 h with hfirst | ⟨⟨id, t₁⟩, hfirst, h⟩
      · exact isAmong_of_connect hc ht hends hfirst
      · obtain ⟨hgrow, -⟩ := connect_spec hc hfirst
        have ht₁ : ∀ l ∈ t₁.links, l.endpoints ∈ pairs :=
          hgrow.endpoints_subset ht fun v hv => by
            rw [hv]
            exact hends
        rcases bind_eq_error_iff.1 h with hrest | ⟨_, -, h⟩
        · exact ih (hgrow.consistent hc) ht₁ hw hrest
        · cases h

end LinkTable

end Interconnect
