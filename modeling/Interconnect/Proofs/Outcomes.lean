/-
**Outcomes of calls.**

Every call of the library returns an error or an answer, and calls are made one after the other:
the first error ends the sequence.  A sequence that gives an answer is taken apart here into its
calls, so that no proof has to look at the cases of an intermediate outcome.

Main results:

* `bind_eq_ok_iff` — a sequence of two calls gives an answer if both do;
* `mapError_eq_ok_iff`, `mapError_eq_error_iff` — the same outcome with another type of errors;
* `mapM_eq_ok_iff` — a call for every element of a list;
* `checkEach_eq_ok_iff` — checks of elements against those before them;
* `getElem?_of_eachFrom`, `exists_eachFrom_eq_ok` — a call for every element and its number;
* `exists_getElem?_of_forall₂`, `forall₂_of_common`, `forall₂_filterMap` — lists that are related
  element by element.
-/

import Mathlib.Data.List.Forall2

set_option autoImplicit false

namespace Interconnect

variable {ε ε' α β γ : Type}

theorem bind_eq_ok_iff {x : Except ε α} {f : α → Except ε β} {b : β} :
    (x >>= f) = .ok b ↔ ∃ a, x = .ok a ∧ f a = .ok b := by
  cases x with
  | error e => simp [bind, Except.bind]
  | ok a => simp [bind, Except.bind]

theorem bind_eq_error_iff {x : Except ε α} {f : α → Except ε β} {e : ε} :
    (x >>= f) = .error e ↔ x = .error e ∨ ∃ a, x = .ok a ∧ f a = .error e := by
  cases x with
  | error e' => simp [bind, Except.bind]
  | ok a => simp [bind, Except.bind]

/-- A check in front of a call. -/
theorem ite_error_eq_ok_iff {c : Prop} [Decidable c] {e : ε} {x : Except ε α} {a : α} :
    (if c then .error e else x) = .ok a ↔ ¬ c ∧ x = .ok a := by
  by_cases h : c <;> simp [h]

theorem map_eq_ok_iff {x : Except ε α} {f : α → β} {b : β} :
    x.map f = .ok b ↔ ∃ a, x = .ok a ∧ f a = b := by
  cases x <;> simp [Except.map]

theorem mapError_eq_ok_iff {x : Except ε α} {f : ε → ε'} {a : α} :
    x.mapError f = .ok a ↔ x = .ok a := by
  cases x <;> simp [Except.mapError]

theorem mapError_eq_error_iff {x : Except ε α} {f : ε → ε'} {e' : ε'} :
    x.mapError f = .error e' ↔ ∃ e, x = .error e ∧ f e = e' := by
  cases x <;> simp [Except.mapError]

theorem mapM_eq_ok_iff {f : α → Except ε β} {xs : List α} {ys : List β} :
    xs.mapM f = .ok ys ↔ List.Forall₂ (fun x y => f x = .ok y) xs ys := by
  induction xs generalizing ys with
  | nil => cases ys <;> simp [pure, Except.pure]
  | cons x xs ih =>
      simp only [List.mapM_cons, bind_eq_ok_iff, ih, List.forall₂_cons_left_iff]
      constructor
      · rintro ⟨y, hy, rest, hrest, hpure⟩
        cases hpure
        exact ⟨y, rest, hy, hrest, rfl⟩
      · rintro ⟨y, rest, hy, hrest, rfl⟩
        exact ⟨y, hy, rest, hrest, rfl⟩

theorem toOption_eq_some_iff {x : Except ε α} {a : α} : x.toOption = some a ↔ x = .ok a := by
  cases x <;> simp [Except.toOption]

theorem exists_ok_of_isSome {x : Except ε α} (h : x.toOption.isSome) : ∃ a, x = .ok a := by
  obtain ⟨a, ha⟩ := Option.isSome_iff_exists.1 h
  exact ⟨a, toOption_eq_some_iff.1 ha⟩

/-- A call whose answer passes a check has an answer. -/
theorem exists_ok_of_any {x : Except ε α} {p : α → Bool} (h : x.toOption.any p = true) :
    ∃ a, x = .ok a ∧ p a = true := by
  cases x with
  | error e => cases h
  | ok a => exact ⟨a, rfl, h⟩

theorem exists_mapM_eq_ok {f : α → Except ε β} {xs : List α} (h : ∀ x ∈ xs, ∃ y, f x = .ok y) :
    ∃ ys, xs.mapM f = .ok ys := by
  induction xs with
  | nil => exact ⟨[], rfl⟩
  | cons x xs ih =>
      obtain ⟨y, hy⟩ := h x List.mem_cons_self
      obtain ⟨ys, hys⟩ := ih fun x' hx' => h x' (List.mem_cons_of_mem _ hx')
      rw [List.mapM_cons]
      exact ⟨y :: ys, bind_eq_ok_iff.2 ⟨y, hy, bind_eq_ok_iff.2 ⟨ys, hys, rfl⟩⟩⟩

/-- A list on which every call succeeds gives the list of the answers. -/
theorem mapM_eq_ok_map {f : α → Except ε β} {g : α → β} {xs : List α}
    (h : ∀ x ∈ xs, f x = .ok (g x)) : xs.mapM f = .ok (xs.map g) := by
  rw [mapM_eq_ok_iff, List.forall₂_map_right_iff, List.forall₂_same]
  exact h

/-- **Checks against the elements before.**  Elements that are checked one after the other, each of
them for a property and for not having been seen, pass if they have the property, are different and
are new. -/
theorem checkEach_eq_ok_iff {check : List α → α → Except ε Unit}
    {checkAll : List α → List α → Except ε Unit} {p : α → Prop}
    (hnil : ∀ seen, checkAll seen [] = .ok ())
    (hcons : ∀ seen x xs,
      checkAll seen (x :: xs) = (check seen x).bind fun _ => checkAll (x :: seen) xs)
    (hcheck : ∀ seen x, check seen x = .ok () ↔ p x ∧ x ∉ seen) {seen xs : List α} :
    checkAll seen xs = .ok () ↔ xs.Nodup ∧ ∀ x ∈ xs, p x ∧ x ∉ seen := by
  induction xs generalizing seen with
  | nil => simp [hnil]
  | cons x xs ih =>
      have hfirst : checkAll seen (x :: xs) = .ok () ↔
          check seen x = .ok () ∧ checkAll (x :: seen) xs = .ok () := by
        rw [hcons]
        cases check seen x <;> simp [Except.bind]
      rw [hfirst, ih, hcheck]
      simp only [List.mem_cons, not_or, List.nodup_cons, forall_eq_or_imp]
      constructor
      · rintro ⟨hx, hnodup, hxs⟩
        exact ⟨⟨fun hmem => (hxs x hmem).2.1 rfl, hnodup⟩, hx,
          fun y hy => ⟨(hxs y hy).1, (hxs y hy).2.2⟩⟩
      · rintro ⟨⟨hfresh, hnodup⟩, hx, hxs⟩
        refine ⟨hx, hnodup, fun y hy => ⟨(hxs y hy).1, ?_, (hxs y hy).2⟩⟩
        rintro rfl
        exact hfresh hy

/-! ### Calls that count

`g` calls `f` for the elements of a list, one after the other, and counts them. -/

section

variable {f : Nat → α → Except ε β} {g : Nat → List α → Except ε (List β)}

/-- The answers of calls that count are those of every element and its number. -/
theorem getElem?_of_eachFrom (hnil : ∀ n, g n [] = .ok [])
    (hcons : ∀ n x xs, g n (x :: xs) =
      f n x >>= fun y => g (n + 1) xs >>= fun ys => .ok (y :: ys))
    {n : Nat} {xs : List α} {ys : List β} (h : g n xs = .ok ys) :
    ys.length = xs.length ∧
      ∀ i x, xs[i]? = some x → ∃ y, ys[i]? = some y ∧ f (n + i) x = .ok y := by
  induction xs generalizing n ys with
  | nil =>
      rw [hnil] at h
      cases h
      exact ⟨rfl, nofun⟩
  | cons x xs ih =>
      rw [hcons] at h
      obtain ⟨y, hy, h⟩ := bind_eq_ok_iff.1 h
      obtain ⟨rest, hrest, h⟩ := bind_eq_ok_iff.1 h
      cases h
      obtain ⟨hlength, hnth⟩ := ih hrest
      refine ⟨by rw [List.length_cons, List.length_cons, hlength], fun i x' hx' => ?_⟩
      cases i with
      | zero =>
          cases hx'
          exact ⟨y, rfl, hy⟩
      | succ i =>
          have hplace : n + (i + 1) = n + 1 + i := by omega
          rw [hplace]
          exact hnth i x' hx'

theorem exists_eachFrom_eq_ok (hnil : ∀ n, g n [] = .ok [])
    (hcons : ∀ n x xs, g n (x :: xs) =
      f n x >>= fun y => g (n + 1) xs >>= fun ys => .ok (y :: ys))
    {n : Nat} {xs : List α} (h : ∀ i x, xs[i]? = some x → ∃ y, f (n + i) x = .ok y) :
    ∃ ys, g n xs = .ok ys := by
  induction xs generalizing n with
  | nil => exact ⟨[], hnil n⟩
  | cons x xs ih =>
      obtain ⟨y, hy⟩ := h 0 x rfl
      have hrest : ∀ i x, xs[i]? = some x → ∃ y, f (n + 1 + i) x = .ok y := by
        intro i x hx
        rw [Nat.add_assoc, Nat.add_comm 1 i]
        exact h (i + 1) x hx
      obtain ⟨ys, hys⟩ := ih hrest
      rw [hcons]
      exact ⟨y :: ys, bind_eq_ok_iff.2 ⟨y, hy, bind_eq_ok_iff.2 ⟨ys, hys, rfl⟩⟩⟩

end

/-! ### Lists side by side -/

/-- Lists that are related element by element are so at every place. -/
theorem exists_getElem?_of_forall₂ {r : α → β → Prop} {xs : List α} {ys : List β}
    (h : List.Forall₂ r xs ys) {i : Nat} {x : α} (hx : xs[i]? = some x) :
    ∃ y, ys[i]? = some y ∧ r x y := by
  induction h generalizing i with
  | nil => cases hx
  | cons hr _ ih =>
      cases i with
      | zero =>
          cases hx
          exact ⟨_, rfl, hr⟩
      | succ i => exact ih hx

/-- Two lists that are related to a third one are related to each other. -/
theorem forall₂_of_common {r : α → β → Prop} {s : α → γ → Prop} {q : β → γ → Prop} {xs : List α}
    {ys : List β} {zs : List γ} (h : List.Forall₂ r xs ys) (h' : List.Forall₂ s xs zs)
    (hq : ∀ x ∈ xs, ∀ y z, r x y → s x z → q y z) : List.Forall₂ q ys zs := by
  induction h generalizing zs with
  | nil =>
      cases h'
      exact .nil
  | cons hr _ ih =>
      cases h' with
      | cons hs hrest =>
          have hfirst := hq _ List.mem_cons_self _ _ hr hs
          exact .cons hfirst (ih hrest fun x hx => hq x (List.mem_cons_of_mem _ hx))

/-- A function that is defined on a list leaves no element of it out. -/
theorem forall₂_filterMap {f : α → Option β} {xs : List α} (h : ∀ x ∈ xs, ∃ y, f x = some y) :
    List.Forall₂ (fun x y => f x = some y) xs (xs.filterMap f) := by
  induction xs with
  | nil => exact .nil
  | cons x xs ih =>
      obtain ⟨y, hy⟩ := h x List.mem_cons_self
      rw [List.filterMap_cons_some hy]
      exact .cons hy (ih fun x' hx' => h x' (List.mem_cons_of_mem _ hx'))

end Interconnect
