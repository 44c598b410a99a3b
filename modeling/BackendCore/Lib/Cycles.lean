import Mathlib

/-!
# Cycles of a relation

The points from which a cycle can be reached, and the finite sets without a way
out: where every point steps to another one of the set, every point reaches a cycle.
For orders that are built part by part, the part an element stands in.
-/

set_option autoImplicit false

namespace BackendCore

open Relation

variable {α : Type} {r : α → α → Prop}

/-- Some path from `a` leads to a point on a cycle. -/
def ReachesCycle (r : α → α → Prop) (a : α) : Prop :=
  ∃ b, ReflTransGen r a b ∧ TransGen r b b

theorem ReachesCycle.step {a : α} (reaches : ReachesCycle r a) :
    ∃ b, r a b ∧ ReachesCycle r b := by
  obtain ⟨c, path, cycle⟩ := reaches
  rcases path.cases_head with rfl | ⟨b, step, rest⟩
  · obtain ⟨b, step, back⟩ := TransGen.head'_iff.mp cycle
    exact ⟨b, step, a, back, cycle⟩
  · exact ⟨b, step, c, rest, cycle⟩

theorem exists_reachesCycle_iff : (∃ a, ReachesCycle r a) ↔ ∃ a, TransGen r a a := by
  constructor
  · rintro ⟨_, b, _, cycle⟩
    exact ⟨b, cycle⟩
  · rintro ⟨a, cycle⟩
    exact ⟨a, a, .refl, cycle⟩

theorem reflTransGen_iterate {follow : α → α} (follows : ∀ a, r a (follow a)) (a : α)
    (count : Nat) : ReflTransGen r a (follow^[count] a) := by
  induction count with
  | zero => exact .refl
  | succ count ih =>
    rw [Function.iterate_succ_apply']
    exact ih.tail (follows _)

theorem transGen_iterate {follow : α → α} (follows : ∀ a, r a (follow a)) {a : α}
    {first second : Nat} (before : first < second)
    (same : follow^[first] a = follow^[second] a) :
    TransGen r (follow^[first] a) (follow^[first] a) := by
  obtain ⟨steps, rfl⟩ := Nat.exists_eq_add_of_lt before
  have around : TransGen r (follow^[first] a) (follow^[steps + 1] (follow^[first] a)) := by
    rw [Function.iterate_succ_apply']
    exact TransGen.tail' (reflTransGen_iterate follows _ steps) (follows _)
  rw [← Function.iterate_add_apply, show steps + 1 + first = first + steps + 1 by omega,
    ← same] at around
  exact around

theorem reachesCycle_of_finite [Finite α] (steps : ∀ a, ∃ b, r a b) (a : α) :
    ReachesCycle r a := by
  choose follow follows using steps
  obtain ⟨first, second, differ, same⟩ :=
    Finite.exists_ne_map_eq_of_infinite fun count : Nat => follow^[count] a
  rcases Nat.lt_or_gt_of_ne differ with before | after
  · exact ⟨_, reflTransGen_iterate follows a first, transGen_iterate follows before same⟩
  · exact ⟨_, reflTransGen_iterate follows a second, transGen_iterate follows after same.symm⟩

theorem reachesCycle_of_closed (points : List α)
    (steps : ∀ a ∈ points, ∃ b ∈ points, r a b) {a : α} (mem : a ∈ points) :
    ReachesCycle r a := by
  let inside : { a // a ∈ points } → { a // a ∈ points } → Prop := fun a b => r a b
  have finite : Finite { a // a ∈ points } := List.finite_toSet points
  have every : ∀ a, ∃ b, inside a b := by
    rintro ⟨a, mem⟩
    obtain ⟨b, there, step⟩ := steps a mem
    exact ⟨⟨b, there⟩, step⟩
  obtain ⟨b, path, cycle⟩ := reachesCycle_of_finite every ⟨a, mem⟩
  exact ⟨b, path.lift Subtype.val fun _ _ step => step,
    cycle.lift Subtype.val fun _ _ step => step⟩

theorem append_eq_append_cons {left right before after : List α} {item : α}
    (equal : left ++ right = before ++ item :: after) :
    (∃ rest, left = before ++ item :: rest) ∨
      ∃ more, before = left ++ more ∧ right = more ++ item :: after := by
  rcases List.append_eq_append_iff.mp equal with ⟨more, first, second⟩ | ⟨rest, first, second⟩
  · exact .inr ⟨more, first, second⟩
  · cases rest with
    | nil =>
      refine .inr ⟨[], ?_, second.symm⟩
      rw [first, List.append_nil, List.append_nil]
    | cons head rest =>
      obtain ⟨rfl, rfl⟩ := List.cons.inj second
      exact .inl ⟨rest, first⟩

end BackendCore
