import Mathlib

/-!
# Keyed tables

A table is a finite list of rows whose primary keys are pairwise distinct.  The
distinctness is a field, so a table with two rows of one key cannot be built,
and a lookup by key has at most one answer.  Updates either rewrite the rows in
place (the key is kept) or append a row under an unused key.
-/

set_option autoImplicit false

namespace BackendCore

variable {K R : Type} {key : R → K}

structure Table {K R : Type} (key : R → K) where
  rows : List R
  nodup : (rows.map key).Nodup

namespace Table

@[ext]
theorem ext {left right : Table key} (same : left.rows = right.rows) : left = right := by
  cases left
  cases right
  cases same
  rfl

def empty : Table key := ⟨[], List.nodup_nil⟩

/-- All rows a `WHERE` clause selects. -/
def select (table : Table key) (clause : R → Bool) : List R := table.rows.filter clause

/-- Rewrite every row; the rewriting must keep the primary key. -/
def mapRows (table : Table key) (rewrite : R → R)
    (keeps : ∀ row, key (rewrite row) = key row) : Table key where
  rows := table.rows.map rewrite
  nodup := by
    have sameKeys : (table.rows.map rewrite).map key = table.rows.map key := by
      rw [List.map_map]
      exact List.map_congr_left fun row _ => keeps row
    rw [sameKeys]
    exact table.nodup

/-- `DELETE ... WHERE`. -/
def deleteWhere (table : Table key) (clause : R → Bool) : Table key where
  rows := table.rows.filter fun row => !clause row
  nodup := table.nodup.sublist (List.filter_sublist.map key)

theorem mem_deleteWhere (table : Table key) (clause : R → Bool) (row : R) :
    row ∈ (table.deleteWhere clause).rows ↔ row ∈ table.rows ∧ clause row = false := by
  simp [deleteWhere]

section Lookup

variable [DecidableEq K]

def get (table : Table key) (k : K) : Option R := table.rows.find? fun row => key row = k

/-- Replace the row that has the key of `row`; nothing happens if there is none. -/
def put (table : Table key) (row : R) : Table key :=
  table.mapRows (fun old => if key old = key row then row else old) (by
    intro old
    by_cases same : key old = key row
    · simp [same]
    · simp [same])

def insert (table : Table key) (row : R) (fresh : table.get (key row) = none) : Table key where
  rows := table.rows ++ [row]
  nodup := by
    rw [List.map_append, List.map_singleton, List.nodup_append]
    refine ⟨table.nodup, List.nodup_singleton _, ?_⟩
    intro old oldMember new newMember
    rw [List.mem_singleton] at newMember
    subst newMember
    obtain ⟨kept, keptMember, rfl⟩ := List.mem_map.mp oldMember
    have none := List.find?_eq_none.mp fresh kept keptMember
    simpa using none

/-- `INSERT ... ON CONFLICT DO NOTHING`. -/
def insertNew (table : Table key) (row : R) : Table key :=
  if fresh : table.get (key row) = none then table.insert row fresh else table

/-- The row under its key, over the old one if there is one. -/
def store (table : Table key) (row : R) : Table key :=
  if fresh : table.get (key row) = none then table.insert row fresh else table.put row

def erase (table : Table key) (k : K) : Table key where
  rows := table.rows.filter fun row => key row ≠ k
  nodup := table.nodup.sublist (List.filter_sublist.map key)

/-! ## Lookup -/

theorem get_eq_some_iff (table : Table key) (k : K) (row : R) :
    table.get k = some row ↔ row ∈ table.rows ∧ key row = k := by
  constructor
  · intro found
    refine ⟨List.mem_of_find?_eq_some found, ?_⟩
    simpa using List.find?_some found
  · rintro ⟨member, rfl⟩
    cases found : table.get (key row) with
    | none =>
      have absent := List.find?_eq_none.mp found row member
      simp at absent
    | some other =>
      have otherMember := List.mem_of_find?_eq_some found
      have otherKey : key other = key row := by simpa using List.find?_some found
      rw [List.inj_on_of_nodup_map table.nodup otherMember member otherKey]

theorem get_of_mem (table : Table key) (row : R) (member : row ∈ table.rows) :
    table.get (key row) = some row :=
  (table.get_eq_some_iff (key row) row).mpr ⟨member, rfl⟩

theorem mem_of_get {table : Table key} {k : K} {row : R} (found : table.get k = some row) :
    row ∈ table.rows :=
  ((table.get_eq_some_iff k row).mp found).1

theorem key_of_get {table : Table key} {k : K} {row : R} (found : table.get k = some row) :
    key row = k :=
  ((table.get_eq_some_iff k row).mp found).2

theorem get_eq_none_iff (table : Table key) (k : K) :
    table.get k = none ↔ ∀ row ∈ table.rows, key row ≠ k := by
  rw [get, List.find?_eq_none]
  simp

/-! ## Rewriting -/

@[simp] theorem get_mapRows (table : Table key) (rewrite : R → R)
    (keeps : ∀ row, key (rewrite row) = key row) (k : K) :
    (table.mapRows rewrite keeps).get k = (table.get k).map rewrite := by
  simp only [get, mapRows]
  rw [List.find?_map]
  congr 2
  funext row
  simp [keeps]

theorem get_put (table : Table key) (row : R) (k : K) :
    (table.put row).get k =
      if k = key row then (table.get k).map fun _ => row else table.get k := by
  rw [put, get_mapRows]
  cases found : table.get k with
  | none => simp
  | some old =>
    have oldKey := key_of_get found
    by_cases same : k = key row
    · simp [same, oldKey]
    · simp [same, oldKey]

theorem get_put_self (table : Table key) (row old : R)
    (found : table.get (key row) = some old) :
    (table.put row).get (key row) = some row := by
  simp [get_put, found]

theorem get_put_of_ne (table : Table key) (row : R) (k : K) (differs : k ≠ key row) :
    (table.put row).get k = table.get k := by
  simp [get_put, differs]

/-! ## Insertion -/

theorem get_insert (table : Table key) (row : R) (fresh : table.get (key row) = none) (k : K) :
    (table.insert row fresh).get k = if k = key row then some row else table.get k := by
  simp only [get, insert, List.find?_append]
  by_cases same : k = key row
  · subst same
    have absent : table.rows.find? (fun old => key old = key row) = none := fresh
    simp [absent]
  · have differs : ¬ key row = k := fun equal => same equal.symm
    simp [same, differs]

theorem mem_insert (table : Table key) (row : R) (fresh : table.get (key row) = none) (other : R) :
    other ∈ (table.insert row fresh).rows ↔ other ∈ table.rows ∨ other = row := by
  simp [insert]

theorem put_insert (table : Table key) (row changed : R) (fresh : table.get (key row) = none)
    (same : key changed = key row) :
    (table.insert row fresh).put changed =
      table.insert changed (by rw [same]; exact fresh) := by
  apply Table.ext
  have kept : table.rows.map (fun old => if key old = key changed then changed else old) =
      table.rows := by
    refine (List.map_congr_left ?_).trans (List.map_id _)
    intro old member
    have differs := (table.get_eq_none_iff (key row)).mp fresh old member
    rw [same, if_neg differs]
    rfl
  simp only [put, mapRows, insert, List.map_append, List.map_cons, List.map_nil, kept]
  rw [if_pos same.symm]

theorem insertNew_of_taken (table : Table key) (row old : R)
    (taken : table.get (key row) = some old) : table.insertNew row = table := by
  simp [insertNew, taken]

theorem get_insertNew_of_fresh (table : Table key) (row : R) (fresh : table.get (key row) = none)
    (k : K) : (table.insertNew row).get k = if k = key row then some row else table.get k := by
  rw [insertNew, dif_pos fresh]
  exact table.get_insert row fresh k

theorem put_insertNew (table : Table key) (row changed : R) (fresh : table.get (key row) = none)
    (same : key changed = key row) :
    (table.insertNew row).put changed = table.insertNew changed := by
  have changedFresh : table.get (key changed) = none := by rw [same]; exact fresh
  rw [insertNew, insertNew, dif_pos fresh, dif_pos changedFresh]
  exact table.put_insert row changed fresh same

theorem get_insertNew_of_get (table : Table key) (row old : R) (k : K)
    (found : table.get k = some old) : (table.insertNew row).get k = some old := by
  by_cases fresh : table.get (key row) = none
  · have differs : k ≠ key row := by
      intro same
      rw [same, fresh] at found
      cases found
    rw [get_insertNew_of_fresh table row fresh, if_neg differs]
    exact found
  · rw [insertNew, dif_neg fresh]
    exact found

theorem get_insertNew_cases {table : Table key} {row found : R} {k : K}
    (after : (table.insertNew row).get k = some found) :
    table.get k = some found ∨ (table.get (key row) = none ∧ k = key row ∧ found = row) := by
  by_cases fresh : table.get (key row) = none
  · rw [get_insertNew_of_fresh table row fresh] at after
    by_cases here : k = key row
    · rw [if_pos here] at after
      cases after
      exact Or.inr ⟨fresh, here, rfl⟩
    · rw [if_neg here] at after
      exact Or.inl after
  · rw [insertNew, dif_neg fresh] at after
    exact Or.inl after

theorem get_store (table : Table key) (row : R) (k : K) :
    (table.store row).get k = if k = key row then some row else table.get k := by
  unfold store
  split
  · exact table.get_insert row _ k
  · rename_i taken
    rw [get_put]
    by_cases same : k = key row
    · obtain ⟨old, found⟩ := Option.ne_none_iff_exists'.mp taken
      simp [same, found]
    · simp [same]

theorem get_erase (table : Table key) (j k : K) :
    (table.erase j).get k = if k = j then none else table.get k := by
  cases found : (table.erase j).get k with
  | some row =>
    obtain ⟨member, rfl⟩ := ((table.erase j).get_eq_some_iff k row).mp found
    obtain ⟨stored, differs⟩ := List.mem_filter.mp member
    have other : key row ≠ j := by simpa using differs
    rw [if_neg other]
    exact (table.get_of_mem row stored).symm
  | none =>
    by_cases same : k = j
    · rw [if_pos same]
    · rw [if_neg same]
      refine ((table.get_eq_none_iff k).mpr ?_).symm
      intro row member here
      have kept : row ∈ (table.erase j).rows :=
        List.mem_filter.mpr ⟨member, by simp [here, same]⟩
      exact ((table.erase j).get_eq_none_iff k).mp found row kept here

/-! ## Rewriting many rows -/

private theorem rows_foldl_put (news : List R) (table : Table key) :
    (news.foldl put table).rows =
      table.rows.map fun row =>
        news.foldl (fun current new => if key current = key new then new else current) row := by
  induction news generalizing table with
  | nil => simp
  | cons new rest hypothesis =>
    rw [List.foldl_cons, hypothesis]
    simp only [put, mapRows, List.map_map, List.foldl_cons]
    rfl

private theorem foldl_replace_of_absent (news : List R) (row : R)
    (absent : ∀ new ∈ news, key new ≠ key row) :
    news.foldl (fun current new => if key current = key new then new else current) row = row := by
  induction news with
  | nil => rfl
  | cons new rest hypothesis =>
    have differs : ¬ key row = key new := fun same => absent new List.mem_cons_self same.symm
    rw [List.foldl_cons, if_neg differs]
    exact hypothesis fun other member => absent other (List.mem_cons_of_mem new member)

private theorem foldl_replace_of_present (olds : List R) (rewrite : R → R)
    (keeps : ∀ row, key (rewrite row) = key row) (distinct : (olds.map key).Nodup) (row : R)
    (present : row ∈ olds) :
    (olds.map rewrite).foldl
      (fun current new => if key current = key new then new else current) row = rewrite row := by
  induction olds with
  | nil => cases present
  | cons old rest hypothesis =>
    rw [List.map_cons, List.nodup_cons] at distinct
    rw [List.map_cons, List.foldl_cons, keeps]
    rcases List.mem_cons.mp present with rfl | later
    · rw [if_pos rfl]
      refine foldl_replace_of_absent _ _ ?_
      intro new member same
      obtain ⟨other, otherMember, rfl⟩ := List.mem_map.mp member
      rw [keeps, keeps] at same
      exact distinct.1 (List.mem_map.mpr ⟨other, otherMember, same⟩)
    · have differs : ¬ key row = key old := fun same =>
        distinct.1 (List.mem_map.mpr ⟨row, later, same⟩)
      rw [if_neg differs]
      exact hypothesis distinct.2 later

theorem foldl_put_select (table : Table key) (clause : R → Bool) (rewrite : R → R)
    (keeps : ∀ row, key (rewrite row) = key row) :
    ((table.select clause).map rewrite).foldl put table =
      table.mapRows (fun row => if clause row then rewrite row else row) (by
        intro row
        by_cases chosen : clause row = true
        · simp [chosen, keeps]
        · simp [chosen]) := by
  apply Table.ext
  rw [rows_foldl_put]
  apply List.map_congr_left
  intro row member
  have distinct : ((table.select clause).map key).Nodup :=
    table.nodup.sublist (List.filter_sublist.map key)
  by_cases chosen : clause row = true
  · rw [if_pos chosen]
    exact foldl_replace_of_present _ rewrite keeps distinct row
      (List.mem_filter.mpr ⟨member, chosen⟩)
  · rw [if_neg chosen]
    refine foldl_replace_of_absent _ _ ?_
    intro new newMember same
    obtain ⟨old, oldMember, rfl⟩ := List.mem_map.mp newMember
    rw [keeps] at same
    obtain ⟨oldRow, oldChosen⟩ := List.mem_filter.mp oldMember
    rw [List.inj_on_of_nodup_map table.nodup oldRow member same] at oldChosen
    exact chosen oldChosen

end Lookup

/-! ## Selection -/

theorem mem_select (table : Table key) (clause : R → Bool) (row : R) :
    row ∈ table.select clause ↔ row ∈ table.rows ∧ clause row = true :=
  List.mem_filter

theorem select_eq_singleton (table : Table key) (clause : R → Bool) {row : R}
    (member : row ∈ table.rows) (chosen : clause row = true)
    (only : ∀ other ∈ table.rows, clause other = true → other = row) :
    table.select clause = [row] := by
  have found : row ∈ table.select clause := (mem_select _ _ _).mpr ⟨member, chosen⟩
  have same : ∀ other ∈ table.select clause, other = row := by
    intro other otherFound
    obtain ⟨otherMember, otherChosen⟩ := (mem_select _ _ _).mp otherFound
    exact only other otherMember otherChosen
  have distinct : (table.select clause).Nodup := (List.Nodup.of_map key table.nodup).filter _
  cases rows : table.select clause with
  | nil =>
    rw [rows] at found
    cases found
  | cons first rest =>
    rw [rows] at same distinct
    have firstSame := same first List.mem_cons_self
    cases rest with
    | nil => rw [firstSame]
    | cons second rest =>
      have secondSame := same second (by simp)
      rw [firstSame, secondSame] at distinct
      simp at distinct

theorem select_of_key [DecidableEq K] (table : Table key) (clause : R → Bool) (k : K)
    (fixed : ∀ row, clause row = true → key row = k) :
    table.select clause = ((table.get k).filter clause).toList := by
  have there : ∀ row ∈ table.rows, clause row = true → table.get k = some row := by
    intro row member chosen
    rw [← fixed row chosen]
    exact table.get_of_mem row member
  cases found : (table.get k).filter clause with
  | none =>
    refine List.filter_eq_nil_iff.mpr ?_
    intro row member chosen
    rw [there row member chosen] at found
    simp [chosen] at found
  | some row =>
    obtain ⟨got, chosen⟩ := Option.filter_eq_some_iff.mp found
    refine table.select_eq_singleton clause (mem_of_get got) chosen ?_
    intro other member otherChosen
    have same := there other member otherChosen
    rw [got] at same
    cases same
    rfl

theorem mem_mapRows (table : Table key) (rewrite : R → R)
    (keeps : ∀ row, key (rewrite row) = key row) (row : R) :
    row ∈ (table.mapRows rewrite keeps).rows ↔ ∃ old ∈ table.rows, rewrite old = row :=
  List.mem_map

end Table

end BackendCore
