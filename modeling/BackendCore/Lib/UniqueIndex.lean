import BackendCore.Lib.Table

/-!
# Partial unique indexes

An index gives a row the value it is filed under, or leaves it out.  The index
is unique when no two rows are filed under one value.  Writing a row keeps this
when the value of the written row is its old one, is absent, or is free.
-/

set_option autoImplicit false

namespace BackendCore

namespace Table

variable {K R J : Type} {key : R → K}

/-- No two rows of the table share a value of the index. -/
def Unique (table : Table key) (index : R → Option J) : Prop :=
  ∀ left ∈ table.rows, ∀ right ∈ table.rows, ∀ value,
    index left = some value → index right = some value → key left = key right

/-- No row under another key is filed where `row` would be. -/
def Free (table : Table key) (index : R → Option J) (row : R) : Prop :=
  ∀ other ∈ table.rows, key other ≠ key row → ∀ value, index row = some value →
    index other ≠ some value

variable {index : R → Option J}

instance [DecidableEq K] [DecidableEq J] (table : Table key) : Decidable (table.Unique index) :=
  decidable_of_iff (∀ left ∈ table.rows, ∀ right ∈ table.rows,
      index left ≠ none → index left = index right → key left = key right) (by
    constructor
    · intro distinct left leftMember right rightMember value leftFiled rightFiled
      refine distinct left leftMember right rightMember ?_ (leftFiled.trans rightFiled.symm)
      rw [leftFiled]
      exact Option.some_ne_none value
    · intro unique left leftMember right rightMember filed same
      obtain ⟨value, leftFiled⟩ := Option.ne_none_iff_exists'.mp filed
      exact unique left leftMember right rightMember value leftFiled (same ▸ leftFiled))

theorem unique_of_rows_nil (table : Table key) (none : table.rows = []) : table.Unique index := by
  intro left member
  rw [none] at member
  cases member

theorem free_of_unindexed (table : Table key) (row : R) (absent : index row = none) :
    table.Free index row := by
  intro other _ _ value filed
  rw [absent] at filed
  cases filed

theorem Unique.eq {table : Table key} (unique : table.Unique index) {left right : R}
    (leftMember : left ∈ table.rows) (rightMember : right ∈ table.rows) {value : J}
    (leftFiled : index left = some value) (rightFiled : index right = some value) :
    left = right :=
  List.inj_on_of_nodup_map table.nodup leftMember rightMember
    (unique left leftMember right rightMember value leftFiled rightFiled)

theorem Unique.select_eq [DecidableEq J] {table : Table key} (unique : table.Unique index)
    {row : R} (member : row ∈ table.rows) {value : J} (filed : index row = some value) :
    table.select (fun other => index other = some value) = [row] := by
  refine table.select_eq_singleton _ member (by simp [filed]) ?_
  intro other otherMember otherFiled
  exact unique.eq otherMember member (by simpa using otherFiled) filed

theorem Unique.free {table : Table key} (unique : table.Unique index) {old row : R}
    (member : old ∈ table.rows) (same : key old = key row) (filed : index row = index old) :
    table.Free index row := by
  intro other otherMember differs value rowFiled otherFiled
  rw [filed] at rowFiled
  apply differs
  rw [← same]
  exact unique other otherMember old member value otherFiled rowFiled

theorem Unique.mapRows {table : Table key} (unique : table.Unique index) (rewrite : R → R)
    (keeps : ∀ row, key (rewrite row) = key row)
    (shrinks : ∀ row ∈ table.rows, ∀ value, index (rewrite row) = some value →
      index row = some value) : (table.mapRows rewrite keeps).Unique index := by
  intro left leftMember right rightMember value leftFiled rightFiled
  obtain ⟨oldLeft, leftStored, rfl⟩ := (mem_mapRows _ _ _ _).mp leftMember
  obtain ⟨oldRight, rightStored, rfl⟩ := (mem_mapRows _ _ _ _).mp rightMember
  rw [keeps, keeps]
  exact unique oldLeft leftStored oldRight rightStored value
    (shrinks oldLeft leftStored value leftFiled) (shrinks oldRight rightStored value rightFiled)

variable [DecidableEq K]

theorem Unique.put {table : Table key} (unique : table.Unique index) {row : R}
    (free : table.Free index row) : (table.put row).Unique index := by
  have source : ∀ new ∈ (table.put row).rows,
      new = row ∨ (new ∈ table.rows ∧ key new ≠ key row) := by
    intro new member
    obtain ⟨old, stored, rfl⟩ := (mem_mapRows _ _ _ _).mp member
    by_cases same : key old = key row
    · left
      rw [if_pos same]
    · right
      rw [if_neg same]
      exact ⟨stored, same⟩
  intro left leftMember right rightMember value leftFiled rightFiled
  rcases source left leftMember with rfl | ⟨leftStored, leftDiffers⟩
  · rcases source right rightMember with rfl | ⟨rightStored, rightDiffers⟩
    · rfl
    · exact absurd rightFiled (free right rightStored rightDiffers value leftFiled)
  · rcases source right rightMember with rfl | ⟨rightStored, rightDiffers⟩
    · exact absurd leftFiled (free left leftStored leftDiffers value rightFiled)
    · exact unique left leftStored right rightStored value leftFiled rightFiled

theorem Unique.insert {table : Table key} (unique : table.Unique index) {row : R}
    (fresh : table.get (key row) = none) (free : table.Free index row) :
    (table.insert row fresh).Unique index := by
  have differs : ∀ other ∈ table.rows, key other ≠ key row := (table.get_eq_none_iff _).mp fresh
  intro left leftMember right rightMember value leftFiled rightFiled
  rcases (mem_insert _ _ _ _).mp leftMember with leftStored | rfl
  · rcases (mem_insert _ _ _ _).mp rightMember with rightStored | rfl
    · exact unique left leftStored right rightStored value leftFiled rightFiled
    · exact absurd leftFiled (free left leftStored (differs left leftStored) value rightFiled)
  · rcases (mem_insert _ _ _ _).mp rightMember with rightStored | rfl
    · exact absurd rightFiled (free right rightStored (differs right rightStored) value leftFiled)
    · rfl

theorem Unique.store {table : Table key} (unique : table.Unique index) {row : R}
    (free : table.Free index row) : (table.store row).Unique index := by
  unfold Table.store
  split
  · exact unique.insert _ free
  · exact unique.put free

theorem Unique.erase {table : Table key} (unique : table.Unique index) (k : K) :
    (table.erase k).Unique index := by
  intro left leftMember right rightMember
  exact unique left (List.mem_filter.mp leftMember).1 right (List.mem_filter.mp rightMember).1

theorem unique_iff_get (table : Table key) : table.Unique index ↔
    ∀ left right first second value, table.get left = some first → table.get right = some second →
      index first = some value → index second = some value → left = right := by
  constructor
  · intro unique left right first second value leftFound rightFound leftFiled rightFiled
    rw [← key_of_get leftFound, ← key_of_get rightFound]
    exact unique first (mem_of_get leftFound) second (mem_of_get rightFound) value leftFiled
      rightFiled
  · intro distinct left leftMember right rightMember value leftFiled rightFiled
    exact distinct (key left) (key right) left right value (table.get_of_mem left leftMember)
      (table.get_of_mem right rightMember) leftFiled rightFiled

end Table

end BackendCore
