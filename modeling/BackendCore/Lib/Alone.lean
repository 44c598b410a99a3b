import BackendCore.Lib.ReadCommitted

/-!
# A transaction with nobody in its way

What a program does when no other transaction holds a lock or has written
anything: its statements follow one another on one copy of the table.
-/

set_option autoImplicit false

namespace BackendCore.ReadCommitted

variable {Tid K R J E A : Type} {key : R → K} [DecidableEq K] [DecidableEq J]
variable (indexes : List (R → Option J))

/-- The rows of an `UPDATE` one after the other, with the number of rows changed, or
nothing when an index refuses one. -/
def updateRows (clause : R → Bool) (change : R → R) :
    List K → Nat → Table key → Option Nat × Table key
  | [], count, table => (some count, table)
  | k :: todo, count, table =>
    match table.get k with
    | none => updateRows clause change todo count table
    | some row =>
      if clause row then
        if fits indexes table (change row) then
          updateRows clause change todo (count + 1) (table.store (change row))
        else (none, table)
      else updateRows clause change todo count table

/-- The answer and the table of a program that runs alone, or what it raises. -/
def Prog.alone : Prog key E A → Table key → Except E (A × Table key)
  | .ret answer, table => .ok (answer, table)
  | .raise error, _ => .error error
  | .select clause next, table => (next (table.select clause)).alone table
  | .lock clause next, table => (next (table.select clause)).alone table
  | .write k change _ next, table =>
    match table.get k with
    | none => (next .missing).alone table
    | some row =>
      if fits indexes table (change row) then (next .done).alone (table.store (change row))
      else (next .conflict).alone table
  | .insert row next, table =>
    if (table.get (key row)).isNone && fits indexes table row then
      (next .done).alone (table.store row)
    else (next .conflict).alone table
  | .erase k next, table =>
    if (table.get k).isSome then next.alone (table.erase k) else next.alone table
  | .update clause change _ next, table =>
    (next (updateRows indexes clause change ((table.select clause).map key) 0 table).1).alone
      (updateRows indexes clause change ((table.select clause).map key) 0 table).2

theorem alone_insert (row : R) (next : Reply → Prog key E A) (table : Table key) :
    (Prog.insert row next).alone indexes table =
      if (table.get (key row)).isNone && fits indexes table row then
        (next .done).alone indexes (table.store row)
      else (next .conflict).alone indexes table := rfl

end BackendCore.ReadCommitted
