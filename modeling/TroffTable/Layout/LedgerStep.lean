import TroffTable.Layout.Ledger
import TroffTable.Value

/-! Steps of a ledger's history, and what each of them answers. A column may be asked for
by any value; only whole numbers are columns. -/

namespace TroffTable

inductive LedgerStep where
  | register (column rows : Int)
  | consume (column : Int)
  | remaining (column : Int)
  | contains (column : Value)

inductive LedgerAnswer where
  | done
  | rows (n : Nat)
  | truth (b : Bool)
deriving DecidableEq

inductive LedgerError where
  | uncovered (column : Int)
  /-- A collection, which cannot be looked up. -/
  | notKey (column : Value)

def LedgerError.message : LedgerError → String
  | .uncovered column => toString column
  | .notKey column => "unhashable type: '" ++ column.typeName ++ "'"

/-- Whether a value is a covered column. -/
def Ledger.coversValue (l : Ledger) (v : Value) : Bool :=
  v.toInt?.any l.covers

def LedgerStep.run (l : Ledger) : LedgerStep → Except LedgerError (LedgerAnswer × Ledger)
  | .register column rows => .ok (.done, l.register column rows)
  | .consume column =>
    match l.consume? column with
    | some l => .ok (.done, l)
    | none => .error (.uncovered column)
  | .remaining column => .ok (.rows (l.remaining column), l)
  | .contains column =>
    if column.isKey then .ok (.truth (l.coversValue column), l) else .error (.notKey column)

/-- The ledger behind a step. One that fails leaves it as it was. -/
def LedgerStep.next (l : Ledger) (step : LedgerStep) : Ledger :=
  match step.run l with
  | .ok (_, l') => l'
  | .error _ => l

def Ledger.after (l : Ledger) (steps : List LedgerStep) : Ledger :=
  steps.foldl LedgerStep.next l

end TroffTable
