/-!
The ways in which an operation can break off without an answer of its own. A plain addition of words that
overflows is one of them, as in builds that check additions.
-/
namespace Tabula

inductive Fault
  /-- An instant lies beyond the years that the calendar holds. -/
  | calendarExceeded
  /-- No number above the last row's order is left for a new row. -/
  | orderExceeded
  /-- No identifier is left for a new row. -/
  | rowIdExceeded
  /-- A number has more fraction digits to show than a written number has room for. -/
  | textExceeded
  /-- A number column has more digits than a precision can count. -/
  | precisionExceeded
  /-- The largest page has no room for a row. -/
  | noPageSize
  deriving DecidableEq, Repr

/-- What an operation gives in place of a result: an error of its own, or a fault. -/
inductive Failure (ε : Type)
  | fault (fault : Fault)
  | error (error : ε)
  deriving DecidableEq, Repr

def unlessFault {α : Type} (fault? : Option Fault) (value : α) : Except Fault α :=
  match fault? with
  | none => .ok value
  | some fault => .error fault

def orFail {ε α : Type} : Except Fault α → Except (Failure ε) α := Except.mapError .fault

def orError {ε α : Type} (error : ε) : Option α → Except (Failure ε) α
  | some value => .ok value
  | none => .error (.error error)

end Tabula
