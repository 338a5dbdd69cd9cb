import TableView.Schema.Fault

/-!
# Reading a document against a schema

A check either succeeds or reports every fault of the document. A number that has no integer part
ends the whole check at once, whatever else is wrong. Checks of several parts are joined so that
the faults of all of them are kept.
-/

namespace TableView.Schema

/-- The outcome of reading a document or a part of it. -/
inductive Check (α : Type)
  | ok (result : α)
  | rejected (faults : List Fault)
  | overflow (message : String)
  deriving DecidableEq

namespace Check

variable {α β : Type}

/-- Change the result. -/
def map (f : α → β) : Check α → Check β
  | ok a => ok (f a)
  | rejected faults => rejected faults
  | overflow message => overflow message

/-- Join two checks: overflow ends both, otherwise the faults of both are kept. -/
def both : Check (α → β) → Check α → Check β
  | overflow message, _ => overflow message
  | _, overflow message => overflow message
  | ok f, ok a => ok (f a)
  | ok _, rejected faults => rejected faults
  | rejected faults, ok _ => rejected faults
  | rejected first, rejected second => rejected (first ++ second)

instance : Functor Check where
  map := map

instance : Applicative Check where
  pure := ok
  seq f a := both f (a ())

/-- A check that fails with one fault at this place. -/
def fault (kind : FaultKind) : Check α :=
  rejected [⟨[], kind⟩]

/-- The check seen from one level further out. -/
def under (step : Step) : Check α → Check α
  | rejected faults => rejected (faults.map (Fault.under step))
  | other => other

/-- Add faults to a check. -/
def withFaults (faults : List Fault) (c : Check α) : Check α :=
  if faults.isEmpty then c else both (rejected faults : Check (α → α)) c

/-- Check the items of a list, each at its position from `start` on. -/
def listFrom (check : β → Check α) : Nat → List β → Check (List α)
  | _, [] => ok []
  | start, b :: rest =>
    both (map List.cons (under (.index start) (check b))) (listFrom check (start + 1) rest)

end Check

end TableView.Schema
