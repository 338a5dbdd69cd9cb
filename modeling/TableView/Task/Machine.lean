import TableView.Error

/-!
# Operations with calls to the outside

A machine has a state and operations on it. An operation that needs something from outside makes a
call and is suspended until the reply comes; by then other operations may have changed the state.
A suspension holds what its operation remembers, and nothing else of the operation survives.
-/

namespace TableView.Task

/-- How far an operation has come: it waits for the reply to a call, or it has ended. -/
inductive Progress (Suspension Result : Type)
  | pending (p : Suspension)
  | finished (r : Except Failure Result)

/-- A state with operations that may be suspended. Specified in `SPEC_FULL.md` 5. -/
structure Machine where
  State : Type
  Command : Type
  Call : Type
  Answer : Call → Type
  Suspension : Type
  Result : Type
  /-- The call that a suspended operation waits for. -/
  call : Suspension → Call
  /-- The most calls that a suspended operation can still make, this one included. -/
  callsLeft : Suspension → Nat
  /-- Start an operation. -/
  start : State → Command → State × Progress Suspension Result
  /-- Go on with an operation when the reply to its call has come. -/
  resume : State → (p : Suspension) → Except Failure (Answer (call p)) →
    State × Progress Suspension Result

namespace Machine

/-- What comes back from a call. -/
abbrev Reply (M : Machine) (c : M.Call) : Type := Except Failure (M.Answer c)

/-- How far an operation of the machine has come. -/
abbrev Stage (M : Machine) : Type := Progress M.Suspension M.Result

/-- How a world of the given type answers the calls, and what becomes of it. -/
abbrev Outside (M : Machine) (World : Type) : Type := World → (c : M.Call) → M.Reply c × World

end Machine

end TableView.Task
