import TableView.Entries
import TableView.Task.Machine

/-!
# Operations that overlap

At a desk sits the state of one machine together with the outside world it asks. An operation can
be run to its end at once, or be kept under a name, where it waits before each of its calls; the
call is made when the operation is told to go on, and is answered from the world as it is then. An
operation that has finished answers the same again.
-/

namespace TableView.Task

/-- A state, the world it asks, and the operations kept under names. -/
structure Desk (M : Machine) (World : Type) where
  state : M.State
  world : World
  kept : Entries M.Stage

/-- What one step at a desk shows: the calls made, and how far the operation has come. -/
structure Report (M : Machine) where
  calls : List M.Call
  stage : M.Stage

namespace Desk

variable {M : Machine} {World : Type}

/-- Make the call that an operation waits for and go on with it. -/
def proceed (outside : M.Outside World) (d : Desk M World) (p : M.Suspension) :
    Desk M World × M.Stage :=
  let (reply, world) := outside d.world (M.call p)
  let (state, stage) := M.resume d.state p reply
  ({ d with state := state, world := world }, stage)

/-- Go on with an operation for at most `fuel` calls, and list the calls made. -/
def settle (outside : M.Outside World) :
    Nat → Desk M World → M.Stage → Desk M World × Report M
  | fuel + 1, d, .pending p =>
    let (d, stage) := proceed outside d p
    let (d, report) := settle outside fuel d stage
    (d, ⟨M.call p :: report.calls, report.stage⟩)
  | _, d, stage => (d, ⟨[], stage⟩)

/-- The most calls that an operation can still make. -/
def callsLeft : M.Stage → Nat
  | .pending p => M.callsLeft p
  | .finished _ => 0

/-- Run an operation to its end. -/
def run (outside : M.Outside World) (d : Desk M World) (c : M.Command) :
    Desk M World × Report M :=
  let (state, stage) := M.start d.state c
  settle outside (callsLeft stage) { d with state := state } stage

/-- Whether an operation has failed, and how. -/
def failure? : M.Stage → Option Failure
  | .finished (.error f) => some f
  | _ => none

/-- Run operations to their ends, one after another, up to the first that fails, and report on
each that was run. -/
def runAll (outside : M.Outside World) (d : Desk M World) :
    List M.Command → Desk M World × List (Report M)
  | [] => (d, [])
  | c :: rest =>
    let (d, report) := d.run outside c
    match failure? report.stage with
    | some _ => (d, [report])
    | none =>
      let (d, reports) := runAll outside d rest
      (d, report :: reports)

/-- Start an operation and keep it under a name. -/
def start (d : Desk M World) (name : String) (c : M.Command) : Desk M World × Report M :=
  let (state, stage) := M.start d.state c
  ({ d with state := state, kept := d.kept.put name stage }, ⟨[], stage⟩)

/-- Go on with the operation kept under a name, up to its next call. There is no report if none
is kept under it. -/
def goOn (outside : M.Outside World) (d : Desk M World) (name : String) :
    Desk M World × Option (Report M) :=
  match d.kept.get? name with
  | some (.pending p) =>
    let (d, stage) := proceed outside d p
    ({ d with kept := d.kept.put name stage }, some ⟨[M.call p], stage⟩)
  | some (.finished r) => (d, some ⟨[], .finished r⟩)
  | none => (d, none)

end Desk

end TableView.Task
