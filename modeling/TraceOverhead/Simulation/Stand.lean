import TraceOverhead.Simulation.Machine
/-!
A test stand: a machine in memory together with a tracing controller and a trace reader that do as
they are told. The controller fails at chosen calls and can bring an interrupt, and the reader gives
a fixed count, refuses, or is a trace printer on the machine.
-/

namespace TraceOverhead

namespace Simulation

/-- A failure of one kind of call, of its `occurrence`-th one from one or of all. -/
structure Failure where
  operation : Operation
  occurrence : Option Nat
  message : String
  deriving DecidableEq, Repr

structure Controller where
  failures : List Failure
  /-- Files that a session leaves in its trace directory, by their paths below it. -/
  traceFiles : List (String × Bytes)
  /-- The call, counted from one, that brings an interrupt. -/
  interruptAt : Option Nat
  /-- The operations so far. -/
  history : List Operation
  deriving DecidableEq, Repr

namespace Controller

def idle : Controller := ⟨[], [], none, []⟩

/-- What makes a call fail; the call is already part of the history. -/
def failure? (controller : Controller) (operation : Operation) : Option Failure :=
  let count := controller.history.count operation
  controller.failures.find? fun failure =>
    failure.operation = operation && (failure.occurrence.all (· = count))

end Controller

inductive Reader where
  | fixed (count : UInt64)
  | refusing (reason : String)
  | printer (program : String)
  deriving DecidableEq, Repr

end Simulation

structure Stand where
  machine : Machine
  controller : Simulation.Controller
  reader : Simulation.Reader

namespace Stand

open Simulation

/-- Leaves the controller's trace files below a trace path. -/
def recordTrace (files : List (String × Bytes)) (tracePath : String) (machine : Machine) :
    Machine :=
  files.foldl (fun machine (path, content) =>
    let target := Path.join tracePath path
    match Path.parent? target with
    | some directory => ((machine.makeDirectories directory).1.writeFile target content).1
    | none => machine) machine

def control (stand : Stand) (call : ControllerCall) : Stand × Except Error Unit :=
  let operation := call.operation
  let controller :=
    { stand.controller with history := stand.controller.history ++ [operation] }
  let machine := { stand.machine with
    calls := stand.machine.calls.push (.controller call)
    interrupted := stand.machine.interrupted ||
      controller.interruptAt = some controller.history.length }
  let machine := match call with
    | .create config => recordTrace controller.traceFiles config.tracePath machine
    | .start _ | .stop _ | .destroy _ => machine
  let outcome := match controller.failure? operation with
    | some failure => .error (.tracing operation failure.message)
    | none => .ok ()
  ({ stand with machine, controller }, outcome)

def read (stand : Stand) (tracePath : String) : Stand × Except Error UInt64 :=
  let recorded := { stand with machine :=
    { stand.machine with calls := stand.machine.calls.push (.reader tracePath) } }
  match stand.reader with
  | .fixed count => (recorded, .ok count)
  | .refusing reason => (recorded, .error (.traceNotReady tracePath (.refused reason)))
  | .printer program =>
    let (outcome, machine) := Machine.converse (Trace.countEvents program tracePath).outcome
      stand.machine
    ({ stand with machine }, outcome)

def answer : (request : Instruments.Request) → StateM Stand (Instruments.Answer request)
  | .controller call => fun stand => (stand.control call).swap
  | .releaseController => fun stand => ((), stand)
  | .countEvents tracePath => fun stand => (stand.read tracePath).swap
  | .host request => fun stand =>
    let (reply, machine) := Machine.answer request stand.machine
    (reply, { stand with machine })

def converse (dialogue : Dialogue instruments α) : StateM Stand α :=
  dialogue.interpret (m := StateM Stand) answer

end Stand
end TraceOverhead
