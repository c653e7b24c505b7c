import TraceOverhead.Error
import TraceOverhead.Text.Bytes
/-!
Programs that follow a script. A script says, by the first arguments of a run and by how often the
program has run so before, what the program prints, what it does to the machine and how it ends.
-/

namespace TraceOverhead.Simulation

/-- What a program does besides printing. -/
inductive Effect where
  | makeDirectories (path : String)
  /-- Removes a directory that is empty. -/
  | removeDirectory (path : String)
  /-- Makes a readable trace at the place that the last argument names. -/
  | makeTrace
  | interrupt
  deriving DecidableEq, Repr

/-- How a program ends that leaves with a code, of which the last eight bits are kept. -/
def leaving (code : Nat) : ExitStatus := .exited (code % 256)

/-- What comes out of a script's text. The text is read without its NUL bytes, so none is printed. -/
def printed (text : Bytes) : Bytes := text.filter (· ≠ 0)

structure Rule where
  /-- The arguments that a run has to begin with. -/
  arguments : List String
  /-- How often the rule may still be followed. Without a number there is no limit. -/
  remaining : Option Nat
  stdout : Bytes
  stderr : Bytes
  effects : List Effect
  status : ExitStatus
  deriving DecidableEq, Repr

namespace Rule

/-- Succeeds in silence, whatever the arguments. -/
def silent : Rule := ⟨[], none, [], [], [], .exited 0⟩

def applies (rule : Rule) (arguments : List String) : Bool :=
  rule.arguments.isPrefixOf arguments && rule.remaining != some 0

def followed (rule : Rule) : Rule := { rule with remaining := rule.remaining.map (· - 1) }

end Rule

abbrev Script := List Rule

/-- The first rule that applies, or the silent one, and the script that is left. -/
def Script.follow (arguments : List String) : Script → Rule × Script
  | [] => (Rule.silent, [])
  | rule :: rules =>
    if rule.applies arguments then (rule, rule.followed :: rules)
    else
      let (chosen, rules) := follow arguments rules
      (chosen, rule :: rules)

/-- A program file, under the name by which its runs are recorded. -/
structure Program where
  name : String
  script : Script
  executable : Bool
  deriving DecidableEq, Repr

end TraceOverhead.Simulation
