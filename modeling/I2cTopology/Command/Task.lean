import I2cTopology.Command.Complaint
import I2cTopology.Command.Verbosity
import I2cTopology.System.Op

/-!
# Tasks

A task is what a command does: an act that may end in a complaint. What a task prints depends on how much
is to be told.
-/

namespace I2cTopology
namespace Command

variable {σ α : Type}

/-- An act that may end in a complaint. -/
abbrev Task (σ α : Type) : Type :=
  ExceptT Complaint (Act σ) α

namespace Task

/-- An act as a task without complaints. -/
def ofAct (act : Act σ α) : Task σ α :=
  ExceptT.lift act

/-- An operation as a task, with the complaint that its failure leads to. -/
def ofOp (complaint : Failure → Complaint) (op : Op σ α) : Task σ α :=
  ExceptT.adapt complaint op

end Task

/-- Prints lines. -/
def printLines : List String → Act σ Unit
  | [] => .done ()
  | line :: rest => .ask (.print (.text line)) fun _ => printLines rest

/-- Prints how a command ended, if that is told. -/
def printStatus (verbosity : Verbosity) (line : String) : Act σ Unit :=
  if verbosity.showsStatus then printLines [line] else .done ()

/-- Prints a detail, if that is told. -/
def printDetail (verbosity : Verbosity) (line : String) : Act σ Unit :=
  if verbosity.showsDetail then printLines [line] else .done ()

/-- Does some work and then prints how long it took, if that is told. A failure counts as work. -/
def timed (verbosity : Verbosity) (label : String) (work : Act σ α) : Act σ α := do
  let start : Nat ← Act.query .clock
  let result ← work
  if verbosity.showsDetail then
    let stop : Nat ← Act.query .clock
    Act.query (.print (.elapsed label (stop - start)))
  return result

end Command
end I2cTopology
