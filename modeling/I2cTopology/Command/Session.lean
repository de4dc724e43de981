import I2cTopology.Command.Performing
import I2cTopology.Command.Usage

/-!
# Calls of the command line

A call goes from the arguments to an exit status: 0 if all went well, 1 for a complaint and 2 for arguments
that do not fit.
-/

namespace I2cTopology
namespace Command

/-- How a call ends. -/
structure Ending where
  status : Nat
  /-- The last lines on standard error. -/
  errors : List String := []
  deriving DecidableEq, Repr

/-- The end of a call that had nothing to run. -/
def Stop.answer : Stop → Act Context Ending
  | misuse => return { status := 2, errors := usageLines }
  | help => do
    printLines helpLines
    return { status := 0 }
  | version => do
    printLines [programVersion]
    return { status := 0 }

/-- A call with the given arguments. -/
def call (arguments : List String) : Act Context Ending :=
  match read arguments with
  | .error stop => stop.answer
  | .ok invocation => do
    match ← invocation.perform.run with
    | .ok _ => return { status := 0 }
    | .error complaint => return { status := 1, errors := complaint.lines }

/-- How much a call with the given arguments tells. -/
def verbosityOf (arguments : List String) : Verbosity :=
  match read arguments with
  | .ok invocation => invocation.verbosity
  | .error _ => .normal

end Command
end I2cTopology
