import I2cTopology.Command.Session
import I2cTopology.Simulation.Machine

/-!
# Calls on a simulated machine

A call of the command line reads sysfs directly, so the layer of faults is out of its way.
-/

namespace I2cTopology
namespace Simulation

/-- What a call of the command line leaves behind. -/
structure Transcript where
  status : Nat
  output : List OutputLine
  /-- The text on standard error. -/
  errors : String
  deriving DecidableEq, Repr

namespace Machine

/-- Calls the command line with arguments and a text on standard input, none if that is no text. -/
def call (machine : Machine) (arguments : List String) (input : Option String) :
    Option Transcript × Machine :=
  let prepared := { machine with faults := {}, input := input, journal := #[], output := #[] }
  let (ending, _, used) := prepared.run (Command.call arguments) (Context.fresh {})
  let verbosity := Command.verbosityOf arguments
  let told := String.join (used.journal.toList.filterMap verbosity.journalText?)
  let transcript := ending.map fun (ending : Command.Ending) =>
    { status := ending.status
      output := used.output.toList
      errors := told ++ String.join (ending.errors.map (· ++ "\n")) }
  (transcript, { used with
    faults := machine.faults
    input := machine.input
    journal := machine.journal
    output := machine.output })

end Machine
end Simulation
end I2cTopology
