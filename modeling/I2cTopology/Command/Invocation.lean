import I2cTopology.Command.Verbosity
import I2cTopology.ExpectedChip.Source
import I2cTopology.Handle.Probe

/-!
# Invocations

What one call of the command line asks for.
-/

namespace I2cTopology
namespace Command

/-- What is to be done. -/
inductive Action where
  /-- Shows the forest, one adapter, or one adapter with everything below it. -/
  | tree (path : Option String) (below : Bool)
  /-- Lists the chips that were found, everywhere or on one adapter. -/
  | devices (path : Option String)
  /-- Lists the expected chips. -/
  | config
  /-- Shows how a path is read and where it leads. -/
  | path (text : String)
  /-- Probes one address, or all of them. -/
  | probe (path : String) (address : Option UInt16) (mode : ProbeMode) (timeout : UInt32)
  /-- Lists the capabilities of an adapter. -/
  | funcs (path : String)
  | timeout (path : String) (milliseconds : UInt32)
  | retries (path : String) (count : UInt32)
  /-- Scans again and again. -/
  | rescan (rounds : UInt32)
  /-- Adds every expected chip that is missing. -/
  | init
  /-- Removes expected chips, everywhere or on one adapter. -/
  | remove (path : Option String)
  /-- Loads the kernel module for the device files. -/
  | kmod
  deriving DecidableEq, Repr

/-- One call of the command line. -/
structure Invocation where
  action : Action
  /-- The file with the expected chips. -/
  configFile : Option String := none
  /-- The settings file. -/
  settings : Option String := none
  /-- The mount point of sysfs. -/
  sysfsRoot : Option String := none
  verbosity : Verbosity := .normal
  deriving DecidableEq, Repr

namespace Invocation

/-- The source of the configuration. -/
def source (invocation : Invocation) (settings : Settings) : ConfigSource :=
  match invocation.configFile with
  | some argument => .ofArgument argument
  | none => .ofSettings settings

end Invocation
end Command
end I2cTopology
