import I2cTopology.BusPath.Reading
import I2cTopology.ExpectedChip.Basic
import I2cTopology.Forest.Build
import I2cTopology.Handle.Request
import I2cTopology.System.ErrorNumber

/-!
# Failures

Every way in which an operation can fail, with its wording. A path that names no adapter is no failure
of a look-up.
-/

namespace I2cTopology

/-- Why an operation failed. -/
inductive Failure where
  /-- A text is no adapter path. -/
  | path (refusal : BusPath.Malformed)
  /-- A settings file is not well formed. -/
  | settings (location : FilePath)
  /-- There is no forest yet. -/
  | notReady
  /-- A scan is going on. -/
  | busy
  /-- The adapters form no forest. -/
  | topology (fault : TopologyFault)
  /-- A device file was replaced. -/
  | staleHandle (nr : UInt32)
  /-- A path names no adapter. -/
  | noAdapter (path : String)
  /-- An address that no chip can be probed at, or have. -/
  | invalidAddress (address : UInt16)
  /-- A timeout that rounds to nothing. -/
  | invalidTimeout (milliseconds : UInt32)
  /-- An entry leaves out a part that is needed. -/
  | incompleteEntry (origin : Origin) (missing : String)
  /-- There is no sysfs at the mount point. -/
  | sysfsMissing (root : FilePath)
  /-- A file operation failed. -/
  | file (doing : String) (failure : FileFailure)
  /-- A request to an adapter failed. -/
  | device (request : DeviceRequest) (nr : UInt32) (number : ErrorNumber)
  /-- The kernel module could not be loaded. -/
  | moduleLoad (name reason : String)
  deriving DecidableEq, Repr

namespace Failure

/-- The failure in words. -/
def message : Failure → String
  | path refusal => refusal.message
  | settings location => s!"invalid settings in {location.text}"
  | notReady => "i2c discovery context is not initialized"
  | busy => "i2c discovery context is busy rescanning"
  | topology fault => fault.message
  | staleHandle nr => s!"/dev/i2c-{nr} changed since the last scan"
  | noAdapter text => s!"no such adapter: {text}"
  | invalidAddress address =>
    s!"invalid chip address 0x{Numeral.hexadecimal 2 address.toNat}"
  | invalidTimeout milliseconds => s!"invalid adapter timeout of {milliseconds} ms"
  | incompleteEntry origin missing =>
    s!"config entry at {origin.display} is not concrete: missing {missing}"
  | sysfsMissing root => s!"sysfs not found at {root.text}"
  | file doing failure => s!"{doing}: {failure.message}"
  | device request nr number =>
    s!"{request.symbol} on i2c-{nr} failed: {number.deviceMessage}"
  | moduleLoad name reason => s!"failed to load kernel module {name}: {reason}"

/-- The words of what lies behind a failure, where something does. -/
def cause? : Failure → Option String
  | file _ failure => some failure.message
  | device _ _ number => some number.deviceMessage
  | _ => none

/-- Does the failure say that the adapters form no forest? -/
def isConsistency : Failure → Bool
  | topology _ => true
  | _ => false

end Failure

end I2cTopology
