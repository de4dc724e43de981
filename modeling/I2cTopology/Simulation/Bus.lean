import I2cTopology.Handle.Request
import I2cTopology.System.ErrorNumber

/-!
# A bus

What stands behind the device files of a simulated machine: which addresses acknowledge which transfer,
which addresses a driver owns, and which requests fail in any case. The address that is selected belongs
to the open file.
-/

namespace I2cTopology
namespace Simulation

/-- The chips behind the device files. -/
structure Bus where
  /-- The capabilities that every adapter reports. -/
  capabilities : UInt64
  /-- The addresses that acknowledge a quick command. -/
  quick : List Nat
  /-- The addresses that send a byte, with the byte. -/
  bytes : List (Nat × UInt8)
  /-- The addresses that cannot be selected without force, with the reason. -/
  owned : List (Nat × ErrorNumber)
  /-- The numbers of requests that fail, with the reason. -/
  failing : List (Nat × ErrorNumber)
  deriving Repr, Inhabited

namespace Bus

/-- How a request is answered while an address is selected, and the address that is selected then. -/
def answer (bus : Bus) (selected : Nat) (request : DeviceRequest) :
    Except ErrorNumber request.Reply × Nat :=
  match bus.failing.lookup request.number with
  | some number => (.error number, selected)
  | none =>
    match request with
    | .capabilities => (.ok bus.capabilities, selected)
    | .setTimeout _ => (.ok (), selected)
    | .setRetries _ => (.ok (), selected)
    | .select address force =>
      match force, bus.owned.lookup address.toNat with
      | false, some number => (.error number, selected)
      | _, _ => (.ok (), address.toNat)
    | .quick _ =>
      if bus.quick.contains selected then (.ok (), selected)
      else (.error .noDeviceOrAddress, selected)
    | .receiveByte =>
      match bus.bytes.lookup selected with
      | some byte => (.ok byte, selected)
      | none => (.error .noDeviceOrAddress, selected)

end Bus

/-- A request as the kernel sees it: its number and its argument, or the parts of a transfer. -/
def showRequest : DeviceRequest → String
  | .capabilities => "FUNCS"
  | .setTimeout units => s!"0702 {units}"
  | .setRetries count => s!"0701 {count}"
  | .select address false => s!"0703 {address}"
  | .select address true => s!"0706 {address}"
  | .quick bit => s!"SMBUS rw={bit.toNat} cmd=0 size=0 data=0"
  | .receiveByte => "SMBUS rw=1 cmd=0 size=1 data=1"

end Simulation
end I2cTopology
