/-!
# Device requests

What an open adapter can be asked. The numbers are those of the kernel interface.
-/

namespace I2cTopology

/-- A request to an open adapter. -/
inductive DeviceRequest where
  /-- The capabilities of the adapter, as a machine word. -/
  | capabilities
  /-- Sets the timeout, in units of ten milliseconds. -/
  | setTimeout (units : Nat)
  /-- Sets how often a transfer is tried again. -/
  | setRetries (count : Nat)
  /-- Selects the chip that transfers talk to. With force, also one that a driver owns. -/
  | select (address : UInt16) (force : Bool)
  /-- Transfers a quick command that carries one bit. -/
  | quick (bit : Bool)
  /-- Transfers a byte from the chip. -/
  | receiveByte
  deriving DecidableEq, Repr

namespace DeviceRequest

/-- What a request is answered with. -/
def Reply : DeviceRequest → Type
  | capabilities => UInt64
  | receiveByte => UInt8
  | _ => Unit

/-- The number of a request in the kernel interface. -/
def number : DeviceRequest → Nat
  | setRetries _ => 0x0701
  | setTimeout _ => 0x0702
  | select _ false => 0x0703
  | capabilities => 0x0705
  | select _ true => 0x0706
  | quick _ => 0x0720
  | receiveByte => 0x0720

/-- The symbol of a request in a message. -/
def symbol : DeviceRequest → String
  | setRetries _ => "I2C_RETRIES"
  | setTimeout _ => "I2C_TIMEOUT"
  | select _ false => "I2C_SLAVE"
  | capabilities => "I2C_FUNCS"
  | select _ true => "I2C_SLAVE_FORCE"
  | quick _ => "I2C_SMBUS"
  | receiveByte => "I2C_SMBUS"

/-- Does the request move data on the bus? -/
def isTransfer : DeviceRequest → Bool
  | quick _ => true
  | receiveByte => true
  | _ => false

end DeviceRequest
end I2cTopology
