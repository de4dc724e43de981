import I2cTopology.System.Op

/-!
# Open adapters

The operations on one open adapter. Capabilities are asked for once and kept from then on, but only if
the adapter told them. Probing selects the address without force, so it leaves alone every address that
a driver owns, and then makes one transfer.
-/

namespace I2cTopology

/-- How to find out whether a chip answers at an address. -/
inductive ProbeMode where
  /-- A received byte in the address ranges of memory chips, a quick command elsewhere. -/
  | auto
  | quick
  | readByte
  deriving DecidableEq, Repr, Inhabited

namespace ProbeMode

/-- Is the address one at which memory chips sit? A quick command may corrupt such a chip. -/
def isMemoryAddress (address : UInt16) : Bool :=
  (0x30 ≤ address && address ≤ 0x37) || (0x50 ≤ address && address ≤ 0x5f)

/-- The mode with the choice made for an address. -/
def forAddress (mode : ProbeMode) (address : UInt16) : ProbeMode :=
  match mode with
  | auto => if isMemoryAddress address then readByte else quick
  | chosen => chosen

/-- The name of a mode in a message. -/
def name : ProbeMode → String
  | auto => "Auto"
  | quick => "Quick"
  | readByte => "ReadByte"

/-- The capability that a mode uses. -/
def needed : ProbeMode → Functionality
  | readByte => Functionality.readByte
  | _ => Functionality.quick

/-- The transfer that a mode makes. -/
def transfer : ProbeMode → DeviceRequest
  | readByte => .receiveByte
  | _ => .quick false

end ProbeMode

/-- What probing an address showed. -/
inductive ProbeOutcome where
  /-- A chip answered. -/
  | present
  /-- Nothing answered. -/
  | absent
  /-- A driver owns the address. -/
  | busy
  deriving DecidableEq, Repr, Inhabited

/-- The name of an outcome. -/
def ProbeOutcome.name : ProbeOutcome → String
  | present => "Present"
  | absent => "Absent"
  | busy => "Busy"

/-- Is the address one that a probe may target? -/
def isProbeAddress (address : UInt16) : Bool :=
  0x01 ≤ address && address ≤ 0x7f

namespace Handle

variable {σ : Type}

/-- Asks an open adapter. -/
def ask (request : DeviceRequest) : Act Handle (Except ErrorNumber request.Reply) :=
  Act.getState.bind fun handle => Act.query (.request handle.file request)

/-- Asks an open adapter, where a refusal is a failure of the operation. -/
def require (request : DeviceRequest) : Op Handle request.Reply :=
  ExceptT.mk do
    let handle ← Act.getState
    match ← ask request with
    | .ok reply => return .ok reply
    | .error number => return .error (.device request handle.nr number)

/-- The capabilities of the adapter, asked for once. -/
def functionality : Op Handle Functionality := do
  let handle ← Op.getState
  match handle.capabilities with
  | some known => return known
  | none =>
    let word : UInt64 ← require .capabilities
    let capabilities := Functionality.ofWord word
    Op.modifyState fun handle => { handle with capabilities := some capabilities }
    return capabilities

/-- A timeout in units of ten milliseconds, rounded to nearest; none if nothing is left. The sum that
rounds stays within 32 bits. -/
def timeoutUnits? (milliseconds : UInt32) : Option Nat :=
  let units := min (milliseconds.toNat + 5) (UInt32.size - 1) / 10
  if units = 0 then none else some units

/-- Sets the timeout of the adapter. -/
def setTimeout (milliseconds : UInt32) : Op Handle Unit := do
  match timeoutUnits? milliseconds with
  | none => throw (.invalidTimeout milliseconds)
  | some units =>
    let _ ← require (.setTimeout units)
    return ()

/-- Sets how often the adapter tries a transfer again. A count of more than 31 bits is refused without
asking. -/
def setRetries (count : UInt32) : Op Handle Unit := do
  let request := DeviceRequest.setRetries count.toNat
  if count < 0x80000000 then
    let _ ← require request
    return ()
  else
    let handle ← Op.getState
    throw (.device request handle.nr .invalidArgument)

/-- Selects the chip that transfers talk to. -/
def select (address : UInt16) (force : Bool) : Op Handle Unit := do
  let _ ← require (.select address force)
  return ()

/-- Transfers a quick command. -/
def writeQuick (bit : Bool) : Act Handle (Except ErrorNumber Unit) :=
  ask (.quick bit)

/-- Receives a byte. -/
def readByte : Act Handle (Except ErrorNumber UInt8) :=
  ask .receiveByte

/-- The answer to a transfer, its reply left out, as a message names it. -/
def showAnswer : Except ErrorNumber Unit → String
  | .ok _ => "Ok(())"
  | .error number => s!"Err({number.symbol})"

/-- Makes the transfer of a mode and tells whether it was acknowledged. -/
def transfer (mode : ProbeMode) : Act Handle (Except ErrorNumber Unit) := do
  match ← ask mode.transfer with
  | .ok _ => return .ok ()
  | .error number => return .error number

/-- Finds out whether a chip answers at an address. -/
def probe (address : UInt16) (mode : ProbeMode) : Op Handle ProbeOutcome := do
  if !isProbeAddress address then
    throw (.invalidAddress address)
  let capabilities ← functionality
  let mode := mode.forAddress address
  let handle ← Op.getState
  if !capabilities.contains mode.needed then
    Op.report .warn .handle
      s!"i2c-{handle.nr}: adapter does not advertise {mode.needed.display}"
  match ← Op.ofAct (ask (.select address false)) with
  | .error number =>
    if number = .busy then return .busy
    else throw (.device (.select address false) handle.nr number)
  | .ok _ =>
    let answer ← Op.ofAct (transfer mode)
    Op.report .debug .handle
      (s!"i2c-{handle.nr}: probe 0x{Numeral.hexadecimal 2 address.toNat} with {mode.name}: " ++
        showAnswer answer)
    match answer with
    | .ok _ => return .present
    | .error _ => return .absent

/-- Probes addresses in order, up to the first failure. -/
def probeAll (mode : ProbeMode) : List UInt16 → Op Handle (List (UInt16 × ProbeOutcome))
  | [] => return []
  | address :: rest => do
    let outcome ← probe address mode
    let others ← probeAll mode rest
    return (address, outcome) :: others

/-- The addresses of a full probe. -/
def gridAddresses : List UInt16 :=
  (List.range 0x70).map fun offset => UInt16.ofNat (0x08 + offset)

/-- Opens a device file. If its identity is known, the file must still be the one it was; the identity
that the file has now is handed back in any case but that. -/
def openAt (path : FilePath) (nr : UInt32) (known : Option FileIdentity) :
    Act σ (Except Failure Handle × Option FileIdentity) := do
  match ← Act.query (.deviceIdentity path) with
  | .error failure => return (.error (.file s!"stat {path.text}" failure), known)
  | .ok current =>
    if known.any (· ≠ current) then
      Act.report .warn .handle s!"{path.text} changed since the last scan"
      return (.error (.staleHandle nr), known)
    else
      match ← Act.query (.openDevice path) with
      | .error failure => return (.error (.file s!"opening {path.text}" failure), some current)
      | .ok file =>
        Act.report .debug .handle s!"opened {path.text}"
        return (.ok { nr := nr, file := file }, some current)

end Handle
end I2cTopology
