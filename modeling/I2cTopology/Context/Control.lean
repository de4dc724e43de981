import I2cTopology.Context.Lifecycle

/-!
# Adding and removing chips

The kernel adds a chip when its name and address are written to the `new_device` attribute of an
adapter, and removes one when its address is written to `delete_device`. An operation on one chip leaves
the forest as it is; the operations on all configured chips scan again when they have changed something.
-/

namespace I2cTopology
namespace Context

/-- An address as it is written to a control attribute. -/
def showAddress (address : UInt16) : String :=
  "0x" ++ Numeral.hexadecimal 2 address.toNat

/-- Writes to a control attribute of an adapter. -/
def control (id : AdapterId) (name value : String) : Op Context Unit := do
  let adapter := (← Op.getState).forest.adapter id
  Op.report .info .control s!"i2c-{adapter.nr}: {name} <- {Text.quoted value}"
  Op.ofFile s!"writing {name} of i2c-{adapter.nr}"
    (← Op.query (.writeAttribute adapter.location name value))

/-- Is there a chip at an address of an adapter? -/
def isOccupied (id : AdapterId) (address : UInt16) : Op Context Bool := do
  let adapter := (← Op.getState).forest.adapter id
  Op.query (.present (adapter.location.join (Chip.directoryName adapter.nr address)))

/-- Adds a chip to an adapter. The result tells whether this was asked of the kernel: an address that
is occupied is left alone. -/
def instantiate (id : AdapterId) (name : String) (address : UInt16) : Op Context Bool := do
  if ExpectedChip.maxAddress < address then
    throw (.invalidAddress address)
  if ← isOccupied id address then
    let adapter := (← Op.getState).forest.adapter id
    Op.report .debug .control s!"i2c-{adapter.nr}: {showAddress address} already present"
    return false
  control id "new_device" s!"{name} {showAddress address}"
  return true

/-- Removes a chip from an adapter. The result tells whether this was asked of the kernel: an address
that is free is left alone. -/
def remove (id : AdapterId) (address : UInt16) : Op Context Bool := do
  if !(← isOccupied id address) then
    return false
  control id "delete_device" (showAddress address)
  return true

/-- Adds a chip to the adapter at a path. -/
def newDevice (path name : String) (address : UInt16) : Op Context Bool := do
  instantiate (← adapter path) name address

/-- Removes the chip at an address of the adapter at a path. -/
def deleteDevice (path : String) (address : UInt16) : Op Context Bool := do
  remove (← adapter path) address

/-- The name and the address of an entry, where it gives both. -/
def concrete (entry : ExpectedChip) : Except Failure (String × UInt16) :=
  match entry.name, entry.address with
  | none, _ => .error (.incompleteEntry entry.origin "name")
  | some _, none => .error (.incompleteEntry entry.origin "address")
  | some name, some address => .ok (name, address)

/-- Adds the chip of an entry to an adapter, if the entry gives its name and its address. -/
def instantiateEntry (id : AdapterId) (entry : ExpectedChip) : Op Context Bool :=
  match concrete entry with
  | .error failure => throw failure
  | .ok (name, address) => instantiate id name address

/-- Does the failure say that an entry leaves out a part? -/
def isIncomplete : Failure → Bool
  | .incompleteEntry _ _ => true
  | _ => false

/-- Adds the chip of one entry, and tells how many chips that makes. A failure is reported and counts
as none. -/
def instantiateConfigured (entry : ExpectedChip) : Op Context Nat := do
  match (← Op.getState).forest.entryAdapter? entry with
  | none => return 0
  | some id =>
    match ← Op.outcome (instantiateEntry id entry) with
    | .ok added => return if added then 1 else 0
    | .error failure =>
      if isIncomplete failure then
        Op.report .debug .control failure.message
      else
        Op.report .warn .control s!"{entry.origin.display}: {failure.message}"
      return 0

/-- Adds the chips of entries, and tells how many chips that makes. -/
def instantiateEach : List ExpectedChip → Op Context Nat
  | [] => return 0
  | entry :: rest => do
    let added ← instantiateConfigured entry
    let others ← instantiateEach rest
    return added + others

/-- Adds every configured chip that was not found although its adapter exists, and scans again if any
was added. The result is the number of chips. -/
def initializeAll : Op Context Nat := do
  ensureReady
  let entries := (← Op.getState).config.filter fun entry => entry.available && !entry.matched
  let added ← instantiateEach entries
  if 0 < added then
    rescan
  return added

/-- Removes one configured chip, and tells how many chips that makes. A failure is reported and counts
as none. -/
def removeConfigured (found : ConfiguredChip) : Op Context Nat := do
  let context ← Op.getState
  let address := (context.forest.chipAt found).address
  match ← Op.outcome (remove found.adapter address) with
  | .ok removed => return if removed then 1 else 0
  | .error failure =>
    let origin := (context.config[found.entry]?.getD default).origin
    Op.report .warn .control s!"{origin.display}: {failure.message}"
    return 0

/-- Removes configured chips, and tells how many chips that makes. -/
def removeEach : List ConfiguredChip → Op Context Nat
  | [] => return 0
  | found :: rest => do
    let removed ← removeConfigured found
    let others ← removeEach rest
    return removed + others

/-- Removes every chip that satisfies an entry, and scans again if any was removed. The result is the
number of chips. -/
def removeAll : Op Context Nat := do
  ensureReady
  let context ← Op.getState
  let removed ← removeEach (context.forest.configuredChips context.config)
  if 0 < removed then
    rescan
  return removed

/-- Removes the configured chips of the adapter at a path one by one and scans after each, for at most
the given number of rounds. `last` is the address of the round before, and `removed` counts the chips so
far. A chip that is still there after its removal ends the work. The result is none if the rounds were
not enough. -/
def removeRounds (path : String) : Nat → Option UInt16 → Nat → Op Context (Option Nat)
  | 0, _, _ => return none
  | rounds + 1, last, removed => do
    let id ← adapter path
    let context ← Op.getState
    match context.forest.firstConfigured? context.config id with
    | none => return some removed
    | some found =>
      Op.modifyState fun context =>
        { context with config := Forest.markMatched context.config found.entry }
      let address := (context.forest.chipAt found).address
      if last = some address then
        let nr := (context.forest.adapter id).nr
        Op.report .warn .control s!"i2c-{nr}: {showAddress address} survived removal"
        return some removed
      else
        let gone ← remove id address
        rescan
        removeRounds path rounds (some address) (if gone then removed + 1 else removed)

/-- Removes the configured chips of the adapter at a path, in at most the given number of rounds. The
result is the number of chips. -/
def removeOn (path : String) (rounds : Nat) : Op Context (Option Nat) :=
  removeRounds path rounds none 0

/-- The rounds that are spent on one adapter. An adapter has no more addresses than this, so a machine
on which chips go away when they are removed needs fewer. -/
def ampleRounds : Nat := 0x20000

/-- Makes sure that the module for the device files is loaded. The result tells whether it had to be. -/
def loadKernelModule {σ : Type} (settings : Settings) : Op σ Bool := do
  let loaded : Bool ← Op.query (.isDirectory settings.deviceClassDir)
  if loaded then
    return false
  let name := settings.kernelModule
  Op.report .info .control s!"loading kernel module {name}"
  match ← Op.query (.loadModule name) with
  | .error failure => throw (.moduleLoad name failure.message)
  | .ok status =>
    if status = 0 then return true
    else throw (.moduleLoad name s!"exit status: {status}")

end Context
end I2cTopology
