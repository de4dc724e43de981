import I2cTopology.Command.Grammar
import I2cTopology.Command.Task
import I2cTopology.Context.Control
import I2cTopology.Context.Handles
import I2cTopology.Report.Grid
import I2cTopology.Report.Listing
import I2cTopology.Settings.Source

/-!
# Performing an invocation

An invocation loads its settings and scans once before its action. Loading the kernel module is the one
action that needs no scan.
-/

namespace I2cTopology
namespace Command

variable {σ : Type}

/-- The settings of an invocation: those of its file or the defaults, and then its own mount point. -/
def Invocation.loadSettings (invocation : Invocation) : Op σ Settings := do
  let settings ← match invocation.settings with
    | some file => Settings.load ⟨file⟩
    | none => pure {}
  match invocation.sysfsRoot with
  | some root => return settings.withSysfsRoot ⟨root⟩
  | none => return settings

/-- The installed forest. -/
def forest : Task Context Forest :=
  Task.ofOp .plain Context.tree

/-- The adapter that a path selects. -/
def select (path : String) : Task Context AdapterId :=
  Task.ofOp (.selection path) (Context.adapter path)

/-! ## Listings -/

/-- Shows the forest, one adapter, or one adapter with everything below it. -/
def showTree (verbosity : Verbosity) (path : Option String) (below : Bool) : Task Context Unit := do
  let forest ← forest
  let nodes ← match path with
    | none => pure forest.preorder
    | some path => do
      let id ← select path
      pure (if below then forest.subtree id else [(0, id)])
  Task.ofAct (printLines (Report.treeLines forest nodes verbosity.showsDetail))
  let leftOut := forest.unplaced.length
  if leftOut ≠ 0 then
    Task.ofAct (printStatus verbosity s!"{leftOut} adapter(s) could not be placed in the tree")

/-- Lists the chips that were found, everywhere or on one adapter. -/
def showDevices (verbosity : Verbosity) (path : Option String) : Task Context Unit := do
  let forest ← forest
  let configured := forest.configuredPlaces (← Task.ofOp .plain Context.configuration)
  let chips ← match path with
    | none => pure forest.chips
    | some path => do
      let id ← select path
      pure (forest.adapter id).chips
  if chips.isEmpty then
    Task.ofAct (printStatus verbosity "no devices")
  Task.ofAct (printLines (Report.chipLines chips configured verbosity.showsDetail))

/-- Lists the expected chips and what became of them. -/
def showConfig (verbosity : Verbosity) : Task Context Unit := do
  let entries ← Task.ofOp .plain Context.configuration
  if entries.isEmpty then
    Task.ofAct (printStatus verbosity "no chips configured")
  Task.ofAct (printLines (Report.configLines entries))

/-- Shows how a path is read and where it leads. -/
def showPath (verbosity : Verbosity) (text : String) : Task Context Unit := do
  match BusPath.parse text with
  | .error refusal => throw (.plain (.path refusal))
  | .ok path =>
    Task.ofAct (printDetail verbosity s!"{path.depth} token(s)")
    Task.ofAct (printLines (Report.tokenLines path))
    let forest ← forest
    match forest.resolveTokens? path with
    | none => throw (.nowhere path)
    | some id =>
      let nr := (forest.adapter id).nr
      Task.ofAct (printLines [s!"-> i2c-{nr} ({forest.path id})"])

/-! ## Adapters -/

/-- Probes one address of an open adapter, or all of them. -/
def probeHandle (verbosity : Verbosity) (address : Option UInt16) (mode : ProbeMode)
    (timeout : UInt32) : Op Handle Unit := do
  Handle.setTimeout timeout
  match address with
  | some address =>
    let outcome ← Handle.probe address mode
    let shown := Numeral.hexadecimal 2 address.toNat
    Op.ofAct (printLines [s!"0x{shown}: {outcome.name}"])
  | none =>
    ExceptT.mk (timed verbosity "probe" (ExceptT.run do
      let results ← Handle.probeAll mode Handle.gridAddresses
      Op.ofAct (printLines (Report.gridLines results))))

/-- Lists the capabilities of an open adapter. -/
def showCapabilities (verbosity : Verbosity) : Op Handle Unit := do
  let set ← Handle.functionality
  let bits := Numeral.hexadecimal 8 set.bits.toNat
  Op.ofAct (printDetail verbosity s!"raw functionality: 0x{bits}")
  Op.ofAct (printLines (Report.flagLines set))

/-- Uses the handle of the adapter at a path, and then prints how that ended. -/
def setOn (verbosity : Verbosity) (path status : String) (use : Op Handle Unit) :
    Task Context Unit := do
  Task.ofOp .plain (Context.withHandle path use)
  Task.ofAct (printStatus verbosity status)

/-! ## Changes -/

/-- Scans again, from one round to the last. -/
def rescanRounds (verbosity : Verbosity) (rounds : Nat) : Nat → Task Context Unit
  | 0 => return ()
  | left + 1 => do
    let round := rounds - left
    Task.ofOp (.rescan round rounds)
      (ExceptT.mk (timed verbosity s!"rescan {round}" Context.rescan.run))
    rescanRounds verbosity rounds left

/-- Scans again and again, and then counts what is there. -/
def rescan (verbosity : Verbosity) (rounds : Nat) : Task Context Unit := do
  rescanRounds verbosity rounds rounds
  let forest ← forest
  let done := (← Task.ofAct Act.getState).rescans
  Task.ofAct (printStatus verbosity
    s!"{done} rescan(s): {forest.size} adapters, {forest.chips.length} devices")

/-- Adds every expected chip that is missing. -/
def addChips (verbosity : Verbosity) : Task Context Unit := do
  let added ← Task.ofOp .plain Context.initializeAll
  Task.ofAct (printStatus verbosity s!"requested {added} chip(s)")
  showConfig verbosity

/-- Removes expected chips, everywhere or on one adapter. -/
def removeChips (verbosity : Verbosity) (path : Option String) : Task Context Unit := do
  let removed ← match path with
    | none => Task.ofOp .plain Context.removeAll
    | some path => do
      let removed ← Task.ofOp .plain (Context.removeOn path Context.ampleRounds)
      pure (removed.getD Context.ampleRounds)
  Task.ofAct (printStatus verbosity s!"removed {removed} chip(s)")

/-- Loads the kernel module for the device files. -/
def loadModule (verbosity : Verbosity) (settings : Settings) : Task σ Unit := do
  let name := settings.kernelModule
  let loaded ← Task.ofOp .plain (Context.loadKernelModule settings)
  Task.ofAct (printStatus verbosity
    (if loaded then s!"loaded {name}" else s!"{name} already loaded"))

/-! ## Invocations -/

/-- Performs an action after the first scan. -/
def Action.perform (verbosity : Verbosity) (settings : Settings) : Action → Task Context Unit
  | .tree place below => showTree verbosity place below
  | .devices place => showDevices verbosity place
  | .config => showConfig verbosity
  | .path text => showPath verbosity text
  | .probe place address mode limit =>
    Task.ofOp .plain (Context.withHandle place (probeHandle verbosity address mode limit))
  | .funcs place => Task.ofOp .plain (Context.withHandle place (showCapabilities verbosity))
  | .timeout place milliseconds =>
    setOn verbosity place s!"timeout of {place} set to {milliseconds} ms"
      (Handle.setTimeout milliseconds)
  | .retries place count =>
    setOn verbosity place s!"retries of {place} set to {count}" (Handle.setRetries count)
  | .rescan rounds => Command.rescan verbosity rounds.toNat
  | .init => addChips verbosity
  | .remove place => removeChips verbosity place
  | .kmod => loadModule verbosity settings

/-- Does the action start from a scan? -/
def Action.needsScan : Action → Bool
  | kmod => false
  | _ => true

/-- Performs an invocation in a context of its own. -/
def Invocation.perform (invocation : Invocation) : Task Context Unit := do
  let verbosity := invocation.verbosity
  let settings ← Task.ofOp .plain invocation.loadSettings
  Task.ofAct (printDetail verbosity s!"sysfs root: {settings.sysfsRoot.text}")
  Task.ofAct (Act.modifyState fun _ => Context.fresh settings)
  if invocation.action.needsScan then
    Task.ofOp .discovery
      (ExceptT.mk (timed verbosity "initial scan" (Context.init (invocation.source settings)).run))
  invocation.action.perform verbosity settings

end Command
end I2cTopology
