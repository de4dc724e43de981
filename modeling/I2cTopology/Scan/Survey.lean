import I2cTopology.Scan.Names
import I2cTopology.Settings.Basic
import I2cTopology.System.Op

/-!
# Scanning sysfs

Adapters are found through the `i2c-N` links of one directory, and the directory behind a link tells
where the adapter sits:

* directly in the directory of another adapter, whose child it is;
* in the directory of a multiplexer chip, to which its `mux_device` link leads; then it is a child of
  the adapter that holds the chip, and the `channel-K` link of the chip that leads back gives its output
  number;
* anywhere else, as a root.

A channel may also tell its output number by its name. Chips are the `N-AAAA` directories in the
directory of adapter N. An adapter or chip that cannot be read is reported and left out.
-/

namespace I2cTopology
namespace Scan

variable {σ : Type}

/-- Why an adapter or a chip is left out. -/
inductive SkipReason where
  | badName
  | unresolvable (path : FilePath) (failure : FileFailure)
  | noName
  deriving DecidableEq, Repr

/-- The reason in words. -/
def SkipReason.message : SkipReason → String
  | badName => "not an i2c-N entry"
  | unresolvable path failure => s!"cannot resolve {path.text}: {failure.message}"
  | noName => "no name attribute"

/-- Fails unless there is a directory at the mount point and, if asked, a sysfs file system. -/
def checkMount (root : FilePath) (verify : Bool) : Op σ Unit := do
  if !(← Op.query (.isDirectory root)) then
    throw (.sysfsMissing root)
  if verify then
    if !(← Op.query (.isSysfs root)) then
      throw (.sysfsMissing root)

/-- The name of what a link leads to. -/
def linkName? (dir : FilePath) (name : String) : Act σ (Option String) := do
  let target ← Act.query (.linkTarget dir name)
  return target.bind FilePath.fileName?

/-- The output number of an adapter, from the links of its multiplexer chip. -/
def outputOf? (chip adapter : FilePath) : Act σ (Option UInt32) := do
  match ← Act.entries chip with
  | .error _ => return none
  | .ok names =>
    Act.findSome? (fun name => do
      match outputNr? name with
      | none => return none
      | some output =>
        match ← Act.query (.canonical (chip.join name)) with
        | .ok target => return if target.sameAs adapter then some output else none
        | .error _ => return none) names

/-- The parent that the places of an adapter and of its multiplexer chip tell. -/
def parentOf (parentName : Option String) (chip : Option FilePath) : DeclaredParent :=
  match parentName.bind adapterNr? with
  | some nr => .adapter nr
  | none =>
    match (chip.bind FilePath.parentName?).bind adapterNr? with
    | some nr => .adapter nr
    | none => .root

/-- The output number of an adapter, from its name or from its multiplexer chip. -/
def channelOf (nr : UInt32) (name : String) (chip : Option FilePath) (location : FilePath) :
    Act σ (Option UInt32) := do
  match muxName? name with
  | some (_, output) => return some output
  | none =>
    match chip with
    | some chip => outputOf? chip location
    | none =>
      if mentionsMux name then
        Act.report .info .scan
          s!"i2c-{nr}: unrecognized mux name {Text.quoted name}, treating as plain adapter"
      return none

/-- An optional number as a message names it. -/
def showChannel : Option UInt32 → String
  | some output => s!"Some({output})"
  | none => "None"

/-- Reads the adapter behind a link with the given name. -/
def readAdapter (settings : Settings) (link : FilePath) (entry : String) :
    Act σ (Except SkipReason Adapter) := do
  match adapterNr? entry with
  | none => return .error .badName
  | some nr =>
    match ← Act.query (.canonical link) with
    | .error failure => return .error (.unresolvable link failure)
    | .ok location =>
      match ← Act.query (.readAttribute location "name") with
      | none => return .error .noName
      | some name =>
        let chip := match ← Act.query (.canonical (location.join "mux_device")) with
          | .ok chip => some chip
          | .error _ => none
        let parentName := location.parentName?
        let parent := parentOf parentName chip
        let channel ← channelOf nr name chip location
        let subsystem ← linkName? location "subsystem"
        let identity ← Act.query (.identity (settings.deviceFile nr))
        Act.report .debug .scan
          (s!"i2c-{nr}: parent {parent.display}, channel {showChannel channel}, " ++ location.text)
        return .ok {
          nr := nr
          declaredParent := parent
          channel := channel
          name := some name
          location := location
          subsystem := subsystem
          parentName := parentName
          identity := identity }

/-- Reads the adapter behind one entry of the directory of links, or reports why it is left out. -/
def surveyAdapter (settings : Settings) (dir : FilePath) (entry : String) :
    Act σ (Option Adapter) := do
  match ← readAdapter settings (dir.join entry) entry with
  | .ok adapter => return some adapter
  | .error reason =>
    Act.report .info .scan s!"skipping adapter {entry}: {reason.message}"
    return none

/-- Reads the chip in a directory. -/
def readChip (path : FilePath) (address : UInt16) (bus : BusDescriptor) (adapter : AdapterId) :
    Act σ (Except SkipReason Chip) := do
  match ← Act.query (.canonical path) with
  | .error failure => return .error (.unresolvable path failure)
  | .ok location =>
    match ← Act.query (.readAttribute path "name") with
    | none => return .error .noName
    | some name =>
      let (driver, module) ← if isDummy name then pure (none, none) else do
        let driver ← linkName? path "driver"
        let module ← linkName? (path.join "driver") "module"
        pure (driver, module)
      let subsystem ← linkName? path "subsystem"
      return .ok {
        address := address
        bus := bus
        name := some name
        driver := driver
        module := module
        subsystem := subsystem
        location := location
        adapter := adapter }

/-- Reads the chip behind one entry of an adapter's directory, or reports why it is left out. -/
def surveyChip (dir : FilePath) (bus : BusDescriptor) (id : AdapterId) (entry : String) :
    Act σ (Option Chip) := do
  match chipAddress? bus.nr entry with
  | none => return none
  | some address =>
    match ← readChip (dir.join entry) address bus id with
    | .ok chip => return some chip
    | .error reason =>
      Act.report .info .scan s!"skipping device {entry}: {reason.message}"
      return none

/-- The chips of a placed adapter. -/
def surveyChips (forest : Forest) (id : AdapterId) : Act σ (List Chip) := do
  let adapter := forest.adapter id
  match ← Act.entries adapter.location with
  | .error failure =>
    Act.report .info .scan s!"i2c-{adapter.nr}: cannot list devices: {failure.message}"
    return []
  | .ok names =>
    let bus : BusDescriptor := ⟨adapter.kind, adapter.nr, forest.path id⟩
    Act.filterMap (surveyChip adapter.location bus id) names

/-- Attaches to each of the given adapters its chips. -/
def attachChips : List AdapterId → Forest → Act σ Forest
  | [], forest => return forest
  | id :: rest, forest => do
    let chips ← surveyChips forest id
    attachChips rest (forest.setChips id chips)

/-- Is the entry one that ought to be an adapter? -/
def isAdapterEntry (entry : String) : Bool :=
  (after? "i2c-" entry).isSome

/-- Scans sysfs: the forest of adapters with the chips on them. -/
def scan (settings : Settings) : Op σ Forest := do
  checkMount settings.sysfsRoot settings.verifySysfs
  let dir := settings.devicesDir
  let names ← Op.ofFile s!"listing {dir.text}" (← Op.ofAct (Act.entries dir))
  let adapters ← Op.ofAct
    (Act.filterMap (surveyAdapter settings dir) (names.filter isAdapterEntry))
  match Forest.construct adapters settings.orphans with
  | .error fault => throw (.topology fault)
  | .ok built =>
    Op.ofAct (Act.reportAll built.notices)
    let forest ← Op.ofAct (attachChips (built.forest.seats.map Seat.id) built.forest)
    Op.report .info .scan
      (s!"found {forest.size} adapters and {forest.chips.length} devices under " ++
        settings.sysfsRoot.text)
    return forest

end Scan
end I2cTopology
