import I2cTopology.ExpectedChip.Basic
import I2cTopology.Forest.Resolve
import I2cTopology.Journal
import I2cTopology.Text.Letters

/-!
# Expected chips and found chips

A found chip satisfies an entry if name, address and bus agree wherever the entry names them. Names and
paths are compared without regard to ASCII letter case.
-/

namespace I2cTopology

/-- Does a found chip satisfy an entry? A chip without a name satisfies every name. -/
def Chip.satisfies (chip : Chip) (entry : ExpectedChip) : Bool :=
  let nameAgrees := match entry.name, chip.name with
    | some expected, some name => Text.eqIgnoringCase expected name
    | _, _ => true
  let addressAgrees := match entry.address with
    | some expected => expected == chip.address
    | none => true
  let busAgrees := match entry.bus.path with
    | some expected => Text.eqIgnoringCase expected chip.bus.path
    | none => true
  nameAgrees && addressAgrees && busAgrees

/-- A found chip with an entry that it satisfies. -/
structure ConfiguredChip where
  adapter : AdapterId
  /-- The position in the adapter's list of chips. -/
  position : Nat
  /-- The position of the entry in the configuration. -/
  entry : Nat
  deriving DecidableEq, Repr, Inhabited

namespace Forest

/-- The adapter that an entry points at, if it exists. A path counts before a kernel id. -/
def entryAdapter? (forest : Forest) (entry : ExpectedChip) : Option AdapterId :=
  match entry.bus.path, entry.bus.nr with
  | some path, _ =>
    match forest.resolve path with
    | .ok found => found
    | .error _ => none
  | none, some nr => forest.lookup? nr
  | none, none => none

/-- The entry with its flags set to what the forest shows. -/
def reconcileEntry (forest : Forest) (entry : ExpectedChip) : ExpectedChip :=
  match forest.entryAdapter? entry with
  | none => { entry with available := false, matched := false }
  | some id =>
    { entry with
      available := true
      matched := (forest.adapter id).chips.any (·.satisfies entry) }

/-- The configuration with its flags set to what the forest shows. -/
def reconcile (forest : Forest) (entries : List ExpectedChip) : List ExpectedChip :=
  entries.map forest.reconcileEntry

/-- What is reported about an entry after its flags were set. -/
def reconcileNotice (entry : ExpectedChip) : Notice :=
  ⟨.debug, .matching, s!"{entry.origin.display}: {entry.display} " ++
    s!"available={entry.available} matched={entry.matched}"⟩

/-- The position of the last entry that a chip satisfies. -/
def lastSatisfied? (entries : List ExpectedChip) (chip : Chip) : Option Nat :=
  (entries.zipIdx.filter fun (entry, _) => chip.satisfies entry).getLast?.map Prod.snd

/-- The chips of one adapter that satisfy an entry, each with the last such entry. -/
def configuredOn (forest : Forest) (entries : List ExpectedChip) (id : AdapterId) :
    List ConfiguredChip :=
  (forest.adapter id).chips.zipIdx.filterMap fun (chip, position) =>
    (lastSatisfied? entries chip).map fun entry => ⟨id, position, entry⟩

/-- Every found chip that satisfies an entry, each with the last such entry. -/
def configuredChips (forest : Forest) (entries : List ExpectedChip) : List ConfiguredChip :=
  forest.seats.flatMap fun seat => forest.configuredOn entries seat.id

/-- The first chip of an adapter that satisfies an entry, with the first such entry. -/
def firstConfigured? (forest : Forest) (entries : List ExpectedChip) (id : AdapterId) :
    Option ConfiguredChip :=
  (forest.adapter id).chips.zipIdx.findSome? fun (chip, position) =>
    (entries.findIdx? chip.satisfies).map fun entry => ⟨id, position, entry⟩

/-- The configuration with the entry at one position marked as matched. -/
def markMatched (entries : List ExpectedChip) (position : Nat) : List ExpectedChip :=
  entries.modify position fun entry => { entry with matched := true }

/-- Looks for the first chip of an adapter that satisfies an entry, and marks the first such entry as
matched. Without such a chip the configuration stays as it is. -/
def claimFirst (forest : Forest) (entries : List ExpectedChip) (id : AdapterId) :
    Option ConfiguredChip × List ExpectedChip :=
  match forest.firstConfigured? entries id with
  | none => (none, entries)
  | some found => (some found, markMatched entries found.entry)

/-- The found chip that a position in an adapter's list stands for. -/
def chipAt (forest : Forest) (found : ConfiguredChip) : Chip :=
  (forest.adapter found.adapter).chips[found.position]?.getD default

/-- Where the chips are that satisfy an entry: their adapters and addresses. -/
def configuredPlaces (forest : Forest) (entries : List ExpectedChip) : List (AdapterId × UInt16) :=
  (forest.configuredChips entries).map fun found => (found.adapter, (forest.chipAt found).address)

end Forest
end I2cTopology
