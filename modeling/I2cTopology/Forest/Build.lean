import I2cTopology.Forest.Growth
import I2cTopology.Journal

/-!
# Building the forest

The forest of a list of adapters, or the fault in what they declare. Faults are looked for in this
order: a kernel id that occurs twice, declared parents that lead in a circle, and, where the policy
asks for it, an adapter that has no place.
-/

namespace I2cTopology

/-- Why the adapters of a machine form no forest. -/
inductive TopologyFault where
  /-- Two adapters share a kernel id. -/
  | duplicateNr (nr : UInt32)
  /-- The declared parents lead from this adapter back to it. -/
  | parentCycle (nr : UInt32)
  /-- An adapter has no place, and declares this parent. -/
  | orphaned (nr parent : UInt32)
  deriving DecidableEq, Repr

/-- The fault in words. -/
def TopologyFault.message : TopologyFault → String
  | duplicateNr nr => s!"duplicate adapter id i2c-{nr}"
  | parentCycle nr => s!"adapter i2c-{nr} is part of a parent cycle"
  | orphaned nr parent => s!"adapter i2c-{nr} declares missing parent i2c-{parent}"

namespace Forest

/-- The first adapter that a walk along declared parents meets twice. The walk starts at `id`, has
met the adapters `met`, and goes at most `steps` adapters far. -/
def firstRevisited? (parentOf : AdapterId → Option AdapterId) :
    Nat → List AdapterId → AdapterId → Option AdapterId
  | 0, _, _ => none
  | steps + 1, met, id =>
    if met.contains id then some id
    else (parentOf id).bind (firstRevisited? parentOf steps (id :: met))

/-- The adapter that an adapter declares as its parent, if it was found at all. -/
def declaredParent? (adapters : Array Adapter) (everyone : KernelIndex) (id : AdapterId) :
    Option AdapterId :=
  match (adapters[id]?.getD default).declaredParent with
  | .root => none
  | .adapter nr => everyone.lookup? nr

/-- An adapter on a circle of declared parents, if one of the given adapters leads into a circle. A
walk longer than the number of adapters meets one of them twice. -/
def cycle? (adapters : Array Adapter) (everyone : KernelIndex) (ids : List AdapterId) :
    Option AdapterId :=
  ids.findSome? (firstRevisited? (declaredParent? adapters everyone) (adapters.size + 1) [])

/-- The first adapter of a list that declares a parent, with that parent. -/
def orphan? (adapters : Array Adapter) (ids : List AdapterId) : Option (UInt32 × UInt32) :=
  ids.findSome? fun id =>
    let adapter := adapters[id]?.getD default
    match adapter.declaredParent with
    | .root => none
    | .adapter parent => some (adapter.nr, parent)

/-- A forest together with how it came about. -/
structure Built where
  forest : Forest
  /-- The adapters that hang off nothing. -/
  orphans : List AdapterId
  /-- The adapters whose own paths are too long. -/
  overlong : List AdapterId

/-- The kernel ids of adapters by their position. -/
def nrOf (adapters : Array Adapter) (id : AdapterId) : UInt32 :=
  (adapters[id]?.getD default).nr

/-- Builds the forest of adapters that are given in discovery order, and tells what was left out. -/
def construct (found : List Adapter) (policy : OrphanPolicy) : Except TopologyFault Built := do
  let adapters := found.toArray
  let ids := List.range found.length
  let everyone ← (KernelIndex.build (nrOf adapters) ids).mapError .duplicateNr
  let isRoot := declares adapters .root
  let rootSlots := (byNr adapters (ids.filter isRoot)).map (rootSlot adapters)
  let (branches, orphans) := grow adapters rootSlots (ids.filter fun id => !isRoot id)
  if let some id := cycle? adapters everyone orphans then
    throw (.parentCycle (nrOf adapters id))
  if policy = .strict then
    if let some (nr, parent) := orphan? adapters orphans then
      throw (.orphaned nr parent)
  let seats := branches.filterMap Branch.seat?
  let pathless := branches.filter (·.slot.stamp.path?.isNone)
  let index ← (KernelIndex.build (nrOf adapters) (seats.map Seat.id)).mapError .duplicateNr
  return {
    forest := {
      adapters := adapters
      seats := seats
      unplaced := orphans ++ pathless.map (·.slot.id)
      index := index }
    orphans := orphans
    overlong := (pathless.filter (·.slot.stamp = .tooLong)).map (·.slot.id) }

/-- Builds the forest of adapters that are given in discovery order. -/
def build (found : List Adapter) (policy : OrphanPolicy) : Except TopologyFault Forest :=
  (construct found policy).map Built.forest

/-- What is reported about an adapter that hangs off nothing. -/
def orphanNotice (forest : Forest) (id : AdapterId) : Option Notice :=
  let adapter := forest.adapter id
  match adapter.declaredParent with
  | .root => none
  | .adapter parent => some ⟨.warn, .tree,
      s!"adapter i2c-{adapter.nr} hangs off i2c-{parent} which is not in the tree; skipping"⟩

/-- What is reported about an adapter whose path is too long. -/
def overlongNotice (forest : Forest) (id : AdapterId) : Notice :=
  ⟨.warn, .tree,
    s!"path of adapter i2c-{(forest.adapter id).nr} exceeds {maxPathLength} bytes; " ++
      "dropping its subtree"⟩

/-- What is reported about a forest that was built. -/
def Built.notices (built : Built) : List Notice :=
  let forest := built.forest
  built.orphans.filterMap (orphanNotice forest) ++ built.overlong.map (overlongNotice forest) ++
    [⟨.debug, .tree, s!"built adapter tree: {forest.roots.length} roots, " ++
      s!"{forest.size} adapters, {forest.unplaced.length} unplaced"⟩]

end Forest
end I2cTopology
