import I2cTopology.KernelIndex

/-!
# The adapter forest

The forest of a machine's adapters, kept as the list of its seats in pre-order: parents before
children, siblings by ascending kernel id. The seats below a seat are therefore the run of deeper
seats that follows it.
-/

namespace I2cTopology

/-- The place of one adapter in the forest. -/
structure Seat where
  id : AdapterId
  /-- The number of adapters above this one. -/
  depth : Nat
  parent : Option AdapterId
  /-- The number of siblings with the same output number and a smaller kernel id. Roots have none. Siblings
  without a seat are counted too, but their own numbers are not kept. -/
  ordinal : Option Nat
  path : String
  /-- The adapters right below this one, by ascending kernel id. -/
  children : List AdapterId
  deriving DecidableEq, Repr, Inhabited

/-- What happens to adapters whose parents were not found. -/
inductive OrphanPolicy where
  /-- They are left out of the forest, with a warning. -/
  | warn
  /-- There is no forest. -/
  | strict
  deriving DecidableEq, Repr, Inhabited

/-- The adapters of a machine and their places. -/
structure Forest where
  /-- Every adapter that was found, in discovery order. -/
  adapters : Array Adapter
  /-- The placed adapters in pre-order. -/
  seats : List Seat
  /-- The adapters that were left out. -/
  unplaced : List AdapterId
  /-- The placed adapters by kernel id. -/
  index : KernelIndex
  deriving Repr, Inhabited

namespace Forest

/-- The longest path that an adapter is given, in bytes. -/
def maxPathLength : Nat := 255

/-- The forest of no adapters. -/
def empty : Forest := ⟨#[], [], [], .empty⟩

/-- The adapter with the given position in discovery order. -/
def adapter (forest : Forest) (id : AdapterId) : Adapter :=
  forest.adapters[id]?.getD default

/-- The place of an adapter, if it has one. -/
def seat? (forest : Forest) (id : AdapterId) : Option Seat :=
  forest.seats.find? (·.id == id)

/-- The path of an adapter, empty if it has no place. -/
def path (forest : Forest) (id : AdapterId) : String :=
  ((forest.seat? id).map Seat.path).getD ""

/-- The adapters right below an adapter. -/
def children (forest : Forest) (id : AdapterId) : List AdapterId :=
  ((forest.seat? id).map Seat.children).getD []

/-- The adapters without a parent, by ascending kernel id. -/
def roots (forest : Forest) : List AdapterId :=
  (forest.seats.filter (·.depth == 0)).map Seat.id

/-- Every placed adapter with its depth, in pre-order. -/
def preorder (forest : Forest) : List (Nat × AdapterId) :=
  forest.seats.map fun seat => (seat.depth, seat.id)

/-- The run of seats that starts with the given adapter and goes on while the seats are deeper. -/
def limb : AdapterId → List Seat → List Seat
  | _, [] => []
  | id, seat :: rest =>
    if seat.id == id then seat :: rest.takeWhile fun below => seat.depth < below.depth
    else limb id rest

/-- An adapter and everything below it in pre-order, with depths counted from it. -/
def subtree (forest : Forest) (id : AdapterId) : List (Nat × AdapterId) :=
  let seats := limb id forest.seats
  let top := (seats.head?.map Seat.depth).getD 0
  seats.map fun seat => (seat.depth - top, seat.id)

/-- The placed adapter with the given kernel id. -/
def lookup? (forest : Forest) (nr : UInt32) : Option AdapterId :=
  forest.index.lookup? nr

/-- The number of placed adapters. -/
def size (forest : Forest) : Nat :=
  forest.index.size

/-- Every chip that was found, adapters in pre-order. -/
def chips (forest : Forest) : List Chip :=
  forest.seats.flatMap fun seat => (forest.adapter seat.id).chips

/-- Changes one adapter. -/
def modify (forest : Forest) (id : AdapterId) (change : Adapter → Adapter) : Forest :=
  { forest with adapters := forest.adapters.modify id change }

/-- Gives an adapter its chips, by ascending address. -/
def setChips (forest : Forest) (id : AdapterId) (chips : List Chip) : Forest :=
  forest.modify id fun adapter =>
    { adapter with chips := chips.mergeSort fun a b => a.address ≤ b.address }

end Forest
end I2cTopology
