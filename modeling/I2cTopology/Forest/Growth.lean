import I2cTopology.Forest.Basic

/-!
# Growing a forest

A scan finds a flat list of adapters, each of which knows the kernel id of its parent only. The forest
grows from its roots: a slot that is taken from the stack pulls its children out of the adapters that
still wait for a place and puts them on the stack in front of everything else. So slots come out in
pre-order.

The children of a slot are attached one after the other. Each goes to its place by kernel id, and the
siblings that share its output number are numbered anew, in that order.

A path that would grow too long is not given, neither to the adapter nor to anything below it.
-/

namespace I2cTopology
namespace Forest

/-- The path of a slot, as far as it fits. -/
inductive Stamp where
  | path (text : String)
  /-- The path is too long. -/
  | tooLong
  /-- The path of an adapter further up is too long. -/
  | buried
  deriving DecidableEq, Repr

/-- The path that a stamp gives, if it does. -/
def Stamp.path? : Stamp → Option String
  | path text => some text
  | tooLong => none
  | buried => none

/-- The stamp for a path, if it fits. -/
def Stamp.ofPath (text : String) : Stamp :=
  if text.utf8ByteSize ≤ maxPathLength then path text else tooLong

/-- A place that an adapter has taken, before the places without a path are cut away. -/
structure Slot where
  id : AdapterId
  depth : Nat
  parent : Option AdapterId
  ordinal : Option Nat
  stamp : Stamp
  deriving DecidableEq, Repr

/-- The segment that an adapter adds to the path of its parent. -/
def segment (adapter : Adapter) (ordinal : Nat) : String :=
  match adapter.channel with
  | some output => s!"{ordinal}.{output}"
  | none => toString adapter.nr

/-- Puts an item into its place among items in ascending order of their keys. -/
def insertByKey {α : Type} (key : α → UInt32) (item : α) : List α → List α
  | [] => [item]
  | other :: rest =>
    if key item ≤ key other then item :: other :: rest else other :: insertByKey key item rest

/-- The adapters by ascending kernel id. -/
def byNr (adapters : Array Adapter) (ids : List AdapterId) : List AdapterId :=
  ids.foldl (fun sorted id => insertByKey (fun other => (adapters[other]?.getD default).nr) id sorted) []

/-- Gives the siblings that share an output number the ordinals from `ordinal` on, in order. The other
siblings keep theirs. -/
def renumber (adapters : Array Adapter) (channel : Option UInt32) (ordinal : Nat) :
    List (AdapterId × Nat) → List (AdapterId × Nat)
  | [] => []
  | (id, kept) :: rest =>
    if (adapters[id]?.getD default).channel = channel then
      (id, ordinal) :: renumber adapters channel (ordinal + 1) rest
    else (id, kept) :: renumber adapters channel ordinal rest

/-- Puts an adapter into its place among its siblings and numbers the siblings anew that share its
output number. -/
def attach (adapters : Array Adapter) (siblings : List (AdapterId × Nat)) (id : AdapterId) :
    List (AdapterId × Nat) :=
  renumber adapters (adapters[id]?.getD default).channel 0
    (insertByKey (fun sibling => (adapters[sibling.1]?.getD default).nr) (id, 0) siblings)

/-- The stamp of a child with the given segment. -/
def Stamp.extend (stamp : Stamp) (segment : String) : Stamp :=
  match stamp with
  | path text => .ofPath (text ++ ":" ++ segment)
  | tooLong => buried
  | buried => buried

/-- The slot of a child. -/
def Slot.child (adapters : Array Adapter) (slot : Slot) (id : AdapterId) (ordinal : Nat) : Slot where
  id := id
  depth := slot.depth + 1
  parent := some slot.id
  ordinal := some ordinal
  stamp := slot.stamp.extend (segment (adapters[id]?.getD default) ordinal)

/-- The slots of the adapters that declare the adapter of `slot` as their parent. They are attached one
after the other, in discovery order. -/
def Slot.childSlots (adapters : Array Adapter) (slot : Slot) (taken : List AdapterId) : List Slot :=
  (taken.foldl (attach adapters) []).map fun (id, ordinal) => slot.child adapters id ordinal

/-- Does the adapter declare the given parent? -/
def declares (adapters : Array Adapter) (parent : DeclaredParent) (id : AdapterId) : Bool :=
  (adapters[id]?.getD default).declaredParent == parent

/-- Splits the waiting adapters into the children of the adapter with kernel id `nr` and the rest. -/
def takeChildren (adapters : Array Adapter) (nr : UInt32) (pending : List AdapterId) :
    List AdapterId × List AdapterId :=
  pending.partition (declares adapters (.adapter nr))

theorem length_takeChildren (adapters : Array Adapter) (nr : UInt32) (pending : List AdapterId) :
    (takeChildren adapters nr pending).1.length + (takeChildren adapters nr pending).2.length =
      pending.length := by
  rw [takeChildren, List.partition_eq_filter_filter]
  induction pending with
  | nil => rfl
  | cons id rest ih => by_cases h : declares adapters (.adapter nr) id <;> simp [h] at ih ⊢ <;> omega

theorem length_insertByKey {α : Type} (key : α → UInt32) (item : α) (items : List α) :
    (insertByKey key item items).length = items.length + 1 := by
  induction items with
  | nil => rfl
  | cons other rest ih =>
      rw [insertByKey]
      split
      · rfl
      · rw [List.length_cons, ih, List.length_cons]

theorem length_renumber (adapters : Array Adapter) (channel : Option UInt32) (ordinal : Nat)
    (siblings : List (AdapterId × Nat)) :
    (renumber adapters channel ordinal siblings).length = siblings.length := by
  induction siblings generalizing ordinal with
  | nil => rfl
  | cons sibling rest ih =>
      rw [renumber]
      split <;> simp [ih]

theorem length_childSlots (adapters : Array Adapter) (slot : Slot) (taken : List AdapterId) :
    (slot.childSlots adapters taken).length = taken.length := by
  have hattached : ∀ siblings : List (AdapterId × Nat),
      (taken.foldl (attach adapters) siblings).length = siblings.length + taken.length := by
    induction taken with
    | nil => intro siblings; rfl
    | cons id rest ih =>
        intro siblings
        rw [List.foldl_cons, ih, attach, length_renumber, length_insertByKey, List.length_cons]
        omega
  rw [Slot.childSlots, List.length_map, hattached]
  exact Nat.zero_add _

/-- A slot with the slots of its children. -/
structure Branch where
  slot : Slot
  children : List Slot
  deriving DecidableEq, Repr

/-- Grows everything below the slots on the stack from the adapters that wait for a place. The result
is the branches in pre-order and the adapters that still wait. -/
def grow (adapters : Array Adapter) : List Slot → List AdapterId → List Branch × List AdapterId
  | [], pending => ([], pending)
  | slot :: stack, pending =>
    let nr := (adapters[slot.id]?.getD default).nr
    let children := slot.childSlots adapters (takeChildren adapters nr pending).1
    let (branches, left) := grow adapters (children ++ stack) (takeChildren adapters nr pending).2
    (⟨slot, children⟩ :: branches, left)
termination_by stack pending => 2 * pending.length + stack.length
decreasing_by
  have h := length_takeChildren adapters (adapters[slot.id]?.getD default).nr pending
  simp only [List.length_append, List.length_cons, length_childSlots]
  omega

/-- The slot of a root. -/
def rootSlot (adapters : Array Adapter) (id : AdapterId) : Slot where
  id := id
  depth := 0
  parent := none
  ordinal := none
  stamp := .ofPath (toString (adapters[id]?.getD default).nr)

/-- The seat of a branch, if its slot has a path. Children without a path are cut away. -/
def Branch.seat? (branch : Branch) : Option Seat :=
  branch.slot.stamp.path?.map fun path =>
    { id := branch.slot.id
      depth := branch.slot.depth
      parent := branch.slot.parent
      ordinal := branch.slot.ordinal
      path := path
      children := (branch.children.filter (·.stamp.path?.isSome)).map Slot.id }

end Forest
end I2cTopology
