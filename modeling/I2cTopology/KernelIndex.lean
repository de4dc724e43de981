import I2cTopology.Adapter

/-!
# Adapters by kernel id

An index from kernel ids to adapters. It is built once, by sorting, and refuses a kernel id that
occurs twice; looking up is a binary search.
-/

namespace I2cTopology

/-- Adapters in ascending order of their kernel ids. -/
structure KernelIndex where
  entries : Array (UInt32 × AdapterId)
  deriving Repr, Inhabited

namespace KernelIndex

/-- The index of nothing. -/
def empty : KernelIndex := ⟨#[]⟩

/-- The first kernel id of a sorted list that the entry after it repeats. -/
def repeated? : List (UInt32 × AdapterId) → Option UInt32
  | (a, _) :: (b, id) :: rest => if a = b then some a else repeated? ((b, id) :: rest)
  | _ => none

/-- Indexes adapters by kernel id. If kernel ids repeat, the smallest repeated one is the error. -/
def build (nrOf : AdapterId → UInt32) (ids : List AdapterId) : Except UInt32 KernelIndex :=
  let sorted := (ids.map fun id => (nrOf id, id)).mergeSort fun a b => a.1 ≤ b.1
  match repeated? sorted with
  | some nr => .error nr
  | none => .ok ⟨sorted.toArray⟩

/-- Searches the entries from `low` up to `high` for a kernel id. -/
def search (entries : Array (UInt32 × AdapterId)) (nr : UInt32) (low high : Nat) :
    Option AdapterId :=
  if low < high then
    let middle := (low + high) / 2
    match entries[middle]? with
    | none => none
    | some (key, id) =>
      if key < nr then search entries nr (middle + 1) high
      else if nr < key then search entries nr low middle
      else some id
  else none
termination_by high - low
decreasing_by all_goals omega

/-- The adapter with the given kernel id. -/
def lookup? (index : KernelIndex) (nr : UInt32) : Option AdapterId :=
  search index.entries nr 0 index.entries.size

/-- The number of adapters in the index. -/
def size (index : KernelIndex) : Nat :=
  index.entries.size

/-- The adapters by ascending kernel id. -/
def toList (index : KernelIndex) : List AdapterId :=
  index.entries.toList.map Prod.snd

end KernelIndex
end I2cTopology
