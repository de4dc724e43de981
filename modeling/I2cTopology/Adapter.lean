import I2cTopology.FilePath
import I2cTopology.Handle.Functionality
import I2cTopology.Numeral

/-!
# Adapters and chips

What a scan learns about the adapters of a machine and about the chips that sit on them.
-/

namespace I2cTopology

/-- The kind of bus that an adapter provides. -/
inductive BusKind where
  /-- A plain adapter. -/
  | i2c
  /-- A channel behind a multiplexer. -/
  | mux
  deriving DecidableEq, Repr, Inhabited

/-- The short name of a bus kind. -/
def BusKind.name : BusKind → String
  | i2c => "i2c"
  | mux => "mux"

/-- The position of an adapter in discovery order. -/
abbrev AdapterId := Nat

/-- The parent that an adapter reports. -/
inductive DeclaredParent where
  /-- The adapter hangs directly off a host controller. -/
  | root
  /-- The adapter is a child of the adapter with this kernel id. -/
  | adapter (nr : UInt32)
  deriving DecidableEq, Repr, Inhabited

/-- The parent as a message names it. -/
def DeclaredParent.display : DeclaredParent → String
  | root => "Root"
  | adapter nr => s!"Adapter({nr})"

/-- The identity of a file: the file system that holds it and its number there. -/
structure FileIdentity where
  device : Nat
  inode : Nat
  deriving DecidableEq, Repr, Inhabited

/-- An open device file. -/
structure DeviceFile where
  /-- Tells open files apart. -/
  number : Nat
  /-- The identity of the file that was opened. -/
  identity : FileIdentity
  deriving DecidableEq, Repr, Inhabited

/-- An open adapter. Its capabilities are kept once they have been read. -/
structure Handle where
  nr : UInt32
  file : DeviceFile
  capabilities : Option Functionality := none
  deriving DecidableEq, Repr

/-- The adapter that a chip sits on, as it was when the chip was found. -/
structure BusDescriptor where
  kind : BusKind
  nr : UInt32
  path : String
  deriving DecidableEq, Repr, Inhabited

/-- A chip that was found on an adapter. -/
structure Chip where
  address : UInt16
  bus : BusDescriptor
  name : Option String
  driver : Option String
  module : Option String
  subsystem : Option String
  location : FilePath
  adapter : AdapterId
  deriving DecidableEq, Repr, Inhabited

namespace Chip

/-- The name of a chip's directory: the kernel id of its adapter and four digits of address. -/
def directoryName (nr : UInt32) (address : UInt16) : String :=
  s!"{nr}-{Numeral.hexadecimal 4 address.toNat}"

/-- The chip's own name: what it is called, the path of its adapter and its address. -/
def display (chip : Chip) : String :=
  chip.name.getD "*" ++ s!"-i2c-{chip.bus.path}-{Numeral.hexadecimal 2 chip.address.toNat}"

end Chip

/-- An adapter, or a channel of a multiplexer. -/
structure Adapter where
  /-- The kernel id. -/
  nr : UInt32
  declaredParent : DeclaredParent
  /-- The output number, for a channel of a multiplexer. -/
  channel : Option UInt32 := none
  name : Option String := none
  /-- The adapter's directory, free of symbolic links. -/
  location : FilePath := ⟨""⟩
  subsystem : Option String := none
  /-- The name of the directory that holds the adapter's directory. -/
  parentName : Option String := none
  /-- The identity of the adapter's device file, once it is known. -/
  identity : Option FileIdentity := none
  /-- The chips on the adapter, by ascending address. -/
  chips : List Chip := []
  /-- The open handle, if there is one. -/
  handle : Option Handle := none
  deriving DecidableEq, Repr, Inhabited

namespace Adapter

/-- Is the adapter a channel of a multiplexer? -/
def isMux (adapter : Adapter) : Bool :=
  adapter.channel.isSome

/-- The kind of bus: a channel of a multiplexer is one exactly if it has an output number. -/
def kind (adapter : Adapter) : BusKind :=
  if adapter.isMux then .mux else .i2c

end Adapter
end I2cTopology
