import I2cTopology.Adapter

/-!
# Expected chips

One entry of the configuration names a chip that the machine should have. Every part that is left out
is a wildcard.
-/

namespace I2cTopology

/-- Where an entry was read. -/
structure Origin where
  source : String
  /-- The number of the line, from one. -/
  line : Nat
  deriving DecidableEq, Repr, Inhabited

/-- The place in words. -/
def Origin.display (origin : Origin) : String :=
  s!"{origin.source}:{origin.line}"

/-- The adapter that an entry asks for: by kernel id, by path, or any. -/
structure BusSelector where
  kind : BusKind := .i2c
  nr : Option UInt32 := none
  path : Option String := none
  deriving DecidableEq, Repr, Inhabited

/-- Is every adapter acceptable? -/
def BusSelector.isAny (selector : BusSelector) : Bool :=
  selector.nr.isNone && selector.path.isNone

/-- One expected chip. -/
structure ExpectedChip where
  name : Option String
  bus : BusSelector
  address : Option UInt16
  origin : Origin
  /-- A chip that was found satisfies the entry. -/
  matched : Bool := false
  /-- The adapter of the entry exists. -/
  available : Bool := false
  deriving DecidableEq, Repr, Inhabited

namespace ExpectedChip

/-- The largest address of a chip, one of ten bits. -/
def maxAddress : UInt16 := 0x3ff

/-- The entry written out as a line of configuration. -/
def display (entry : ExpectedChip) : String :=
  let address := match entry.address with
    | some address => "0x" ++ Numeral.hexadecimal 2 address.toNat
    | none => "*"
  let name := entry.name.getD "*"
  let bus := entry.bus.path.getD "*"
  s!"{name}-{entry.bus.kind.name}-{bus}-{address}"

end ExpectedChip
end I2cTopology
