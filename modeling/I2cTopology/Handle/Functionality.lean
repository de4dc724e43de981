/-!
# Adapter capabilities

An adapter reports its capabilities as a set of flags in a machine word. Bits without a name are
dropped.
-/

namespace I2cTopology

/-- A set of adapter capabilities. -/
structure Functionality where
  bits : UInt32
  deriving DecidableEq, Repr

namespace Functionality

/-- The capabilities that have a name, in the order of their bits. -/
def flags : List (String × UInt32) :=
  [("I2C", 0x00000001), ("TEN_BIT_ADDR", 0x00000002), ("PROTOCOL_MANGLING", 0x00000004),
    ("SMBUS_PEC", 0x00000008), ("NO_START", 0x00000010), ("SLAVE", 0x00000020),
    ("SMBUS_BLOCK_PROC_CALL", 0x00008000), ("SMBUS_QUICK", 0x00010000),
    ("SMBUS_READ_BYTE", 0x00020000), ("SMBUS_WRITE_BYTE", 0x00040000),
    ("SMBUS_READ_BYTE_DATA", 0x00080000), ("SMBUS_WRITE_BYTE_DATA", 0x00100000),
    ("SMBUS_READ_WORD_DATA", 0x00200000), ("SMBUS_WRITE_WORD_DATA", 0x00400000),
    ("SMBUS_PROC_CALL", 0x00800000), ("SMBUS_READ_BLOCK_DATA", 0x01000000),
    ("SMBUS_WRITE_BLOCK_DATA", 0x02000000), ("SMBUS_READ_I2C_BLOCK", 0x04000000),
    ("SMBUS_WRITE_I2C_BLOCK", 0x08000000), ("SMBUS_HOST_NOTIFY", 0x10000000)]

/-- All bits that have a name. -/
def known : UInt32 :=
  flags.foldl (fun bits (_, flag) => bits ||| flag) 0

/-- The quick command. -/
def quick : Functionality := ⟨0x00010000⟩

/-- The receive byte command. -/
def readByte : Functionality := ⟨0x00020000⟩

/-- The capabilities in the low half of a machine word, unnamed bits dropped. -/
def ofWord (word : UInt64) : Functionality :=
  ⟨word.toUInt32 &&& known⟩

/-- Does the set hold every capability of `needed`? -/
def contains (set needed : Functionality) : Bool :=
  set.bits &&& needed.bits == needed.bits

/-- The names of the capabilities in the set. -/
def names (set : Functionality) : List String :=
  (flags.filter fun (_, flag) => set.contains ⟨flag⟩).map Prod.fst

/-- The set as a message names it. -/
def display (set : Functionality) : String :=
  "Functionality(" ++ String.intercalate " | " set.names ++ ")"

end Functionality
end I2cTopology
