import I2cTopology.Adapter
import I2cTopology.Text.Pieces

/-!
# Names in sysfs

What the names of directories, links and adapters tell: kernel ids, output numbers and addresses.
-/

namespace I2cTopology
namespace Scan

/-- The rest of a name that begins with the given opening. -/
def after? (opening name : String) : Option (List Char) :=
  Text.dropOpening? opening.toList name.toList

/-- The kernel id in a name `i2c-N`. -/
def adapterNr? (name : String) : Option UInt32 := do
  Numeral.decimal32? (← after? "i2c-" name)

/-- The kernel id of the parent and the output number in an adapter name that begins with
`i2c-M-mux (chan_id K`. -/
def muxName? (name : String) : Option (UInt32 × UInt32) := do
  let rest ← after? "i2c-" name
  let (parent, rest) ← Text.cutAt? "-mux (chan_id ".toList rest
  let nr ← Numeral.decimal32? parent
  let output ← Numeral.decimal32? (rest.takeWhile fun c => '0' ≤ c && c ≤ '9')
  return (nr, output)

/-- Does the name speak of a multiplexer? -/
def mentionsMux (name : String) : Bool :=
  (Text.cutAt? "mux".toList name.toList).isSome

/-- The output number in the name `channel-K` of a link. -/
def outputNr? (name : String) : Option UInt32 := do
  Numeral.decimal32? (← after? "channel-" name)

/-- The address in the directory name of a chip: the kernel id of its adapter, a dash and hexadecimal
digits. -/
def chipAddress? (nr : UInt32) (name : String) : Option UInt16 := do
  Numeral.hexadecimal16? (← after? s!"{nr}-" name)

/-- Does the chip only reserve an address for the driver of another one? -/
def isDummy (name : String) : Bool :=
  (after? "dummy" name).isSome

end Scan
end I2cTopology
