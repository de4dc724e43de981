import I2cTopology.Handle.Probe

/-!
# The probe grid

All addresses of seven bits in rows of sixteen.
-/

namespace I2cTopology
namespace Report

/-- The cell of an address: its number if a chip answered, dashes if none did, `UU` if a driver owns it,
and blanks if it was not probed. The first outcome for an address counts. -/
def gridCell (results : List (UInt16 × ProbeOutcome)) (address : Nat) : String :=
  match results.find? fun (probed, _) => probed.toNat == address with
  | some (_, .present) => Numeral.hexadecimal 2 address
  | some (_, .busy) => "UU"
  | some (_, .absent) => "--"
  | none => "  "

/-- The line above the rows. -/
def gridHeader : String :=
  "    " ++ String.intercalate " "
    ((List.range 16).map fun column => Text.padLeft ' ' 2 (Numeral.hexadecimal 1 column))

/-- The row of the addresses from `start` on. -/
def gridRow (results : List (UInt16 × ProbeOutcome)) (start : Nat) : String :=
  Numeral.hexadecimal 2 start ++ ": " ++ String.intercalate " "
    ((List.range 16).map fun column => gridCell results (start + column))

/-- The lines of the grid. -/
def gridLines (results : List (UInt16 × ProbeOutcome)) : List String :=
  gridHeader :: (List.range 8).map fun row => gridRow results (16 * row)

end Report
end I2cTopology
