/-!
# Columns

A text is padded with spaces up to a column width counted in characters, and is never cut.
-/

namespace I2cTopology
namespace Text

/-- A run of spaces. -/
def spaces (count : Nat) : String :=
  String.ofList (List.replicate count ' ')

/-- The text at the left of a column. -/
def padRight (width : Nat) (text : String) : String :=
  text ++ spaces (width - text.length)

/-- The text at the right of a column, filled up with the given character. -/
def padLeft (fill : Char) (width : Nat) (text : String) : String :=
  String.ofList (List.replicate (width - text.length) fill) ++ text

/-- The text with spaces in front of every line but the first. -/
def hang (indent : Nat) (text : String) : String :=
  String.ofList (text.toList.flatMap fun c =>
    if c = '\n' then '\n' :: List.replicate indent ' ' else [c])

end Text
end I2cTopology
