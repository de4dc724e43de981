import I2cTopology.System.Query

/-!
# Times

How long a piece of work took, with one decimal in the largest unit that leaves a whole number in front.
-/

namespace I2cTopology
namespace Report

/-- The unit for a time, with its length in nanoseconds. -/
def timeUnit (nanoseconds : Nat) : String × Nat :=
  if 1000000000 ≤ nanoseconds then ("s", 1000000000)
  else if 1000000 ≤ nanoseconds then ("ms", 1000000)
  else if 1000 ≤ nanoseconds then ("µs", 1000)
  else ("ns", 1)

/-- A time with one decimal, a half rounded up. -/
def showTime (nanoseconds : Nat) : String :=
  let (name, length) := timeUnit nanoseconds
  let tenths := (nanoseconds * 10 + length / 2) / length
  s!"{tenths / 10}.{tenths % 10}{name}"

/-- The text of a line on standard output. -/
def showLine : OutputLine → String
  | .text line => line
  | .elapsed label nanoseconds => s!"  {label}: {showTime nanoseconds}"

end Report
end I2cTopology
