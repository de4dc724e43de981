import I2cTopology.Journal
import I2cTopology.Text.Column
import I2cTopology.Text.Controls

/-!
# Verbosity

How much the command line tells about its work, next to the data that it was asked for.
-/

namespace I2cTopology
namespace Command

/-- How much is told. -/
inductive Verbosity where
  /-- The data alone. -/
  | quiet
  /-- Also how a command ended. -/
  | normal
  /-- Also paths, identities of files and times. -/
  | detailed
  /-- Also every step of the work. -/
  | debug
  deriving DecidableEq, Repr

namespace Verbosity

/-- The verbosity that the two options ask for: one that silences and one that counts. -/
def ofOptions (quiet : Bool) (count : Nat) : Verbosity :=
  if quiet then .quiet
  else
    match count with
    | 0 => .normal
    | 1 => .detailed
    | _ => .debug

/-- Is the way a command ended told? -/
def showsStatus : Verbosity → Bool
  | quiet => false
  | _ => true

/-- Are paths, identities of files and times told? -/
def showsDetail : Verbosity → Bool
  | quiet => false
  | normal => false
  | _ => true

/-- The most detailed notices that are told. -/
def limit : Verbosity → Level
  | quiet => .error
  | normal => .warn
  | detailed => .info
  | debug => .debug

/-- The text of a notice, where it is told: its line or lines, each with its line feed. Control sequences
in it are not passed on to the reader, and one that is left open takes the last line feed along. -/
def journalText? (verbosity : Verbosity) (notice : Notice) : Option String :=
  if verbosity.limit.within notice.level then
    let head := s!"[{Text.padRight 5 notice.level.name} {notice.area.target}] "
    some (Text.withoutControls (head ++ Text.hang 4 notice.message ++ "\n"))
  else none

end Verbosity
end Command
end I2cTopology
