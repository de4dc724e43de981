import I2cTopology.Command.Vocabulary

/-!
# Help

What the command line says about itself.
-/

namespace I2cTopology
namespace Command

/-- The name of the program with its version. -/
def programVersion : String := "lsi2c 0.1.0"

/-- What a verb does, in a few words. -/
def Verb.summary : Verb → String
  | tree => "Print the adapter forest"
  | devices => "List discovered devices"
  | config => "List configured chips and whether they were found"
  | path => "Parse an adapter path and show what it resolves to"
  | probe => "Check which addresses answer on an adapter"
  | funcs => "Show the functionality flags of an adapter"
  | timeout => "Set the transfer timeout of an adapter"
  | retries => "Set the retry count of an adapter"
  | rescan => "Rescan sysfs, optionally several times"
  | init => "Instantiate every configured chip that is missing"
  | remove => "Remove configured chips, everywhere or on one adapter"
  | kmod => "Load the i2c character-device kernel module if needed"

/-- An option with its letter, if it has one. -/
def Switch.display (switch : Switch) : String :=
  match switch.short? with
  | some letter => s!"-{letter}, --{switch.long}"
  | none => s!"    --{switch.long}"

/-- The lines that a misused command line is answered with. -/
def usageLines : List String :=
  ["Usage: lsi2c [OPTIONS] [COMMAND]"]

/-- The lines that a request for help is answered with. -/
def helpLines : List String :=
  usageLines ++ ["", "Commands:"] ++
    Verb.all.map (fun verb => "  " ++ Text.padRight 9 verb.name ++ verb.summary) ++
    ["", "Options:"] ++
    (Switch.everywhere ++ [Switch.version]).map (fun switch => "  " ++ switch.display)

end Command
end I2cTopology
