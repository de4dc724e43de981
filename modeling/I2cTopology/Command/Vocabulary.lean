import I2cTopology.Command.Invocation

/-!
# The words of the command line

Its options with their spellings, and its verbs with the options and the further words that each of them
takes.
-/

namespace I2cTopology
namespace Command

/-- An option. -/
inductive Switch where
  | configFile
  | settings
  | sysfsRoot
  | quiet
  | verbose
  | help
  | version
  /-- Everything below an adapter. -/
  | children
  /-- How to probe. -/
  | mode
  /-- The timeout while probing. -/
  | timeout
  deriving DecidableEq, Repr

namespace Switch

/-- The name that follows two dashes. -/
def long : Switch → String
  | configFile => "config-file"
  | settings => "settings"
  | sysfsRoot => "sysfs-root"
  | quiet => "quiet"
  | verbose => "verbose"
  | help => "help"
  | version => "version"
  | children => "children"
  | mode => "mode"
  | timeout => "timeout"

/-- The letter that follows one dash, for some options. -/
def short? : Switch → Option Char
  | configFile => some 'c'
  | quiet => some 'q'
  | verbose => some 'v'
  | help => some 'h'
  | version => some 'V'
  | _ => none

/-- Does the option come with a value? -/
def takesValue : Switch → Bool
  | configFile => true
  | settings => true
  | sysfsRoot => true
  | mode => true
  | timeout => true
  | _ => false

/-- May the option be given more than once in one place? -/
def repeats : Switch → Bool
  | verbose => true
  | _ => false

/-- The options that stand before the verb or behind it. -/
def everywhere : List Switch :=
  [configFile, settings, sysfsRoot, quiet, verbose, help]

end Switch

/-- How to probe, by name. -/
def mode? : String → Option ProbeMode
  | "auto" => some .auto
  | "quick" => some .quick
  | "read" => some .readByte
  | _ => none

/-- A number, by its numeral. -/
def number? (text : String) : Option UInt32 :=
  Numeral.integer32? text.toList

/-- An address, in C notation. -/
def address? (text : String) : Option UInt16 :=
  Numeral.cNotation16? text.toList

/-- Is the text one that an option takes as its value? -/
def Switch.accepts : Switch → String → Bool
  | mode, text => (mode? text).isSome
  | timeout, text => (number? text).isSome
  | configFile, text => !text.isEmpty
  | settings, text => !text.isEmpty
  | sysfsRoot, text => !text.isEmpty
  | _, _ => true

/-- What a further word of a verb is. -/
inductive WordKind where
  | path
  | address
  | number
  deriving DecidableEq, Repr

/-- Is the text one that a word of this kind can be? -/
def WordKind.accepts : WordKind → String → Bool
  | path, _ => true
  | address, text => (address? text).isSome
  | number, text => (number? text).isSome

/-- A verb. -/
inductive Verb where
  | tree
  | devices
  | config
  | path
  | probe
  | funcs
  | timeout
  | retries
  | rescan
  | init
  | remove
  | kmod
  deriving DecidableEq, Repr

namespace Verb

/-- The verbs in the order in which they are listed. -/
def all : List Verb :=
  [tree, devices, config, path, probe, funcs, timeout, retries, rescan, init, remove, kmod]

/-- The verb as a word. -/
def name : Verb → String
  | tree => "tree"
  | devices => "devices"
  | config => "config"
  | path => "path"
  | probe => "probe"
  | funcs => "funcs"
  | timeout => "timeout"
  | retries => "retries"
  | rescan => "rescan"
  | init => "init"
  | remove => "remove"
  | kmod => "kmod"

/-- The verb with the given name. -/
def ofName? (word : String) : Option Verb :=
  all.find? (·.name == word)

/-- The options that only this verb takes. -/
def switches : Verb → List Switch
  | tree => [.children]
  | probe => [.mode, .timeout]
  | _ => []

/-- The further words that the verb takes at most. -/
def words : Verb → List WordKind
  | tree => [.path]
  | devices => [.path]
  | config => []
  | path => [.path]
  | probe => [.path, .address]
  | funcs => [.path]
  | timeout => [.path, .number]
  | retries => [.path, .number]
  | rescan => [.number]
  | init => []
  | remove => [.path]
  | kmod => []

end Verb
end Command
end I2cTopology
