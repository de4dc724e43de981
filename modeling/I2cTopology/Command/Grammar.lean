import I2cTopology.Command.Vocabulary

/-!
# Reading a command line

Arguments are read from left to right, first those before the verb and then those behind it. An argument
that starts with a dash gives options: one by its long name, or several by their letters. The value of an
option stands behind an equals sign, behind the option's letter, or in the next argument, which then
does not start with a dash unless it is a dash alone. Two dashes alone end the options.

An option that stands on both sides of the verb counts where it stands last. The first argument that does
not fit ends the reading, and so does a request for help or for the version.
-/

namespace I2cTopology
namespace Command

/-- Why there is nothing to be run. -/
inductive Stop where
  /-- The arguments do not fit. -/
  | misuse
  | help
  | version
  deriving DecidableEq, Repr

/-- The part of the command line that an argument stands in: before the verb or behind it. -/
inductive Side where
  | before
  | behind (verb : Verb)
  deriving DecidableEq, Repr

namespace Side

/-- The options that may stand there. -/
def switches : Side → List Switch
  | before => .version :: Switch.everywhere
  | behind verb => verb.switches ++ Switch.everywhere

/-- The further words that may stand there. -/
def words : Side → List WordKind
  | before => []
  | behind verb => verb.words

end Side

/-- What one part of the command line gives, the latest last. -/
structure Given where
  /-- The options with their values. An option that takes no value has an empty one. -/
  options : List (Switch × String) := []
  words : List String := []
  deriving DecidableEq, Repr

namespace Given

/-- Is the option given? -/
def has (given : Given) (switch : Switch) : Bool :=
  given.options.any (·.1 == switch)

/-- The value of an option. -/
def value? (given : Given) (switch : Switch) : Option String :=
  given.options.lookup switch

/-- How often an option is given. -/
def count (given : Given) (switch : Switch) : Nat :=
  (given.options.filter (·.1 == switch)).length

/-- Adds an option. -/
def add (given : Given) (switch : Switch) (value : String) : Except Stop Given :=
  if switch = .help then .error .help
  else if switch = .version then .error .version
  else if !switch.accepts value || (given.has switch && !switch.repeats) then .error .misuse
  else .ok { given with options := given.options ++ [(switch, value)] }

/-- Adds a word. -/
def addWord (side : Side) (given : Given) (word : String) : Except Stop Given :=
  match side.words[given.words.length]? with
  | some kind =>
    if kind.accepts word then .ok { given with words := given.words ++ [word] }
    else .error .misuse
  | none => .error .misuse

/-- Adds words. -/
def addWords (side : Side) (given : Given) (words : List String) : Except Stop Given :=
  words.foldlM (addWord side) given

end Given

/-- The shape of an argument. -/
inductive Shape where
  /-- Two dashes alone. -/
  | escape
  /-- An option by its long name, with what stands behind an equals sign. -/
  | long (name : String) (value : Option String)
  /-- Options by their letters. -/
  | letters (text : List Char)
  /-- A word, or a dash alone. -/
  | word
  deriving DecidableEq, Repr

/-- The shape of an argument. -/
def shape (argument : String) : Shape :=
  match argument.toList with
  | ['-', '-'] => .escape
  | '-' :: '-' :: rest =>
    match Text.cut? '=' rest with
    | some (name, value) => .long (String.ofList name) (some (String.ofList value))
    | none => .long (String.ofList rest) none
  | '-' :: c :: rest => .letters (c :: rest)
  | _ => .word

/-- The text without one leading equals sign. -/
def dropEquals : List Char → List Char
  | '=' :: rest => rest
  | text => text

/-- Adds the options of an argument that gives them by letters. If the last one lacks its value, that
option is handed back. -/
def readLetters (side : Side) : Given → List Char → Except Stop (Given × Option Switch)
  | given, [] => .ok (given, none)
  | given, letter :: rest =>
    match side.switches.find? (·.short? == some letter) with
    | none => .error .misuse
    | some switch =>
      if switch.takesValue then
        if rest.isEmpty then .ok (given, some switch)
        else do
          let given ← given.add switch (String.ofList (dropEquals rest))
          return (given, none)
      else do
        let given ← given.add switch ""
        readLetters side given rest

/-- Adds the option of an argument that gives it by its long name. If it lacks its value, the option is
handed back. -/
def readLong (side : Side) (given : Given) (name : String) (value : Option String) :
    Except Stop (Given × Option Switch) :=
  match side.switches.find? (·.long == name) with
  | none => .error .misuse
  | some switch =>
    match switch.takesValue, value with
    | true, some value => do
      let given ← given.add switch value
      return (given, none)
    | true, none => .ok (given, some switch)
    | false, some _ => .error .misuse
    | false, none => do
      let given ← given.add switch ""
      return (given, none)

/-- The word of the verb that asks for help. -/
def helpWord : String := "help"

/-- The verb that a word names, before the verb. -/
def verb? (side : Side) (word : String) : Option Verb :=
  match side with
  | .before => Verb.ofName? word
  | .behind _ => none

/-- May these words stand behind the word that asks for help? -/
def isHelpTopic : List String → Bool
  | [] => true
  | [word] => word == helpWord || (Verb.ofName? word).isSome
  | _ => false

/-- Reads one part of the command line. `pending` is the option of which the next argument is the value.
The verb that ends the part before it is handed back with the arguments behind it. -/
def readSide (side : Side) : Given → Option Switch → List String →
    Except Stop (Given × Option (Verb × List String))
  | given, none, [] => .ok (given, none)
  | _, some _, [] => .error .misuse
  | given, some switch, argument :: rest =>
    match shape argument with
    | .word => do
      let given ← given.add switch argument
      readSide side given none rest
    | _ => .error .misuse
  | given, none, argument :: rest =>
    match verb? side argument with
    | some verb => .ok (given, some (verb, rest))
    | none =>
      match shape argument with
      | .escape => do
        let given ← given.addWords side rest
        return (given, none)
      | .long name value => do
        let (given, pending) ← readLong side given name value
        readSide side given pending rest
      | .letters letters => do
        let (given, pending) ← readLetters side given letters
        readSide side given pending rest
      | .word =>
        if side = .before ∧ argument = helpWord then
          .error (if isHelpTopic rest then .help else .misuse)
        else do
          let given ← given.addWord side argument
          readSide side given none rest

/-- The action of a verb with what stands behind it; none if a word is missing. -/
def action? (verb : Verb) (given : Given) : Option Action :=
  match verb, given.words with
  | .tree, words => some (.tree words.head? (given.has .children))
  | .devices, words => some (.devices words.head?)
  | .config, _ => some .config
  | .path, [path] => some (.path path)
  | .probe, path :: rest => do
    let mode ← mode? ((given.value? .mode).getD "auto")
    let timeout ← number? ((given.value? .timeout).getD "20")
    let address ← match rest with
      | [] => some none
      | word :: _ => (address? word).map some
    return .probe path address mode timeout
  | .funcs, [path] => some (.funcs path)
  | .timeout, [path, milliseconds] => (number? milliseconds).map (.timeout path)
  | .retries, [path, count] => (number? count).map (.retries path)
  | .rescan, words => (number? (words.head?.getD "1")).map .rescan
  | .init, _ => some .init
  | .remove, words => some (.remove words.head?)
  | .kmod, _ => some .kmod
  | _, _ => none

/-- Fails if one part of the command line asks both to silence and to tell more. -/
def checkSide (given : Given) : Except Stop Unit :=
  if given.has .quiet && given.has .verbose then .error .misuse else .ok ()

/-- The invocation that both parts make together. -/
def combine (action : Action) (before behind : Given) : Invocation :=
  let value? (switch : Switch) := (behind.value? switch).or (before.value? switch)
  let count := if behind.has .verbose then behind.count .verbose else before.count .verbose
  { action := action
    configFile := value? .configFile
    settings := value? .settings
    sysfsRoot := value? .sysfsRoot
    verbosity := .ofOptions (before.has .quiet || behind.has .quiet) count }

/-- Reads the arguments of the command line. Without a verb the forest is shown. -/
def read (arguments : List String) : Except Stop Invocation := do
  let (before, found) ← readSide .before {} none arguments
  let (action, behind) ← match found with
    | none => pure (Action.tree none false, {})
    | some (verb, rest) => do
      let (behind, _) ← readSide (.behind verb) {} none rest
      match action? verb behind with
      | none => throw .misuse
      | some action =>
        checkSide behind
        pure (action, behind)
  checkSide before
  return combine action before behind

end Command
end I2cTopology
