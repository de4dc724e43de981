import I2cTopology.ExpectedChip.Reading
import I2cTopology.Settings.Basic
import I2cTopology.System.Op

/-!
# Where the configuration comes from
-/

namespace I2cTopology

/-- A source of configuration. -/
inductive ConfigSource where
  /-- A file, which may be missing, and then the files of a directory. -/
  | standard (file dir : FilePath)
  /-- Exactly one file. -/
  | file (path : FilePath)
  /-- Standard input. -/
  | standardInput
  /-- No configuration. -/
  | nothing
  deriving DecidableEq, Repr

namespace ConfigSource

variable {σ : Type}

/-- The source that an argument of the command line asks for. A dash is standard input. -/
def ofArgument (argument : String) : ConfigSource :=
  if FilePath.sameAs ⟨argument⟩ ⟨"-"⟩ then standardInput else file ⟨argument⟩

/-- The source that settings name. -/
def ofSettings (settings : Settings) : ConfigSource :=
  standard settings.configFile settings.configDir

/-- Reads a text, reporting its malformed lines. -/
def readText (text source : String) : Act σ (List ExpectedChip) := do
  Act.reportAll (ExpectedChip.configNotices text source)
  return ExpectedChip.parseConfig text source

/-- The entries in a file. -/
def loadFile (path : FilePath) : Op σ (List ExpectedChip) := do
  let text ← Op.ofFile s!"reading config {path.text}" (← Op.query (.text path))
  Op.ofAct (readText text path.text)

/-- The entries in a file, none if it is missing. -/
def loadOptional (path : FilePath) : Op σ (List ExpectedChip) := do
  match ← Op.query (.text path) with
  | .ok text => Op.ofAct (readText text path.text)
  | .error failure =>
    if failure = .refused .noEntry then return []
    else throw (.file s!"reading config {path.text}" failure)

/-- The entries in a text that is handed in. -/
def loadText (answer : Except FileFailure String) (source : String) : Op σ (List ExpectedChip) := do
  let text ← Op.ofFile s!"reading config from {source}" answer
  Op.ofAct (readText text source)

/-- Is the file hidden? -/
def isHidden (name : String) : Bool :=
  name.toList.head? == some '.'

/-- The entries in files of a directory, in order. -/
def loadFiles (dir : FilePath) : List String → Op σ (List ExpectedChip)
  | [] => return []
  | name :: rest => do
    let entries ← loadFile (dir.join name)
    let others ← loadFiles dir rest
    return entries ++ others

/-- The entries in the regular files of a directory that are not hidden. A missing directory has
none. -/
def loadDir (dir : FilePath) : Op σ (List ExpectedChip) := do
  if !(← Op.query (.isDirectory dir)) then return []
  let names ← Op.ofFile s!"listing {dir.text}" (← Op.query (.regularFiles dir))
  loadFiles dir (names.filter fun name => !isHidden name)

/-- Every entry that a source provides, in order of declaration. -/
def load : ConfigSource → Op σ (List ExpectedChip)
  | standard path dir => do
    let entries ← loadOptional path
    let others ← loadDir dir
    return entries ++ others
  | file path => loadFile path
  | standardInput => do loadText (← Op.query .standardInput) "<stdin>"
  | nothing => return []

end ConfigSource
end I2cTopology
