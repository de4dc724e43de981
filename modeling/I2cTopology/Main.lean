import I2cTopology.Command.Session
import I2cTopology.Report.Elapsed
import I2cTopology.Text.Lines

/-!
# The program

The command line on the machine that the program runs on. Files are read and written directly. Requests to
device files, identities of files and the module loader are out of reach here: a device request is answered
as the kernel answers it for a file that is no device, and the module loader is reported as missing.
-/

namespace I2cTopology
namespace Native

/-- The refusal with an error code. Some codes come with the sign turned. -/
def refusal (code : UInt32) : FileFailure :=
  .refused ⟨if code < 0x80000000 then code.toNat else (0 - code).toNat⟩

/-- The refusal behind an error. -/
def failureOf : IO.Error → FileFailure
  | .noFileOrDirectory _ code _ => refusal code
  | .permissionDenied _ code _ => refusal code
  | .inappropriateType _ code _ => refusal code
  | .invalidArgument _ code _ => refusal code
  | .resourceBusy code _ => refusal code
  | .otherError code _ => refusal code
  | _ => refusal 5

/-- The outcome of an action as a value. -/
def attempt {α : Type} (action : IO α) : IO (Except FileFailure α) := do
  try
    return .ok (← action)
  catch error =>
    return .error (failureOf error)

/-- A path as the runtime takes it. -/
def native (path : FilePath) :=
  System.mkFilePath [path.text]

/-- The text of a file. -/
def readText (path : FilePath) : IO (Except FileFailure String) := do
  match ← attempt (IO.FS.readBinFile (native path)) with
  | .error failure => return .error failure
  | .ok bytes =>
    match String.fromUTF8? bytes with
    | some text => return .ok text
    | none => return .error .notText

/-- The first line of an attribute. -/
def readAttribute (dir : FilePath) (name : String) : IO (Option String) := do
  match ← readText (dir.join name) with
  | .ok text => return Text.firstLine? text
  | .error _ => return none

/-- A path with every symbolic link resolved. -/
def canonical (path : FilePath) : IO (Except FileFailure FilePath) :=
  attempt do
    let file ← IO.FS.realPath (native path)
    return ⟨file.toString⟩

/-- Is the path itself of the given kind, links not followed? -/
def isKind (path : FilePath) (kind : IO.FS.FileType) : IO Bool := do
  try
    return (← (native path).symlinkMetadata).type == kind
  catch _ =>
    return false

/-- What a symbolic link leads to. -/
def linkTarget (dir : FilePath) (name : String) : IO (Option FilePath) := do
  let link := dir.join name
  if ← isKind link .symlink then
    match ← canonical link with
    | .ok target => return some target
    | .error _ => return none
  else return none

/-- The names in a directory, in order. -/
def names (dir : FilePath) : IO (Except FileFailure (List String)) :=
  attempt do
    let entries ← (native dir).readDir
    return (entries.toList.map (·.fileName)).mergeSort fun a b => a ≤ b

/-- The entries of a directory. -/
def listing (dir : FilePath) : IO Listing := do
  match ← names dir with
  | .ok entries => return .names entries
  | .error failure => return .refused failure

/-- The names of the regular files in a directory, in order. -/
def regularFiles (dir : FilePath) : IO (Except FileFailure (List String)) := do
  match ← names dir with
  | .ok entries => return .ok (← entries.filterM fun name => isKind (dir.join name) .file)
  | .error failure => return .error failure

/-- Does the path lead to something? -/
def present (path : FilePath) : IO Bool :=
  (native path).pathExists

/-- Does the path lead to a directory? -/
def isDirectory (path : FilePath) : IO Bool :=
  (native path).isDir

/-- Writes to a file that exists. -/
def writeAttribute (dir : FilePath) (name value : String) : IO (Except FileFailure Unit) := do
  let path := dir.join name
  if ← present path then
    attempt (IO.FS.writeFile (native path) value)
  else return .error (.refused .noEntry)

/-- Is the line of the table of mounts one for a sysfs file system at the given place? -/
def isSysfsMount (place line : String) : Bool :=
  match Text.pieces ' ' line.toList with
  | _ :: target :: kind :: _ => String.ofList target == place && String.ofList kind == "sysfs"
  | _ => false

/-- Is a sysfs file system mounted at the path? -/
def isSysfs (path : FilePath) : IO Bool := do
  match ← canonical path, ← readText ⟨"/proc/mounts"⟩ with
  | .ok place, .ok table =>
    return (Text.lines table.toList).any fun line => isSysfsMount place.text (String.ofList line)
  | _, _ => return false

/-- The identity of a device file that is there. Identities are not told apart. -/
def deviceIdentity (path : FilePath) : IO (Except FileFailure FileIdentity) := do
  if ← present path then return .ok default
  else return .error (.refused .noEntry)

/-- Opens a device file and closes it again. -/
def openDevice (path : FilePath) : IO (Except FileFailure DeviceFile) :=
  attempt do
    let _ ← IO.FS.Handle.mk (native path) .readWrite
    return default

/-- Answers a question. -/
def answer (verbosity : Command.Verbosity) : (query : Query) → IO query.Answer
  | .readAttribute dir name => readAttribute dir name
  | .linkTarget dir name => linkTarget dir name
  | .canonical path => canonical path
  | .entries dir => listing dir
  | .present path => present path
  | .writeAttribute dir name value => writeAttribute dir name value
  | .identity _ => pure none
  | .isDirectory path => isDirectory path
  | .isSysfs path => isSysfs path
  | .text path => readText path
  | .regularFiles dir => regularFiles dir
  | .standardInput => readText ⟨"/dev/stdin"⟩
  | .deviceIdentity path => deviceIdentity path
  | .openDevice path => openDevice path
  | .request _ _ => pure (.error .notTypewriter)
  | .loadModule _ => pure (.error (.refused .noEntry))
  | .clock => IO.monoNanosNow
  | .report notice =>
    match verbosity.journalText? notice with
    | some text => IO.eprint text
    | none => pure ()
  | .print line => IO.println (Report.showLine line)

end Native
end I2cTopology

open I2cTopology in
/-- Calls the command line with the program's arguments. -/
def main (arguments : List String) : IO UInt32 := do
  let verbosity := Command.verbosityOf arguments
  let (ending, _) ←
    (Command.call arguments).runM (Native.answer verbosity) (Context.fresh {})
  match ending with
  | none => return 1
  | some ending =>
    for line in ending.errors do
      IO.eprintln line
    return UInt32.ofNat ending.status
