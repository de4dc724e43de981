import I2cTopology.Adapter
import I2cTopology.Handle.Request
import I2cTopology.Journal
import I2cTopology.System.ErrorNumber

/-!
# Questions to the machine

Everything that the program asks of the machine it runs on. The first group is how a sysfs tree is read
and written; a listing may also bring the whole operation down.
-/

namespace I2cTopology

/-- The answer to a request for the entries of a directory. -/
inductive Listing where
  /-- The names of the entries in order. -/
  | names (entries : List String)
  | refused (failure : FileFailure)
  /-- The operation that asked is broken off. -/
  | aborted
  deriving Repr

/-- A line on standard output. -/
inductive OutputLine where
  | text (line : String)
  /-- How long a piece of work took, in nanoseconds. -/
  | elapsed (label : String) (nanoseconds : Nat)
  deriving DecidableEq, Repr

/-- A question to the machine. -/
inductive Query where
  /-- The first line of an attribute; none if it is missing or empty. -/
  | readAttribute (dir : FilePath) (name : String)
  /-- The target of a symbolic link. -/
  | linkTarget (dir : FilePath) (name : String)
  /-- A path with every symbolic link resolved. -/
  | canonical (path : FilePath)
  /-- The entries of a directory. -/
  | entries (dir : FilePath)
  /-- Does the path lead to something? -/
  | present (path : FilePath)
  /-- Writes a value to an attribute that exists. -/
  | writeAttribute (dir : FilePath) (name value : String)
  /-- The identity of a file. -/
  | identity (path : FilePath)
  /-- Does the path lead to a directory? -/
  | isDirectory (path : FilePath)
  /-- Does the path lead to a sysfs file system? -/
  | isSysfs (path : FilePath)
  /-- The contents of a text file. -/
  | text (path : FilePath)
  /-- The names of the regular files in a directory, in order. -/
  | regularFiles (dir : FilePath)
  /-- The text on standard input. -/
  | standardInput
  /-- The identity of a device file. -/
  | deviceIdentity (path : FilePath)
  /-- Opens a device file. -/
  | openDevice (path : FilePath)
  /-- A request to an open device file. -/
  | request (file : DeviceFile) (asked : DeviceRequest)
  /-- Loads a kernel module; the answer is the exit status of the loader. -/
  | loadModule (name : String)
  /-- The time on a clock that never goes back, in nanoseconds. -/
  | clock
  /-- Adds to the journal. -/
  | report (notice : Notice)
  /-- Writes to standard output. -/
  | print (line : OutputLine)

/-- What a question is answered with. -/
def Query.Answer : Query → Type
  | readAttribute _ _ => Option String
  | linkTarget _ _ => Option FilePath
  | canonical _ => Except FileFailure FilePath
  | entries _ => Listing
  | present _ => Bool
  | writeAttribute _ _ _ => Except FileFailure Unit
  | identity _ => Option FileIdentity
  | isDirectory _ => Bool
  | isSysfs _ => Bool
  | text _ => Except FileFailure String
  | regularFiles _ => Except FileFailure (List String)
  | standardInput => Except FileFailure String
  | deviceIdentity _ => Except FileFailure FileIdentity
  | openDevice _ => Except FileFailure DeviceFile
  | request _ asked => Except ErrorNumber asked.Reply
  | loadModule _ => Except FileFailure Nat
  | clock => Nat
  | report _ => Unit
  | print _ => Unit

end I2cTopology
