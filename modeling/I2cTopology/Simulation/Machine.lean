import I2cTopology.Simulation.Bus
import I2cTopology.Simulation.Canonical
import I2cTopology.System.Act
import I2cTopology.Text.Blank
import I2cTopology.Text.Lines

/-!
# A simulated machine

A machine made of a file tree and a bus, which answers every question that a program can ask. Sysfs is
read through a layer that can be told to refuse, to act as the kernel does when a control attribute is
written, or to give way altogether; the command line does without that layer.
-/

namespace I2cTopology
namespace Simulation

/-- What the layer between a program and sysfs does beyond passing on. -/
structure Faults where
  /-- Do control attributes work: is a chip that is written to `new_device` there afterwards? -/
  kernel : Bool := false
  /-- Values that cannot be written, by their endings. -/
  denyWrite : List (String × ErrorNumber) := []
  /-- Directories that cannot be listed, by the endings of their paths. -/
  denyList : List (String × ErrorNumber) := []
  /-- Paths that cannot be resolved, by their endings. -/
  denyCanonical : List (String × ErrorNumber) := []
  /-- Files whose identity is hidden, by the last components of their paths. -/
  forgedIdentity : List FilePath := []
  /-- Does listing a directory bring the operation down? -/
  abortListing : Bool := false
  deriving Repr, Inhabited

/-- A simulated machine. -/
structure Machine where
  tree : FileTree
  /-- The directory that relative paths start from. -/
  home : Trail
  faults : Faults := {}
  bus : Option Bus := none
  /-- The text on standard input, none if it is not text. -/
  input : Option String := some ""
  /-- The addresses that are selected on the device files that were opened. -/
  selected : Array Nat := #[]
  /-- The journal so far. -/
  journal : Array Notice := #[]
  /-- The requests to device files so far. -/
  requests : Array String := #[]
  /-- Standard output so far. -/
  output : Array OutputLine := #[]
  deriving Repr, Inhabited

namespace Machine

/-! ## Control attributes -/

/-- The error of the first ending that a text has. -/
def deniedBy? (rules : List (String × ErrorNumber)) (text : String) : Option ErrorNumber :=
  (rules.find? fun (ending, _) => ending.toList.isSuffixOf text.toList).map Prod.snd

/-- The kernel id in the name of an adapter's directory. -/
def adapterNrOf? (dir : FilePath) : Option UInt32 := do
  let name ← dir.fileName?
  Numeral.decimal32? (← Text.dropOpening? "i2c-".toList name.toList)

/-- The address at the end of a value, after the last space. -/
def addressOf? (value : String) : Option UInt16 := do
  let word ← (Text.pieces ' ' value.toList).getLast?
  Numeral.cNotation16? word

/-- The text before the last space of a value, without the blanks around it. -/
def chipNameOf (value : String) : String :=
  String.ofList (Text.trimBlanks ([' '].intercalate (Text.pieces ' ' value.toList).dropLast))

/-- What the kernel makes of a value that was written to a control attribute. -/
def kernelReaction (tree : FileTree) (home : Trail) (dir : FilePath) (name value : String) :
    FileTree.Outcome :=
  match adapterNrOf? dir, addressOf? value with
  | some nr, some address =>
    let chip := dir.join (Chip.directoryName nr address)
    if name = "new_device" then
      (tree.makeDirs home chip).andThen fun tree =>
        tree.putFile home (chip.join "name") (some (chipNameOf value ++ "\n"))
    else if name = "delete_device" then tree.removeDirs home chip
    else ⟨none, tree⟩
  | _, _ => ⟨none, tree⟩

/-! ## Answers -/

/-- The identity that a file number gives. -/
def identityOf (number : Nat) : FileIdentity :=
  ⟨1, number⟩

/-- The identity of the file at a path. -/
def identityAt (machine : Machine) (path : FilePath) : Except FileFailure FileIdentity :=
  (machine.tree.find machine.home path).map fun trail => identityOf trail.target

/-- Does the path end with the components of another one? -/
def endsWith (path ending : FilePath) : Bool :=
  ending.components.isSuffixOf path.components

/-- The answer to a request for the entries of a directory. -/
def listing (machine : Machine) (dir : FilePath) : Listing :=
  if machine.faults.abortListing then .aborted
  else
    match deniedBy? machine.faults.denyList dir.text with
    | some number => .refused (.refused number)
    | none =>
      match machine.tree.list machine.home dir with
      | .ok names => .names names
      | .error failure => .refused failure

/-- Writes a value to an attribute, and lets the kernel react. -/
def writeAttribute (machine : Machine) (dir : FilePath) (name value : String) :
    Except FileFailure Unit × Machine :=
  match deniedBy? machine.faults.denyWrite value with
  | some number => (.error (.refused number), machine)
  | none =>
    match machine.tree.overwrite machine.home (dir.join name) value with
    | .error failure => (.error failure, machine)
    | .ok tree =>
      let outcome :=
        if machine.faults.kernel then kernelReaction tree machine.home dir name value
        else ⟨none, tree⟩
      (match outcome.failure with
        | none => .ok ()
        | some failure => .error failure, { machine with tree := outcome.tree })

/-- Opens a device file. -/
def openDevice (machine : Machine) (path : FilePath) : Except FileFailure DeviceFile × Machine :=
  match machine.tree.find machine.home path with
  | .error failure => (.error failure, machine)
  | .ok trail =>
    if machine.tree.isDir trail.target then (.error (.refused .isDirectory), machine)
    else
      (.ok ⟨machine.selected.size, identityOf trail.target⟩,
        { machine with selected := machine.selected.push 0 })

/-- The name of an open file. -/
def openName (machine : Machine) (file : DeviceFile) : String :=
  machine.tree.displayName file.identity.inode

/-- Answers a request to an open device file and notes it. Without a bus no file is a device. -/
def request (machine : Machine) (file : DeviceFile) (asked : DeviceRequest) :
    Except ErrorNumber asked.Reply × Machine :=
  let noted := { machine with
    requests := machine.requests.push s!"{machine.openName file} {showRequest asked}" }
  match machine.bus with
  | none => (.error .notTypewriter, noted)
  | some bus =>
    let (reply, address) := bus.answer (machine.selected[file.number]?.getD 0) asked
    (reply, { noted with selected := machine.selected.setIfInBounds file.number address })

/-- The directory that holds the machine's programs. -/
def programDir : FilePath := ⟨"bin"⟩

/-- The file in which the module loader notes its arguments. -/
def loaderNotes : FilePath := ⟨"called"⟩

/-- The longest argument of a program, in bytes. -/
def maxArgumentLength : Nat := 131071

/-- Runs the module loader, if there is one. A file that is not marked as a program cannot be run; one
that is marked but is none is refused by its format, after the argument was looked at. -/
def loadModule (machine : Machine) (name : String) : Except FileFailure Nat × Machine :=
  if name.toList.contains '\x00' then (.error .badArgument, machine)
  else
    match machine.tree.find machine.home (programDir.join "modprobe") with
    | .error failure => (.error failure, machine)
    | .ok trail =>
      match machine.tree.node trail.target with
      | .program status =>
        if maxArgumentLength < name.utf8ByteSize then (.error (.refused .argumentsTooLong), machine)
        else
          let noted := machine.tree.putFile machine.home loaderNotes (some (name ++ "\n"))
          (.ok status, { machine with tree := noted.tree })
      | .file _ true =>
        if maxArgumentLength < name.utf8ByteSize then (.error (.refused .argumentsTooLong), machine)
        else (.error (.refused .notExecutable), machine)
      | _ => (.error (.refused .accessDenied), machine)

/-- Answers a question, through the layer of faults where sysfs is concerned. -/
def answer : (query : Query) → Machine → query.Answer × Machine
  | .readAttribute dir name, machine =>
    (match machine.tree.readText machine.home (dir.join name) with
      | .ok text => Text.firstLine? text
      | .error _ => none, machine)
  | .linkTarget dir name, machine =>
    ((machine.tree.readLink? machine.home (dir.join name)).map FilePath.mk, machine)
  | .canonical path, machine =>
    (match deniedBy? machine.faults.denyCanonical path.text with
      | some number => .error (.refused number)
      | none => machine.tree.canonical machine.home path, machine)
  | .entries dir, machine => (machine.listing dir, machine)
  | .present path, machine => ((machine.tree.find machine.home path).toBool, machine)
  | .writeAttribute dir name value, machine => machine.writeAttribute dir name value
  | .identity path, machine =>
    (if machine.faults.forgedIdentity.any (endsWith path) then some ⟨0, 0⟩
      else (machine.identityAt path).toOption, machine)
  | .isDirectory path, machine => (machine.tree.leadsToDir machine.home path, machine)
  | .isSysfs _, machine => (false, machine)
  | .text path, machine => (machine.tree.readText machine.home path, machine)
  | .regularFiles dir, machine => (machine.tree.listRegular machine.home dir, machine)
  | .standardInput, machine =>
    (match machine.input with
      | some text => .ok text
      | none => .error .notText, machine)
  | .deviceIdentity path, machine => (machine.identityAt path, machine)
  | .openDevice path, machine => machine.openDevice path
  | .request file asked, machine => machine.request file asked
  | .loadModule name, machine => machine.loadModule name
  | .clock, machine => ((0 : Nat), machine)
  | .report notice, machine => ((), { machine with journal := machine.journal.push notice })
  | .print line, machine => ((), { machine with output := machine.output.push line })

/-- Runs an act on the machine. -/
def run {σ α : Type} (machine : Machine) (act : Act σ α) (state : σ) : Option α × σ × Machine :=
  act.run answer state machine

end Machine
end Simulation
end I2cTopology
