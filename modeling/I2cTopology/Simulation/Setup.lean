import I2cTopology.Adapter
import I2cTopology.Simulation.FileTree

/-!
# Setting up a simulated machine

Changes to a file tree, from single files to a whole adapter with its control attributes, its links and
its device file. A change is a list of edits; the first edit that fails ends it, and what was edited
before stays.
-/

namespace I2cTopology
namespace Simulation

/-- One step of a change. -/
inductive Edit where
  /-- A directory, with every directory on the way to it. -/
  | directory (path : FilePath)
  /-- A file, with every directory on the way to it. Its contents are none if they are not text. -/
  | file (path : FilePath) (contents : Option String)
  /-- A file becomes a program that ends with a status. -/
  | program (path : FilePath) (status : Nat)
  /-- A file in a directory that is there. -/
  | entry (path : FilePath) (contents : String)
  /-- A symbolic link. -/
  | link (path : FilePath) (target : String)
  /-- A symbolic link, unless its name is taken. -/
  | linkOnce (path : FilePath) (target : String)
  | remove (path : FilePath)
  | move (source destination : FilePath)
  deriving Repr

namespace Edit

/-- What comes of one step. -/
def apply (home : Trail) (tree : FileTree) : Edit → FileTree.Outcome
  | directory path => tree.makeDirs home path
  | file path contents => tree.putFile home path contents
  | program path status => .ofEdit tree (tree.makeProgram home path status)
  | entry path contents => .ofEdit tree (tree.writeFile home path (some contents))
  | link path target => .ofEdit tree (tree.makeLink home path target)
  | linkOnce path target =>
    match tree.locate home .entry path with
    | .ok (.found _) => ⟨none, tree⟩
    | _ => .ofEdit tree (tree.makeLink home path target)
  | remove path => tree.remove home path
  | move source destination => .ofEdit tree (tree.move home source destination)

/-- What comes of steps up to the first that fails. -/
def applyAll (home : Trail) (tree : FileTree) (edits : List Edit) : FileTree.Outcome :=
  edits.foldl (fun outcome edit => outcome.andThen (edit.apply home)) ⟨none, tree⟩

end Edit

/-- A change to the files of a machine. -/
inductive Change where
  | directory (path : FilePath)
  /-- A file with its contents, none if they are not text. -/
  | file (path : FilePath) (contents : Option String)
  | remove (path : FilePath)
  | move (source destination : FilePath)
  | link (path : FilePath) (target : String)
  /-- The program that loads kernel modules, with its exit status, of which a byte is kept. -/
  | moduleLoader (status : Nat)
  /-- An adapter inside a directory. -/
  | adapter (parent : FilePath) (nr : UInt32) (name : String)
  /-- A chip inside an adapter's directory, and perhaps the driver that it is bound to. -/
  | chip (adapter : FilePath) (nr : UInt32) (address : UInt16) (name : String)
      (driver : Option String)
  deriving Repr

namespace Change

/-- The mount point of sysfs, and the directory of the device files. -/
def sysfs : FilePath := ⟨"sys"⟩
def deviceRoot : FilePath := ⟨"dev"⟩

/-- The directory of the i2c bus, and what it holds. -/
def busDir : FilePath := sysfs.join "bus/i2c"
def devicesDir : FilePath := busDir.join "devices"
def driversDir : FilePath := busDir.join "drivers"
def modulesDir : FilePath := sysfs.join "module"

/-- The program that loads kernel modules. -/
def moduleLoaderPath : FilePath := ⟨"bin/modprobe"⟩

/-- The directories of a machine that has neither adapters nor configuration. -/
def bareMachine : List Change :=
  [devicesDir, driversDir, modulesDir, sysfs.join "devices", deviceRoot, ⟨"etc/i2cdiscov.d"⟩].map
    directory

/-- A path as a link target that does not depend on the directory of the link. -/
def fromRoot (root path : FilePath) : String :=
  (root.join path.text).text

/-- The steps for an adapter. -/
def adapterEdits (root parent : FilePath) (nr : UInt32) (name : String) : List Edit :=
  let entry := s!"i2c-{nr}"
  let dir := parent.join entry
  [.directory dir,
    .entry (dir.join "name") (name ++ "\n"),
    .entry (dir.join "new_device") "",
    .entry (dir.join "delete_device") "",
    .link (dir.join "subsystem") (fromRoot root busDir),
    .link (devicesDir.join entry) (fromRoot root dir),
    .entry (deviceRoot.join entry) ""]

/-- The steps for the driver of a chip. The driver may be there already. -/
def driverEdits (root dir : FilePath) (driver : String) : List Edit :=
  let driverDir := driversDir.join driver
  let moduleDir := modulesDir.join driver
  [.directory driverDir,
    .directory moduleDir,
    .linkOnce (driverDir.join "module") (fromRoot root moduleDir),
    .link (dir.join "driver") (fromRoot root driverDir)]

/-- The steps for a chip. -/
def chipEdits (root adapter : FilePath) (nr : UInt32) (address : UInt16) (name : String)
    (driver : Option String) : List Edit :=
  let entry := Chip.directoryName nr address
  let dir := adapter.join entry
  [.directory dir,
    .entry (dir.join "name") (name ++ "\n"),
    .link (dir.join "subsystem") (fromRoot root busDir),
    .link (devicesDir.join entry) (fromRoot root dir)] ++
    (driver.map (driverEdits root dir)).getD []

/-- The steps of a change on a machine whose files are below `root`. -/
def edits (root : FilePath) : Change → List Edit
  | directory path => [.directory path]
  | file path contents => [.file path contents]
  | remove path => [.remove path]
  | move source destination => [.move source destination]
  | link path target => [.link path target]
  | moduleLoader status =>
    [.file moduleLoaderPath (some ""), .program moduleLoaderPath (status % 256)]
  | adapter parent nr name => adapterEdits root parent nr name
  | chip dir nr address name driver => chipEdits root dir nr address name driver

/-- What comes of a change. -/
def apply (home : Trail) (tree : FileTree) (change : Change) : FileTree.Outcome :=
  Edit.applyAll home tree (change.edits home.path)

/-- The tree after changes, each as far as it can be made. -/
def applyAll (home : Trail) (tree : FileTree) (changes : List Change) : FileTree :=
  changes.foldl (fun tree change => (change.apply home tree).tree) tree

end Change
end Simulation
end I2cTopology
