import I2cTopology.FilePath
import I2cTopology.System.ErrorNumber

/-!
# A file tree

A file system with directories, text files, programs and symbolic links. A file is known by its number,
which it keeps when it is renamed; numbers are not used again. Paths are walked as a kernel walks them: a
symbolic link stands for its target, `..` leads to the directory that holds the current one, and a path
that needs more than forty links is refused.
-/

namespace I2cTopology
namespace Simulation

/-- What a file number stands for. -/
inductive Node where
  /-- A directory: names and file numbers, in the order of the names. -/
  | dir (entries : List (String × Nat))
  /-- A file, which may be marked as a program although it is none; its contents are none if they are
  not text. -/
  | file (contents : Option String) (executable : Bool)
  /-- A program that notes its arguments and ends with the given status. -/
  | program (status : Nat)
  | link (target : String)
  deriving DecidableEq, Repr, Inhabited

/-- A file system, by file number. The root directory is number zero. -/
structure FileTree where
  nodes : Array Node
  /-- The files that were struck from a directory under some name, the latest first. -/
  struck : List (Nat × String) := []
  deriving DecidableEq, Repr, Inhabited

/-- The way from the root directory to a file: names and numbers, the last step first. -/
abbrev Trail : Type :=
  List (String × Nat)

namespace Trail

/-- The number of the file that a trail leads to. -/
def target (trail : Trail) : Nat :=
  (trail.head?.map Prod.snd).getD 0

/-- The absolute path of a trail, free of symbolic links. -/
def path (trail : Trail) : FilePath :=
  ⟨"/" ++ String.intercalate "/" (trail.reverse.map Prod.fst)⟩

end Trail

/-- Where a path leads. -/
inductive Spot where
  /-- To a file. -/
  | found (trail : Trail)
  /-- To a name that is free in a directory. -/
  | vacant (parent : Trail) (name : String)
  deriving DecidableEq, Repr

namespace FileTree

/-- The file system that holds only an empty root directory. -/
def empty : FileTree := { nodes := #[.dir []] }

/-- What a file number stands for. -/
def node (tree : FileTree) (number : Nat) : Node :=
  tree.nodes[number]?.getD (.dir [])

/-- The entries of a directory; nothing else has any. -/
def entriesOf (tree : FileTree) (number : Nat) : List (String × Nat) :=
  match tree.node number with
  | .dir entries => entries
  | _ => []

/-- Is the file a directory? -/
def isDir (tree : FileTree) (number : Nat) : Bool :=
  match tree.node number with
  | .dir _ => true
  | _ => false

/-! ## Walking paths -/

/-- The names of a path. Separators next to each other count once, and one at the end leaves an empty
name behind it. -/
def names (text : String) : List String :=
  let pieces := Text.pieces '/' text.toList
  let middle := (pieces.dropLast.filter (· ≠ [])).map String.ofList
  middle ++ (pieces.getLast?.map String.ofList).toList

/-- The links that may be followed on one walk. -/
def maxLinks : Nat := 40

/-- The longest name of a file, in bytes. -/
def maxNameLength : Nat := 255

/-- The longest path that can be handed in, in bytes. -/
def maxPathLength : Nat := 4095

/-- What a path is walked for. -/
inductive Purpose where
  /-- For an entry of a directory. A link at the very end is not followed. -/
  | entry
  /-- For a file that is there. -/
  | target
  /-- For a file that is made if it is missing. A name with a separator behind it is no name for it. -/
  | creation
  deriving DecidableEq, Repr

/-- Walks along names from the file at the end of a trail. `links` links may still be followed. -/
def walk (tree : FileTree) (purpose : Purpose) (links : Nat) (trail : Trail) :
    List String → Except ErrorNumber Spot
  | [] => .ok (.found trail)
  | name :: rest =>
    match tree.node trail.target with
    | .dir entries =>
      if name = "" ∨ name = "." then tree.walk purpose links trail rest
      else if name = ".." then tree.walk purpose links trail.tail rest
      else if purpose = .creation ∧ rest = [""] then .error .isDirectory
      else if maxNameLength < name.utf8ByteSize then .error .nameTooLong
      else
        match entries.lookup name with
        | none => if rest.isEmpty then .ok (.vacant trail name) else .error .noEntry
        | some number =>
          match tree.node number, links with
          | .link target, links =>
            if rest.isEmpty && purpose == .entry then .ok (.found ((name, number) :: trail))
            else
              match links with
              | 0 => .error .tooManyLinks
              | links + 1 =>
                let start := if target.toList.head? = some '/' then [] else trail
                tree.walk purpose links start (names target ++ rest)
          | _, links => tree.walk purpose links ((name, number) :: trail) rest
    | _ => .error .notDirectory
termination_by pieces => (links, pieces.length)

/-- Can the text be handed to the kernel as a path? -/
def isPath (text : String) : Bool :=
  !text.toList.contains '\x00'

/-- Refuses a path that the kernel does not look at. -/
def vet (text : String) : Except FileFailure Unit :=
  if text.isEmpty then .error (.refused .noEntry)
  else if maxPathLength < text.utf8ByteSize then .error (.refused .nameTooLong)
  else .ok ()

/-- Where a path leads, as seen from a directory. -/
def locate (tree : FileTree) (home : Trail) (purpose : Purpose) (path : FilePath) :
    Except FileFailure Spot := do
  if !isPath path.text then throw .badName
  vet path.text
  let start := if path.isAbsolute then [] else home
  (tree.walk purpose maxLinks start (names path.text)).mapError .refused

/-- The trail of the file that a path leads to, links followed. -/
def find (tree : FileTree) (home : Trail) (path : FilePath) : Except FileFailure Trail := do
  match ← tree.locate home .target path with
  | .found trail => return trail
  | .vacant _ _ => throw (.refused .noEntry)

/-! ## Reading -/

/-- The text of a file. -/
def readText (tree : FileTree) (home : Trail) (path : FilePath) : Except FileFailure String := do
  match tree.node (← tree.find home path).target with
  | .file (some text) _ => return text
  | .file none _ => throw .notText
  | .program status => return s!"exit {status}\n"
  | _ => throw (.refused .isDirectory)

/-- The target of a symbolic link. -/
def readLink? (tree : FileTree) (home : Trail) (path : FilePath) : Option String :=
  match tree.locate home .entry path with
  | .ok (.found trail) =>
    match tree.node trail.target with
    | .link target => some target
    | _ => none
  | _ => none

/-- The names in a directory, in order. A file that is no directory holds none. -/
def list (tree : FileTree) (home : Trail) (path : FilePath) : Except FileFailure (List String) := do
  let trail ← tree.find home path
  return (tree.entriesOf trail.target).map Prod.fst

/-- Is the file a regular one? -/
def isRegular (tree : FileTree) (number : Nat) : Bool :=
  match tree.node number with
  | .file _ _ => true
  | .program _ => true
  | _ => false

/-- The names of the regular files in a directory, in order. -/
def listRegular (tree : FileTree) (home : Trail) (path : FilePath) :
    Except FileFailure (List String) := do
  let trail ← tree.find home path
  return ((tree.entriesOf trail.target).filter fun (_, number) => tree.isRegular number).map Prod.fst

/-- Does a path lead to a directory? -/
def leadsToDir (tree : FileTree) (home : Trail) (path : FilePath) : Bool :=
  match tree.find home path with
  | .ok trail => tree.isDir trail.target
  | .error _ => false

/-- Is the file entered in the directory of the given number? -/
def holds (tree : FileTree) (number dir : Nat) : Bool :=
  (tree.entriesOf dir).any fun (_, entry) => entry == number

/-- The directory in which a file is entered. -/
def holderOf? (tree : FileTree) (number : Nat) : Option Nat :=
  (List.range tree.nodes.size).find? (tree.holds number)

/-- Does a way of at most the given length lead from the root directory to a file? A directory that was
removed keeps its entries, but no way leads to it. -/
def isReachable (tree : FileTree) (number : Nat) : Nat → Bool
  | 0 => number == 0
  | length + 1 =>
    number == 0 ||
      match tree.holderOf? number with
      | some dir => tree.isReachable dir length
      | none => false

/-- The name that a file has, or the last one that it had. -/
def lastName? (tree : FileTree) (number : Nat) : Option String :=
  match tree.holderOf? number with
  | some dir =>
    ((tree.entriesOf dir).find? fun (_, entry) => entry == number).map Prod.fst
  | none => tree.struck.lookup number

/-- The name of a file, marked if the file is gone. -/
def displayName (tree : FileTree) (number : Nat) : String :=
  let name := (tree.lastName? number).getD ""
  if tree.isReachable number tree.nodes.size then name else name ++ " (deleted)"

/-! ## Changing -/

/-- Replaces what a file number stands for. -/
def setNode (tree : FileTree) (number : Nat) (node : Node) : FileTree :=
  { tree with nodes := tree.nodes.setIfInBounds number node }

/-- Inserts an entry at its place in the order of the names. -/
def insertEntry (name : String) (number : Nat) : List (String × Nat) → List (String × Nat)
  | [] => [(name, number)]
  | (other, existing) :: rest =>
    if name < other then (name, number) :: (other, existing) :: rest
    else (other, existing) :: insertEntry name number rest

/-- Enters a file into a directory under a name that is free. -/
def enter (tree : FileTree) (dir : Nat) (name : String) (number : Nat) : FileTree :=
  tree.setNode dir (.dir (insertEntry name number (tree.entriesOf dir)))

/-- Strikes the entries of a directory whose names fit. -/
def strikeWhere (tree : FileTree) (dir : Nat) (fits : String → Bool) : FileTree :=
  let (gone, kept) := (tree.entriesOf dir).partition fun (name, _) => fits name
  { tree.setNode dir (.dir kept) with struck := gone.map Prod.swap ++ tree.struck }

/-- Strikes a name from a directory. -/
def strike (tree : FileTree) (dir : Nat) (name : String) : FileTree :=
  tree.strikeWhere dir (· == name)

/-- Strikes everything from a directory. -/
def strikeAll (tree : FileTree) (dir : Nat) : FileTree :=
  tree.strikeWhere dir fun _ => true

/-- Adds a new file to a directory. -/
def add (tree : FileTree) (dir : Nat) (name : String) (node : Node) : FileTree :=
  let number := tree.nodes.size
  FileTree.enter { tree with nodes := tree.nodes.push node } dir name number

/-- What came of a change: the failure that ended it, if one did, and the tree that it left. What was
changed before a failure stays changed. -/
structure Outcome where
  failure : Option FileFailure
  tree : FileTree
  deriving DecidableEq, Repr

namespace Outcome

/-- The outcome of a single edit of a tree. -/
def ofEdit (tree : FileTree) : Except FileFailure FileTree → Outcome
  | .ok edited => ⟨none, edited⟩
  | .error failure => ⟨some failure, tree⟩

/-- Goes on with another change unless this one failed. -/
def andThen (outcome : Outcome) (next : FileTree → Outcome) : Outcome :=
  if outcome.failure.isSome then outcome else next outcome.tree

end Outcome

/-- Does a path end with a separator, and so name a directory? -/
def namesDir (path : FilePath) : Bool :=
  path.text.toList.getLast? == some '/'

/-- The path without separators at its end. -/
def trimmed (path : FilePath) : FilePath :=
  let text := (path.text.toList.reverse.dropWhile (· == '/')).reverse
  if text.isEmpty then path else ⟨String.ofList text⟩

/-- Makes a directory, unless the path leads to one already. -/
def makeDir (tree : FileTree) (home : Trail) (path : FilePath) : Except FileFailure FileTree := do
  match ← tree.locate home .entry (trimmed path) with
  | .vacant parent name => return tree.add parent.target name (.dir [])
  | .found _ =>
    if tree.leadsToDir home path then return tree
    else throw (.refused .fileExists)

/-- Makes the first directory of a list; if the way to it is missing, the others are made before. The
empty path names the directory where paths start. -/
def makeChain (tree : FileTree) (home : Trail) : List FilePath → Outcome
  | [] => ⟨none, tree⟩
  | path :: above =>
    if path.text.isEmpty then ⟨none, tree⟩
    else
      match tree.makeDir home path with
      | .ok tree => ⟨none, tree⟩
      | .error failure =>
        if failure = .refused .noEntry then
          (tree.makeChain home above).andThen fun tree =>
            Outcome.ofEdit tree (tree.makeDir home path)
        else ⟨some failure, tree⟩

/-- Makes a directory and every directory on the way to it. -/
def makeDirs (tree : FileTree) (home : Trail) (path : FilePath) : Outcome :=
  tree.makeChain home (path :: path.parents)

/-- What a file becomes when it is written to. It stays marked as a program. -/
def written (contents : Option String) : Node → Node
  | .file _ executable => .file contents executable
  | .program _ => .file contents true
  | _ => .file contents false

/-- Gives a file its contents, and makes it if it is missing. -/
def writeFile (tree : FileTree) (home : Trail) (path : FilePath) (contents : Option String) :
    Except FileFailure FileTree := do
  match ← tree.locate home .creation path with
  | .vacant parent name => return tree.add parent.target name (.file contents false)
  | .found trail =>
    if tree.isDir trail.target then throw (.refused .isDirectory)
    else return tree.setNode trail.target (written contents (tree.node trail.target))

/-- Gives a file its contents, and makes it and the directories on the way to it if they are
missing. -/
def putFile (tree : FileTree) (home : Trail) (path : FilePath) (contents : Option String) : Outcome :=
  (tree.makeChain home path.parents).andThen fun tree =>
    Outcome.ofEdit tree (tree.writeFile home path contents)

/-- Makes the file at a path a program. -/
def makeProgram (tree : FileTree) (home : Trail) (path : FilePath) (status : Nat) :
    Except FileFailure FileTree := do
  let trail ← tree.find home path
  return tree.setNode trail.target (.program status)

/-- Gives new contents to a file that exists. -/
def overwrite (tree : FileTree) (home : Trail) (path : FilePath) (text : String) :
    Except FileFailure FileTree := do
  let trail ← tree.find home path
  if tree.isDir trail.target then throw (.refused .isDirectory)
  else return tree.setNode trail.target (written (some text) (tree.node trail.target))

/-- Makes a symbolic link. The target is taken as it is, but it has to be a path. -/
def makeLink (tree : FileTree) (home : Trail) (path : FilePath) (target : String) :
    Except FileFailure FileTree := do
  if !isPath target || !isPath path.text then throw .badName
  vet target
  match ← tree.locate home .entry (trimmed path) with
  | .vacant parent name =>
    if namesDir path then throw (.refused .noEntry)
    else return tree.add parent.target name (.link target)
  | .found _ => throw (.refused .fileExists)

/-! ## Removing and moving -/

/-- The last name of a path. -/
def finalName (path : FilePath) : String :=
  ((names (trimmed path).text).getLast?).getD ""

/-- Is the last name of a path one that a directory has for itself or for the one that holds it? -/
def endsInDots (path : FilePath) : Bool :=
  ["", ".", ".."].contains (finalName path)

/-- Removes a file or a link. -/
def unlink (tree : FileTree) (home : Trail) (path : FilePath) : Except FileFailure FileTree := do
  match ← tree.locate home .entry (trimmed path) with
  | .found ((name, number) :: parent) =>
    if tree.isDir number then throw (.refused .isDirectory)
    else if namesDir path then throw (.refused .notDirectory)
    else return tree.strike (Trail.target parent) name
  | .found [] => throw (.refused .isDirectory)
  | .vacant _ _ => throw (.refused .noEntry)

/-- Removes a directory that is empty. -/
def removeDir (tree : FileTree) (home : Trail) (path : FilePath) : Except FileFailure FileTree := do
  let spot ← tree.locate home .entry (trimmed path)
  match finalName path with
  | "" => throw (.refused .busy)
  | "." => throw (.refused .invalidArgument)
  | ".." => throw (.refused .notEmpty)
  | _ =>
    match spot with
    | .found ((name, number) :: parent) =>
      if !tree.isDir number then throw (.refused .notDirectory)
      else if !(tree.entriesOf number).isEmpty then throw (.refused .notEmpty)
      else return tree.strike (Trail.target parent) name
    | .found [] => throw (.refused .busy)
    | .vacant _ _ => throw (.refused .noEntry)

/-- Empties a directory and removes it. It may be gone by the time it is empty. -/
def removeEmptied (tree : FileTree) (home : Trail) (path : FilePath) (number : Nat) : Outcome :=
  let emptied := tree.strikeAll number
  match emptied.removeDir home path with
  | .ok tree => ⟨none, tree⟩
  | .error failure => ⟨if failure = .refused .noEntry then none else some failure, emptied⟩

/-- Removes a directory with everything in it, or a link. -/
def removeDirs (tree : FileTree) (home : Trail) (path : FilePath) : Outcome :=
  match tree.locate home .entry path with
  | .error failure => ⟨some failure, tree⟩
  | .ok (.vacant _ _) => ⟨some (.refused .noEntry), tree⟩
  | .ok (.found trail) =>
    match tree.node trail.target with
    | .dir _ => tree.removeEmptied home path trail.target
    | .link _ => .ofEdit tree (tree.unlink home path)
    | _ => ⟨some (.refused .notDirectory), tree⟩

/-- Removes a file or a directory with everything in it. A link is removed, not followed. -/
def remove (tree : FileTree) (home : Trail) (path : FilePath) : Outcome :=
  match tree.locate home .entry path with
  | .ok (.found trail) =>
    if tree.isDir trail.target then tree.removeEmptied home path trail.target
    else .ofEdit tree (tree.unlink home path)
  | _ => .ofEdit tree (tree.unlink home path)

/-- May a file take the place of another one? -/
def mayReplace (tree : FileTree) (moved existing : Nat) : Except FileFailure Unit :=
  match tree.isDir moved, tree.node existing with
  | true, .dir [] => .ok ()
  | true, .dir _ => .error (.refused .notEmpty)
  | true, _ => .error (.refused .notDirectory)
  | false, .dir _ => .error (.refused .isDirectory)
  | false, _ => .ok ()

/-- Moves a file to another name. -/
def move (tree : FileTree) (home : Trail) (source destination : FilePath) :
    Except FileFailure FileTree := do
  if !isPath source.text || !isPath destination.text then throw .badName
  let start ← tree.locate home .entry (trimmed source)
  let goal ← tree.locate home .entry (trimmed destination)
  if endsInDots source || endsInDots destination then throw (.refused .busy)
  match start, goal with
  | .found ((name, number) :: parent), goal =>
    if !tree.isDir number && (namesDir source || namesDir destination) then
      throw (.refused .notDirectory)
    match goal with
    | .vacant newParent newName =>
      if newParent.any (·.2 == number) then throw (.refused .invalidArgument)
      else return (tree.strike (Trail.target parent) name).enter newParent.target newName number
    | .found ((newName, existing) :: newParent) =>
      if number = existing then return tree
      else if newParent.any (·.2 == number) then throw (.refused .invalidArgument)
      else if parent.any (·.2 == existing) then throw (.refused .notEmpty)
      else
        tree.mayReplace number existing
        let cleared := tree.strike (Trail.target newParent) newName
        return (cleared.strike (Trail.target parent) name).enter (Trail.target newParent) newName number
    | .found [] => throw (.refused .busy)
  | .found [], _ => throw (.refused .busy)
  | .vacant _ _, _ => throw (.refused .noEntry)

end FileTree
end Simulation
end I2cTopology
