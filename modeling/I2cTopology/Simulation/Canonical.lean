import I2cTopology.Simulation.FileTree

/-!
# Resolved paths

A path is resolved name by name, and each name is looked up by the absolute path that was found for the
names before it. So the length of the path that is asked for does not matter, nor do the lengths of the
links on the way: what has to be a path for the kernel is each of the resolved paths in between.
-/

namespace I2cTopology
namespace Simulation
namespace FileTree

/-- Can the kernel be asked for a trail by its absolute path, with some characters behind it? -/
def isNameable (trail : Trail) (behind : Nat) : Bool :=
  trail.path.text.utf8ByteSize + behind ≤ maxPathLength

/-- Looks up a name in the directory at the end of a trail, by the absolute path. -/
def lookUp (tree : FileTree) (trail : Trail) (name : String) : Except ErrorNumber Nat :=
  if !isNameable ((name, 0) :: trail) 0 then .error .nameTooLong
  else
    match tree.node trail.target with
    | .dir entries =>
      if maxNameLength < name.utf8ByteSize then .error .nameTooLong
      else
        match entries.lookup name with
        | some number => .ok number
        | none => .error .noEntry
    | _ => .error .notDirectory

/-- The target of the symbolic link that a name leads to. -/
def linkAt? (tree : FileTree) (trail : Trail) (name : String) : Option String :=
  match tree.lookUp trail name with
  | .ok number =>
    match tree.node number with
    | .link target => some target
    | _ => none
  | .error _ => none

/-- The trail to a name that is no link. A directory is asked for with a separator behind its absolute
path, and nothing else will do. -/
def advance (tree : FileTree) (trail : Trail) (name : String) (asDir : Bool) :
    Except ErrorNumber Trail := do
  if asDir && !isNameable ((name, 0) :: trail) 1 then throw .nameTooLong
  let number ← tree.lookUp trail name
  if asDir && !tree.isDir number then throw .notDirectory
  return (name, number) :: trail

/-- Do names ask for a directory before they name anything in it? -/
def askForDir : List String → Bool
  | [] => false
  | name :: rest =>
    if name = "" ∨ name = "." then rest.isEmpty || askForDir rest
    else name == ".."

/-- Resolves names from the file at the end of a trail. `links` links may still be followed. -/
def resolve (tree : FileTree) (links : Nat) (trail : Trail) : List String → Except ErrorNumber Trail
  | [] => .ok trail
  | name :: rest =>
    if name = "" ∨ name = "." then tree.resolve links trail rest
    else if name = ".." then tree.resolve links trail.tail rest
    else
      match tree.linkAt? trail name, links with
      | some _, 0 => .error .tooManyLinks
      | some target, links + 1 =>
        let start := if target.toList.head? = some '/' then [] else trail
        tree.resolve links start (names target ++ rest)
      | none, links =>
        match tree.advance trail name (askForDir rest) with
        | .error number => .error number
        | .ok found => tree.resolve links found rest
termination_by pieces => (links, pieces.length)

/-- The absolute path of the file that a path leads to, free of links. -/
def canonical (tree : FileTree) (home : Trail) (path : FilePath) : Except FileFailure FilePath := do
  if !isPath path.text then throw .badName
  if path.text.isEmpty then throw (.refused .noEntry)
  let start := if path.isAbsolute then [] else home
  let trail ← (tree.resolve maxLinks start (names path.text)).mapError .refused
  return trail.path

end FileTree
end Simulation
end I2cTopology
