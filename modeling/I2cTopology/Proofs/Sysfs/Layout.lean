import I2cTopology.Proofs.Sysfs.Names

/-!
# Layouts of adapters

The adapters of a machine form a forest, and sysfs shows it by where their directories are.  A root has its
directory anywhere but in the directory of an adapter.  The directory of a child is in the directory of its
parent, and so is that of a multiplexer channel that tells its output number by its name.  The channels of a
multiplexer chip are in the directory of the chip, which is in the directory of the parent; each of them leads
to the chip, and one link of the chip leads back to it and tells the output number.

* `Node`, `LaidOut`: adapters and their directories.
* `Shows`: a machine on which such directories are found.
* `LaidOut.parentOf_eq`: the place of a directory tells the parent.
* `LaidOut.exists_above`: whoever has a parent is below it.
* `PathTo`, `LaidOut.exists_pathTo`: the path from a root to a node.
-/

namespace I2cTopology
namespace Sysfs

open FilePath (PlainName)
open Scan (adapterNr? outputNr? linkName channelName legacyName TellsOutput)

/-- The place of an adapter in the forest. -/
inductive Place where
  | root
  | child (parent : UInt32)
  /-- A channel that tells its output number by its name. -/
  | legacy (parent output : UInt32)
  /-- A channel behind a multiplexer chip with the given directory. -/
  | behind (parent : UInt32) (chip : FilePath) (output : UInt32)
  deriving DecidableEq, Repr

namespace Place

/-- The parent of an adapter in this place. -/
def parent : Place → DeclaredParent
  | root => .root
  | child parent => .adapter parent
  | legacy parent _ => .adapter parent
  | behind parent _ _ => .adapter parent

/-- The output number of an adapter in this place. -/
def channel : Place → Option UInt32
  | root => none
  | child _ => none
  | legacy _ output => some output
  | behind _ _ output => some output

/-- The directory of the multiplexer chip that an adapter in this place leads to. -/
def chip? : Place → Option FilePath
  | behind _ chip _ => some chip
  | _ => none

end Place

/-- An adapter of the forest, with its directory. -/
structure Node where
  nr : UInt32
  name : String
  place : Place
  dir : FilePath
  deriving DecidableEq, Repr

/-- The directory holds the directories of the adapters in the given place.  That of a chip may have any name
that is no adapter's. -/
def Place.Holds (nodes : List Node) (holder : FilePath) : Place → Prop
  | .root => holder.fileName?.bind adapterNr? = none
  | .child parent | .legacy parent _ => ∃ above ∈ nodes, above.nr = parent ∧ holder = above.dir
  | .behind parent chip _ => holder = chip ∧ ∃ above ∈ nodes, above.nr = parent ∧
      ∃ name, PlainName name ∧ adapterNr? name = none ∧ chip = above.dir.join name

/-- The directory of a node bears its number, and it is held by a directory as the place says. -/
def Node.Sits (nodes : List Node) (node : Node) : Prop :=
  ∃ holder : FilePath, node.dir = holder.join (linkName node.nr) ∧ node.place.Holds nodes holder

/-- The name of a node tells the output number if its place says so, and no other name tells any. -/
def Node.Named (node : Node) : Prop :=
  match node.place with
  | .legacy _ output => ∃ number, node.name = legacyName number output
  | _ => ¬ TellsOutput node.name

/-- The nodes are a forest with distinct kernel ids, and directories and names are as their places say. -/
structure LaidOut (nodes : List Node) : Prop where
  distinct : (nodes.map Node.nr).Nodup
  sits : ∀ node ∈ nodes, node.Sits nodes
  named : ∀ node ∈ nodes, node.Named

/-- The link of a multiplexer chip that leads back to a channel. -/
structure LeadsBack {μ : Type} (machine : Act.Machine μ) (chip : FilePath) (output : UInt32)
    (dir : FilePath) (links : List String) : Prop where
  listed : ∀ world, (machine (.entries chip) world).1 = .names links
  mem : channelName output ∈ links
  leads : ∀ world, (machine (.canonical (chip.join (channelName output))) world).1 = .ok dir
  /-- No other channel link of the chip leads there. -/
  only : ∀ link ∈ links, (outputNr? link).isSome → link ≠ channelName output → ∀ world target,
    (machine (.canonical (chip.join link)) world).1 = .ok target → target.sameAs dir = false

/-- The machine shows the nodes in its sysfs, whatever state it is in.  Nothing is said about what else there
may be, in the directory of links, in those of the adapters and elsewhere. -/
structure Shows {μ : Type} (machine : Act.Machine μ) (settings : Settings) (nodes : List Node) : Prop where
  mounted : ∀ world, (machine (.isDirectory settings.sysfsRoot) world).1 = true
  verified : settings.verifySysfs = true →
    ∀ world, (machine (.isSysfs settings.sysfsRoot) world).1 = true
  /-- Of the listed names, those that read as adapters are the links to the nodes, in any order. -/
  listed : ∃ names : List String,
    (∀ world, (machine (.entries settings.devicesDir) world).1 = .names names) ∧
    (names.filter fun name => (adapterNr? name).isSome).Perm (nodes.map fun node => linkName node.nr)
  linked : ∀ node ∈ nodes, ∀ world,
    (machine (.canonical (settings.devicesDir.join (linkName node.nr))) world).1 = .ok node.dir
  named : ∀ node ∈ nodes, ∀ world,
    (machine (.readAttribute node.dir "name") world).1 = some node.name
  /-- Channels behind a chip lead to the chip, and nobody else leads anywhere. -/
  chip : ∀ node ∈ nodes, ∀ world,
    (machine (.canonical (node.dir.join "mux_device")) world).1.toOption = node.place.chip?
  channel : ∀ node ∈ nodes, ∀ parent chip output, node.place = .behind parent chip output →
    ∃ links, LeadsBack machine chip output node.dir links
  /-- A listing may fail, but it does not bring down everything. -/
  steady : ∀ dir world, (machine (.entries dir) world).1 ≠ .aborted

variable {nodes : List Node} {node : Node}

/-! ## What places tell -/

theorem fileName?_dir (sits : node.Sits nodes) : node.dir.fileName? = some (linkName node.nr) := by
  obtain ⟨holder, hdir, -⟩ := sits
  rw [hdir, FilePath.fileName?_join (Scan.plainName_linkName node.nr)]

/-- The parent is told by the directory that holds the adapter's, or else by the one that holds the chip. -/
theorem LaidOut.parentOf_eq (laidOut : LaidOut nodes) (hnode : node ∈ nodes) :
    Scan.parentOf node.dir.parentName? node.place.chip? = node.place.parent := by
  obtain ⟨holder, hdir, hholds⟩ := laidOut.sits node hnode
  rw [hdir, FilePath.parentName?_join (Scan.plainName_linkName node.nr)]
  cases hplace : node.place with
  | root =>
    rw [hplace] at hholds
    have hnone : holder.fileName?.bind adapterNr? = none := hholds
    rw [Scan.parentOf, hnone]
    rfl
  | child parent | legacy parent _ =>
    rw [hplace] at hholds
    obtain ⟨above, habove, rfl, rfl⟩ := hholds
    rw [fileName?_dir (laidOut.sits above habove), Scan.parentOf, Option.bind_some,
      Scan.adapterNr?_linkName]
    rfl
  | behind parent chip output =>
    rw [hplace] at hholds
    obtain ⟨rfl, above, habove, rfl, name, hplain, hforeign, rfl⟩ := hholds
    rw [FilePath.fileName?_join hplain, Scan.parentOf, Option.bind_some, hforeign]
    simp only [Place.chip?, Option.bind_some, FilePath.parentName?_join hplain,
      fileName?_dir (laidOut.sits above habove), Scan.adapterNr?_linkName]
    rfl

/-- The directory of a parent has a shorter path. -/
theorem LaidOut.exists_above (laidOut : LaidOut nodes) (hnode : node ∈ nodes) {parent : UInt32}
    (hparent : node.place.parent = .adapter parent) :
    ∃ above ∈ nodes, above.nr = parent ∧
      above.dir.text.toList.length < node.dir.text.toList.length := by
  obtain ⟨holder, hdir, hholds⟩ := laidOut.sits node hnode
  have hlonger := FilePath.length_lt_join holder (Scan.plainName_linkName node.nr)
  rw [← hdir] at hlonger
  cases hplace : node.place with
  | root =>
    rw [hplace] at hparent
    cases hparent
  | child _ | legacy _ _ =>
    rw [hplace] at hholds hparent
    obtain rfl := DeclaredParent.adapter.inj hparent
    obtain ⟨above, habove, hnr, rfl⟩ := hholds
    exact ⟨above, habove, hnr, hlonger⟩
  | behind _ chip _ =>
    rw [hplace] at hholds hparent
    obtain rfl := DeclaredParent.adapter.inj hparent
    obtain ⟨rfl, above, habove, hnr, name, hplain, -, rfl⟩ := hholds
    exact ⟨above, habove, hnr, (FilePath.length_lt_join _ hplain).trans hlonger⟩

/-! ## Paths -/

/-- The number of nodes with the same parent, the same output number and a smaller kernel id. -/
def ordinal (nodes : List Node) (node : Node) : Nat :=
  nodes.countP fun other => other.place.parent = node.place.parent ∧
    other.place.channel = node.place.channel ∧ other.nr < node.nr

/-- What a node adds to the path of its parent. -/
def segment (nodes : List Node) (node : Node) : String :=
  match node.place.channel with
  | some output => s!"{ordinal nodes node}.{output}"
  | none => toString node.nr

/-- The path that leads to a node from a root, however long it is. -/
inductive PathTo (nodes : List Node) : Node → String → Prop
  | root {node : Node} (hnode : node ∈ nodes) (hroot : node.place.parent = .root) :
      PathTo nodes node (toString node.nr)
  | child {node above : Node} {text : String} (hnode : node ∈ nodes)
      (hparent : node.place.parent = .adapter above.nr) (habove : PathTo nodes above text) :
      PathTo nodes node (text ++ ":" ++ segment nodes node)

/-- A path leads to every node. -/
theorem LaidOut.exists_pathTo (laidOut : LaidOut nodes) (hnode : node ∈ nodes) :
    ∃ text, PathTo nodes node text := by
  -- The way up from a node ends, since the paths of directories become shorter.
  induction hlength : node.dir.text.toList.length using Nat.strongRecOn generalizing node with
  | ind length ih =>
    cases hparent : node.place.parent with
    | root => exact ⟨_, .root hnode hparent⟩
    | adapter parent =>
      obtain ⟨above, habove, rfl, hshorter⟩ := laidOut.exists_above hnode hparent
      obtain ⟨text, htext⟩ := ih _ (hlength ▸ hshorter) habove rfl
      exact ⟨_, .child hnode hparent htext⟩

end Sysfs
end I2cTopology
