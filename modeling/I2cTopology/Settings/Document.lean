import I2cTopology.Settings.Basic
import I2cTopology.Settings.Notation

/-!
# Settings documents

A settings document defines each setting at most once and nothing else. The treatment of orphans is
chosen by a text, or by a table whose one key is the choice and has an empty value; such a table may
also be spread over a header and the lines below it.
-/

namespace I2cTopology
namespace Settings

/-- One part of a document. -/
inductive Item where
  /-- A table header. -/
  | header (key : Key)
  /-- A definition below a header, or before every header. -/
  | definition (table : Option Key) (key : Key) (value : Value)
  deriving DecidableEq, Repr

/-- The header at the front of a text, up to the end of its line. -/
def header? : List Char → Option (Key × List Char)
  | '[' :: rest => do
    let (key, rest) ← key? rest
    match rest with
    | ']' :: rest => (finishLine? rest).map fun rest => (key, rest)
    | _ => none
  | _ => none

/-- The definition at the front of a text, up to the end of its line. -/
def definition? (text : List Char) : Option (Key × Value × List Char) := do
  let (key, rest) ← key? text
  match rest with
  | '=' :: rest =>
    let (value, rest) ← value? (skipGaps rest)
    (finishLine? rest).map fun rest => (key, value, rest)
  | _ => none

/-- The parts of a document. `fuel` bounds their number together with the number of empty lines. -/
def items? : Nat → Option Key → List Char → Option (List Item)
  | 0, _, _ => none
  | fuel + 1, table, text =>
    match skipGaps text with
    | [] => some []
    | c :: rest =>
      if c = '[' then do
        let (key, rest) ← header? (c :: rest)
        (items? fuel (some key) rest).map (.header key :: ·)
      else if c = '#' ∨ c = '\n' ∨ c = '\r' then do
        items? fuel table (← finishLine? (c :: rest))
      else do
        let (key, value, rest) ← definition? (c :: rest)
        (items? fuel table rest).map (.definition table key value :: ·)

/-- The text without a byte order mark. -/
def dropMark : List Char → List Char
  | '\ufeff' :: rest => rest
  | text => text

/-- The parts of a document. Each of them takes at least one character. -/
def document? (text : String) : Option (List Item) :=
  let contents := dropMark text.toList
  items? (contents.length + 1) none contents

/-- The name of the setting that a part of a document belongs to. -/
def Item.setting : Item → String
  | header key => key.first
  | definition none key _ => key.first
  | definition (some table) _ _ => table.first

/-- The value that a part of a document gives to a setting at the top. -/
def Item.value? : Item → Option Value
  | definition none ⟨_, none⟩ value => some value
  | _ => none

/-- The policy with the given name. -/
def policy? (name : String) : Option OrphanPolicy :=
  if name == "warn" then some .warn else if name == "strict" then some .strict else none

/-- The name of the policy that the parts on orphans choose together. -/
def policyName? : List Item → Option String
  | [.definition none ⟨_, none⟩ (.text name)] => some name
  | [.definition none ⟨_, none⟩ (.choice name)] => some name
  | [.definition none ⟨_, some name⟩ .hollow] => some name
  | [.header ⟨_, none⟩, .definition (some ⟨_, none⟩) ⟨name, none⟩ .hollow] => some name
  | [.header ⟨_, some name⟩] => some name
  | [.header ⟨_, none⟩, .header ⟨_, some name⟩] => some name
  | [.header ⟨_, some name⟩, .header ⟨_, none⟩] => some name
  | _ => none

/-- What the parts of a document say about one setting: nothing, one value, or something that is not
one value. -/
inductive Finding (α : Type) where
  | absent
  | one (value : α)
  | unfit

/-- The finding, with a default for a setting that is absent. -/
def Finding.getD? {α : Type} (finding : Finding α) (default : α) : Option α :=
  match finding with
  | absent => some default
  | one value => some value
  | unfit => none

/-- The finding on a setting, read by `read?` from the parts that belong to it. -/
def find {α : Type} (items : List Item) (name : String) (read? : List Item → Option α) :
    Finding α :=
  let own := items.filter (·.setting == name)
  if own.isEmpty then .absent
  else
    match read? own with
    | some value => .one value
    | none => .unfit

/-- A text that one definition gives. -/
def textOf? : List Item → Option String
  | [item] =>
    match item.value? with
    | some (.text contents) => some contents
    | _ => none
  | _ => none

/-- A Boolean value that one definition gives. -/
def flagOf? : List Item → Option Bool
  | [item] =>
    match item.value? with
    | some (.flag value) => some value
    | _ => none
  | _ => none

/-- The names of the settings. -/
def names : List String :=
  ["sysfs-root", "dev-root", "config-file", "config-dir", "kernel-module", "verify-sysfs", "orphans"]

/-- The settings that the parts of a document define. -/
def ofItems? (items : List Item) : Option Settings := do
  if items.any fun item => !names.contains item.setting then none
  else
    let defaults : Settings := {}
    let path (name : String) (default : FilePath) : Option FilePath :=
      (find items name fun own => (textOf? own).map FilePath.mk).getD? default
    return {
      sysfsRoot := ← path "sysfs-root" defaults.sysfsRoot
      deviceRoot := ← path "dev-root" defaults.deviceRoot
      configFile := ← path "config-file" defaults.configFile
      configDir := ← path "config-dir" defaults.configDir
      kernelModule := ← (find items "kernel-module" textOf?).getD? defaults.kernelModule
      verifySysfs := ← (find items "verify-sysfs" flagOf?).getD? defaults.verifySysfs
      orphans := ← (find items "orphans" fun own => (policyName? own).bind policy?).getD?
        defaults.orphans }

/-- Reads a settings document. -/
def parse? (text : String) : Option Settings := do
  ofItems? (← document? text)

end Settings
end I2cTopology
