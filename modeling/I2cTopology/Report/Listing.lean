import I2cTopology.BusPath.Basic
import I2cTopology.ExpectedChip.Basic
import I2cTopology.Forest.Basic
import I2cTopology.Handle.Functionality

/-!
# Listings

Adapters, chips, expected chips, path tokens and capabilities, one per line.
-/

namespace I2cTopology
namespace Report

/-- The line of an adapter, indented by its depth. With detail, its directory and the identity of its
device file follow. -/
def treeLine (forest : Forest) (detail : Bool) (depth : Nat) (id : AdapterId) : String :=
  let adapter := forest.adapter id
  let line :=
    Text.spaces (2 * depth) ++ Text.padRight 12 (forest.path id) ++
      " i2c-" ++ Text.padRight 4 (toString adapter.nr) ++
      " " ++ Text.padRight 4 adapter.kind.name ++ " " ++ adapter.name.getD "?"
  if detail then
    let identity := match adapter.identity with
      | some identity => s!" dev={identity.device}:{identity.inode}"
      | none => ""
    line ++ s!"  [{adapter.location.text}]" ++ identity
  else line

/-- The lines of adapters with their depths. -/
def treeLines (forest : Forest) (nodes : List (Nat × AdapterId)) (detail : Bool) : List String :=
  nodes.map fun (depth, id) => treeLine forest detail depth id

/-- The line of a chip, marked with a star if it is configured. -/
def chipLine (configured : List (AdapterId × UInt16)) (detail : Bool) (chip : Chip) : String :=
  let mark := if configured.contains (chip.adapter, chip.address) then "*" else " "
  let line :=
    mark ++ " " ++ Text.padRight 28 chip.display ++
      " driver=" ++ Text.padRight 12 (chip.driver.getD "-") ++ " module=" ++ chip.module.getD "-"
  if detail then line ++ s!"  [{chip.location.text}]" else line

/-- The lines of chips. -/
def chipLines (chips : List Chip) (configured : List (AdapterId × UInt16)) (detail : Bool) :
    List String :=
  chips.map (chipLine configured detail)

/-- What became of an entry. -/
def entryState (entry : ExpectedChip) : String :=
  if entry.matched then "found"
  else if entry.available then "missing"
  else "no adapter"

/-- The line of an entry: where it was read, the entry, and what became of it. -/
def configLine (entry : ExpectedChip) : String :=
  Text.padRight 24 entry.origin.display ++ " " ++ Text.padRight 32 entry.display ++ " " ++
    entryState entry

/-- The lines of a configuration. -/
def configLines (entries : List ExpectedChip) : List String :=
  entries.map configLine

/-- The line of a path token. -/
def tokenLine : PathToken → String
  | .bus nr => s!"bus      {nr}"
  | .mux ordinal output => s!"mux      {ordinal}.{output}"
  | .channel number => s!"channel  {number}"
  | .address number => "address  0x" ++ Numeral.hexadecimal 2 number.toNat
  | .stop => "end"

/-- The lines of the tokens of a path. -/
def tokenLines (path : BusPath) : List String :=
  path.tokens.map tokenLine

/-- The name of a capability in a listing: small letters, and spaces between the words. -/
def flagLine (name : String) : String :=
  String.ofList (name.toList.map fun c => if c == '_' then ' ' else c.toLower)

/-- The lines of a set of capabilities. -/
def flagLines (set : Functionality) : List String :=
  set.names.map flagLine

end Report
end I2cTopology
