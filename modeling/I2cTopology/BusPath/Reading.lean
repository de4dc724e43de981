import I2cTopology.BusPath.Basic
import I2cTopology.Numeral
import I2cTopology.Text.Quoted

/-!
# Reading adapter paths

A written path is a list of segments between colons. A segment is an integer in C notation, or an
ordinal and an output number with a dot between them. Two forms are read leniently: an ordinal that is
left out is zero, and an output number that is no integer is dropped, which leaves the ordinal as a
kernel id.
-/

namespace I2cTopology
namespace BusPath

/-- Why a text is no adapter path. Segments are counted from zero. -/
inductive Reason where
  | empty
  | emptySegment (index : Nat)
  | notNumeric (index : Nat) (segment : String)
  | tooDeep
  deriving DecidableEq, Repr

/-- The reason in words. -/
def Reason.message : Reason → String
  | empty => "empty path"
  | emptySegment index => s!"segment {index} is empty"
  | notNumeric index segment => s!"segment {index} ({Text.quoted segment}) is not numeric"
  | tooDeep => s!"more than {maxTokens - 1} segments"

/-- A text that is no adapter path, with the reason. -/
structure Malformed where
  input : String
  reason : Reason
  deriving DecidableEq, Repr

/-- The refusal in words. -/
def Malformed.message (refusal : Malformed) : String :=
  s!"malformed adapter path {Text.quoted refusal.input}: {refusal.reason.message}"

/-- The ordinal before a dot; one that is left out is zero. -/
def ordinal? (text : List Char) : Option UInt32 :=
  if text.isEmpty then some 0 else Numeral.cNotation? text

/-- The token that a segment stands for. -/
def tokenOfSegment? (segment : List Char) : Option PathToken :=
  match Text.cut? '.' segment with
  | some (before, c :: after) => do
    let ordinal ← ordinal? before
    match Numeral.cNotation? (c :: after) with
    | some output => some (.mux ordinal output)
    | none => some (.bus ordinal)
  | _ => (Numeral.cNotation? segment).map .bus

/-- The tokens of the segments from position `index` on. The leftmost fault is reported. -/
def tokensOfSegments (index : Nat) : List (List Char) → Except Reason (List PathToken)
  | [] => .ok []
  | segment :: others =>
    if index = maxTokens - 1 then .error .tooDeep
    else if segment.isEmpty then .error (.emptySegment index)
    else
      match tokenOfSegment? segment with
      | none => .error (.notNumeric index (String.ofList segment))
      | some token => (tokensOfSegments (index + 1) others).map (token :: ·)

/-- Reads a list of characters as an adapter path. -/
def parseChars (text : List Char) : Except Reason BusPath :=
  if text.isEmpty then .error .empty
  else (tokensOfSegments 0 (Text.pieces ':' text)).map fun steps => ⟨steps ++ [.stop]⟩

/-- Reads a text as an adapter path. -/
def parse (text : String) : Except Malformed BusPath :=
  (parseChars text.toList).mapError fun reason => ⟨text, reason⟩

end BusPath
end I2cTopology
