import I2cTopology.BusPath.Reading
import I2cTopology.ExpectedChip.Basic
import I2cTopology.Journal
import I2cTopology.Text.Blank
import I2cTopology.Text.Lines

/-!
# Reading the configuration

A line declares one chip by its first word, `name-i2c-bus-address` or `name-i2c-address`; a `#` starts
a comment. The name, the bus and the address may each be `*`. A bus without a colon and without a dot
is a decimal kernel id, any other bus is an adapter path. A line that is malformed is reported and
skipped.
-/

namespace I2cTopology
namespace ExpectedChip

/-- A part that a line may lack. -/
inductive Field where
  | busType
  | address
  deriving DecidableEq, Repr

/-- The name of a part. -/
def Field.name : Field → String
  | busType => "bus type"
  | address => "address"

/-- Why a line is no entry. -/
inductive LineFault where
  | missing (field : Field)
  | unsupportedBus (kind : String)
  | badPath (refusal : BusPath.Malformed)
  | badAddress (text : String)
  deriving DecidableEq, Repr

/-- The fault in words. -/
def LineFault.message : LineFault → String
  | missing field => s!"missing {field.name}"
  | unsupportedBus kind => s!"unsupported bus type {Text.quoted kind}"
  | badPath refusal => refusal.message
  | badAddress text => s!"bad chip address {Text.quoted text}"

/-- The kernel id that a bus without colons and dots stands for. -/
def nrSelector (text : List Char) : Except LineFault BusSelector :=
  match Numeral.decimal32? text with
  | some nr => .ok { nr := some nr, path := some (toString nr) }
  | none =>
    let shown := String.ofList text
    .error (.badPath ⟨shown, .notNumeric 0 shown⟩)

/-- The adapter that the bus of a line asks for. -/
def busSelector (bus : Option (List Char)) : Except LineFault BusSelector :=
  match bus with
  | none => .ok {}
  | some text =>
    if text = ['*'] then .ok {}
    else if text.any fun c => c == ':' || c == '.' then
      match BusPath.parse (String.ofList text) with
      | .error refusal => .error (.badPath refusal)
      | .ok _ => .ok { path := some (String.ofList text) }
    else nrSelector text

/-- The address that a line asks for. -/
def addressSelector (text : List Char) : Except LineFault (Option UInt16) :=
  if text = ['*'] then .ok none
  else
    match (Numeral.cNotation16? text).filter (· ≤ maxAddress) with
    | some address => .ok (some address)
    | none => .error (.badAddress (String.ofList text))

/-- Splits what follows the bus type into the bus, if one is given, and the address. -/
def splitBus (text : List Char) : Option (List Char) × List Char :=
  match Text.cut? '-' text with
  | some (bus, address) => (some bus, address)
  | none => (none, text)

/-- Reads the first word of a line. -/
def parseWord (word : List Char) (origin : Origin) : Except LineFault ExpectedChip :=
  match Text.cut? '-' word with
  | none => .error (.missing .busType)
  | some (name, afterName) =>
    match Text.cut? '-' afterName with
    | none => .error (.missing .address)
    | some (kind, afterKind) =>
      if kind ≠ ['i', '2', 'c'] then .error (.unsupportedBus (String.ofList kind))
      else
        let (bus, address) := splitBus afterKind
        if address.isEmpty then .error (.missing .address)
        else do
          let bus ← busSelector bus
          let address ← addressSelector address
          return {
            name := if name = ['*'] then none else some (String.ofList name)
            bus := bus
            address := address
            origin := origin }

/-- Reads one line. A line without a word declares nothing. -/
def parseLine (line : List Char) (origin : Origin) : Except LineFault (Option ExpectedChip) :=
  let word := Text.firstWord '#' line
  if word.isEmpty then .ok none else (parseWord word origin).map some

/-- What was made of each line of a configuration, with the place of the line. -/
def readLines (text source : String) : List (Origin × Except LineFault (Option ExpectedChip)) :=
  (Text.lines text.toList).zipIdx.map fun (line, position) =>
    let origin : Origin := ⟨source, position + 1⟩
    (origin, parseLine line origin)

/-- The entry that a line declares, if it does. -/
def entryOf? : Origin × Except LineFault (Option ExpectedChip) → Option ExpectedChip
  | (_, .ok entry) => entry
  | (_, .error _) => none

/-- The report on a malformed line. -/
def noticeOf? : Origin × Except LineFault (Option ExpectedChip) → Option Notice
  | (_, .ok _) => none
  | (origin, .error fault) =>
    some ⟨.warn, .config, s!"{origin.display}: ignoring config line: {fault.message}"⟩

/-- The entries of a configuration, malformed lines skipped. -/
def parseConfig (text source : String) : List ExpectedChip :=
  (readLines text source).filterMap entryOf?

/-- The reports on the malformed lines of a configuration. -/
def configNotices (text source : String) : List Notice :=
  (readLines text source).filterMap noticeOf?

end ExpectedChip
end I2cTopology
