/-!
# Control sequences

A terminal acts upon some characters instead of showing them: single control characters, and sequences
that an escape character opens. Here they are taken out of a text, so that only what would be shown is
left. Line feeds and the other blanks of ASCII are kept outside of sequences, and also inside the
sequences that carry them out in passing.
-/

namespace I2cTopology
namespace Text

/-- Where a reader stands between or inside control sequences. -/
inductive ControlState where
  /-- Between sequences. -/
  | ground
  /-- After an escape character. -/
  | escape
  /-- After an escape character and an intermediate character. -/
  | escapeIntermediate
  /-- In a control sequence with parameters. -/
  | parameters
  /-- At the head of a device control string, before its parameters. -/
  | deviceEntry
  /-- In the parameters of a device control string. -/
  | deviceParameters
  /-- In the intermediate characters of a device control string. -/
  | deviceIntermediate
  /-- In an operating system command. -/
  | systemCommand
  /-- In any other string that only a terminator ends. -/
  | controlString
  deriving DecidableEq, Repr

/-- Is the character in a range of codes? -/
def isBetween (first last : Nat) (c : Char) : Bool :=
  first ≤ c.toNat && c.toNat ≤ last

/-- Is the byte of the string terminator among those that encode the character? -/
def holdsTerminator (c : Char) : Bool :=
  c.toString.toUTF8.toList.contains 0x9c

namespace ControlState

/-- The state after an escape character and one more. -/
def afterEscape (c : Char) : ControlState :=
  if isBetween 0x20 0x2f c then escapeIntermediate
  else if c = '[' then parameters
  else if c = ']' then systemCommand
  else if c = 'P' then deviceEntry
  else if c = 'X' ∨ c = '^' ∨ c = '_' then controlString
  else if isBetween 0x30 0x7e c then ground
  else escape

/-- The state after one more character at the head of a device control string. Parameters do not come
back after intermediate characters, and a string whose head is out of order is passed over. -/
def afterDevice (state : ControlState) (c : Char) : ControlState :=
  if isBetween 0x20 0x2f c then deviceIntermediate
  else if isBetween 0x30 0x3f c then
    match state with
    | deviceEntry => deviceParameters
    | deviceParameters => if isBetween 0x30 0x3b c then deviceParameters else controlString
    | _ => controlString
  else if isBetween 0x40 0x7e c then controlString
  else state

/-- The state after one more character. Three control characters have the same effect everywhere. -/
def next (state : ControlState) (c : Char) : ControlState :=
  if c = '\x1b' then escape
  else if c = '\x18' ∨ c = '\x1a' then ground
  else
    match state with
    | ground => ground
    | escape => afterEscape c
    | escapeIntermediate => if isBetween 0x30 0x7e c then ground else escapeIntermediate
    | parameters => if isBetween 0x40 0x7e c then ground else parameters
    | systemCommand => if c = '\x07' then ground else systemCommand
    | controlString => if holdsTerminator c then ground else controlString
    | deviceEntry => afterDevice deviceEntry c
    | deviceParameters => afterDevice deviceParameters c
    | deviceIntermediate => afterDevice deviceIntermediate c

/-- Is a blank control character carried out in this state, and not taken for a part of a string? -/
def carriesOut : ControlState → Bool
  | ground => true
  | escape => true
  | escapeIntermediate => true
  | parameters => true
  | _ => false

/-- Is the character shown in this state? -/
def shows (state : ControlState) (c : Char) : Bool :=
  if c = '\t' ∨ c = '\n' ∨ c = '\x0c' ∨ c = '\r' then state.carriesOut
  else state == ground && 0x20 ≤ c.toNat && c ≠ '\x7f'

end ControlState

/-- The characters that are shown. Once one is shown, `showing` is set, and until the next control
character all that follow are shown as they are between sequences; a sequence that was broken into is
taken up again by that control character, unless a character beyond ASCII or the control character
itself has ended it. -/
def shown (state : ControlState) (showing : Bool) : List Char → List Char
  | [] => []
  | c :: rest =>
    if showing && ControlState.ground.shows c then
      c :: shown (if c.toNat < 0x80 then state else .ground) true rest
    else if !showing && state.shows c then c :: shown (state.next c) true rest
    else shown (state.next c) false rest

/-- The text without its control sequences. -/
def withoutControls (text : String) : String :=
  String.ofList (shown .ground false text.toList)

end Text
end I2cTopology
