/-!
# The notation of settings files

The lexical part of the TOML notation as far as settings use it: blanks, comments, line endings, keys,
the four kinds of strings, Boolean values, and tables and arrays that are empty or hold one empty
value. Every reader takes what it reads off the front of a text and leaves the rest.
-/

namespace I2cTopology
namespace Settings

/-- A space or a tab. -/
def isGap (c : Char) : Bool :=
  c == ' ' || c == '\t'

/-- The text without its leading spaces and tabs. -/
def skipGaps (text : List Char) : List Char :=
  text.dropWhile isGap

/-- May the character stand in a comment or a string as it is? Control characters may not, except for
the tab. -/
def isPlain (c : Char) : Bool :=
  c == '\t' || (0x20 ≤ c.toNat && c.toNat ≤ 0x7e) || 0x80 ≤ c.toNat

/-- The rest after a line ending, if the text starts with one. -/
def dropLineEnd? : List Char → Option (List Char)
  | '\n' :: rest => some rest
  | '\r' :: '\n' :: rest => some rest
  | _ => none

/-- The rest after a comment, if the text starts with one. -/
def skipComment : List Char → List Char
  | '#' :: rest => rest.dropWhile isPlain
  | text => text

/-- The rest after what may stand behind a definition up to the end of its line. -/
def finishLine? (text : List Char) : Option (List Char) :=
  match skipComment (skipGaps text) with
  | [] => some []
  | rest => dropLineEnd? rest

/-! ## Strings -/

/-- A kind of string. -/
structure StringStyle where
  quote : Char
  /-- Does a backslash start an escape? -/
  escapes : Bool
  /-- Is the string closed by three quotes, and may it go over several lines? -/
  multiline : Bool
  deriving DecidableEq, Repr

/-- What a scan still has to skip. -/
inductive Skip where
  | nothing
  | characters (count : Nat)
  /-- Blanks and line endings after a backslash at the end of a line. -/
  | blanks
  deriving DecidableEq, Repr

/-- The value of hexadecimal digits. -/
def hexValue? (digits : List Char) : Option Nat :=
  digits.foldlM (fun high c =>
    if '0' ≤ c ∧ c ≤ '9' then some (high * 16 + (c.toNat - '0'.toNat))
    else if 'a' ≤ c ∧ c ≤ 'f' then some (high * 16 + (c.toNat - 'a'.toNat + 10))
    else if 'A' ≤ c ∧ c ≤ 'F' then some (high * 16 + (c.toNat - 'A'.toNat + 10))
    else none) 0

/-- The character whose code point the first `width` characters give in hexadecimal. -/
def codePoint? (width : Nat) (text : List Char) : Option Char := do
  let digits := text.take width
  if digits.length < width then none
  else
    let value ← hexValue? digits
    if value.isValidChar then some (Char.ofNat value) else none

/-- The character of an escape, with the number of characters after the backslash that it takes. -/
def escape? : List Char → Option (Char × Nat)
  | 'b' :: _ => some ('\x08', 1)
  | 't' :: _ => some ('\t', 1)
  | 'n' :: _ => some ('\n', 1)
  | 'f' :: _ => some ('\x0c', 1)
  | 'r' :: _ => some ('\r', 1)
  | '"' :: _ => some ('"', 1)
  | '\\' :: _ => some ('\\', 1)
  | 'u' :: rest => (codePoint? 4 rest).map fun c => (c, 5)
  | 'U' :: rest => (codePoint? 8 rest).map fun c => (c, 9)
  | _ => none

/-- What one character of a string does. -/
inductive Scanned where
  /-- A character belongs to the contents, and something may have to be skipped after it. -/
  | kept (c : Char) (skip : Skip)
  | passed (skip : Skip)
  /-- The string ends with the given contents and leaves a rest. -/
  | closed (contents rest : List Char)
  | refused

/-- What a quote does. A run of up to five quotes closes a string of several lines, and all but three of
them belong to it. -/
def scanQuote (style : StringStyle) (c : Char) (rest : List Char) : Scanned :=
  if !style.multiline then .closed [] rest
  else
    let run := ((c :: rest).takeWhile (· = style.quote)).length
    if run < 3 then .kept c .nothing
    else if run ≤ 5 then .closed (List.replicate (run - 3) c) ((c :: rest).drop run)
    else .refused

/-- What the backslash in front of a text does. -/
def scanEscape (style : StringStyle) (rest : List Char) : Scanned :=
  if style.multiline ∧ (dropLineEnd? (skipGaps rest)).isSome then .passed .blanks
  else
    match escape? rest with
    | some (value, count) => .kept value (.characters count)
    | none => .refused

/-- What a character does that is not skipped. -/
def scanPlain (style : StringStyle) (c : Char) (rest : List Char) : Scanned :=
  if c = style.quote then scanQuote style c rest
  else if c = '\\' ∧ style.escapes then scanEscape style rest
  else if isPlain c then .kept c .nothing
  else if style.multiline ∧ c = '\n' then .kept '\n' .nothing
  else if style.multiline ∧ c = '\r' ∧ rest.head? = some '\n' then .kept '\n' (.characters 1)
  else .refused

/-- What a character does while something may have to be skipped. -/
def scanCharacter (style : StringStyle) (skip : Skip) (c : Char) (rest : List Char) : Scanned :=
  match skip with
  | .characters 1 => .passed .nothing
  | .characters (count + 1) => .passed (.characters count)
  | .blanks =>
    if isGap c ∨ c = '\n' ∨ (c = '\r' ∧ rest.head? = some '\n') then .passed .blanks
    else scanPlain style c rest
  | _ => scanPlain style c rest

/-- The contents of a string up to its closing quotes, and the rest after them. -/
def scanString (style : StringStyle) (skip : Skip) : List Char → Option (List Char × List Char)
  | [] => none
  | c :: rest =>
    match scanCharacter style skip c rest with
    | .kept c next => (scanString style next rest).map fun (contents, after) => (c :: contents, after)
    | .passed next => scanString style next rest
    | .closed contents after => some (contents, after)
    | .refused => none

/-- Strings between double quotes. -/
def basicStyle : StringStyle := ⟨'"', true, false⟩

/-- Strings between single quotes. -/
def literalStyle : StringStyle := ⟨'\'', false, false⟩

/-- A string of several lines starts after the line ending that follows its opening quotes. -/
def scanLongString (style : StringStyle) (text : List Char) : Option (List Char × List Char) :=
  scanString { style with multiline := true } .nothing ((dropLineEnd? text).getD text)

/-- The string at the front of a text. -/
def string? : List Char → Option (List Char × List Char)
  | '"' :: '"' :: '"' :: rest => scanLongString basicStyle rest
  | '\'' :: '\'' :: '\'' :: rest => scanLongString literalStyle rest
  | '"' :: rest => scanString basicStyle .nothing rest
  | '\'' :: rest => scanString literalStyle .nothing rest
  | _ => none

/-! ## Keys and values -/

/-- May the character stand in a key without quotes? -/
def isBare (c : Char) : Bool :=
  c.isAlphanum || c == '-' || c == '_'

/-- One key. -/
def simpleKey? : List Char → Option (List Char × List Char)
  | '"' :: rest => scanString basicStyle .nothing rest
  | '\'' :: rest => scanString literalStyle .nothing rest
  | text =>
    let key := text.takeWhile isBare
    if key.isEmpty then none else some (key, text.dropWhile isBare)

/-- A key of one or two parts. No setting has a key of more parts. -/
structure Key where
  first : String
  second : Option String
  deriving DecidableEq, Repr

/-- The key at the front of a text, with the blanks around it. -/
def key? (text : List Char) : Option (Key × List Char) := do
  let (first, rest) ← simpleKey? (skipGaps text)
  match skipGaps rest with
  | '.' :: rest =>
    let (second, rest) ← simpleKey? (skipGaps rest)
    let rest := skipGaps rest
    if rest.head? = some '.' then none
    else some (⟨String.ofList first, some (String.ofList second)⟩, rest)
  | rest => some (⟨String.ofList first, none⟩, rest)

/-- A value that a setting may have. -/
inductive Value where
  | text (contents : String)
  | flag (value : Bool)
  /-- A table or an array that is empty. -/
  | hollow
  /-- A table with one key, whose value is empty. -/
  | choice (key : String)
  deriving DecidableEq, Repr

/-- The rest after blanks, comments and line endings, where at most `fuel` of them follow one
another. -/
def skipTrivia : Nat → List Char → List Char
  | 0, text => text
  | fuel + 1, text =>
    let rest := skipComment (skipGaps text)
    match dropLineEnd? rest with
    | some rest => skipTrivia fuel rest
    | none => rest

/-- The rest after an empty array or an empty table. -/
def hollow? : List Char → Option (List Char)
  | '[' :: rest =>
    match skipTrivia (rest.length + 1) rest with
    | ']' :: rest => some rest
    | _ => none
  | '{' :: rest =>
    match skipGaps rest with
    | '}' :: rest => some rest
    | _ => none
  | _ => none

/-- A table with one key, whose value is empty. -/
def choice? : List Char → Option (Value × List Char)
  | '{' :: rest => do
    let (key, rest) ← key? rest
    let rest ← match rest with
      | '=' :: rest => hollow? (skipGaps rest)
      | _ => none
    match key.second, skipGaps rest with
    | none, '}' :: rest => some (.choice key.first, rest)
    | _, _ => none
  | _ => none

/-- The value at the front of a text. -/
def value? : List Char → Option (Value × List Char)
  | 't' :: 'r' :: 'u' :: 'e' :: rest => some (.flag true, rest)
  | 'f' :: 'a' :: 'l' :: 's' :: 'e' :: rest => some (.flag false, rest)
  | text =>
    match string? text with
    | some (contents, rest) => some (.text (String.ofList contents), rest)
    | none =>
      match hollow? text with
      | some rest => some (.hollow, rest)
      | none => choice? text

end Settings
end I2cTopology
