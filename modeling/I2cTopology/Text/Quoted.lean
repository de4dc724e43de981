import I2cTopology.Text.Combining
import I2cTopology.Text.Invisible

/-!
# Quoted text

The form in which a message shows a text it did not choose: between double quotes, with every
character that could be misread written as an escape.
-/

namespace I2cTopology
namespace Text

/-- One character inside quotes. The named escapes come first; a character that is combining or
has no visible form is written by its code point in hexadecimal. -/
def quotedChar (c : Char) : String :=
  match c with
  | '\x00' => "\\0"
  | '\t' => "\\t"
  | '\r' => "\\r"
  | '\n' => "\\n"
  | '"' => "\\\""
  | '\\' => "\\\\"
  | _ =>
    if isCombining c || isInvisible c then
      "\\u\x7b" ++ String.ofList (Nat.toDigits 16 c.toNat) ++ "\x7d"
    else c.toString

/-- The text between double quotes, escaped. -/
def quoted (text : String) : String :=
  "\"" ++ String.join (text.toList.map quotedChar) ++ "\""

end Text
end I2cTopology
