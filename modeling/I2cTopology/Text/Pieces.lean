/-!
# Cutting a text at a separator
-/

namespace I2cTopology
namespace Text

/-- The pieces of a text between the occurrences of a separator. A text without the separator is
its own only piece, so the list is never empty. -/
def pieces (separator : Char) : List Char → List (List Char)
  | [] => [[]]
  | c :: rest =>
    if c = separator then [] :: pieces separator rest
    else
      match pieces separator rest with
      | [] => [[c]]
      | piece :: others => (c :: piece) :: others

/-- What stands before and after the first occurrence of a separator, if there is one. -/
def cut? (separator : Char) : List Char → Option (List Char × List Char)
  | [] => none
  | c :: rest =>
    if c = separator then some ([], rest)
    else (cut? separator rest).map fun (before, after) => (c :: before, after)

/-- The rest of a text that begins with the given opening. -/
def dropOpening? : List Char → List Char → Option (List Char)
  | [], text => some text
  | _ :: _, [] => none
  | o :: opening, c :: text => if o = c then dropOpening? opening text else none

/-- What stands before and after the first occurrence of a marker, if there is one. -/
def cutAt? (marker : List Char) : List Char → Option (List Char × List Char)
  | [] => (dropOpening? marker []).map fun after => ([], after)
  | c :: rest =>
    match dropOpening? marker (c :: rest) with
    | some after => some ([], after)
    | none => (cutAt? marker rest).map fun (before, after) => (c :: before, after)

theorem pieces_ne_nil (separator : Char) (text : List Char) : pieces separator text ≠ [] := by
  cases text with
  | nil => simp [pieces]
  | cons c rest =>
    rw [pieces]
    split
    · simp
    · split <;> simp

end Text
end I2cTopology
