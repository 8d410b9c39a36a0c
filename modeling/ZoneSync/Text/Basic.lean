/-!
# Texts: fields, lines and their order

A text is cut at a separator into fields, of which there is always at least one. Its lines are the
fields between line feeds: a line that a line feed ends also loses one carriage return before it,
and what follows the last line feed is a line only if it is not empty.

Texts are compared code point by code point, and a text comes before its continuations. UTF-8 keeps
the order of code points, so this is also the order of the encoded bytes.
-/

namespace ZoneSync.Text

/-! ### Fields and lines -/

/-- The pieces between the occurrences of `separator`. -/
def fields (separator : Char) : List Char → List (List Char)
  | [] => [[]]
  | c :: rest =>
    if c = separator then [] :: fields separator rest
    else
      match fields separator rest with
      | [] => [[c]]
      | field :: others => (c :: field) :: others

/-- The text without one carriage return at its end. -/
def dropReturn (text : List Char) : List Char :=
  if text.getLast? = some '\r' then text.dropLast else text

/-- The fields between line feeds, read as lines: all but the last are ended by a line feed. -/
def linesOfFields : List (List Char) → List (List Char)
  | [] => []
  | [last] => if last.isEmpty then [] else [last]
  | field :: others => dropReturn field :: linesOfFields others

def lines (text : List Char) : List (List Char) :=
  linesOfFields (fields '\n' text)

theorem fields_ne_nil (separator : Char) (text : List Char) : fields separator text ≠ [] := by
  cases text with
  | nil => simp [fields]
  | cons c rest =>
    rw [fields]
    split
    · simp
    · split <;> simp

/-! ### Order -/

def compareChars : List Char → List Char → Ordering
  | [], [] => .eq
  | [], _ :: _ => .lt
  | _ :: _, [] => .gt
  | c :: rest, d :: others => (compare c.toNat d.toNat).then (compareChars rest others)

def compareTexts (s t : String) : Ordering :=
  compareChars s.toList t.toList

end ZoneSync.Text
