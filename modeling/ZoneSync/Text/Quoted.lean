import ZoneSync.Text.Classes
import ZoneSync.Text.Mark
import ZoneSync.Text.Signless

/-!
# Quoted text

Error messages show a text between double quotes. Quotes and backslashes inside it are escaped,
tabs, line ends and the zero character have letters of their own, and every other hidden character
is given by its code point, as in `\u{a0}`. Hidden are the characters that a reader cannot see as a
sign of their own: those without a sign, those that are ignorable, and those that attach themselves
to the character before them.
-/

namespace ZoneSync.Text

/-- A character is hidden if it is an ASCII control or a hidden character beyond ASCII. -/
def isHidden (c : Char) : Bool :=
  if c.toNat < 0x7f then c.toNat < 0x20 else isSignless c || isIgnorable c || isExtending c

/-- How one character is written between quotes. -/
def escape (c : Char) : List Char :=
  if c = '\x00' then ['\\', '0']
  else if c = '\t' then ['\\', 't']
  else if c = '\r' then ['\\', 'r']
  else if c = '\n' then ['\\', 'n']
  else if c = '\\' then ['\\', '\\']
  else if c = '"' then ['\\', '"']
  else if isHidden c then ['\\', 'u', '\x7b'] ++ Nat.toDigits 16 c.toNat ++ ['\x7d']
  else [c]

/-- The text between double quotes. -/
def quoted (text : String) : String :=
  String.ofList (['"'] ++ text.toList.flatMap escape ++ ['"'])

end ZoneSync.Text
