import LayoutGuard.Text.Printable

/-!
# Quoted texts

A text in quotation marks, so that every character of it can be seen: quotation marks, backslashes
and the usual control characters are escaped by a letter, and characters that cannot be printed or
that would combine with the one before are escaped by their number.
-/

namespace LayoutGuard

/-- The hexadecimal digits of a number, in lower case. -/
def hexText (n : Nat) : List Char := Nat.toDigits 16 n

/-- A character as it stands in a quoted text. -/
def quoteChar (c : Char) : List Char :=
  if c = '\x00' then ['\\', '0']
  else if c = '\t' then ['\\', 't']
  else if c = '\r' then ['\\', 'r']
  else if c = '\n' then ['\\', 'n']
  else if c = '\\' then ['\\', '\\']
  else if c = '"' then ['\\', '"']
  else if isCombining c || !isPrintable c then ['\\', 'u', '\x7b'] ++ hexText c.toNat ++ ['\x7d']
  else [c]

/-- A text in quotation marks. -/
def quoted (s : String) : String := "\"" ++ String.ofList (s.toList.flatMap quoteChar) ++ "\""

end LayoutGuard
