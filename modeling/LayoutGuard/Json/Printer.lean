import LayoutGuard.Json.Value

/-!
# Printing JSON

A value is printed either on one line or with every item and member on a line of its own, indented
by two blanks per level. In a text only the quotation mark, the backslash and the control characters
below the blank are escaped, by a letter where there is one.
-/

namespace LayoutGuard.Json

/-- A hexadecimal digit in lower case. -/
def hexDigit (n : Nat) : Char :=
  if n < 10 then Char.ofNat ('0'.toNat + n) else Char.ofNat ('a'.toNat + (n - 10))

/-- A character as it stands inside a quoted text. -/
def escape (c : Char) : List Char :=
  if c = '"' then ['\\', '"']
  else if c = '\\' then ['\\', '\\']
  else if c = '\x08' then ['\\', 'b']
  else if c = '\x0c' then ['\\', 'f']
  else if c = '\n' then ['\\', 'n']
  else if c = '\r' then ['\\', 'r']
  else if c = '\t' then ['\\', 't']
  else if c < ' ' then ['\\', 'u', '0', '0', hexDigit (c.toNat / 16), hexDigit (c.toNat % 16)]
  else [c]

/-- A text in quotation marks. -/
def quote (s : String) : String := "\"" ++ String.ofList (s.toList.flatMap escape) ++ "\""

/-- A value that is neither an array nor an object. -/
def scalar : Json → String
  | bool true => "true"
  | bool false => "false"
  | integer i => toString i
  | decimal literal => literal
  | text s => quote s
  | _ => "null"

mutual

/-- The value on one line. -/
def compact : Json → String
  | array [] => "[]"
  | array (v :: rest) => "[" ++ compact v ++ compactItems rest ++ "]"
  | object [] => "\x7b\x7d"
  | object ((name, v) :: rest) =>
    "\x7b" ++ quote name ++ ":" ++ compact v ++ compactMembers rest ++ "\x7d"
  | v => scalar v

/-- The items behind the first one, each after a comma. -/
def compactItems : List Json → String
  | [] => ""
  | v :: rest => "," ++ compact v ++ compactItems rest

/-- The members behind the first one, each after a comma. -/
def compactMembers : List (String × Json) → String
  | [] => ""
  | (name, v) :: rest => "," ++ quote name ++ ":" ++ compact v ++ compactMembers rest

end

/-- The start of a new line at a level of indentation. -/
def newLine (level : Nat) : String := String.ofList ('\n' :: List.replicate (2 * level) ' ')

mutual

/-- The value on several lines, where its first line stands at `level`. -/
def prettyAt (level : Nat) : Json → String
  | array [] => "[]"
  | array (v :: rest) =>
    "[" ++ newLine (level + 1) ++ prettyAt (level + 1) v ++ prettyItems (level + 1) rest ++
      newLine level ++ "]"
  | object [] => "\x7b\x7d"
  | object ((name, v) :: rest) =>
    "\x7b" ++ newLine (level + 1) ++ quote name ++ ": " ++ prettyAt (level + 1) v ++
      prettyMembers (level + 1) rest ++ newLine level ++ "\x7d"
  | v => scalar v

/-- The items behind the first one, each on a new line after a comma. -/
def prettyItems (level : Nat) : List Json → String
  | [] => ""
  | v :: rest => "," ++ newLine level ++ prettyAt level v ++ prettyItems level rest

/-- The members behind the first one, each on a new line after a comma. -/
def prettyMembers (level : Nat) : List (String × Json) → String
  | [] => ""
  | (name, v) :: rest =>
    "," ++ newLine level ++ quote name ++ ": " ++ prettyAt level v ++ prettyMembers level rest

end

/-- The value on several lines. -/
def pretty (v : Json) : String := prettyAt 0 v

end LayoutGuard.Json
