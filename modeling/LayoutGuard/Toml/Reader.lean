import LayoutGuard.Toml.Table
import LayoutGuard.Toml.Token

/-!
# Reading TOML

A document is a list of statements, each on a line of its own: a header names the table to which the
statements below it belong, and a statement gives a value to a key. What no setting can be is not
read: numbers, dates, arrays with items, and arrays of tables.

- `read?`: the table of a document.
-/

namespace LayoutGuard.Toml

/-- The part of a key that a token is, if it may be one. -/
def Token.keyPart? : Token → Option String
  | .word name => some name
  | .text name => some name
  | _ => none

/-- The key at the start of a list of tokens, and what follows it. -/
def key? : List Token → Option (List String × List Token)
  | [] => none
  | token :: .point :: rest => do
    let name ← token.keyPart?
    let (path, rest) ← key? rest
    return (name :: path, rest)
  | token :: rest => token.keyPart?.map fun name => ([name], rest)

mutual

/-- The value at the start of a list of tokens, and what follows it; `bound` is how many values and
members can be read. -/
def value? (bound : Nat) (tokens : List Token) : Option (Value × List Token) :=
  match bound, tokens with
  | 0, _ => none
  | _, .text s :: rest => some (.text s, rest)
  | _, .longText s :: rest => some (.text s, rest)
  | _, .word "true" :: rest => some (.bool true, rest)
  | _, .word "false" :: rest => some (.bool false, rest)
  | _, .openBracket :: rest =>
    -- An array may go over several lines, unlike a table in braces.
    match rest.dropWhile (· = .newLine) with
    | .closeBracket :: rest => some (.noItems, rest)
    | _ => none
  | _, .openBrace :: .closeBrace :: rest => some (.table .braces [], rest)
  | bound + 1, .openBrace :: rest => members? bound [] rest
  | _, _ => none

/-- The members of a table in braces, added to those in front of them. -/
def members? (bound : Nat) (done : Table) (tokens : List Token) : Option (Value × List Token) :=
  match bound with
  | 0 => none
  | bound + 1 =>
    match key? tokens with
    | some (path, .equals :: rest) =>
      match value? bound rest with
      | some (value, rest) =>
        match done.assign? path value, rest with
        | some done, .comma :: rest => members? bound done rest
        | some done, .closeBrace :: rest => some (.table .braces done, rest)
        | _, _ => none
      | none => none
    | _ => none

end

/-- What has been read of a document. -/
structure Progress where
  /-- The table of the whole document. -/
  root : Table
  /-- The table to which the next statement belongs. -/
  header : List String
  deriving Inhabited

namespace Progress

/-- Nothing has been read. -/
def start : Progress := ⟨[], []⟩

/-- Read a header. -/
def declare? (p : Progress) (path : List String) : Option Progress :=
  (p.root.declare? path).map fun root => ⟨root, path⟩

/-- Read a statement that gives a value to a key. -/
def assign? (p : Progress) (path : List String) (value : Value) : Option Progress :=
  (p.root.within? p.header (·.assign? path value)).map fun root => { p with root := root }

end Progress

/-- What follows a statement, which has to be the end of its line or of the document. -/
def lineEnd? : List Token → Option (List Token)
  | [] => some []
  | .newLine :: rest => some rest
  | _ => none

/-- One statement at the start of a list of tokens, and what follows it. -/
def statement? (p : Progress) (tokens : List Token) : Option (Progress × List Token) :=
  match tokens with
  | [] => some (p, [])
  | .newLine :: rest => some (p, rest)
  | .openBracket :: rest =>
    match key? rest with
    | some (path, .closeBracket :: rest) => do return (← p.declare? path, ← lineEnd? rest)
    | _ => none
  | _ =>
    match key? tokens with
    | some (path, .equals :: rest) => do
      let (value, rest) ← value? rest.length rest
      return (← p.assign? path value, ← lineEnd? rest)
    | _ => none

/-- Read at most `bound` statements. -/
def statements? : (bound : Nat) → Progress → List Token → Option Progress
  | _, p, [] => some p
  | 0, _, _ => none
  | bound + 1, p, tokens => do
    let (p, rest) ← statement? p tokens
    statements? bound p rest

/-- The table of a document. -/
def read? (document : String) : Option Table := do
  let tokens ← scan? document
  let p ← statements? tokens.length .start tokens
  return p.root

end LayoutGuard.Toml
