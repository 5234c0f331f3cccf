import LayoutGuard.Text.Glyphs

/-!
# JSON tokens

The text of a JSON document as a list of tokens: six marks, quoted texts and bare words. A bare
word is the longest run of other characters; whether it is a number or a name is decided later.

A quoted text can be well formed and still be no text, because it escapes one half of a surrogate
pair or holds a byte that is part of no character. Such a text is kept as `Token.text none`.

- `scan?`: the tokens of a document, if its texts are closed and its escapes are complete.
-/

namespace LayoutGuard.Json

/-- A token of a JSON document. -/
inductive Token where
  | openBrace
  | closeBrace
  | openBracket
  | closeBracket
  | colon
  | comma
  /-- A quoted text; `none` if it is well formed but no text. -/
  | text (value : Option String)
  /-- A run of characters that are neither marks nor blanks. -/
  | word (letters : List Char)
  deriving DecidableEq, Repr

/-- A piece of a quoted text. -/
inductive Piece where
  /-- A character, as such or by a short escape. -/
  | char (c : Char)
  /-- A UTF-16 code unit, by a numeric escape. -/
  | unit (code : Nat)
  /-- A byte that is part of no character. -/
  | byte
  deriving DecidableEq, Repr

namespace Piece

/-- Whether a code unit is the first half of a surrogate pair. -/
def isHigh (code : Nat) : Bool := 0xD800 ≤ code && code < 0xDC00

/-- Whether a code unit is the second half of a surrogate pair. -/
def isLow (code : Nat) : Bool := 0xDC00 ≤ code && code < 0xE000

/-- The characters that the pieces of a text stand for, if they stand for any. -/
def chars? : List Piece → Option (List Char)
  | [] => some []
  | char c :: rest => (chars? rest).map (c :: ·)
  | unit high :: unit low :: rest =>
    if isHigh high && isLow low then
      (chars? rest).map (Char.ofNat (0x10000 + (high - 0xD800) * 0x400 + (low - 0xDC00)) :: ·)
    else if isHigh high || isLow high then none
    else (chars? (unit low :: rest)).map (Char.ofNat high :: ·)
  | unit code :: rest =>
    if isHigh code || isLow code then none else (chars? rest).map (Char.ofNat code :: ·)
  | byte :: _ => none

/-- The text that the pieces stand for. -/
def text? (pieces : List Piece) : Option String := (chars? pieces).map String.ofList

end Piece

/-- Where a scan stands. Collected parts are kept newest first. -/
inductive Phase where
  /-- Between two tokens. -/
  | between
  /-- Inside a bare word. -/
  | word (letters : List Char)
  /-- Inside a quoted text. -/
  | text (pieces : List Piece)
  /-- Behind a backslash in a quoted text. -/
  | escape (pieces : List Piece)
  /-- Inside a numeric escape, with the number of digits still to come. -/
  | code (pieces : List Piece) (value digits : Nat)
  /-- The document is broken. -/
  | broken
  deriving DecidableEq, Repr

/-- A scan: the tokens so far, newest first, and where it stands. -/
structure Scan where
  /-- The complete tokens, newest first. -/
  tokens : List Token
  /-- What comes after them. -/
  phase : Phase
  deriving DecidableEq, Repr

/-- The characters that separate tokens. -/
def isBlank (c : Char) : Bool := c = ' ' || c = '\n' || c = '\t' || c = '\r'

/-- The token of a mark. -/
def mark? : Char → Option Token
  | '{' => some .openBrace
  | '}' => some .closeBrace
  | '[' => some .openBracket
  | ']' => some .closeBracket
  | ':' => some .colon
  | ',' => some .comma
  | _ => none

/-- The character that a short escape stands for. -/
def shortEscape? : Char → Option Char
  | '"' => some '"'
  | '\\' => some '\\'
  | '/' => some '/'
  | 'b' => some '\x08'
  | 'f' => some '\x0c'
  | 'n' => some '\n'
  | 'r' => some '\r'
  | 't' => some '\t'
  | _ => none

/-- The value of a hexadecimal digit. -/
def hexDigit? (c : Char) : Option Nat :=
  if '0' ≤ c ∧ c ≤ '9' then some (c.toNat - '0'.toNat)
  else if 'a' ≤ c ∧ c ≤ 'f' then some (c.toNat - 'a'.toNat + 10)
  else if 'A' ≤ c ∧ c ≤ 'F' then some (c.toNat - 'A'.toNat + 10)
  else none

namespace Scan

/-- The scan of nothing. -/
def start : Scan := ⟨[], .between⟩

/-- A scan that has met a fault. -/
def fault (s : Scan) : Scan := { s with phase := .broken }

/-- Read a character that does not continue a token. -/
def begin (tokens : List Token) (c : Char) : Scan :=
  if isBlank c then ⟨tokens, .between⟩
  else if c = '"' then ⟨tokens, .text []⟩
  else
    match mark? c with
    | some t => ⟨t :: tokens, .between⟩
    | none => ⟨tokens, .word [c]⟩

/-- Whether a character ends a bare word. -/
def endsWord (c : Char) : Bool := isBlank c || c = '"' || (mark? c).isSome

/-- Read one glyph. -/
def step (s : Scan) (g : Glyph) : Scan :=
  match s.phase, g with
  | .between, some c => begin s.tokens c
  | .between, none => s.fault
  | .word letters, some c =>
    if endsWord c then begin (.word letters.reverse :: s.tokens) c
    else { s with phase := .word (c :: letters) }
  | .word _, none => s.fault
  | .text pieces, some c =>
    if c = '"' then ⟨.text (Piece.text? pieces.reverse) :: s.tokens, .between⟩
    else if c = '\\' then { s with phase := .escape pieces }
    else if c < ' ' then s.fault
    else { s with phase := .text (.char c :: pieces) }
  | .text pieces, none => { s with phase := .text (.byte :: pieces) }
  | .escape pieces, some c =>
    if c = 'u' then { s with phase := .code pieces 0 4 }
    else
      match shortEscape? c with
      | some d => { s with phase := .text (.char d :: pieces) }
      | none => s.fault
  | .escape _, none => s.fault
  | .code pieces value digits, some c =>
    match hexDigit? c with
    | none => s.fault
    | some d =>
      if digits ≤ 1 then { s with phase := .text (.unit (16 * value + d) :: pieces) }
      else { s with phase := .code pieces (16 * value + d) (digits - 1) }
  | .code _ _ _, none => s.fault
  | .broken, _ => s

/-- The tokens of a scan that stops here, if it may. -/
def finish (s : Scan) : Option (List Token) :=
  match s.phase with
  | .between => some s.tokens.reverse
  | .word letters => some (.word letters.reverse :: s.tokens).reverse
  | _ => none

end Scan

/-- The tokens of a document. -/
def scan? (document : List Glyph) : Option (List Token) := (document.foldl Scan.step .start).finish

end LayoutGuard.Json
