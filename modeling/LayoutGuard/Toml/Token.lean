import LayoutGuard.Json.Token

/-!
# TOML tokens

The text of a TOML document as a list of tokens: seven marks, the ends of lines, texts in quotation
marks and bare words. Blanks and comments separate tokens and are left out.

A text stands between quotation marks or between apostrophes, and either between single ones, on one
line, or between triple ones, on several lines. Only between quotation marks does a backslash have a
meaning.

- `scan?`: the tokens of a document, if its texts are closed and its escapes are complete.
-/

namespace LayoutGuard.Toml

/-- A token of a TOML document. -/
inductive Token where
  | newLine
  | equals
  | point
  | comma
  | openBracket
  | closeBracket
  | openBrace
  | closeBrace
  /-- A text on one line, which may also name a key. -/
  | text (value : String)
  /-- A text between triple marks. -/
  | longText (value : String)
  /-- A run of letters, digits, hyphens and underscores. -/
  | word (value : String)
  deriving DecidableEq, Repr

/-- How a text is delimited. -/
structure Delimiter where
  /-- The quotation mark or the apostrophe. -/
  mark : Char
  /-- Whether the text stands between triple marks. -/
  isLong : Bool
  deriving DecidableEq, Repr

namespace Delimiter

/-- Whether a backslash has a meaning inside. -/
def escapes (d : Delimiter) : Bool := d.mark = '"'

/-- The token of a text; the letters are given newest first. -/
def token (d : Delimiter) (letters : List Char) : Token :=
  let value := String.ofList letters.reverse
  if d.isLong then .longText value else .text value

end Delimiter

/-- Where a scan stands. Collected letters are kept newest first. -/
inductive Phase where
  /-- Between two tokens. -/
  | between
  /-- Inside a comment. -/
  | comment
  /-- Inside a bare word. -/
  | word (letters : List Char)
  /-- Behind one or two marks that open a text. -/
  | opening (mark : Char) (isSecond : Bool)
  /-- Behind three marks that open a text; an end of line here does not belong to it. -/
  | opened (mark : Char)
  /-- Inside a text, behind some marks that may belong to its end. -/
  | text (delimiter : Delimiter) (letters : List Char) (marks : Nat)
  /-- Behind a backslash in a text. -/
  | escape (delimiter : Delimiter) (letters : List Char)
  /-- Inside a numeric escape, with the number of digits still to come. -/
  | code (delimiter : Delimiter) (letters : List Char) (value digits : Nat)
  /-- Behind a backslash that joins two lines, in front of the end of line or behind it. -/
  | joint (delimiter : Delimiter) (letters : List Char) (isNextLine : Bool)
  /-- The document is broken. -/
  | broken
  deriving DecidableEq, Repr

/-- A scan: the tokens so far, newest first, and where it stands. -/
structure Scan where
  /-- The complete tokens, newest first. -/
  tokens : List Token
  /-- What comes after them. -/
  phase : Phase
  deriving DecidableEq, Repr

/-- Whether a character separates tokens on a line. -/
def isSpace (c : Char) : Bool := c = ' ' || c = '\t'

/-- Whether a character may stand nowhere, or only at the end of a line. -/
def isControl (c : Char) : Bool := c < ' ' && c ≠ '\t' || c = '\x7f'

/-- Whether a character belongs to a bare word. -/
def isWordLetter (c : Char) : Bool := c.isAlphanum || c = '-' || c = '_'

/-- The token of a mark. -/
def mark? : Char → Option Token
  | '\n' => some .newLine
  | '=' => some .equals
  | '.' => some .point
  | ',' => some .comma
  | '[' => some .openBracket
  | ']' => some .closeBracket
  | '{' => some .openBrace
  | '}' => some .closeBrace
  | _ => none

/-- The character that a short escape stands for. -/
def shortEscape? : Char → Option Char
  | '"' => some '"'
  | '\\' => some '\\'
  | 'b' => some '\x08'
  | 'f' => some '\x0c'
  | 'n' => some '\n'
  | 'r' => some '\r'
  | 't' => some '\t'
  | _ => none

/-- The character with a given number. -/
def char? (n : Nat) : Option Char := if n.isValidChar then some (Char.ofNat n) else none

namespace Scan

/-- The scan of nothing. -/
def start : Scan := ⟨[], .between⟩

/-- A scan that has met a fault. -/
def fault (s : Scan) : Scan := { s with phase := .broken }

/-- Read a character that does not continue a token. -/
def begin (tokens : List Token) (c : Char) : Scan :=
  if isSpace c then ⟨tokens, .between⟩
  else if c = '#' then ⟨tokens, .comment⟩
  else if c = '"' ∨ c = '\x27' then ⟨tokens, .opening c false⟩
  else if isWordLetter c then ⟨tokens, .word [c]⟩
  else
    match mark? c with
    | some t => ⟨t :: tokens, .between⟩
    | none => ⟨tokens, .broken⟩

/-- Read a character that belongs to a text. -/
def letter (s : Scan) (d : Delimiter) (letters : List Char) (c : Char) : Scan :=
  if c = '\\' ∧ d.escapes then { s with phase := .escape d letters }
  else if c = '\n' ∧ d.isLong then { s with phase := .text d (c :: letters) 0 }
  else if isControl c then s.fault
  else { s with phase := .text d (c :: letters) 0 }

/-- Read a character of a text that stands on one line. -/
def shortLetter (s : Scan) (d : Delimiter) (letters : List Char) (c : Char) : Scan :=
  if c = d.mark then ⟨d.token letters :: s.tokens, .between⟩ else s.letter d letters c

/-- Read a character of a text between triple marks, behind a run of its marks. Of at least three
marks the last three end the text. -/
def longLetter (s : Scan) (d : Delimiter) (letters : List Char) (marks : Nat) (c : Char) : Scan :=
  if c = d.mark then
    -- Two marks can belong to the text and three end it, so there is no sixth.
    if marks < 5 then { s with phase := .text d letters (marks + 1) } else s.fault
  else if marks < 3 then s.letter d (List.replicate marks d.mark ++ letters) c
  else begin (d.token (List.replicate (marks - 3) d.mark ++ letters) :: s.tokens) c

/-- Read a character inside a text. -/
def textLetter (s : Scan) (d : Delimiter) (letters : List Char) (marks : Nat) (c : Char) : Scan :=
  if d.isLong then s.longLetter d letters marks c else s.shortLetter d letters c

/-- Read the character behind a backslash. -/
def escaped (s : Scan) (d : Delimiter) (letters : List Char) (c : Char) : Scan :=
  if c = 'u' then { s with phase := .code d letters 0 4 }
  else if c = 'U' then { s with phase := .code d letters 0 8 }
  else if d.isLong ∧ (isSpace c ∨ c = '\n') then { s with phase := .joint d letters (c = '\n') }
  else
    match shortEscape? c with
    | some e => { s with phase := .text d (e :: letters) 0 }
    | none => s.fault

/-- Read a digit of a numeric escape. -/
def digit (s : Scan) (d : Delimiter) (letters : List Char) (value digits : Nat) (c : Char) : Scan :=
  match Json.hexDigit? c with
  | none => s.fault
  | some n =>
    if 1 < digits then { s with phase := .code d letters (16 * value + n) (digits - 1) }
    else
      match char? (16 * value + n) with
      | some e => { s with phase := .text d (e :: letters) 0 }
      | none => s.fault

/-- Read one character. -/
def step (s : Scan) (c : Char) : Scan :=
  match s.phase with
  | .between => begin s.tokens c
  | .comment =>
    if c = '\n' then begin s.tokens c else if isControl c then s.fault else s
  | .word letters =>
    if isWordLetter c then { s with phase := .word (c :: letters) }
    else begin (.word (String.ofList letters.reverse) :: s.tokens) c
  | .opening mark false =>
    if c = mark then { s with phase := .opening mark true } else s.shortLetter ⟨mark, false⟩ [] c
  | .opening mark true =>
    if c = mark then { s with phase := .opened mark } else begin (.text "" :: s.tokens) c
  | .opened mark =>
    -- An end of line right behind the opening marks is there for the eye only.
    if c = '\n' then { s with phase := .text ⟨mark, true⟩ [] 0 }
    else s.longLetter ⟨mark, true⟩ [] 0 c
  | .text d letters marks => s.textLetter d letters marks c
  | .escape d letters => s.escaped d letters c
  | .code d letters value digits => s.digit d letters value digits c
  | .joint d letters isNextLine =>
    if c = '\n' then { s with phase := .joint d letters true }
    else if isSpace c then s
    -- What the backslash joins begins with the first character that is no blank.
    else if isNextLine then s.longLetter d letters 0 c
    else s.fault
  | .broken => s

/-- The tokens of a scan that stops here, if it may. -/
def finish (s : Scan) : Option (List Token) :=
  match s.phase with
  | .between => some s.tokens.reverse
  | .comment => some s.tokens.reverse
  | .word letters => some (.word (String.ofList letters.reverse) :: s.tokens).reverse
  | .opening _ true => some (.text "" :: s.tokens).reverse
  | .text d letters marks =>
    if 3 ≤ marks then
      some (d.token (List.replicate (marks - 3) d.mark ++ letters) :: s.tokens).reverse
    else none
  | _ => none

end Scan

/-- The characters of a document with one character for each end of line. -/
def unifyLines : List Char → List Char
  | '\r' :: '\n' :: rest => '\n' :: unifyLines rest
  | c :: rest => c :: unifyLines rest
  | [] => []

/-- The characters of a document without the mark of its encoding in front of them. -/
def dropEncodingMark : List Char → List Char
  | '\ufeff' :: rest => rest
  | letters => letters

/-- The tokens of a document. -/
def scan? (document : String) : Option (List Token) :=
  ((unifyLines (dropEncodingMark document.toList)).foldl Scan.step .start).finish

end LayoutGuard.Toml
