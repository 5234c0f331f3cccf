import LayoutGuard.Json.Number
import LayoutGuard.Json.Token

/-!
# Reading JSON

The tokens of a document are read from left to right with a stack of the arrays and objects that
are still open. A value nested more than 127 arrays and objects deep is unusable, and so is an
object with a name that is no text.

- `Json.read?`: the value of a document, which has to be one value and nothing else.
-/

namespace LayoutGuard.Json

/-- An array or object that is still open around the value that is being read. Complete parts are
kept newest first. -/
inductive Frame where
  /-- An array with its complete items. -/
  | items (done : List Json)
  /-- An object with its complete members and the name of the one that is being read. -/
  | member (done : List (Option String × Json)) (name : Option String)

/-- What has been read, and what may follow. -/
inductive Progress where
  /-- A value has to follow. -/
  | value (outer : List Frame)
  /-- An array was opened: a value follows, or its end. -/
  | firstItem (outer : List Frame)
  /-- An object was opened: a name follows, or its end. -/
  | firstName (outer : List Frame)
  /-- The name of a member has to follow. -/
  | nextName (done : List (Option String × Json)) (outer : List Frame)
  /-- A name was read, and a colon has to follow. -/
  | colon (done : List (Option String × Json)) (name : Option String) (outer : List Frame)
  /-- An item is complete: a comma follows, or the end of the array. -/
  | afterItem (done : List Json) (outer : List Frame)
  /-- A member is complete: a comma follows, or the end of the object. -/
  | afterMember (done : List (Option String × Json)) (outer : List Frame)
  /-- The document is complete. -/
  | complete (value : Json)

/-- How deep a value may be nested. -/
def depthLimit : Nat := 127

/-- An array or object inside of `outer`, unless it is nested too deeply. -/
def nested (outer : List Frame) (v : Json) : Json :=
  if outer.length < depthLimit then v else unusable

/-- The object with the given members, if all their names are texts. -/
def closeObject (members : List (Option String × Json)) : Json :=
  match members.mapM fun m => m.1.map fun name => (name, m.2) with
  | some members => object members
  | none => unusable

namespace Progress

/-- A value is complete inside of `outer`. -/
def put (outer : List Frame) (v : Json) : Progress :=
  match outer with
  | [] => complete v
  | .items done :: outer => afterItem (v :: done) outer
  | .member done name :: outer => afterMember ((name, v) :: done) outer

/-- Read the first token of a value inside of `outer`. -/
def open? (outer : List Frame) : Token → Option Progress
  | .text (some s) => some (put outer (.text s))
  | .text none => some (put outer unusable)
  | .word letters => (ofWord? letters).map (put outer)
  | .openBracket => some (firstItem outer)
  | .openBrace => some (firstName outer)
  | _ => none

/-- Read one token. -/
def step? : Progress → Token → Option Progress
  | value outer, t => open? outer t
  | firstItem outer, .closeBracket => some (put outer (nested outer (array [])))
  | firstItem outer, t => open? (.items [] :: outer) t
  | firstName outer, .closeBrace => some (put outer (nested outer (object [])))
  | firstName outer, .text s => some (colon [] s outer)
  | nextName done outer, .text s => some (colon done s outer)
  | colon done name outer, .colon => some (value (.member done name :: outer))
  | afterItem done outer, .comma => some (value (.items done :: outer))
  | afterItem done outer, .closeBracket => some (put outer (nested outer (array done.reverse)))
  | afterMember done outer, .comma => some (nextName done outer)
  | afterMember done outer, .closeBrace =>
    some (put outer (nested outer (closeObject done.reverse)))
  | _, _ => none

end Progress

/-- The value that a list of tokens stands for. -/
def ofTokens? (tokens : List Token) : Option Json :=
  match tokens.foldlM Progress.step? (.value []) with
  | some (.complete v) => some v
  | _ => none

/-- The value of a document. -/
def read? (document : ByteArray) : Option Json := do
  let tokens ← scan? (glyphs document)
  ofTokens? tokens

end LayoutGuard.Json
