/-!
# Paths

A path is kept as it is written, because that is how messages show it. Its parts are what stands
between the slashes, empty parts included.
-/

namespace LayoutGuard

/-- A path as it is written. -/
structure Path where
  /-- The text of the path. -/
  text : String
  deriving DecidableEq, Repr, Inhabited

namespace Path

/-- What stands between the slashes. -/
def splitSlashes : List Char → List (List Char)
  | [] => [[]]
  | c :: rest =>
    if c = '/' then [] :: splitSlashes rest
    else
      match splitSlashes rest with
      | [] => [[c]]
      | part :: parts => (c :: part) :: parts

/-- The parts of the path, empty ones included. -/
def parts (p : Path) : List String := (splitSlashes p.text.toList).map String.ofList

/-- Whether a part stays where it is: an empty part or a point. -/
def isIdle (part : String) : Bool := part = "" || part = "."

/-- The parts without those at the end that stay where they are. -/
def dropIdleEnd (parts : List String) : List String :=
  (parts.reverse.dropWhile isIdle).reverse

/-- Whether the path starts at the root. -/
def isAbsolute (p : Path) : Bool := p.text.toList.head? == some '/'

/-- Whether a slash can be left out in front of a further part. -/
def isOpen (p : Path) : Bool :=
  match p.text.toList.getLast? with
  | none => true
  | some c => c = '/'

/-- The path of the directory around: the path without its last name. A point counts as a name if
the path starts with it, and the root is around itself. -/
def parent (p : Path) : Path :=
  match p.parts with
  | [] => ⟨""⟩
  | first :: rest =>
    let names := dropIdleEnd rest
    let around := dropIdleEnd names.dropLast
    if p.isAbsolute then ⟨"/" ++ "/".intercalate around⟩
    else if names.isEmpty then ⟨""⟩
    else ⟨"/".intercalate (first :: around)⟩

/-- A path inside of another one; an absolute path replaces it. -/
def join (p q : Path) : Path :=
  if q.isAbsolute then q
  else if p.isOpen then ⟨p.text ++ q.text⟩
  else ⟨p.text ++ "/" ++ q.text⟩

/-- Whether an operating system looks for the path at all: it is neither empty nor too long, and no
character in it is the one that ends texts. -/
def isSearchable (p : Path) : Bool :=
  p.text ≠ "" && p.text.utf8ByteSize < 4096 && !p.text.toList.contains '\x00'

end Path

/-- Whether a file may have this name, as far as its length is concerned. -/
def fitsFileName (name : String) : Bool := name.utf8ByteSize ≤ 255

/-- What follows the last point of a file name. A point in front of the whole name does not
count. -/
def extension? (name : String) : Option String :=
  let backwards := name.toList.reverse
  match backwards.dropWhile (· ≠ '.') with
  | _ :: _ :: _ => some (String.ofList (backwards.takeWhile (· ≠ '.')).reverse)
  | _ => none

end LayoutGuard
