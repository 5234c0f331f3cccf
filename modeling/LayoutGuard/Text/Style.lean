/-!
# Coloured texts

Styles of texts on a terminal. A style is switched on by an escape sequence in front of the text and
everything is switched off behind it. A text that switches everything off itself gets its style back
each time.
-/

namespace LayoutGuard

/-- The colours in use. -/
inductive Colour where
  | red
  | green
  | yellow
  | cyan
  deriving DecidableEq, Repr, Inhabited

/-- The number by which a terminal knows a colour. -/
def Colour.code : Colour → String
  | red => "31"
  | green => "32"
  | yellow => "33"
  | cyan => "36"

/-- How a text is shown. -/
structure Style where
  /-- Whether the text is bold. -/
  bold : Bool
  /-- Whether the text is dimmed. -/
  dimmed : Bool
  /-- The colour, if it is not the usual one. -/
  colour : Option Colour
  deriving DecidableEq, Repr, Inhabited

namespace Style

/-- Bold text. -/
def strong : Style := ⟨true, false, none⟩

/-- Dimmed text. -/
def faint : Style := ⟨false, true, none⟩

/-- Coloured text. -/
def coloured (c : Colour) : Style := ⟨false, false, some c⟩

/-- Bold coloured text. -/
def strongColoured (c : Colour) : Style := ⟨true, false, some c⟩

/-- The numbers of the style. -/
def codes (s : Style) : List String :=
  (if s.bold then ["1"] else []) ++ (if s.dimmed then ["2"] else []) ++
    (s.colour.map Colour.code).toList

/-- The sequence that switches the style on. -/
def start (s : Style) : String := "\x1b[" ++ ";".intercalate s.codes ++ "m"

/-- The sequence that switches every style off. -/
def reset : String := "\x1b[0m"

/-- A text in which the sequence that switches every style off is followed by `again`. -/
def resume (again : List Char) : List Char → List Char
  | '\x1b' :: '[' :: '0' :: 'm' :: rest =>
    '\x1b' :: '[' :: '0' :: 'm' :: (again ++ resume again rest)
  | c :: rest => c :: resume again rest
  | [] => []

/-- A text in the style, if there are colours to be had. -/
def paint (s : Style) (colours : Bool) (text : String) : String :=
  if colours then s.start ++ String.ofList (resume s.start.toList text.toList) ++ reset else text

@[simp]
theorem paint_false (s : Style) (text : String) : s.paint false text = text := rfl

end Style

end LayoutGuard
