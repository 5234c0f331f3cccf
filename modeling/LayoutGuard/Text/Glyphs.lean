/-!
# Bytes as characters

A file that ought to be UTF-8 may still hold bytes that are part of no character. `glyphs` reads it
character by character and keeps a place for each such byte, so that a reader can decide whether the
byte matters where it stands.

- `glyphs_toUTF8`: a text that was written as UTF-8 is read back character by character.
-/

namespace LayoutGuard

/-- A character, or `none` for a byte that is part of no character. -/
abbrev Glyph := Option Char

/-- The glyphs from position `i` on, at most `count` of them. -/
def glyphsFrom (bytes : ByteArray) : (count i : Nat) → List Glyph
  | 0, _ => []
  | count + 1, i =>
    if i < bytes.size then
      match bytes.utf8DecodeChar? i with
      | some c => some c :: glyphsFrom bytes count (i + c.utf8Size)
      | none => none :: glyphsFrom bytes count (i + 1)
    else []

/-- The glyphs of a file. -/
def glyphs (bytes : ByteArray) : List Glyph :=
  match String.fromUTF8? bytes with
  | some s => s.toList.map some
  | none => glyphsFrom bytes bytes.size 0

theorem fromUTF8?_toUTF8 (s : String) : String.fromUTF8? s.toUTF8 = some s :=
  dif_pos s.isValidUTF8

/-- A text that was written as UTF-8 is read back character by character. -/
@[simp]
theorem glyphs_toUTF8 (s : String) : glyphs s.toUTF8 = s.toList.map some := by
  rw [glyphs, fromUTF8?_toUTF8]

end LayoutGuard
