/-!
# Blank characters

The characters with the Unicode property `White_Space`, and texts without blanks at their end.

- `isBlank_of_isWhitespace`: the class of blanks extends the one that knows ASCII only.
- `getLast?_dropBlankEnd`: no blank is left at the end of a text.
-/

namespace LayoutGuard

/-- The ranges of the blank characters, in ascending order. -/
def blankRanges : List (Nat × Nat) := [
  (0x9, 0xD), (0x20, 0x20), (0x85, 0x85), (0xA0, 0xA0), (0x1680, 0x1680), (0x2000, 0x200A),
  (0x2028, 0x2029), (0x202F, 0x202F), (0x205F, 0x205F), (0x3000, 0x3000)]

/-- Whether a character is blank. -/
def isBlank (c : Char) : Bool := blankRanges.any fun r => r.1 ≤ c.toNat && c.toNat ≤ r.2

theorem isBlank_of_isWhitespace {c : Char} (h : c.isWhitespace) : isBlank c := by
  simp only [Char.isWhitespace, Bool.or_eq_true, decide_eq_true_eq] at h
  rcases h with ((rfl | rfl) | rfl) | rfl <;> rfl

/-- A text without the blanks at its end. -/
def dropBlankEnd (s : String) : String :=
  String.ofList (s.toList.reverse.dropWhile isBlank).reverse

/-- No blank is left at the end. -/
theorem getLast?_dropBlankEnd (s : String) (c : Char)
    (h : (dropBlankEnd s).toList.getLast? = some c) : isBlank c = false := by
  rw [dropBlankEnd, String.toList_ofList, List.getLast?_reverse] at h
  have hd := List.head?_dropWhile_not isBlank s.toList.reverse
  rw [h] at hd
  simpa using hd

end LayoutGuard
