import LayoutGuard.Json.Number
import Mathlib.Data.List.TakeWhile
import Mathlib.Tactic.FinCases

/-!
# Integers in decimal

An integer of at most 64 bits is written by its decimal digits, after a minus if it is negative, and
this word is read as the integer again: it has no superfluous zeros, and it is not out of range.

The module introduces:

* `digits n` — the decimal digits of `n`, the first one first.
* `Literal.ofNat negative n` — what there is to say about `n` written with or without a minus.

Main statement:

* `ofWord?_toString`: the decimal form of an integer stands for the integer.
-/

namespace LayoutGuard.Json

/-! ## Digits -/

/-- The decimal digits of a number, the first one first. -/
def digits (n : ℕ) : List ℕ := (Nat.toDigits 10 n).map digitValue

theorem isDigit_of_mem_toDigits {n : ℕ} {c : Char} (h : c ∈ Nat.toDigits 10 n) :
    c.isDigit = true :=
  Nat.isDigit_of_mem_toDigits (by decide) (by decide) h

/-- Nothing but a digit stands first. -/
theorem toDigits_ne_cons {c : Char} (hc : c.isDigit = false) (n : ℕ) (rest : List Char) :
    Nat.toDigits 10 n ≠ c :: rest := by
  intro h
  have hdigit := isDigit_of_mem_toDigits (n := n) (h ▸ List.mem_cons_self)
  rw [hc] at hdigit
  cases hdigit

theorem takeDigits_toDigits (n : ℕ) : takeDigits (Nat.toDigits 10 n) = (digits n, []) := by
  have hdigit (c : Char) (hc : c ∈ Nat.toDigits 10 n) : c.isDigit = true :=
    isDigit_of_mem_toDigits hc
  rw [takeDigits, List.takeWhile_eq_self_iff.2 hdigit, List.dropWhile_eq_nil_iff.2 hdigit, digits]

theorem ofDigits_digits (n : ℕ) : ofDigits (digits n) = n := by
  rw [ofDigits, digits, List.foldl_map]
  exact Nat.ofDigitChars_ten_toDigits

theorem digits_of_lt {n : ℕ} (h : n < 10) : digits n = [n] := by
  rw [digits, Nat.toDigits_of_lt_base h, List.map_singleton]
  exact congrArg List.singleton (Nat.toNat_digitChar_sub_48_of_lt_ten h)

/-- A positive number does not start with a zero. -/
theorem exists_digits_eq_cons {n : ℕ} (h : 0 < n) : ∃ d rest, digits n = d :: rest ∧ d ≠ 0 := by
  induction n using Nat.strongRecOn with
  | ind n ih =>
    by_cases hn : n < 10
    · exact ⟨n, [], digits_of_lt hn, Nat.ne_of_gt h⟩
    · -- The last digit is taken off; the ones before it start in the same way.
      rw [Nat.not_lt] at hn
      obtain ⟨d, rest, hrest, hd⟩ := ih (n / 10) (by omega) (by omega)
      rw [digits] at hrest
      rw [digits, Nat.toDigits_of_base_le (by decide) hn, List.map_append, hrest]
      exact ⟨d, _, rfl, hd⟩

theorem digits_ne_zero_cons (n d : ℕ) (rest : List ℕ) : digits n ≠ 0 :: d :: rest := by
  rcases Nat.eq_zero_or_pos n with rfl | hn
  · simp [digits_of_lt]
  · obtain ⟨first, tail, htail, hfirst⟩ := exists_digits_eq_cons hn
    rw [htail]
    exact fun h => hfirst (List.cons.inj h).1

/-! ## Range -/

theorem le_foldl_digits (digits : List ℕ) (n : ℕ) :
    n ≤ digits.foldl (fun n d => 10 * n + d) n := by
  induction digits generalizing n with
  | nil => exact Nat.le_refl n
  | cons d rest ih =>
    have hnext := ih (10 * n + d)
    rw [List.foldl_cons]
    omega

namespace Literal

/-- No digit is left over of a number that fits into 64 bits. -/
theorem absorb_eq {digits : List ℕ} {n : ℕ}
    (h : digits.foldl (fun n d => 10 * n + d) n < UInt64.size) :
    absorb n digits = (digits.foldl (fun n d => 10 * n + d) n, []) := by
  induction digits generalizing n with
  | nil => rfl
  | cons d rest ih =>
    -- The numbers on the way are not larger than the one at the end.
    rw [absorb, if_pos (Nat.lt_of_le_of_lt (le_foldl_digits rest _) h)]
    exact ih h

theorem absorb_zero_digits {n : ℕ} (h : n < UInt64.size) : absorb 0 (digits n) = (n, []) := by
  have hn : (digits n).foldl (fun n d => 10 * n + d) 0 = n := ofDigits_digits n
  rw [absorb_eq (hn.symm ▸ h), hn]

/-- Rounding to binary64 adds less than the number itself. -/
theorem roundBinary64_le (n : ℕ) : roundBinary64 n ≤ 2 * n := by
  unfold roundBinary64
  split
  case isTrue => omega
  case isFalse h =>
    have hn : n ≠ 0 := by
      rintro rfl
      exact h (by decide)
    have hunit : Nat.pow 2 (Nat.log2 n - 52) ≤ n :=
      Nat.le_trans (Nat.pow_le_pow_right (by decide) (Nat.sub_le _ _)) (Nat.log2_self_le hn)
    have hquotient : n / Nat.pow 2 (Nat.log2 n - 52) * Nat.pow 2 (Nat.log2 n - 52) ≤ n :=
      Nat.div_mul_le_self _ _
    simp only
    split
    · omega
    · rw [Nat.add_mul, Nat.one_mul]
      omega

/-- What there is to say about a number written without a point and an exponent. -/
def ofNat (negative : Bool) (n : ℕ) : Literal := ⟨negative, digits n, [], 0, true⟩

theorem isOutOfRange_ofNat {negative : Bool} {n : ℕ} (h : n < UInt64.size) :
    (ofNat negative n).isOutOfRange = false := by
  have hsignificand : (ofNat negative n).significand = (n, 0) := by
    simp [significand, ofNat, absorb_zero_digits h, absorb]
  have hone : roundBinary64 (Nat.pow 10 (0 : ℤ).toNat) = 1 := by decide
  have hbound : 2 * UInt64.size < infinityBound := by decide +kernel
  -- Twice the largest number of 64 bits is still far below the bound.
  have hround := roundBinary64_le n
  rw [isOutOfRange, hsignificand]
  simp only [hone, Nat.mul_one]
  split
  · rfl
  · rw [decide_eq_false (by omega), decide_eq_false (by omega)]
    rfl

theorem ofLetters?_toDigits (n : ℕ) :
    ofLetters? (Nat.toDigits 10 n) = some (ofNat false n) ∧
      ofLetters? ('-' :: Nat.toDigits 10 n) = some (ofNat true n) := by
  have hsign (rest : List Char) : Nat.toDigits 10 n ≠ '-' :: rest := toDigits_ne_cons rfl n rest
  have hnonempty : digits n ≠ [] := by simp [digits]
  -- The reader refuses a word without digits and one with a superfluous zero.
  unfold ofLetters?
  simp only [takeDigits_toDigits]
  split
  case h_1 h => exact absurd h hnonempty
  case h_2 h => exact absurd h (digits_ne_zero_cons n _ _)
  case h_3 => exact ⟨rfl, rfl⟩

end Literal

/-! ## Words -/

theorem toList_toString (i : ℤ) :
    (toString i).toList =
      if 0 ≤ i then Nat.toDigits 10 i.toNat else '-' :: Nat.toDigits 10 (-i).toNat := by
  rw [Int.toString_eq_repr, Int.repr_eq_if]
  split
  · rw [Nat.toList_repr]
  · rw [String.toList_append, Nat.toList_repr]
    rfl

/-- A word that is none of the three names is a number if it has the parts of one. -/
theorem ofWord?_of_ofLetters? {letters : List Char} {negative : Bool} {n : ℕ}
    (hletters : Literal.ofLetters? letters = some (.ofNat negative n)) (hn : n < UInt64.size)
    (hname : ∀ c ∈ letters.head?, c ∉ ['n', 't', 'f']) (hsign : negative = true → n ≠ 0) :
    ofWord? letters = some (integer (if negative then -(n : ℤ) else n)) := by
  have hnull : letters ≠ ['n', 'u', 'l', 'l'] := by
    rintro rfl
    exact hname 'n' rfl (by decide)
  have htrue : letters ≠ ['t', 'r', 'u', 'e'] := by
    rintro rfl
    exact hname 't' rfl (by decide)
  have hfalse : letters ≠ ['f', 'a', 'l', 's', 'e'] := by
    rintro rfl
    exact hname 'f' rfl (by decide)
  rw [ofWord?, if_neg hnull, if_neg htrue, if_neg hfalse, hletters, Option.map_some,
    Literal.isOutOfRange_ofNat hn]
  simp only [Literal.ofNat, ofDigits_digits, true_and]
  exact congrArg some (if_pos fun h => hsign h.1 h.2)

/-- The decimal form of an integer of at most 64 bits stands for the integer. -/
theorem ofWord?_toString {i : ℤ} (h : i.natAbs < UInt64.size) :
    ofWord? (toString i).toList = some (integer i) := by
  rw [toList_toString]
  split
  case isTrue hi =>
    have hhead (c : Char) (hc : c ∈ (Nat.toDigits 10 i.toNat).head?) : c ∉ ['n', 't', 'f'] := by
      have hdigit : c.isDigit = true := isDigit_of_mem_toDigits (List.mem_of_mem_head? hc)
      intro hname
      fin_cases hname <;> cases hdigit
    rw [ofWord?_of_ofLetters? (Literal.ofLetters?_toDigits _).1 (by omega) hhead nofun]
    exact congrArg (fun n => some (integer n)) (Int.toNat_of_nonneg hi)
  case isFalse hi =>
    have hhead (c : Char) (hc : c ∈ ('-' :: Nat.toDigits 10 (-i).toNat).head?) :
        c ∉ ['n', 't', 'f'] := by
      obtain rfl := Option.some.inj hc
      decide
    rw [ofWord?_of_ofLetters? (Literal.ofLetters?_toDigits _).2 (by omega) hhead (by omega)]
    refine congrArg (fun n => some (integer n)) ?_
    rw [if_pos rfl]
    omega

end LayoutGuard.Json
