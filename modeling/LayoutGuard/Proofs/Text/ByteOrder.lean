import LayoutGuard.Ordered.Map
import Mathlib.Logic.Function.Basic
import Mathlib.Tactic.SplitIfs

/-!
# The order of bytes

Texts are compared by their code points. That is the order in which directories list the names of
files, which compare them by bytes, because UTF-8 gives a greater character greater bytes.

* `compare_append_left`: what two lists have in common in front does not count.
* `compare_utf8_eq_lt`: a smaller text has smaller bytes.
-/

namespace LayoutGuard

/-! ## Lists that are compared element by element -/

section Lists

variable {α : Type} [Ord α]

theorem compare_cons (a b : α) (l m : List α) :
    compare (a :: l) (b :: m) = (compare a b).then (compare l m) :=
  List.compareLex_cons_cons

/-- What is the same in front does not count. -/
theorem compare_append_left [Std.ReflOrd α] (x l m : List α) :
    compare (x ++ l) (x ++ m) = compare l m := by
  induction x with
  | nil => rfl
  | cons a x ih =>
    have hsame : compare a a = .eq := Std.ReflCmp.compare_self
    rw [List.cons_append, List.cons_append, compare_cons, hsame, ih]
    rfl

end Lists

/-! ## Bytes of texts -/

/-- The bytes of a text in UTF-8. -/
def utf8 (s : String) : List UInt8 := s.toUTF8.data.toList

theorem utf8_eq_flatMap (s : String) : utf8 s = s.toList.flatMap String.utf8EncodeChar := by
  rw [utf8, String.toUTF8_eq_toByteArray, ← String.utf8Encode_toList, List.utf8Encode,
    List.data_toByteArray]

theorem utf8_injective : Function.Injective utf8 := by
  intro s t h
  have hbytes : s.toUTF8 = t.toUTF8 := ByteArray.ext (Array.toList_inj.1 h)
  exact String.toByteArray_inj.1 hbytes

variable {l m : List UInt8} {a b : Nat} {c d : Char} {s t : String}

theorem compare_ofNat_cons_eq_lt_iff (ha : a < 256) (hb : b < 256) :
    compare (UInt8.ofNat a :: l) (UInt8.ofNat b :: m) = .lt ↔
      a < b ∨ a = b ∧ compare l m = .lt := by
  have hsame : UInt8.ofNat a = UInt8.ofNat b ↔ a = b := by
    rw [← UInt8.toNat_inj, UInt8.toNat_ofNat_of_lt' ha, UInt8.toNat_ofNat_of_lt' hb]
  rw [compare_cons, Ordering.then_eq_lt, Std.compare_eq_lt, UInt8.ofNat_lt_iff_lt ha hb,
    Std.LawfulEqCmp.compare_eq_iff_eq, hsame]

/-- A smaller character has smaller bytes, whatever follows. -/
theorem compare_utf8EncodeChar_append (h : c < d) :
    compare (String.utf8EncodeChar c ++ l) (String.utf8EncodeChar d ++ m) = .lt := by
  have hlt : c.val.toNat < d.val.toNat := UInt32.lt_iff_toNat_lt.1 (Char.lt_def.1 h)
  have hd : d.val.toNat < 1114112 := by
    rcases d.valid with h | h <;> omega
  unfold String.utf8EncodeChar
  generalize c.val.toNat = v at *
  generalize d.val.toNat = w at *
  dsimp only
  -- The bytes are digits to base 64. In the first digit in which the two differ, the smaller number
  -- has the smaller one.
  have h₀ : v / 64 < w / 64 ∨ v / 64 = w / 64 ∧ v % 64 < w % 64 := by omega
  have h₁ : v / 4096 < w / 4096 ∨ v / 4096 = w / 4096 ∧ v / 64 % 64 ≤ w / 64 % 64 := by omega
  have h₂ : v / 262144 < w / 262144 ∨
      v / 262144 = w / 262144 ∧ v / 4096 % 64 ≤ w / 4096 % 64 := by omega
  have hv : v / 262144 % 8 = v / 262144 := by omega
  have hw : w / 262144 % 8 = w / 262144 := by omega
  -- More bytes start with a greater one.
  split_ifs <;>
    simp (disch := omega) only [List.cons_append, List.nil_append,
      compare_ofNat_cons_eq_lt_iff] <;>
    omega

theorem compare_flatMap_utf8EncodeChar {cs ds : List Char} (h : cs < ds) :
    compare (cs.flatMap String.utf8EncodeChar) (ds.flatMap String.utf8EncodeChar) = .lt := by
  induction h with
  | @nil c rest =>
    obtain ⟨b, bytes, hbytes⟩ := List.exists_cons_of_ne_nil (String.utf8EncodeChar_ne_nil (c := c))
    rw [List.flatMap_nil, List.flatMap_cons, hbytes]
    rfl
  | cons _ ih => rw [List.flatMap_cons, List.flatMap_cons, compare_append_left, ih]
  | rel h =>
    rw [List.flatMap_cons, List.flatMap_cons]
    exact compare_utf8EncodeChar_append h

/-- The bytes of texts are in the order of the texts. -/
theorem compare_utf8_eq_lt (h : compare s t = .lt) : compare (utf8 s) (utf8 t) = .lt := by
  have hlt : s < t := compareOfLessAndEq_eq_lt.1 h
  rw [utf8_eq_flatMap, utf8_eq_flatMap]
  exact compare_flatMap_utf8EncodeChar hlt

end LayoutGuard
