import LayoutGuard.Json.Printer
import LayoutGuard.Json.Reader
import LayoutGuard.Proofs.Json.Integers

/-!
# Printed values as tokens

The scanner finds in a printed value the tokens of the value and nothing else. Indentation leaves no
token, and the escapes of a text stand for its characters, whatever they are.

The module introduces:

* `Writable depth v` — integers of at most 64 bits, texts, truth values and `null` in arrays and
  objects nested at most `depth` deep.
* `tokens v` — the tokens of a value.
* `Reads letters tokens` — a scan that comes to the letters between two tokens has gone by the
  tokens when it is through with them. What follows the letters may be anything that ends a word.

Main statements:

* `Reads.quote`: a quoted text is one token.
* `scan?_pretty`: the tokens of a printed value are those of the value.
-/

namespace LayoutGuard.Json

/-- `Writable depth v`: the value consists of integers of at most 64 bits, texts, truth values and
`null` in arrays and objects nested at most `depth` deep. -/
inductive Writable : ℕ → Json → Prop
  | null {depth : ℕ} : Writable depth null
  | bool {depth : ℕ} (b : Bool) : Writable depth (bool b)
  | integer {depth : ℕ} {i : ℤ} : i.natAbs < UInt64.size → Writable depth (integer i)
  | text {depth : ℕ} (s : String) : Writable depth (text s)
  | array {depth : ℕ} {items : List Json} :
      (∀ v ∈ items, Writable depth v) → Writable (depth + 1) (array items)
  | object {depth : ℕ} {members : List (String × Json)} :
      (∀ m ∈ members, Writable depth m.2) → Writable (depth + 1) (object members)

mutual

/-- The tokens of a value. -/
def tokens : Json → List Token
  | array [] => [.openBracket, .closeBracket]
  | array (v :: rest) => .openBracket :: (tokens v ++ itemTokens rest)
  | object [] => [.openBrace, .closeBrace]
  | object ((name, v) :: rest) =>
    .openBrace :: .text (some name) :: .colon :: (tokens v ++ memberTokens rest)
  | text s => [.text (some s)]
  | v => [.word (scalar v).toList]

/-- The tokens of the items behind the first one, up to the end of the array. -/
def itemTokens : List Json → List Token
  | [] => [.closeBracket]
  | v :: rest => .comma :: (tokens v ++ itemTokens rest)

/-- The tokens of the members behind the first one, up to the end of the object. -/
def memberTokens : List (String × Json) → List Token
  | [] => [.closeBrace]
  | (name, v) :: rest => .comma :: .text (some name) :: .colon :: (tokens v ++ memberTokens rest)

end

/-! ## Parts of a document -/

namespace Scan

/-- The tokens of a document of which a scan has read a part and `letters` are left. -/
def complete? (s : Scan) (letters : List Char) : Option (List Token) :=
  ((letters.map some).foldl step s).finish

@[simp]
theorem complete?_cons (s : Scan) (c : Char) (letters : List Char) :
    s.complete? (c :: letters) = (s.step (some c)).complete? letters := rfl

end Scan

/-- The letters start with one that ends a word, if there are any. -/
def Delimited (letters : List Char) : Prop := ∀ c ∈ letters.head?, Scan.endsWord c = true

theorem delimited_cons {c : Char} (hc : Scan.endsWord c = true) (letters : List Char) :
    Delimited (c :: letters) := by
  rintro d ⟨⟩
  exact hc

theorem Delimited.append {l m : List Char} (hl : Delimited l) (hm : Delimited m) :
    Delimited (l ++ m) := by
  cases l with
  | nil => exact hm
  | cons c l => exact hl

/-- `Reads letters tokens`: a scan that comes to the letters between two tokens has gone by the
tokens when it is through with them. -/
def Reads (letters : List Char) (tokens : List Token) : Prop :=
  ∀ done rest, Delimited rest →
    (Scan.mk done .between).complete? (letters ++ rest) =
      (Scan.mk (tokens.reverse ++ done) .between).complete? rest

section Reads

variable {letters : List Char} {ts : List Token} {c : Char} {t : Token}

theorem reads_nil : Reads [] [] := fun _ _ _ => rfl

theorem Reads.append {more : List Char} {us : List Token} (h : Reads letters ts)
    (hmore : Reads more us) (hdelimited : Delimited more) :
    Reads (letters ++ more) (ts ++ us) := by
  intro done rest hrest
  rw [List.append_assoc, h done (more ++ rest) (hdelimited.append hrest), hmore _ rest hrest,
    List.reverse_append, List.append_assoc]

theorem Reads.blank (hc : isBlank c = true) (h : Reads letters ts) : Reads (c :: letters) ts := by
  intro done rest hrest
  have hstep : Scan.step ⟨done, .between⟩ (some c) = ⟨done, .between⟩ := by
    simp [Scan.step, Scan.begin, hc]
  rw [List.cons_append, Scan.complete?_cons, hstep]
  exact h done rest hrest

theorem Reads.mark (hc : mark? c = some t) (h : Reads letters ts) :
    Reads (c :: letters) (t :: ts) := by
  intro done rest hrest
  have hblank : isBlank c = false := by
    unfold mark? at hc
    split at hc <;> first | rfl | cases hc
  have hquote : c ≠ '"' := by
    rintro rfl
    cases hc
  -- A mark is neither a blank nor a quotation mark, so that the scan comes to its last case.
  have hstep : Scan.step ⟨done, .between⟩ (some c) = ⟨t :: done, .between⟩ := by
    simp [Scan.step, Scan.begin, hc, hblank, hquote]
  rw [List.cons_append, Scan.complete?_cons, hstep, h _ rest hrest, List.reverse_cons,
    List.append_assoc, List.singleton_append]

theorem Reads.newLine (h : Reads letters ts) (level : ℕ) :
    Reads ((newLine level).toList ++ letters) ts := by
  have hblanks (n : ℕ) : Reads (List.replicate n ' ' ++ letters) ts := by
    induction n with
    | zero => exact h
    | succ n ih => exact ih.blank rfl
  rw [Json.newLine, String.toList_ofList, List.cons_append]
  exact (hblanks _).blank rfl

end Reads

/-! ## Words -/

/-- A word goes on up to the first letter that ends it, which is then read as if the word had ended
before. -/
theorem complete?_word {letters rest : List Char} (h : ∀ c ∈ letters, Scan.endsWord c = false)
    (hrest : Delimited rest) (done : List Token) (read : List Char) :
    (Scan.mk done (.word read)).complete? (letters ++ rest) =
      (Scan.mk (.word (read.reverse ++ letters) :: done) .between).complete? rest := by
  induction letters generalizing read with
  | nil =>
    rw [List.append_nil, List.nil_append]
    cases rest with
    | nil => rfl
    | cons c rest =>
      -- The letter that ends the word is read once more, now between two tokens.
      have hc : Scan.endsWord c = true := hrest c rfl
      rw [Scan.complete?_cons, Scan.complete?_cons]
      simp [Scan.step, hc]
  | cons c letters ih =>
    obtain ⟨hc, hletters⟩ := List.forall_mem_cons.1 h
    have hstep : Scan.step ⟨done, .word read⟩ (some c) = ⟨done, .word (c :: read)⟩ := by
      simp [Scan.step, hc]
    rw [List.cons_append, Scan.complete?_cons, hstep, ih hletters, List.reverse_cons,
      List.append_assoc, List.singleton_append]

theorem reads_word {letters : List Char} (hne : letters ≠ [])
    (h : ∀ c ∈ letters, Scan.endsWord c = false) : Reads letters [.word letters] := by
  intro done rest hrest
  obtain ⟨c, letters, rfl⟩ := List.exists_cons_of_ne_nil hne
  obtain ⟨hc, hletters⟩ := List.forall_mem_cons.1 h
  -- The first letter is no blank, no quotation mark and no other mark, so that a word begins.
  simp only [Scan.endsWord, Bool.or_eq_false_iff, decide_eq_false_iff_not,
    Option.isSome_eq_false_iff, Option.isNone_iff_eq_none] at hc
  obtain ⟨⟨hblank, hquote⟩, hmark⟩ := hc
  have hstep : Scan.step ⟨done, .between⟩ (some c) = ⟨done, .word [c]⟩ := by
    simp [Scan.step, Scan.begin, hblank, hquote, hmark]
  rw [List.cons_append, Scan.complete?_cons, hstep, complete?_word hletters hrest]
  rfl

theorem endsWord_of_isAlphanum {c : Char} (h : c.isAlphanum = true) :
    Scan.endsWord c = false := by
  -- All letters that end a word are marks or blanks, hence different from the given one.
  have hne (d : Char) (hd : d.isAlphanum = false) : c ≠ d := by
    rintro rfl
    rw [h] at hd
    cases hd
  have hmark : mark? c = none := by
    unfold mark?
    split <;> first | rfl | exact absurd rfl (hne _ rfl)
  simp [Scan.endsWord, isBlank, hmark, hne]

theorem reads_name (name : String) (hne : name.toList ≠ [])
    (h : name.toList.all Char.isAlphanum = true) : Reads name.toList [.word name.toList] :=
  reads_word hne fun c hc => endsWord_of_isAlphanum (List.all_eq_true.1 h c hc)

theorem reads_integer (i : ℤ) : Reads (toString i).toList [.word (toString i).toList] := by
  have hdigits (n : ℕ) (c : Char) (hc : c ∈ Nat.toDigits 10 n) : Scan.endsWord c = false :=
    endsWord_of_isAlphanum (by simp [Char.isAlphanum, isDigit_of_mem_toDigits hc])
  rw [toList_toString]
  split
  · exact reads_word Nat.toDigits_ne_nil (hdigits _)
  · exact reads_word (List.cons_ne_nil _ _) (List.forall_mem_cons.2 ⟨rfl, hdigits _⟩)

/-! ## Texts -/

/-- The piece stands for the character, as such or by its code. -/
inductive Piece.Spells : Piece → Char → Prop
  | char (c : Char) : Spells (.char c) c
  | unit {c : Char} : c < ' ' → Spells (.unit c.toNat) c

/-- A code unit that is no half of a surrogate pair is a character of its own. -/
theorem Piece.chars?_unit {code : ℕ} (h : code < 0xD800) (pieces : List Piece) :
    chars? (.unit code :: pieces) = (chars? pieces).map (Char.ofNat code :: ·) := by
  have hhigh : isHigh code = false := by
    rw [isHigh, decide_eq_false (by omega), Bool.false_and]
  have hlow : isLow code = false := by
    rw [isLow, decide_eq_false (by omega), Bool.false_and]
  -- What the unit stands for depends on whether another one follows.
  rcases pieces with _ | ⟨_ | _ | _, pieces⟩ <;> simp [chars?, hhigh, hlow]

theorem Piece.chars?_eq_some {pieces : List Piece} {letters : List Char}
    (h : List.Forall₂ Spells pieces letters) : chars? pieces = some letters := by
  induction h with
  | nil => rfl
  | cons hspells _ ih =>
    cases hspells with
    | char c => rw [chars?, ih, Option.map_some]
    | unit hcontrol =>
      have hcode : Char.toNat _ < 0xD800 := Nat.lt_trans hcontrol (by decide)
      rw [chars?_unit hcode, ih, Option.map_some, Char.ofNat_toNat]

theorem hexDigit?_hexDigit : ∀ n < 16, hexDigit? (hexDigit n) = some n := by decide

/-- Of the four digits of a numeric escape the first two are zeros. -/
theorem complete?_numericEscape {c : Char} (hc : c < ' ') (done : List Token)
    (pieces : List Piece) (letters : List Char) :
    (Scan.mk done (.text pieces)).complete?
        (['\\', 'u', '0', '0', hexDigit (c.toNat / 16), hexDigit (c.toNat % 16)] ++ letters) =
      (Scan.mk done (.text (.unit c.toNat :: pieces))).complete? letters := by
  have hcode : c.toNat < 32 := hc
  have hfirst := hexDigit?_hexDigit (c.toNat / 16) (by omega)
  have hsecond := hexDigit?_hexDigit (c.toNat % 16) (by omega)
  calc _ = (Scan.mk done (.code pieces 0 2)).complete?
        ([hexDigit (c.toNat / 16), hexDigit (c.toNat % 16)] ++ letters) := rfl
    _ = _ := by simp [Scan.step, hfirst, hsecond, Nat.div_add_mod]

/-- Inside a quoted text an escaped character is read as a piece that stands for it. -/
theorem exists_spells (c : Char) :
    ∃ piece : Piece, piece.Spells c ∧ ∀ done pieces letters,
      (Scan.mk done (.text pieces)).complete? (escape c ++ letters) =
        (Scan.mk done (.text (piece :: pieces))).complete? letters := by
  by_cases hshort : c ∈ ['"', '\\', '\x08', '\x0c', '\n', '\r', '\t']
  · -- Each of these has a short escape.
    refine ⟨.char c, .char c, fun done pieces letters => ?_⟩
    fin_cases hshort <;> rfl
  · simp only [List.mem_cons, List.not_mem_nil, or_false, not_or] at hshort
    by_cases hcontrol : c < ' '
    · have hescape : escape c =
          ['\\', 'u', '0', '0', hexDigit (c.toNat / 16), hexDigit (c.toNat % 16)] := by
        simp [escape, hshort, hcontrol]
      exact ⟨_, .unit hcontrol, hescape ▸ complete?_numericEscape hcontrol⟩
    · refine ⟨_, .char c, fun done pieces letters => ?_⟩
      have hescape : escape c = [c] := by simp [escape, hshort, hcontrol]
      rw [hescape, List.singleton_append, Scan.complete?_cons]
      simp [Scan.step, hshort, hcontrol]

theorem exists_complete?_text (s : List Char) :
    ∃ spelled : List Piece, List.Forall₂ Piece.Spells spelled s ∧ ∀ done pieces letters,
      (Scan.mk done (.text pieces)).complete? (s.flatMap escape ++ letters) =
        (Scan.mk done (.text (spelled.reverse ++ pieces))).complete? letters := by
  induction s with
  | nil => exact ⟨[], .nil, fun _ _ _ => rfl⟩
  | cons c s ih =>
    obtain ⟨piece, hpiece, hstep⟩ := exists_spells c
    obtain ⟨spelled, hspelled, hrun⟩ := ih
    refine ⟨piece :: spelled, .cons hpiece hspelled, fun done pieces letters => ?_⟩
    rw [List.flatMap_cons, List.append_assoc, hstep, hrun, List.reverse_cons, List.append_assoc,
      List.singleton_append]

/-- A quoted text is one token, the text. -/
theorem Reads.quote {letters : List Char} {ts : List Token} (h : Reads letters ts) (s : String) :
    Reads ((quote s).toList ++ letters) (.text (some s) :: ts) := by
  intro done rest hrest
  obtain ⟨spelled, hspelled, hrun⟩ := exists_complete?_text s.toList
  have htext : Piece.text? spelled = some s := by
    rw [Piece.text?, Piece.chars?_eq_some hspelled, Option.map_some, String.ofList_toList]
  have hquote : (Json.quote s).toList ++ letters ++ rest =
      '"' :: (s.toList.flatMap escape ++ '"' :: (letters ++ rest)) := by
    simp [Json.quote, String.toList_append]
  calc (Scan.mk done .between).complete? ((Json.quote s).toList ++ letters ++ rest)
      = (Scan.mk done (.text [])).complete?
          (s.toList.flatMap escape ++ '"' :: (letters ++ rest)) := by
        rw [hquote]
        rfl
    _ = (Scan.mk (.text (Piece.text? spelled) :: done) .between).complete? (letters ++ rest) := by
        rw [hrun, Scan.complete?_cons]
        simp [Scan.step]
    _ = (Scan.mk ((.text (some s) :: ts).reverse ++ done) .between).complete? rest := by
        rw [htext, h _ rest hrest, List.reverse_cons, List.append_assoc, List.singleton_append]

/-! ## Values -/

theorem delimited_newLine (level : ℕ) (letters : List Char) :
    Delimited ((newLine level).toList ++ letters) := by
  rw [newLine, String.toList_ofList]
  exact delimited_cons rfl _

/-- Behind an item stands a comma, or the line with the end of the array. -/
theorem delimited_prettyItems (level outer : ℕ) (items : List Json) :
    Delimited (prettyItems level items ++ newLine outer ++ "]").toList := by
  cases items with
  | nil =>
    rw [prettyItems, String.toList_append, String.toList_append]
    exact delimited_newLine outer _
  | cons v rest =>
    rw [prettyItems]
    simp only [String.toList_append]
    exact delimited_cons (c := ',') rfl _

theorem delimited_prettyMembers (level outer : ℕ) (members : List (String × Json)) :
    Delimited (prettyMembers level members ++ newLine outer ++ "\x7d").toList := by
  cases members with
  | nil =>
    rw [prettyMembers, String.toList_append, String.toList_append]
    exact delimited_newLine outer _
  | cons m rest =>
    rw [prettyMembers]
    simp only [String.toList_append]
    exact delimited_cons (c := ',') rfl _

theorem reads_prettyItems {items : List Json}
    (h : ∀ v ∈ items, ∀ level, Reads (prettyAt level v).toList (tokens v)) (level outer : ℕ) :
    Reads (prettyItems level items ++ newLine outer ++ "]").toList (itemTokens items) := by
  induction items with
  | nil =>
    rw [prettyItems, itemTokens, String.toList_append, String.toList_append]
    exact (reads_nil.mark rfl).newLine outer
  | cons v rest ih =>
    obtain ⟨hv, hrest⟩ := List.forall_mem_cons.1 h
    have hvalue := (hv level).append (ih hrest) (delimited_prettyItems level outer rest)
    rw [prettyItems, itemTokens]
    simp only [String.toList_append, List.append_assoc] at hvalue ⊢
    exact (hvalue.newLine level).mark rfl

theorem reads_member {letters : List Char} {ts : List Token} (h : Reads letters ts)
    (name : String) :
    Reads ((quote name).toList ++ (": ".toList ++ letters)) (.text (some name) :: .colon :: ts) :=
  Reads.quote (Reads.mark rfl (h.blank rfl)) name

theorem reads_prettyMembers {members : List (String × Json)}
    (h : ∀ m ∈ members, ∀ level, Reads (prettyAt level m.2).toList (tokens m.2))
    (level outer : ℕ) :
    Reads (prettyMembers level members ++ newLine outer ++ "\x7d").toList
      (memberTokens members) := by
  induction members with
  | nil =>
    rw [prettyMembers, memberTokens, String.toList_append, String.toList_append]
    exact (reads_nil.mark rfl).newLine outer
  | cons m rest ih =>
    obtain ⟨name, v⟩ := m
    obtain ⟨hv, hrest⟩ := List.forall_mem_cons.1 h
    have hvalue := (hv level).append (ih hrest) (delimited_prettyMembers level outer rest)
    rw [prettyMembers, memberTokens]
    simp only [String.toList_append, List.append_assoc] at hvalue ⊢
    exact ((reads_member hvalue name).newLine level).mark rfl

/-- A printed value is read as its tokens, at any level of indentation. -/
theorem reads_prettyAt {depth : ℕ} {v : Json} (h : Writable depth v) (level : ℕ) :
    Reads (prettyAt level v).toList (tokens v) := by
  -- The level is general, because items stand one level further in than their array does.
  induction h generalizing level with
  | null => exact reads_name "null" (by decide) (by decide)
  | bool b =>
    cases b
    · exact reads_name "false" (by decide) (by decide)
    · exact reads_name "true" (by decide) (by decide)
  | integer => exact reads_integer _
  | text s =>
    have hquote := reads_nil.quote s
    rwa [List.append_nil] at hquote
  | @array _ items _ ih =>
    cases items with
    | nil =>
      have hempty : (prettyAt level (array [])).toList = ['[', ']'] := by
        rw [prettyAt]
        rfl
      rw [hempty, tokens]
      exact (reads_nil.mark rfl).mark rfl
    | cons v rest =>
      obtain ⟨hv, hrest⟩ := List.forall_mem_cons.1 ih
      have hitems := (hv (level + 1)).append (reads_prettyItems hrest (level + 1) level)
        (delimited_prettyItems (level + 1) level rest)
      rw [prettyAt, tokens]
      simp only [String.toList_append, List.append_assoc] at hitems ⊢
      exact (hitems.newLine (level + 1)).mark rfl
  | @object _ members _ ih =>
    cases members with
    | nil =>
      have hempty : (prettyAt level (object [])).toList = ['{', '}'] := by
        rw [prettyAt]
        rfl
      rw [hempty, tokens]
      exact (reads_nil.mark rfl).mark rfl
    | cons m rest =>
      obtain ⟨name, v⟩ := m
      obtain ⟨hv, hrest⟩ := List.forall_mem_cons.1 ih
      have hmembers := (hv (level + 1)).append (reads_prettyMembers hrest (level + 1) level)
        (delimited_prettyMembers (level + 1) level rest)
      rw [prettyAt, tokens]
      simp only [String.toList_append, List.append_assoc] at hmembers ⊢
      exact ((reads_member hmembers name).newLine (level + 1)).mark rfl

/-- The tokens of a printed value are those of the value. -/
theorem scan?_pretty {depth : ℕ} {v : Json} (h : Writable depth v) :
    scan? (v.pretty.toList.map some) = some (tokens v) := by
  have hreads := reads_prettyAt h 0 [] [] nofun
  rw [List.append_nil, List.append_nil] at hreads
  calc scan? (v.pretty.toList.map some)
      = (Scan.mk (tokens v).reverse .between).complete? [] := hreads
    _ = some (tokens v).reverse.reverse := rfl
    _ = some (tokens v) := by rw [List.reverse_reverse]

end LayoutGuard.Json
