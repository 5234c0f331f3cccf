import LayoutGuard.Proofs.Findings
import LayoutGuard.Proofs.Report.Affected
import LayoutGuard.Proofs.Text.Lines
import LayoutGuard.Report.Lines

/-!
# What the text of a report says

A report is read back from its text, line by line and section by section: which changes it lists and
under which header, which contracts it calls affected, and that its last line counts what stands
above it. Texts with a line break would make more lines of one.

The module introduces:

* `c.texts`, `f.texts`, `m.texts` — the texts in a change, in findings and in an impact.
* `changeLine c`, `contractHeader contract`, `affectsLine names` — the lines of a report.
* `isChangeLine line`, `isContractHeader line` — what a line looks like.
* `r.parts` — the sections of a report.

Main statements:

* `Report.linesOf_text`: the lines of the text.
* `Report.text_content`: what they say.
-/

namespace LayoutGuard

/-! ## Texts without line breaks -/

/-- The texts of a field, as `text` shows its values. -/
def Delta.texts {α : Type} (text : α → String) : Option (Delta α) → List String
  | none => []
  | some d => [text d.old, text d.new]

/-- The texts in a change. -/
def Change.texts : Change → List String
  | removedContract contract => [contract]
  | newContract contract => [contract]
  | renamedContract old new => [old, new]
  | newEntry label typeId => [label, typeId.name]
  | missedEntry label typeId => [label, typeId.name]
  | slotChange c =>
    Delta.texts id c.slot ++ Delta.texts id c.label ++ Delta.texts TypeId.name c.typeId
  | typeChange c => Delta.texts id c.label ++ Delta.texts id c.numberOfBytes

/-- The texts in findings. -/
def Findings.texts (f : Findings) : List String :=
  f.informational.toList.flatMap Change.texts ++
    f.contracts.toList.flatMap fun e => e.1 :: e.2.toList.flatMap Change.texts

/-- The texts in an impact. -/
def Impact.texts (m : Impact) : List String := m.lists.toList.flatMap fun e => e.1 :: e.2

theorem Impact.mem_texts_of_mem_descendants {m : Impact} {ancestor d : String}
    (h : d ∈ m.descendants ancestor) : d ∈ m.texts := by
  have hget := get?_eq_some_descendants (List.ne_nil_of_mem h)
  exact List.mem_flatMap.2
    ⟨_, OrderedMap.get?_eq_some_iff.1 hget, List.mem_cons_of_mem _ h⟩

theorem Delta.isLine_describe {α : Type} {field : String} {text : α → String} {d : Delta α}
    (hfield : IsLine field) (h : ∀ s ∈ Delta.texts text (some d), IsLine s) :
    IsLine (d.describe field text) := by
  have hold : IsLine (text d.old) := h _ List.mem_cons_self
  have hnew : IsLine (text d.new) := h _ (List.mem_cons_of_mem _ List.mem_cons_self)
  have hblank : IsLine " " := by decide
  have harrow : IsLine " -> " := by decide
  exact (((hfield.append hblank).append hold).append harrow).append hnew

theorem isLine_fields {fields : List (Option String)}
    (h : ∀ field ∈ fields, ∀ s, field = some s → IsLine s) :
    IsLine (", ".intercalate (fields.filterMap id)) := by
  refine isLine_intercalate (by decide) fun s hs => ?_
  obtain ⟨field, hfield, heq⟩ := List.mem_filterMap.1 hs
  exact h field hfield s heq

theorem Delta.isLine_map_describe {α : Type} {field : String} {text : α → String}
    {d : Option (Delta α)} (hfield : IsLine field) (h : ∀ s ∈ Delta.texts text d, IsLine s) :
    ∀ s, d.map (·.describe field text) = some s → IsLine s := by
  intro s hs
  obtain ⟨d, rfl, rfl⟩ := Option.map_eq_some_iff.1 hs
  exact isLine_describe hfield h

theorem SlotChange.isLine_describe {c : SlotChange}
    (h : ∀ s ∈ (Change.slotChange c).texts, IsLine s) : IsLine c.describe := by
  simp only [Change.texts, List.forall_mem_append] at h
  obtain ⟨⟨hslot, hlabel⟩, htypeId⟩ := h
  have hoffset : ∀ s ∈ Delta.texts (fun n : UInt32 => toString n.toNat) c.offset, IsLine s := by
    cases c.offset with
    | none => exact nofun
    | some d =>
      exact List.forall_mem_cons.2 ⟨isLine_toString _, by simpa using isLine_toString d.new.toNat⟩
  refine isLine_fields ?_
  simp only [List.forall_mem_cons, List.not_mem_nil, false_imp_iff, implies_true, and_true]
  exact ⟨Delta.isLine_map_describe (by decide) hslot,
    Delta.isLine_map_describe (by decide) hoffset, Delta.isLine_map_describe (by decide) hlabel,
    Delta.isLine_map_describe (by decide) htypeId⟩

theorem TypeChange.isLine_describe {c : TypeChange}
    (h : ∀ s ∈ (Change.typeChange c).texts, IsLine s) : IsLine c.describe := by
  simp only [Change.texts, List.forall_mem_append] at h
  obtain ⟨hlabel, hbytes⟩ := h
  have hencoding : ∀ s ∈ Delta.texts Encoding.name c.encoding, IsLine s := by
    have hname (e : Encoding) : IsLine e.name := by cases e <;> decide
    cases c.encoding with
    | none => exact nofun
    | some d => simp [Delta.texts, hname]
  refine isLine_fields ?_
  simp only [List.forall_mem_cons, List.not_mem_nil, false_imp_iff, implies_true, and_true]
  exact ⟨Delta.isLine_map_describe (by decide) hlabel,
    Delta.isLine_map_describe (by decide) hencoding, Delta.isLine_map_describe (by decide) hbytes⟩

/-- A change without line breaks in it is told on one line. -/
theorem Change.isLine_describe {c : Change} (h : ∀ s ∈ c.texts, IsLine s) : IsLine c.describe := by
  cases c with
  | removedContract contract => exact IsLine.append (by decide) (h contract (by simp [texts]))
  | newContract contract => exact IsLine.append (by decide) (h contract (by simp [texts]))
  | renamedContract old new =>
    have hold : IsLine ("Renamed contract: " ++ old) :=
      IsLine.append (by decide) (h old (by simp [texts]))
    have harrow : IsLine " -> " := by decide
    exact (hold.append harrow).append (h new (by simp [texts]))
  | newEntry label typeId =>
    have hlabel : IsLine ("New storage layout entry: label " ++ label ++ " of ") :=
      (IsLine.append (by decide) (h label (by simp [texts]))).append (by decide)
    exact (hlabel.append (h typeId.name (by simp [texts]))).append (by decide)
  | missedEntry label typeId =>
    have hlabel : IsLine ("Missed storage layout entry: label " ++ label ++ " of ") :=
      (IsLine.append (by decide) (h label (by simp [texts]))).append (by decide)
    exact (hlabel.append (h typeId.name (by simp [texts]))).append (by decide)
  | slotChange c => exact IsLine.append (by decide) (SlotChange.isLine_describe h)
  | typeChange c => exact IsLine.append (by decide) (TypeChange.isLine_describe h)

/-! ## The lines of a report -/

/-- The line of a change. -/
def changeLine (c : Change) : String := "  " ++ c.describe

/-- The header of the changes of a contract. -/
def contractHeader (contract : String) : String := "Contract: " ++ contract

/-- The line of the contracts that inherit from the one above it. -/
def affectsLine (names : List String) : String := "  affects: " ++ ", ".intercalate names

/-- Whether a line looks like that of a change: it is indented and does not list contracts. -/
def isChangeLine (line : String) : Bool := isIndented line && !startsWith "  affects: " line

/-- Whether a line looks like the header of a contract. -/
def isContractHeader (line : String) : Bool := startsWith "Contract: " line

/-- A change is told in words that start with a capital letter. -/
theorem exists_firstLetter?_describe (c : Change) :
    ∃ d ∈ ['R', 'N', 'M', 'S', 'T'], firstLetter? c.describe = some d := by
  have happend {s : String} {d : Char} (h : firstLetter? s = some d) (t : String) :=
    firstLetter?_append h t
  cases c with
  | removedContract contract => exact ⟨'R', by simp, happend rfl _⟩
  | newContract contract => exact ⟨'N', by simp, happend rfl _⟩
  | renamedContract old new => exact ⟨'R', by simp, happend (happend (happend rfl _) _) _⟩
  | newEntry label typeId =>
    exact ⟨'N', by simp, happend (happend (happend (happend rfl _) _) _) _⟩
  | missedEntry label typeId =>
    exact ⟨'M', by simp, happend (happend (happend (happend rfl _) _) _) _⟩
  | slotChange c => exact ⟨'S', by simp, happend rfl _⟩
  | typeChange c => exact ⟨'T', by simp, happend rfl _⟩

theorem isIndented_changeLine (c : Change) : isIndented (changeLine c) = true :=
  startsWith_append _ _

theorem isChangeLine_changeLine (c : Change) : isChangeLine (changeLine c) = true := by
  obtain ⟨d, hd, hdescribe⟩ := exists_firstLetter?_describe c
  have hne : 'a' ≠ d := by
    rintro rfl
    simp at hd
  have hwords : startsWith "  affects: " (changeLine c) = false :=
    (startsWith_append_append "  " "affects: " c.describe).trans
      (startsWith_eq_false rfl hdescribe hne)
  rw [isChangeLine, isIndented_changeLine, hwords]
  rfl

theorem isContractHeader_changeLine (c : Change) : isContractHeader (changeLine c) = false :=
  startsWith_eq_false rfl (firstLetter?_append rfl _) (by decide : 'C' ≠ ' ')

theorem isIndented_affectsLine (names : List String) : isIndented (affectsLine names) = true := by
  have hwords : "  affects: " = "  " ++ "affects: " := rfl
  rw [affectsLine, hwords, String.append_assoc]
  exact startsWith_append _ _

theorem isChangeLine_affectsLine (names : List String) :
    isChangeLine (affectsLine names) = false := by
  rw [isChangeLine, affectsLine, startsWith_append]
  exact Bool.and_false _

theorem isContractHeader_affectsLine (names : List String) :
    isContractHeader (affectsLine names) = false :=
  startsWith_eq_false rfl (firstLetter?_append rfl _) (by decide : 'C' ≠ ' ')

theorem isIndented_contractHeader (contract : String) :
    isIndented (contractHeader contract) = false :=
  startsWith_eq_false rfl (firstLetter?_append rfl _) (by decide : ' ' ≠ 'C')

theorem contractHeader_injective : Function.Injective contractHeader := fun _ _ h =>
  String.append_right_inj _ |>.1 h

theorem contractHeader_ne (contract : String) : contractHeader contract ≠ "Informational" := by
  have hcontract : firstLetter? (contractHeader contract) = some 'C' := firstLetter?_append rfl _
  intro heq
  rw [heq] at hcontract
  exact absurd hcontract (by decide)

theorem text_contract (contract : String) :
    Report.Line.text false (.contract contract) = contractHeader contract :=
  congrArg (· ++ contract) (rfl : "Contract:" ++ " " = "Contract: ")

theorem text_affects (names : List String) :
    Report.Line.text false (.affects names) = affectsLine names :=
  congrArg (· ++ ", ".intercalate names) (rfl : "  " ++ "affects:" ++ " " = "  affects: ")

/-! ## Sections -/

namespace Report

variable {r : Report}

/-- The section of the informational changes, if there are any. -/
def informationalPart (changes : ChangeSet) : List (String × List String) :=
  if changes.isEmpty then [] else [("Informational", changes.toList.map changeLine)]

/-- The section of a contract that has changed. -/
def contractPart (r : Report) (contract : String) (changes : ChangeSet) : String × List String :=
  (contractHeader contract,
    changes.toList.map changeLine ++ ((r.affected.get? contract).map affectsLine).toList)

/-- The sections of a report, each as a header and the lines below it. -/
def parts (r : Report) : List (String × List String) :=
  informationalPart r.findings.informational ++
    r.findings.changed.map fun e => r.contractPart e.1 e.2

/-- The lines between the banner and the last line. -/
def body (r : Report) : List String := r.parts.flatMap fun part => part.1 :: part.2

theorem mem_informationalPart {changes : ChangeSet} {part : String × List String} :
    part ∈ informationalPart changes ↔
      changes.isEmpty = false ∧ part = ("Informational", changes.toList.map changeLine) := by
  rw [informationalPart]
  cases changes.isEmpty <;> simp

theorem mem_parts {part : String × List String} :
    part ∈ r.parts ↔ part ∈ informationalPart r.findings.informational ∨
      ∃ e ∈ r.findings.changed, r.contractPart e.1 e.2 = part := by
  rw [parts, List.mem_append, List.mem_map]

theorem isIndented_header {part : String × List String} (h : part ∈ r.parts) :
    isIndented part.1 = false := by
  rcases mem_parts.1 h with h | ⟨e, -, rfl⟩
  · obtain ⟨-, rfl⟩ := mem_informationalPart.1 h
    exact (by decide : isIndented "Informational" = false)
  · exact isIndented_contractHeader e.1

theorem isIndented_below {part : String × List String} (h : part ∈ r.parts) :
    ∀ line ∈ part.2, isIndented line = true := by
  have hchanges {changes : ChangeSet} {line : String} (h : line ∈ changes.toList.map changeLine) :
      isIndented line = true := by
    obtain ⟨c, -, rfl⟩ := List.mem_map.1 h
    exact isIndented_changeLine c
  intro line hline
  rcases mem_parts.1 h with h | ⟨e, -, rfl⟩
  · obtain ⟨-, rfl⟩ := mem_informationalPart.1 h
    exact hchanges hline
  · rcases List.mem_append.1 hline with hline | hline
    · exact hchanges hline
    · obtain ⟨names, -, rfl⟩ := Option.map_eq_some_iff.1 (Option.mem_toList.1 hline)
      exact isIndented_affectsLine names

/-- The sections are read back from the lines. -/
theorem sections_body (r : Report) : sections r.body = r.parts :=
  sections_flatMap (fun _ => isIndented_header) fun _ => isIndented_below

/-- No two sections have the same header. -/
theorem nodup_headers (r : Report) : (r.parts.map Prod.fst).Nodup := by
  have hcontracts : (r.findings.changed.map Prod.fst).Nodup :=
    r.findings.contracts.nodup_keys.sublist (List.filter_sublist.map _)
  have hheaders : (r.findings.changed.map fun e => contractHeader e.1).Nodup := by
    have hmap := hcontracts.map contractHeader_injective
    rwa [List.map_map] at hmap
  have hinformational (changes : ChangeSet) :
      ((informationalPart changes).map Prod.fst).Nodup := by
    rw [informationalPart]
    split <;> simp
  rw [parts, List.map_append, List.map_map]
  refine (hinformational _).append hheaders fun header hleft hright => ?_
  obtain ⟨e, -, rfl⟩ := List.mem_map.1 hright
  obtain ⟨part, hpart, heq⟩ := List.mem_map.1 hleft
  obtain ⟨-, rfl⟩ := mem_informationalPart.1 hpart
  exact contractHeader_ne e.1 heq.symm

/-! ## Counting -/

theorem filter_isChangeLine_changes (changes : ChangeSet) :
    (changes.toList.map changeLine).filter isChangeLine = changes.toList.map changeLine := by
  simp [List.filter_eq_self, isChangeLine_changeLine]

theorem filter_isContractHeader_changes (changes : ChangeSet) :
    (changes.toList.map changeLine).filter isContractHeader = [] := by
  simp [List.filter_eq_nil_iff, isContractHeader_changeLine]

/-- The lines that look like changes are those of the changes. -/
theorem filter_isChangeLine_body (r : Report) :
    r.body.filter isChangeLine =
      r.findings.informational.toList.map changeLine ++
        r.findings.entries.map fun entry => changeLine entry.2 := by
  have hinformational (changes : ChangeSet) :
      ((informationalPart changes).flatMap fun part => (part.1 :: part.2).filter isChangeLine) =
        changes.toList.map changeLine := by
    have hheader : isChangeLine "Informational" = false := by decide
    rw [informationalPart]
    split
    case isTrue hempty =>
      rw [List.isEmpty_iff.1 hempty]
      rfl
    case isFalse => simp [hheader, filter_isChangeLine_changes]
  have hcontract (contract : String) (changes : ChangeSet) :
      ((r.contractPart contract changes).1 :: (r.contractPart contract changes).2).filter
        isChangeLine = changes.toList.map changeLine := by
    have hheader : isChangeLine (contractHeader contract) = false := by
      rw [isChangeLine, isIndented_contractHeader, Bool.false_and]
    rw [contractPart]
    cases r.affected.get? contract <;>
      simp [hheader, filter_isChangeLine_changes, isChangeLine_affectsLine]
  rw [body, List.filter_flatMap, parts, List.flatMap_append, List.flatMap_map, hinformational,
    Findings.entries_eq_flatMap_changed, List.map_flatMap]
  simp only [hcontract, List.map_map]
  rfl

/-- The lines that look like headers of contracts are those of the contracts that have changed. -/
theorem filter_isContractHeader_body (r : Report) :
    r.body.filter isContractHeader = r.findings.changed.map fun e => contractHeader e.1 := by
  have hinformational (changes : ChangeSet) :
      ((informationalPart changes).flatMap fun part =>
        (part.1 :: part.2).filter isContractHeader) = [] := by
    have hheader : isContractHeader "Informational" = false := by decide
    rw [informationalPart]
    split <;> simp [hheader, filter_isContractHeader_changes]
  have hcontract (contract : String) (changes : ChangeSet) :
      ((r.contractPart contract changes).1 :: (r.contractPart contract changes).2).filter
        isContractHeader = [contractHeader contract] := by
    have hheader : isContractHeader (contractHeader contract) = true := startsWith_append _ _
    rw [contractPart]
    cases r.affected.get? contract <;>
      simp [hheader, filter_isContractHeader_changes, isContractHeader_affectsLine]
  rw [body, List.filter_flatMap, parts, List.flatMap_append, List.flatMap_map, hinformational,
    List.nil_append, List.map_eq_flatMap]
  simp only [hcontract]

theorem countP_isChangeLine_body (r : Report) :
    r.body.countP isChangeLine = r.findings.changeCount := by
  rw [List.countP_eq_length_filter, filter_isChangeLine_body, Findings.changeCount_eq,
    List.length_append, List.length_map, List.length_map]
  rfl

theorem countP_isContractHeader_body (r : Report) :
    r.body.countP isContractHeader = r.findings.changed.length := by
  rw [List.countP_eq_length_filter, filter_isContractHeader_body, List.length_map]

/-! ## The text -/

/-- The last line of a report. -/
def totalLine (changes contracts : ℕ) : String :=
  toString changes ++ " record(s) across " ++ toString contracts ++ " contract(s)"

theorem isLine_totalLine (changes contracts : ℕ) : IsLine (totalLine changes contracts) :=
  (((isLine_toString changes).append (by decide)).append (isLine_toString contracts)).append
    (by decide)

theorem map_text_lines (r : Report) :
    r.lines.map (Line.text false) =
      banner :: "" :: (r.body ++ [totalLine r.findings.changeCount r.findings.changed.length]) := by
  have hinformational (changes : ChangeSet) :
      (informationalLines changes).map (Line.text false) =
        (informationalPart changes).flatMap fun part => part.1 :: part.2 := by
    rw [informationalLines, informationalPart]
    split
    · rfl
    · rw [List.map_cons, List.map_map]
      exact (List.append_nil _).symm
  have hcontract (e : String × ChangeSet) :
      (r.contractLines e.1 e.2).map (Line.text false) =
        (r.contractPart e.1 e.2).1 :: (r.contractPart e.1 e.2).2 := by
    rw [contractLines, contractPart, List.map_append, List.map_cons, List.map_map, text_contract]
    cases r.affected.get? e.1 with
    | none => rfl
    | some names =>
      simp only [Option.map_some, Option.toList_some, List.map_cons, List.map_nil, text_affects]
      rfl
  rw [lines, List.map_append, List.map_append, List.map_append, hinformational, List.map_flatMap,
    body, parts, List.flatMap_append, List.flatMap_map]
  simp only [hcontract]
  rfl

/-- The lines of the text of a report are those of the banner, an empty one, those of its sections
and the last one. -/
theorem linesOf_text (h : ∀ line ∈ r.body, IsLine line) :
    linesOf (r.text false) =
      bannerLines ++ [""] ++ r.body ++
        [totalLine r.findings.changeCount r.findings.changed.length] := by
  have hrest :
      "" :: (r.body ++ [totalLine r.findings.changeCount r.findings.changed.length]) ≠ [] :=
    List.cons_ne_nil _ _
  -- The banner has several lines itself.
  have htext : r.text false = "\n".intercalate (bannerLines ++
      "" :: (r.body ++ [totalLine r.findings.changeCount r.findings.changed.length])) := by
    rw [text, map_text_lines, String.intercalate_cons_of_ne_nil hrest,
      String.intercalate_append_of_ne_nil (by decide) hrest]
    rfl
  have hbanner : ∀ line ∈ bannerLines, IsLine line := by decide +kernel
  rw [htext, linesOf_intercalate (by simp)]
  · simp
  · simp only [List.forall_mem_append, List.forall_mem_cons]
    exact ⟨hbanner, by decide, h, isLine_totalLine _ _, nofun⟩

/-! ## What the text says -/

variable {f : Findings} {old latest : Impact}

theorem mem_informational_parts {lines : List String} :
    ("Informational", lines) ∈ r.parts ↔ r.findings.informational.isEmpty = false ∧
      lines = r.findings.informational.toList.map changeLine := by
  rw [mem_parts, mem_informationalPart, Prod.mk.injEq, and_iff_right rfl]
  refine or_iff_left ?_
  rintro ⟨e, -, heq⟩
  exact contractHeader_ne e.1 (Prod.mk.inj heq).1

theorem mem_contract_parts {contract : String} {lines : List String} :
    (contractHeader contract, lines) ∈ r.parts ↔
      ∃ changes, (contract, changes) ∈ r.findings.changed ∧
        lines = changes.toList.map changeLine ++
          ((r.affected.get? contract).map affectsLine).toList := by
  rw [mem_parts, mem_informationalPart]
  constructor
  · rintro (⟨-, heq⟩ | ⟨⟨other, changes⟩, hmem, heq⟩)
    · exact absurd (Prod.mk.inj heq).1 (contractHeader_ne contract)
    · obtain ⟨hheader, rfl⟩ := Prod.mk.inj heq
      obtain rfl := contractHeader_injective hheader
      exact ⟨changes, hmem, rfl⟩
  · rintro ⟨changes, hmem, rfl⟩
    exact .inr ⟨(contract, changes), hmem, rfl⟩

theorem isLine_body (h : ∀ s ∈ f.texts ++ old.texts ++ latest.texts, IsLine s) :
    ∀ line ∈ (of f old latest).body, IsLine line := by
  simp only [List.forall_mem_append, Findings.texts] at h
  obtain ⟨⟨⟨hinformational, hcontracts⟩, hold⟩, hlatest⟩ := h
  have hchanges {changes : ChangeSet}
      (hchanges : ∀ s ∈ changes.toList.flatMap Change.texts, IsLine s) :
      ∀ line ∈ changes.toList.map changeLine, IsLine line := by
    intro line hline
    obtain ⟨c, hc, rfl⟩ := List.mem_map.1 hline
    have htexts : ∀ s ∈ c.texts, IsLine s := fun s hs =>
      hchanges s (List.mem_flatMap.2 ⟨c, hc, hs⟩)
    exact IsLine.append (by decide) (Change.isLine_describe htexts)
  intro line hline
  obtain ⟨part, hpart, hline⟩ := List.mem_flatMap.1 hline
  rcases mem_parts.1 hpart with hpart | ⟨⟨contract, changes⟩, hmem, rfl⟩
  · obtain ⟨-, rfl⟩ := mem_informationalPart.1 hpart
    rcases List.mem_cons.1 hline with rfl | hline
    · exact (by decide : IsLine "Informational")
    · exact hchanges hinformational line hline
  · have htexts : ∀ s ∈ contract :: changes.toList.flatMap Change.texts, IsLine s := fun s hs =>
      hcontracts s (List.mem_flatMap.2 ⟨(contract, changes), (List.mem_filter.1 hmem).1, hs⟩)
    obtain ⟨hcontract, hbucket⟩ := List.forall_mem_cons.1 htexts
    rcases List.mem_cons.1 hline with rfl | hline
    · exact IsLine.append (by decide) hcontract
    rcases List.mem_append.1 hline with hline | hline
    · exact hchanges hbucket line hline
    · -- The contracts that are affected are descendants on one side or the other.
      obtain ⟨names, hnames, rfl⟩ := Option.map_eq_some_iff.1 (Option.mem_toList.1 hline)
      obtain ⟨-, rfl, -⟩ := get?_affected_eq_some_iff.1 hnames
      refine IsLine.append (by decide) (isLine_intercalate (by decide) fun name hname => ?_)
      rcases mem_affectedBy.1 hname with hname | hname
      · exact hlatest name (Impact.mem_texts_of_mem_descendants hname)
      · exact hold name (Impact.mem_texts_of_mem_descendants hname)

/-- What the text of a report says, where no text in it has a line break. Below the banner there are
sections, each with a header of its own, and one line that counts. The informational changes stand
in their section in order, one on a line, if there are any. A contract has a section if it has a
change, with its changes in order, one on a line, and behind them one line with the contracts that
are affected, if there are any. The last line says how many lines are changes, and how many headers
of contracts there are. -/
theorem text_content (h : ∀ s ∈ f.texts ++ old.texts ++ latest.texts, IsLine s) :
    ∃ body : List String,
      linesOf ((of f old latest).text false) =
        bannerLines ++ [""] ++ body ++
          [toString (body.countP isChangeLine) ++ " record(s) across " ++
            toString (body.countP isContractHeader) ++ " contract(s)"] ∧
      body = ((sections body).flatMap fun part => part.1 :: part.2) ∧
      ((sections body).map Prod.fst).Nodup ∧
      (∀ part ∈ sections body,
        part.1 = "Informational" ∨ ∃ contract, part.1 = contractHeader contract) ∧
      (∀ lines, ("Informational", lines) ∈ sections body ↔
        f.informational.isEmpty = false ∧ lines = f.informational.toList.map changeLine) ∧
      ∀ contract lines, (contractHeader contract, lines) ∈ sections body ↔
        ∃ bucket, f.bucket? contract = some bucket ∧ (∃ c, c ∈ bucket) ∧
          lines = bucket.toList.map changeLine ++
            (((of f old latest).affected.get? contract).map affectsLine).toList := by
  refine ⟨(of f old latest).body, ?_, ?_⟩
  · rw [countP_isChangeLine_body, countP_isContractHeader_body, linesOf_text (isLine_body h)]
    rfl
  rw [sections_body]
  refine ⟨rfl, nodup_headers _, fun part hpart => ?_, fun _ => mem_informational_parts,
    fun contract lines => ?_⟩
  · rcases mem_parts.1 hpart with hpart | ⟨e, -, rfl⟩
    · obtain ⟨-, rfl⟩ := mem_informationalPart.1 hpart
      exact .inl rfl
    · exact .inr ⟨e.1, rfl⟩
  · rw [mem_contract_parts]
    refine exists_congr fun bucket => ?_
    rw [← and_assoc]
    exact and_congr_left fun _ => Findings.mem_changed_iff

/-- The report on a base that has lost a variable, and on a new contract that inherits from it. -/
def ofChangedBase : Report :=
  of (Findings.changedBase.recordInformational (.newContract "d.sol:D")).1
    (.ofHeirs "a.sol:A" "b.sol:B" "gone.sol:Gone") (.ofHeirs "a.sol:A" "b.sol:B" "d.sol:D")

theorem text_ofChangedBase :
    (∀ s ∈ ofChangedBase.findings.texts ++ ofChangedBase.impactOld.texts ++
      ofChangedBase.impactLatest.texts, IsLine s) ∧
    ∃ body : List String,
      linesOf (ofChangedBase.text false) =
        bannerLines ++ [""] ++ body ++
          [toString (body.countP isChangeLine) ++ " record(s) across " ++
            toString (body.countP isContractHeader) ++ " contract(s)"] ∧
      ("Informational", ["  New contract: d.sol:D"]) ∈ sections body ∧
      ("Contract: a.sol:A",
        ["  Missed storage layout entry: label a of t_uint256 type in the latest snapshot",
          "  affects: b.sol:B, d.sol:D, gone.sol:Gone"]) ∈ sections body ∧
      ∀ lines, ("Contract: b.sol:B", lines) ∉ sections body := by
  have h : ∀ s ∈ ofChangedBase.findings.texts ++ ofChangedBase.impactOld.texts ++
      ofChangedBase.impactLatest.texts, IsLine s := by decide +kernel
  obtain ⟨body, hlines, -, -, -, hinformational, hcontract⟩ := text_content h
  have hlost : ofChangedBase.findings.bucket? "a.sol:A" =
      some (.ofList [.missedEntry "a" ⟨"t_uint256"⟩]) := by decide
  have hlooked : ofChangedBase.findings.bucket? "b.sol:B" = some .empty := by decide
  refine ⟨h, body, hlines, (hinformational _).2 (by decide +kernel), ?_, fun lines hmem => ?_⟩
  · refine (hcontract "a.sol:A" _).2
      ⟨_, hlost, ⟨_, OrderedSet.mem_ofList.2 List.mem_cons_self⟩, by decide +kernel⟩
  · obtain ⟨bucket, hbucket, ⟨c, hc⟩, -⟩ := (hcontract "b.sol:B" lines).1 hmem
    obtain rfl := Option.some.inj (hlooked.symm.trans hbucket)
    exact OrderedSet.not_mem_empty c hc

end Report

end LayoutGuard
