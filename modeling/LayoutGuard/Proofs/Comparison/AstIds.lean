import LayoutGuard.Proofs.Comparison.Recoding
import LayoutGuard.Proofs.Comparison.Replacement

/-!
# The numbers of declarations

A compiler numbers the declarations of every run anew. What two layouts establish does not depend on
these numbers at all. Only where a contract occurs more than once do they matter: its copies have to
be equal, numbers included, so that a comparison may be aborted because of them.

The module introduces:

* `c.dropAstIds` — the contract `c` without the numbers of its slots and members.
* `SameButAstIds l m` — the contracts of two lists differ in such numbers only.

Main statements:

* `layoutTrace_dropAstIds`: what two layouts establish does not depend on the numbers.
* `compareContracts_eq_iff_of_sameButAstIds`: the result of a comparison stays as it was if and only
  if the same copies contradict each other.
-/

namespace LayoutGuard

/-- The contract without the numbers of its slots and members. -/
def Contract.dropAstIds (c : Contract) : Contract := { c with layout := c.layout.recode .dropAstIds }

/-- The contracts of the two lists differ in the numbers of slots and members only. -/
def SameButAstIds (l m : List Contract) : Prop :=
  l.map Contract.dropAstIds = m.map Contract.dropAstIds

/-! ## Traces without numbers -/

theorem Recoding.injective_typeId_dropAstIds : dropAstIds.typeId.Injective := Function.injective_id

/-- Errors do not mention the numbers of declarations. -/
theorem mapError_recode_dropAstIds {α : Type} (x : Except ComparisonError α) :
    x.mapError (.recode .dropAstIds .dropAstIds) = x := by
  rcases x with e | a
  · rcases e with ⟨typeId, _ | _⟩ | _ | _ | _ | _ <;> rfl
  · rfl

theorem slotsTrace_dropAstIds {pair pair' : Slot → Slot → Trace}
    (h : ∀ a b, pair' (a.recode .dropAstIds) (b.recode .dropAstIds) = pair a b)
    (old latest : List Slot) :
    slotsTrace pair' (old.map (Slot.recode .dropAstIds)) (latest.map (Slot.recode .dropAstIds)) =
      slotsTrace pair old latest := by
  induction old generalizing latest with
  | nil =>
    rw [List.map_nil, slotsTrace_nil_left, slotsTrace_nil_left, List.map_map]
    rfl
  | cons a rest ih =>
    cases latest with
    | nil =>
      rw [List.map_nil, slotsTrace_nil_right, slotsTrace_nil_right, List.map_map]
      rfl
    | cons b latestRest =>
      rw [List.map_cons, List.map_cons, slotsTrace_cons_cons, slotsTrace_cons_cons, ih, h]

namespace TypeTables

variable {t : TypeTables} {owner : String}

theorem sameType_dropAstIds (a b : TypeId) :
    (t.recode .dropAstIds .dropAstIds).sameType a b = t.sameType a b := by
  have hid := Recoding.injective_typeId_dropAstIds
  have h := sameType_recode (t := t) hid hid a b
  rwa [mapError_recode_dropAstIds] at h

theorem resolveBoth_dropAstIds (a b : TypeId) :
    (t.recode .dropAstIds .dropAstIds).resolveBoth a b =
      (t.resolveBoth a b).map
        (Prod.map (Descriptor.recode .dropAstIds) (Descriptor.recode .dropAstIds)) := by
  have hid := Recoding.injective_typeId_dropAstIds
  have h := resolveBoth_recode (t := t) hid hid a b
  rwa [mapError_recode_dropAstIds] at h

theorem pairTrace_dropAstIds (types : TypeId → TypeId → Trace) (a b : Slot) :
    (t.recode .dropAstIds .dropAstIds).pairTrace owner types (a.recode .dropAstIds)
      (b.recode .dropAstIds) = t.pairTrace owner types a b := by
  have hchange : (t.recode .dropAstIds .dropAstIds).slotChange (a.recode .dropAstIds)
      (b.recode .dropAstIds) = t.slotChange a b := by
    -- Two types are told apart by their descriptors, in which the numbers are not compared.
    unfold slotChange
    rw [sameType_dropAstIds]
    rfl
  rw [pairTrace, pairTrace, hchange]
  rfl

theorem descriptorTraceBy_dropAstIds (types : TypeId → TypeId → Trace) (o l : Descriptor) :
    descriptorTraceBy ((t.recode .dropAstIds .dropAstIds).pairTrace owner types) types owner
      (o.recode .dropAstIds) (l.recode .dropAstIds) =
        descriptorTraceBy (t.pairTrace owner types) types owner o l := by
  have hmembers : traceBoth (slotsTrace ((t.recode .dropAstIds .dropAstIds).pairTrace owner types))
      (o.recode .dropAstIds).members (l.recode .dropAstIds).members =
        traceBoth (slotsTrace (t.pairTrace owner types)) o.members l.members := by
    refine (traceBoth_map o.members l.members).trans ?_
    simp only [slotsTrace_dropAstIds (pairTrace_dropAstIds types)]
  have hvalue (d : Descriptor) : (d.recode .dropAstIds).value = d.value := Option.map_id_apply
  have hbase (d : Descriptor) : (d.recode .dropAstIds).base = d.base := Option.map_id_apply
  rw [descriptorTraceBy, descriptorTraceBy, hmembers, hvalue, hvalue, hbase, hbase]
  rfl

/-- What two types establish does not depend on the numbers of the members inside them. -/
theorem typeTraceWithin_dropAstIds (depth : ℕ) (a b : TypeId) :
    (t.recode .dropAstIds .dropAstIds).typeTraceWithin owner depth a b =
      t.typeTraceWithin owner depth a b := by
  induction depth generalizing a b with
  | zero => rfl
  | succ depth ih =>
    have htypes : (t.recode .dropAstIds .dropAstIds).typeTraceWithin owner depth =
        t.typeTraceWithin owner depth := funext₂ ih
    rw [typeTraceWithin_succ, typeTraceWithin_succ, htypes, resolveBoth_dropAstIds,
      Trace.ofResult_map]
    exact congrArg _ (funext fun d => descriptorTraceBy_dropAstIds _ d.1 d.2)

theorem typeTrace_dropAstIds (a b : TypeId) :
    (t.recode .dropAstIds .dropAstIds).typeTrace owner a b = t.typeTrace owner a b := by
  have hid := Recoding.injective_typeId_dropAstIds
  rw [typeTrace, depthBound_recode hid hid, typeTraceWithin_dropAstIds, typeTrace]

theorem slotTrace_dropAstIds (a b : Slot) :
    (t.recode .dropAstIds .dropAstIds).slotTrace (a.recode .dropAstIds) (b.recode .dropAstIds) =
      t.slotTrace a b := by
  have htypes : (t.recode .dropAstIds .dropAstIds).typeTrace a.contract = t.typeTrace a.contract :=
    funext₂ typeTrace_dropAstIds
  rw [slotTrace, slotTrace, pairTrace_dropAstIds, ← htypes]
  rfl

end TypeTables

/-- What two layouts establish does not depend on the numbers of their slots and members. -/
theorem layoutTrace_dropAstIds (old latest : Layout) :
    layoutTrace (old.recode .dropAstIds) (latest.recode .dropAstIds) = layoutTrace old latest := by
  have hslot (a b : Slot) : ((old.tables latest).recode .dropAstIds .dropAstIds).slotTrace
      (a.recode .dropAstIds) (b.recode .dropAstIds) = (old.tables latest).slotTrace a b :=
    TypeTables.slotTrace_dropAstIds a b
  rw [layoutTrace, layoutTrace]
  exact slotsTrace_dropAstIds hslot old.slots latest.slots

/-- A contract without its numbers stands in for the contract. -/
theorem standIn_dropAstIds : StandIn Contract.dropAstIds where
  fullName _ := rfl
  layoutTrace a b := layoutTrace_dropAstIds a.layout b.layout
  layout _ _ h := congrArg (Layout.recode .dropAstIds) h

/-! ## Comparisons of contracts with other numbers -/

section Comparisons

variable {old latest old' latest' : List Contract}

/-- Lists of which none contradicts itself are compared with the same result, whatever the numbers.
-/
theorem compareContracts_eq_of_sameButAstIds (hold : SameButAstIds old' old)
    (hlatest : SameButAstIds latest' latest) (h : ∀ e, ¬ Conflict old latest e)
    (h' : ∀ e, ¬ Conflict old' latest' e) :
    compareContracts old' latest' = compareContracts old latest := by
  obtain ⟨hc, hd⟩ := forall_not_conflict_iff.1 h
  obtain ⟨hc', hd'⟩ := forall_not_conflict_iff.1 h'
  calc compareContracts old' latest'
      = compareContracts (old'.map Contract.dropAstIds) (latest'.map Contract.dropAstIds) :=
        (standIn_dropAstIds.compareContracts_map hc' hd').symm
    _ = compareContracts (old.map Contract.dropAstIds) (latest.map Contract.dropAstIds) := by
        rw [hold, hlatest]
    _ = compareContracts old latest := standIn_dropAstIds.compareContracts_map hc hd

/-- If the numbers of slots and members are replaced in any way, and those of the copies of one
contract not necessarily in the same one, then a comparison comes to the result that it came to
before, findings or error, if and only if it meets the same conflict between copies as before or
none as before. -/
theorem compareContracts_eq_iff_of_sameButAstIds (hold : SameButAstIds old' old)
    (hlatest : SameButAstIds latest' latest) :
    compareContracts old' latest' = compareContracts old latest ↔
      ∀ e, Conflict old' latest' e ↔ Conflict old latest e := by
  constructor
  · intro h e
    rw [conflict_iff_compareContracts, conflict_iff_compareContracts, h]
  · intro h
    -- A conflict decides on the result at once; without one, the numbers are not looked at again.
    by_cases hnone : ∀ e, ¬ Conflict old latest e
    · have hnone' (e : ComparisonError) : ¬ Conflict old' latest' e := mt (h e).1 (hnone e)
      exact compareContracts_eq_of_sameButAstIds hold hlatest hnone hnone'
    · obtain ⟨e, he⟩ := not_forall_not.1 hnone
      rw [(conflict_iff_compareContracts.1 he).1,
        (conflict_iff_compareContracts.1 ((h e).2 he)).1]

end Comparisons

/-- A contract with one variable, a struct whose member has the given number. -/
def Contract.numbered (astId : Int64) : Contract where
  name := "A"
  source := "a.sol"
  layout := .vault "t_S36" [{ Slot.total with astId := some astId }]

/-- Two copies of a contract that are numbered alike are compared as they were with other numbers.
-/
theorem compareContracts_numbered_alike :
    SameButAstIds [.numbered 40, .numbered 40] [.numbered 4, .numbered 4] ∧
    SameButAstIds [.numbered 4] [.numbered 4] ∧
    compareContracts [.numbered 40, .numbered 40] [.numbered 4] =
      compareContracts [.numbered 4, .numbered 4] [.numbered 4] := by
  have hold : SameButAstIds [.numbered 40, .numbered 40] [.numbered 4, .numbered 4] := by
    unfold SameButAstIds
    decide +kernel
  have hnone (astId : Int64) (e : ComparisonError) :
      ¬ Conflict [.numbered astId, .numbered astId] [.numbered 4] e :=
    forall_not_conflict_iff.2 ⟨by simp [Consistent], by simp [Consistent]⟩ e
  refine ⟨hold, rfl, (compareContracts_eq_iff_of_sameButAstIds hold rfl).2 fun e => ?_⟩
  exact iff_of_false (hnone 40 e) (hnone 4 e)

/-- Two copies of a contract that are numbered in two ways cannot be compared, although they can if
one of them gets the number of the other. -/
theorem compareContracts_numbered_apart :
    SameButAstIds [.numbered 4, .numbered 40] [.numbered 4, .numbered 4] ∧
    SameButAstIds [.numbered 4] [.numbered 4] ∧
    compareContracts [.numbered 4, .numbered 4] [.numbered 4] =
      .ok (Findings.empty.touch "a.sol:A") ∧
    compareContracts [.numbered 4, .numbered 40] [.numbered 4] =
      .error (.conflictingLayouts "a.sol:A" .old) := by
  refine ⟨?_, rfl, by decide +kernel, by decide +kernel⟩
  unfold SameButAstIds
  decide +kernel

end LayoutGuard
