import LayoutGuard.BuildInfo.Output
import LayoutGuard.Proofs.Ordered

/-!
# What is taken from one build

A build comes out of what a build-info file records if all of its contracts have their layouts and
its source files can be read. The contracts are recorded by source path and name, and come out in
the order of their full names. The two orders are not the same, and full names may even coincide.

The module introduces:

* `o.Records source name layout` — what a file records of a contract.

Main statements:

* `BuildOutput.ascending_entries`: the order in which contracts are recorded.
* `BuildOutput.split_content`: what comes out of a file, or why nothing does.
-/

namespace LayoutGuard.BuildOutput

/-- `o.Records source name layout`: there is an output for a contract, with a layout or without
one. -/
def Records (o : BuildOutput) (source name : String) (layout : Option Layout) : Prop :=
  ∃ outputs, o.contracts.get? source = some outputs ∧ outputs.get? name = some layout

variable {o : BuildOutput} {source name : String} {layout : Option Layout} {build : Build}
  {units : List SourceUnit} {e : BuildError} {c : Contract}

/-! ## Contracts as they are recorded -/

/-- A contract is recorded once. -/
theorem Records.unique {layout other : Layout} (h : o.Records source name (some layout))
    (hother : o.Records source name (some other)) : layout = other := by
  obtain ⟨outputs, houtputs, hname⟩ := h
  obtain ⟨others, hothers, hname'⟩ := hother
  obtain rfl := Option.some.inj (houtputs.symm.trans hothers)
  exact Option.some.inj (Option.some.inj (hname.symm.trans hname'))

theorem mem_entries_iff : (source, name, layout) ∈ o.entries ↔ o.Records source name layout := by
  simp only [entries, Records, List.mem_flatMap, List.mem_map, Prod.exists, Prod.mk.injEq,
    OrderedMap.get?_eq_some_iff]
  constructor
  · rintro ⟨_, outputs, houtputs, _, _, hname, rfl, rfl, rfl⟩
    exact ⟨outputs, houtputs, hname⟩
  · rintro ⟨outputs, houtputs, hname⟩
    exact ⟨source, outputs, houtputs, name, layout, hname, rfl, rfl, rfl⟩

/-- Contracts are recorded in the order of their sources and, in each of them, of their names. -/
theorem ascending_entries (o : BuildOutput) :
    o.entries.Pairwise fun a b =>
      compareLex (compareOn fun e => e.1) (compareOn fun e => e.2.1) a b = .lt := by
  rw [entries, List.pairwise_flatMap]
  constructor
  · -- Within one source the names decide, across two sources the sources do.
    intro s _
    refine List.pairwise_map.2 (s.2.ascending.imp fun hlt => ?_)
    exact Ordering.then_eq_lt.2 (.inr ⟨Std.ReflCmp.compare_self, hlt⟩)
  · refine o.contracts.ascending.imp fun hlt a ha b hb => ?_
    obtain ⟨_, -, rfl⟩ := List.mem_map.1 ha
    obtain ⟨_, -, rfl⟩ := List.mem_map.1 hb
    exact Ordering.then_eq_lt.2 (.inl hlt)

theorem contract_eq_ok_iff :
    contract source name layout = .ok c ↔
      layout = some c.layout ∧ c.source = source ∧ c.name = name := by
  cases layout with
  | none => simp [contract]
  | some layout =>
    obtain ⟨name', source', layout'⟩ := c
    simp only [contract, Except.ok.injEq, Contract.mk.injEq, Option.some.injEq]
    constructor
    · rintro ⟨rfl, rfl, rfl⟩
      exact ⟨rfl, rfl, rfl⟩
    · rintro ⟨rfl, rfl, rfl⟩
      exact ⟨rfl, rfl, rfl⟩

theorem contract_eq_error_iff :
    contract source name layout = .error e ↔
      layout = none ∧ e = .missingLayout (fullName source name) := by
  cases layout with
  | none => simp [contract, eq_comm]
  | some layout => simp [contract]

/-- The contracts in the order in which they are recorded, if none lacks its layout. -/
def recorded (o : BuildOutput) : Except BuildError (List Contract) :=
  o.entries.mapM fun e => contract e.1 e.2.1 e.2.2

theorem exists_recorded_eq_ok_iff :
    (∃ contracts, o.recorded = .ok contracts) ↔ ∀ source name, ¬ o.Records source name none := by
  have hcontract (source name : String) (layout : Option Layout) :
      (∃ c, contract source name layout = .ok c) ↔ layout ≠ none := by
    cases layout <;> simp [contract]
  simp only [recorded, exists_mapM_eq_ok_iff, Prod.forall, mem_entries_iff, hcontract]
  exact ⟨fun h source name hnone => h source name none hnone rfl,
    fun h source name layout hrecords hnone => h source name (hnone ▸ hrecords)⟩

theorem mem_iff_of_recorded {contracts : List Contract} (h : o.recorded = .ok contracts) :
    c ∈ contracts ↔ o.Records c.source c.name (some c.layout) := by
  rw [mem_iff_of_mapM_eq_ok h]
  simp only [Prod.exists, mem_entries_iff, contract_eq_ok_iff]
  constructor
  · rintro ⟨_, _, _, hrecords, rfl, rfl, rfl⟩
    exact hrecords
  · exact fun hrecords => ⟨_, _, _, hrecords, rfl, rfl, rfl⟩

/-- No two contracts have the same source and name. -/
theorem ascending_of_recorded {contracts : List Contract} (h : o.recorded = .ok contracts) :
    contracts.Pairwise fun a b =>
      compareLex (compareOn Contract.source) (compareOn Contract.name) a b = .lt := by
  -- A contract has the source and the name of its entry, and the entries ascend in these.
  have hplaces : (contracts.map fun c => (c.source, c.name)) =
      o.entries.map fun e => (e.1, e.2.1) := by
    refine map_eq_of_mapM_eq_ok (fun e c hc => ?_) h
    obtain ⟨-, hsource, hname⟩ := contract_eq_ok_iff.1 hc
    rw [hsource, hname]
  have hascending : (o.entries.map fun e => (e.1, e.2.1)).Pairwise fun a b =>
      compareLex (compareOn Prod.fst) (compareOn Prod.snd) a b = .lt :=
    List.pairwise_map.2 o.ascending_entries
  rw [← hplaces, List.pairwise_map] at hascending
  exact hascending

/-- The error is that of the first contract without a layout. -/
theorem recorded_eq_error_iff : o.recorded = .error e ↔
    ∃ source name, o.Records source name none ∧
      (∀ source' name', o.Records source' name' none →
        ((compare source source').then (compare name name')).isLE) ∧
      e = .missingLayout (fullName source name) := by
  rw [recorded, mapM_eq_error_iff_isLeast _ o.ascending_entries]
  simp only [Prod.exists, Prod.forall, mem_entries_iff, contract_eq_error_iff, exists_and_left,
    exists_eq, and_true, compareLex, compareOn]
  refine exists_congr fun source => exists_congr fun name => ?_
  constructor
  · rintro ⟨_, hrecords, ⟨rfl, rfl⟩, hleast⟩
    exact ⟨hrecords, fun source' name' h => hleast source' name' none h rfl, rfl⟩
  · rintro ⟨hrecords, hleast, rfl⟩
    exact ⟨none, hrecords, ⟨rfl, rfl⟩,
      fun source' name' _ h hnone => hleast source' name' (hnone ▸ h)⟩

/-! ## The build -/

/-- All contracts have to come with their layouts, and then the source files are read. -/
theorem split_eq_ok_iff : o.split = .ok (build, units) ↔
    ∃ contracts, o.recorded = .ok contracts ∧
      sourceUnits o.sources = .ok units ∧
      build = ⟨sortBy Contract.fullName contracts, o.format, o.compilerVersion,
        o.compilerLongVersion⟩ := by
  rw [split, bind_eq_ok_iff]
  refine exists_congr fun contracts => and_congr_right fun _ => ?_
  rw [bind_eq_ok_iff]
  simp only [mapError_eq_ok_iff]
  constructor
  · rintro ⟨units, hunits, heq⟩
    obtain ⟨rfl, rfl⟩ := Prod.mk.inj (Except.ok.inj heq)
    exact ⟨hunits, rfl⟩
  · rintro ⟨hunits, rfl⟩
    exact ⟨units, hunits, rfl⟩

/-- The source files matter only when no layout is missing. -/
theorem split_eq_error_iff : o.split = .error e ↔
    o.recorded = .error e ∨
    (∃ contracts, o.recorded = .ok contracts) ∧
      ∃ cause, sourceUnits o.sources = .error cause ∧ e = .sources cause := by
  rw [split, bind_eq_error_iff]
  refine or_congr_right ?_
  rw [← exists_and_right]
  refine exists_congr fun contracts => and_congr_right fun _ => ?_
  rw [bind_eq_error_iff, mapError_eq_error_iff]
  exact or_iff_left fun ⟨_, _, h⟩ => nomatch h

/-- What comes out of one build-info file. There is a build if no contract lacks its layout and the
source files can be read. Its contracts are those that the file records, each once, in the order of
their full names and, where these coincide, of sources and names. A contract without a layout is
told first, the one with the least source and name, whatever the source files are. -/
theorem split_content (o : BuildOutput) :
    ((∃ r, o.split = .ok r) ↔
      (∀ source name, ¬ o.Records source name none) ∧
        ∃ units, sourceUnits o.sources = .ok units) ∧
    (∀ build units, o.split = .ok (build, units) →
      (∀ source name layout, o.Records source name layout →
        ∃! c, c ∈ build.contracts ∧ c.source = source ∧ c.name = name) ∧
      (∀ c ∈ build.contracts, o.Records c.source c.name (some c.layout)) ∧
      (build.contracts.Pairwise fun a b =>
        compareLex (compareOn Contract.fullName)
          (compareLex (compareOn Contract.source) (compareOn Contract.name)) a b = .lt) ∧
      build.format = o.format ∧ build.compilerVersion = o.compilerVersion ∧
      build.compilerLongVersion = o.compilerLongVersion ∧
      sourceUnits o.sources = .ok units) ∧
    ∀ e, o.split = .error e ↔
      (∃ source name, o.Records source name none ∧
        (∀ source' name', o.Records source' name' none →
          ((compare source source').then (compare name name')).isLE) ∧
        e = .missingLayout (fullName source name)) ∨
      (∀ source name, ¬ o.Records source name none) ∧
        ∃ cause, sourceUnits o.sources = .error cause ∧ e = .sources cause := by
  refine ⟨?_, fun build units h => ?_, fun e => ?_⟩
  · simp only [Prod.exists, split_eq_ok_iff, ← exists_recorded_eq_ok_iff]
    constructor
    · rintro ⟨_, units, contracts, hcontracts, hunits, -⟩
      exact ⟨⟨contracts, hcontracts⟩, units, hunits⟩
    · rintro ⟨⟨contracts, hcontracts⟩, units, hunits⟩
      exact ⟨_, units, contracts, hcontracts, hunits, rfl⟩
  · obtain ⟨contracts, hcontracts, hunits, rfl⟩ := split_eq_ok_iff.1 h
    -- Sorting neither loses nor adds a contract, so the build has what is recorded.
    have hmem (c : Contract) : c ∈ sortBy Contract.fullName contracts ↔
        o.Records c.source c.name (some c.layout) := by
      rw [(sortBy_perm Contract.fullName contracts).mem_iff, mem_iff_of_recorded hcontracts]
    refine ⟨fun source name layout hrecords => ?_, fun c hc => (hmem c).1 hc,
      ascending_sortBy Contract.fullName (ascending_of_recorded hcontracts), rfl, rfl, rfl, hunits⟩
    cases layout with
    | none => exact absurd hrecords (exists_recorded_eq_ok_iff.1 ⟨contracts, hcontracts⟩ _ _)
    | some layout =>
      refine ⟨⟨name, source, layout⟩, ⟨(hmem _).2 hrecords, rfl, rfl⟩, ?_⟩
      rintro c ⟨hc, rfl, rfl⟩
      rw [hrecords.unique ((hmem c).1 hc)]
  · rw [split_eq_error_iff, recorded_eq_error_iff, exists_recorded_eq_ok_iff]

end LayoutGuard.BuildOutput
