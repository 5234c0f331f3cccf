import LayoutGuard.CommandLine.Execution
import LayoutGuard.Proofs.Results
import Mathlib.Data.Option.Basic

/-!
# Paths on the command line

No path on the command line is empty: an option that takes a path does not take the empty one. So
only a settings file can put an archive under the empty path.

The module introduces:

* `o.NamesPaths` — the paths that have been given are not empty.

Main statements:

* `Options.NamesPaths.readOptions`: reading further arguments keeps it so.
* `Invocation.text_snapshotDirectory_ne_empty`: the path of the archive is not empty, unless that of
  the settings is.
-/

namespace LayoutGuard

namespace Options

variable {o p : Options} {verb : Option Verb}

theorem fill_eq_ok_iff {α : Type} {field value r : Option α} :
    fill field value = .ok r ↔ field = none ∧ ∃ v, value = some v ∧ r = some v := by
  cases field <;> cases value <;> simp [fill, eq_comm]

theorem text_ne_empty_of_path? {s : String} {path : Path} (h : path? s = some path) :
    path.text ≠ "" := by
  by_cases hs : s = ""
  · rw [path?, if_pos hs] at h
    cases h
  · rw [path?, if_neg hs] at h
    cases h
    exact hs

/-- What a field holds after it was filled with a path. -/
theorem text_ne_empty_of_fill {field r : Option Path} {s : String}
    (h : fill field (path? s) = .ok r) : ∀ path ∈ r, path.text ≠ "" := by
  obtain ⟨-, v, hv, rfl⟩ := fill_eq_ok_iff.1 h
  rintro path ⟨⟩
  exact text_ne_empty_of_path? hv

/-- The paths that have been given are not empty. -/
structure NamesPaths (o : Options) : Prop where
  config : ∀ path ∈ o.config, path.text ≠ ""
  buildInfo : ∀ path ∈ o.overrides.buildInfo, path.text ≠ ""
  snapshotDir : ∀ path ∈ o.overrides.snapshotDir, path.text ≠ ""

namespace NamesPaths

theorem empty : Options.empty.NamesPaths := ⟨nofun, nofun, nofun⟩

theorem setPending (h : o.NamesPaths) (pending : Option (ValueOption × Option String)) :
    NamesPaths { o with pending := pending } :=
  ⟨h.config, h.buildInfo, h.snapshotDir⟩

theorem store {option : ValueOption} {value : String} (h : o.NamesPaths)
    (hp : o.store option value = .ok p) : p.NamesPaths := by
  cases option <;>
    (unfold Options.store at hp
     obtain ⟨r, hfill, hp⟩ := bind_eq_ok_iff.1 hp
     cases hp)
  case config => exact ⟨text_ne_empty_of_fill hfill, h.buildInfo, h.snapshotDir⟩
  case buildInfo => exact ⟨h.config, text_ne_empty_of_fill hfill, h.snapshotDir⟩
  case snapshotDir => exact ⟨h.config, h.buildInfo, text_ne_empty_of_fill hfill⟩
  all_goals exact ⟨h.config, h.buildInfo, h.snapshotDir⟩

theorem settle (h : o.NamesPaths) (hp : o.settle = .ok p) : p.NamesPaths := by
  unfold Options.settle at hp
  split at hp
  · cases hp
    exact h
  · cases hp
  · exact (h.setPending none).store hp

theorem turnOn {switch : Switch} (h : o.NamesPaths) (hp : o.turnOn switch = .ok p) :
    p.NamesPaths := by
  obtain ⟨o, ho, hp⟩ := bind_eq_ok_iff.1 hp
  have h := h.settle ho
  cases switch with
  | help => cases hp
  | version => cases hp
  | verbose =>
    dsimp only at hp
    split at hp
    · cases hp
    · cases hp
      exact ⟨h.config, h.buildInfo, h.snapshotDir⟩
  | noPrintDiff =>
    dsimp only at hp
    split at hp
    · cases hp
    · cases hp
      exact ⟨h.config, h.buildInfo, h.snapshotDir⟩

theorem start {option : ValueOption} {value : Option String} (h : o.NamesPaths)
    (hp : o.start option value = .ok p) : p.NamesPaths := by
  obtain ⟨o, ho, hp⟩ := bind_eq_ok_iff.1 hp
  have h := h.settle ho
  cases value with
  | none =>
    cases hp
    exact h.setPending _
  | some value => exact h.store hp

theorem supply? {value : String} (h : o.NamesPaths) (hp : o.supply? value = some p) :
    p.NamesPaths := by
  unfold Options.supply? at hp
  split at hp
  · cases hp
    exact h.setPending _
  · cases hp

theorem readLong {name : String} {value : Option String} (h : o.NamesPaths)
    (hp : o.readLong verb name value = .ok p) : p.NamesPaths := by
  unfold Options.readLong at hp
  split at hp
  · split at hp
    · exact h.turnOn hp
    · cases hp
  · split at hp
    · exact h.start hp
    · cases hp

theorem readLetter {letter : Char} (h : o.NamesPaths) (hp : o.readLetter verb letter = .ok p) :
    p.NamesPaths := by
  unfold Options.readLetter at hp
  split at hp
  · exact h.turnOn hp
  · cases hp

theorem readLetters {letters : List Char} (h : o.NamesPaths)
    (hp : letters.foldlM (Options.readLetter verb) o = .ok p) : p.NamesPaths := by
  induction letters generalizing o with
  | nil =>
    cases hp
    exact h
  | cons letter rest ih =>
    obtain ⟨next, hnext, hp⟩ := bind_eq_ok_iff.1 hp
    exact ih (h.readLetter hnext) hp

/-- Reading further arguments keeps it so. -/
theorem readOptions {isDivided : Bool} {arguments : List String}
    {command : Option (Verb × List String)} (h : o.NamesPaths)
    (hp : LayoutGuard.readOptions verb isDivided o arguments = .ok (p, command)) :
    p.NamesPaths := by
  induction arguments generalizing o isDivided with
  | nil =>
    cases hp
    exact h
  | cons argument rest ih =>
    unfold LayoutGuard.readOptions at hp
    -- Nothing behind the divider and no call for help is an option.
    split at hp
    · cases hp
    split at hp
    · cases hp
    -- At the command the reading ends.
    split at hp
    · cases hp
      exact h
    split at hp
    case h_1 => exact ih h hp
    case h_2 name value _ =>
      obtain ⟨next, hnext, hp⟩ := bind_eq_ok_iff.1 hp
      exact ih (h.readLong hnext) hp
    case h_3 letters _ =>
      obtain ⟨next, hnext, hp⟩ := bind_eq_ok_iff.1 hp
      exact ih (h.readLetters hnext) hp
    case h_4 =>
      split at hp
      case h_1 next hnext => exact ih (h.supply? hnext) hp
      case h_2 => cases hp

end NamesPaths

end Options

namespace Invocation

variable {arguments : List String} {i : Invocation} {s : Settings}

/-- No path that the arguments give is empty. -/
theorem text_ne_empty_of_ofArguments (h : ofArguments arguments = .ok i) :
    (∀ path ∈ i.config, path.text ≠ "") ∧
      (∀ path ∈ i.overrides.buildInfo, path.text ≠ "") ∧
      ∀ path ∈ i.overrides.snapshotDir, path.text ≠ "" := by
  obtain ⟨⟨outer, command⟩, hread, h⟩ := bind_eq_ok_iff.1 h
  have houter := Options.NamesPaths.empty.readOptions hread
  cases command with
  | none =>
    obtain ⟨settled, _, h⟩ := bind_eq_ok_iff.1 h
    cases h
  | some command =>
    obtain ⟨verb, rest⟩ := command
    obtain ⟨⟨inner, _⟩, hread, h⟩ := bind_eq_ok_iff.1 h
    have hinner := Options.NamesPaths.empty.readOptions hread
    obtain ⟨inner, hsettle, h⟩ := bind_eq_ok_iff.1 h
    have hinner := hinner.settle hsettle
    obtain ⟨outer, hsettle, h⟩ := bind_eq_ok_iff.1 h
    have houter := houter.settle hsettle
    cases h
    refine ⟨fun path hpath => ?_, hinner.buildInfo, hinner.snapshotDir⟩
    -- The settings file may be named in front of the command as well as behind it.
    rcases (Option.orElse_eq_some _ _ _).1 hpath with hpath | ⟨-, hpath⟩
    · exact hinner.config path hpath
    · exact houter.config path hpath

/-- The path of the archive is not empty, unless that of the settings is. -/
theorem text_snapshotDirectory_ne_empty (h : ofArguments arguments = .ok i)
    (hs : s.snapshotDirectory.text ≠ "") :
    (s.override i.overrides).snapshotDirectory.text ≠ "" := by
  obtain ⟨-, -, hdirectory⟩ := text_ne_empty_of_ofArguments h
  rw [Settings.override]
  cases hgiven : i.overrides.snapshotDir with
  | none => exact hs
  | some path => exact hdirectory path hgiven

end Invocation

end LayoutGuard
