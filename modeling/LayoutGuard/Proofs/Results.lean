/-!
# Results that may be errors

When a sequence of steps that can fail comes to its end, and what it keeps on the way.

* `bind_eq_ok_iff`, `map_eq_ok_iff`: both steps have to succeed.
* `mapM_eq_ok_iff`, `mapM_eq_error_iff`: all elements of a list have to succeed, and the first one
  that does not says why.
* `foldlM_induction`: what every step keeps holds of the result of a run.
* `foldlM_eq_error_iff`: a run fails with the error of its first step that fails.
-/

namespace LayoutGuard

variable {ε α β γ : Type}

/-- Two steps succeed if the first one does and the second one does on what the first one gave. -/
theorem bind_eq_ok_iff {r : Except ε α} {next : α → Except ε β} {b : β} :
    r >>= next = .ok b ↔ ∃ a, r = .ok a ∧ next a = .ok b := by
  cases r <;> simp [bind, Except.bind]

/-- Two steps fail if the first one does, or the second one on what the first one gave. -/
theorem bind_eq_error_iff {r : Except ε α} {next : α → Except ε β} {e : ε} :
    r >>= next = .error e ↔ r = .error e ∨ ∃ a, r = .ok a ∧ next a = .error e := by
  cases r <;> simp [bind, Except.bind]

theorem map_eq_ok_iff {r : Except ε α} {f : α → β} {b : β} :
    r.map f = .ok b ↔ ∃ a, r = .ok a ∧ f a = b := by
  cases r <;> simp [Except.map]

theorem map_eq_error_iff {r : Except ε α} {f : α → β} {e : ε} :
    r.map f = .error e ↔ r = .error e := by
  cases r <;> simp [Except.map]

theorem mapError_eq_ok_iff {δ : Type} {r : Except ε α} {f : ε → δ} {a : α} :
    r.mapError f = .ok a ↔ r = .ok a := by
  cases r with
  | ok b =>
    change (.ok b : Except δ α) = .ok a ↔ _
    rw [Except.ok.injEq, Except.ok.injEq]
  | error e => exact iff_of_false nofun nofun

theorem mapError_eq_error_iff {δ : Type} {r : Except ε α} {f : ε → δ} {d : δ} :
    r.mapError f = .error d ↔ ∃ e, r = .error e ∧ d = f e := by
  cases r with
  | ok a => exact iff_of_false nofun nofun
  | error e =>
    change (.error (f e) : Except δ α) = .error d ↔ _
    simp [eq_comm]

/-- What does not fail succeeds. -/
theorem exists_eq_ok_iff_forall_ne_error {r : Except ε α} :
    (∃ a, r = .ok a) ↔ ∀ e, r ≠ .error e := by
  cases r <;> simp

theorem exists_eq_ok_iff {r : Except ε α} : (∃ a, r = .ok a) ↔ r.toOption.isSome = true := by
  cases r <;> simp [Except.toOption]

theorem mapM_congr {f g : α → Except ε β} {l : List α} (h : ∀ a ∈ l, f a = g a) :
    l.mapM f = l.mapM g := by
  induction l with
  | nil => rfl
  | cons a rest ih =>
    rw [List.mapM_cons, List.mapM_cons, h a List.mem_cons_self,
      ih fun b hb => h b (List.mem_cons_of_mem a hb)]

section MapM

variable {f : α → Except ε β} {l : List α} {r : List β}

/-- A list gives a result if each of its elements does. -/
theorem mapM_eq_ok_iff : l.mapM f = .ok r ↔ l.map f = r.map .ok := by
  induction l generalizing r with
  | nil =>
    cases r with
    | nil => exact iff_of_true rfl rfl
    | cons b bs => exact iff_of_false nofun nofun
  | cons a rest ih =>
    rw [List.mapM_cons, List.map_cons, eq_comm (b := r.map _), List.map_eq_cons_iff, bind_eq_ok_iff]
    refine exists_congr fun b => ?_
    rw [bind_eq_ok_iff]
    constructor
    · rintro ⟨hb, bs, hbs, hr⟩
      exact ⟨bs, (Except.ok.inj hr).symm, hb.symm, (ih.1 hbs).symm⟩
    · rintro ⟨bs, rfl, hb, hbs⟩
      exact ⟨hb.symm, bs, ih.2 hbs.symm, rfl⟩

theorem mem_iff_of_mapM_eq_ok (h : l.mapM f = .ok r) {b : β} : b ∈ r ↔ ∃ a ∈ l, f a = .ok b := by
  have hmem : b ∈ r ↔ .ok b ∈ r.map (Except.ok (ε := ε)) := by simp
  rw [hmem, ← mapM_eq_ok_iff.1 h, List.mem_map]

/-- What is the same of an element and of its result is the same of both lists. -/
theorem map_eq_of_mapM_eq_ok {g : β → γ} {k : α → γ} (hsame : ∀ a b, f a = .ok b → g b = k a)
    (h : l.mapM f = .ok r) : r.map g = l.map k := by
  rw [mapM_eq_ok_iff] at h
  induction l generalizing r with
  | nil =>
    rw [List.map_eq_nil_iff.1 h.symm]
    rfl
  | cons a rest ih =>
    obtain ⟨b, bs, rfl, hb, hbs⟩ := List.map_eq_cons_iff.1 h.symm
    rw [List.map_cons, List.map_cons, ih hbs.symm, hsame a b hb.symm]

/-- A list fails with the error of its first element that does. -/
theorem mapM_eq_error_iff {e : ε} :
    l.mapM f = .error e ↔
      ∃ before a after, l = before ++ a :: after ∧ (∀ b ∈ before, ∃ c, f b = .ok c) ∧
        f a = .error e := by
  induction l with
  | nil => simp [pure, Except.pure]
  | cons a rest ih =>
    rw [List.mapM_cons, bind_eq_error_iff]
    constructor
    · rintro (ha | ⟨c, hc, hrest⟩)
      · exact ⟨[], a, rest, rfl, nofun, ha⟩
      · obtain ⟨before, b, after, rfl, hbefore, hb⟩ :=
          ih.1 ((bind_eq_error_iff.1 hrest).resolve_right nofun)
        exact ⟨a :: before, b, after, rfl, List.forall_mem_cons.2 ⟨⟨c, hc⟩, hbefore⟩, hb⟩
    · rintro ⟨before, b, after, heq, hbefore, hb⟩
      cases before with
      | nil =>
        obtain ⟨rfl, rfl⟩ := List.cons.inj heq
        exact .inl hb
      | cons d before =>
        obtain ⟨rfl, rfl⟩ := List.cons.inj heq
        obtain ⟨⟨c, hc⟩, hbefore⟩ := List.forall_mem_cons.1 hbefore
        exact .inr ⟨c, hc, bind_eq_error_iff.2 (.inl (ih.2 ⟨before, b, after, rfl, hbefore, hb⟩))⟩

/-- A list gives some result if each of its elements does. -/
theorem exists_mapM_eq_ok_iff : (∃ r, l.mapM f = .ok r) ↔ ∀ a ∈ l, ∃ b, f a = .ok b := by
  constructor
  · rintro ⟨r, h⟩ a ha
    have hmem : f a ∈ r.map .ok := mapM_eq_ok_iff.1 h ▸ List.mem_map_of_mem ha
    obtain ⟨b, -, hb⟩ := List.mem_map.1 hmem
    exact ⟨b, hb.symm⟩
  · intro h
    refine exists_eq_ok_iff_forall_ne_error.2 fun e he => ?_
    obtain ⟨before, a, after, rfl, -, ha⟩ := mapM_eq_error_iff.1 he
    obtain ⟨b, hb⟩ := h a (by simp)
    rw [ha] at hb
    cases hb

end MapM

/-- A relation between what was read and what was made of it holds at the end of a run if it holds
at the beginning and every step keeps it. -/
theorem foldlM_induction {step : β → α → Except ε β} (Keeps : List α → β → Prop)
    (hstep : ∀ seen b a c, Keeps seen b → step b a = .ok c → Keeps (seen ++ [a]) c)
    {l seen : List α} {b r : β} (hb : Keeps seen b) (h : l.foldlM step b = .ok r) :
    Keeps (seen ++ l) r := by
  induction l generalizing seen b with
  | nil =>
    obtain rfl : b = r := by simpa [pure, Except.pure] using h
    rwa [List.append_nil]
  | cons a rest ih =>
    rw [List.foldlM_cons, bind_eq_ok_iff] at h
    obtain ⟨c, hc, hrest⟩ := h
    have hnext := ih (hstep seen b a c hb hc) hrest
    rwa [List.append_assoc, List.singleton_append] at hnext

/-- A run fails if some step does after the steps before it have succeeded. -/
theorem foldlM_eq_error_iff {step : β → α → Except ε β} {l : List α} {b : β} {e : ε} :
    l.foldlM step b = .error e ↔
      ∃ before a after c, l = before ++ a :: after ∧ before.foldlM step b = .ok c ∧
        step c a = .error e := by
  constructor
  · intro h
    induction l generalizing b with
    | nil => cases h
    | cons a rest ih =>
      rw [List.foldlM_cons, bind_eq_error_iff] at h
      rcases h with h | ⟨c, hc, h⟩
      · exact ⟨[], a, rest, b, rfl, rfl, h⟩
      · obtain ⟨before, x, after, d, rfl, hd, hx⟩ := ih h
        refine ⟨a :: before, x, after, d, rfl, ?_, hx⟩
        rw [List.foldlM_cons, hc]
        exact hd
  · rintro ⟨before, a, after, c, rfl, hc, ha⟩
    rw [List.foldlM_append, hc]
    change (a :: after).foldlM step c = .error e
    rw [List.foldlM_cons, ha]
    rfl

end LayoutGuard
