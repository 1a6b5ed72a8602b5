/-!
# Steps that may fail

A run of steps that may fail returns exactly if each of its steps does. These are the shapes in which
such a run is written here: a step whose answer the rest uses, a test that throws, and a step that is
repeated over a list.
-/

set_option autoImplicit false

namespace BlockPipeline

variable {ε α β : Type}

/-- A step that returns hands its answer on. -/
@[simp] theorem ok_bind (a : α) (f : α → Except ε β) : ((.ok a : Except ε α) >>= f) = f a := rfl

/-- A run that returned ran its first step. -/
theorem bind_eq_ok {x : Except ε α} {f : α → Except ε β} {b : β} :
    x >>= f = .ok b ↔ ∃ a, x = .ok a ∧ f a = .ok b := by
  constructor
  · intro h
    cases x with
    | error _ => cases h
    | ok a => exact ⟨a, rfl, h⟩
  · rintro ⟨a, rfl, h⟩
    exact h

/-- A run that failed did so in its first step, or behind it. -/
theorem bind_eq_error {x : Except ε α} {f : α → Except ε β} {e : ε} :
    x >>= f = .error e ↔ x = .error e ∨ ∃ a, x = .ok a ∧ f a = .error e := by
  cases x with
  | error _ =>
    simp only [reduceCtorEq, false_and, exists_false, or_false]
    constructor
    · rintro ⟨⟩
      rfl
    · rintro ⟨⟩
      rfl
  | ok a => simp only [ok_bind, reduceCtorEq, Except.ok.injEq, exists_eq_left', false_or]

/-- **Steps that are carried out over a list fail at one of its members**, behind those for which
they returned. -/
theorem foldlM_eq_error_iff {f : β → α → Except ε β} {b : β} {l : List α} {e : ε} :
    l.foldlM f b = .error e ↔
      ∃ before a after c, l = before ++ a :: after ∧ before.foldlM f b = .ok c ∧
        f c a = .error e := by
  induction l generalizing b with
  | nil =>
    constructor
    · intro failed
      cases failed
    · rintro ⟨before, a, after, c, split, -⟩
      cases before <;> cases split
  | cons head l ih =>
    rw [List.foldlM_cons, bind_eq_error]
    constructor
    · rintro (failed | ⟨b', stepped, failed⟩)
      · exact ⟨[], head, l, b, rfl, rfl, failed⟩
      · obtain ⟨before, a, after, c, rfl, returned, failed⟩ := ih.mp failed
        refine ⟨head :: before, a, after, c, rfl, ?_, failed⟩
        rw [List.foldlM_cons, stepped]
        exact returned
    · rintro ⟨before, a, after, c, split, returned, failed⟩
      cases before with
      | nil =>
        cases split
        cases returned
        exact .inl failed
      | cons first before =>
        cases split
        rw [List.foldlM_cons] at returned
        obtain ⟨b', stepped, returned⟩ := bind_eq_ok.mp returned
        exact .inr ⟨b', stepped, ih.mpr ⟨before, a, after, c, rfl, returned, failed⟩⟩

/-- A run whose answer is changed afterwards. -/
theorem map_eq_ok {x : Except ε α} {f : α → β} {b : β} :
    x.map f = .ok b ↔ ∃ a, x = .ok a ∧ f a = b := by
  cases x with
  | error _ => exact ⟨nofun, fun ⟨_, none', _⟩ => nomatch none'⟩
  | ok a =>
    simp only [Except.map, Except.ok.injEq, exists_eq_left']

theorem map_eq_error {x : Except ε α} {f : α → β} {e : ε} : x.map f = .error e ↔ x = .error e := by
  cases x with
  | error _ => simp only [Except.map, Except.error.injEq]
  | ok a => exact ⟨nofun, nofun⟩

/-- A run whose failure is reported differently. -/
@[simp] theorem mapError_ok {ε' : Type} (a : α) (f : ε → ε') :
    (.ok a : Except ε α).mapError f = .ok a := rfl

@[simp] theorem mapError_eq_ok {ε' : Type} {x : Except ε α} {f : ε → ε'} {a : α} :
    x.mapError f = .ok a ↔ x = .ok a := by
  cases x with
  | error _ => exact ⟨nofun, nofun⟩
  | ok _ => simp only [mapError_ok, Except.ok.injEq]

/-- A run that returned passed its test. -/
theorem throwIf_eq_ok {p : Prop} [Decidable p] {reason : ε} {rest : PUnit → Except ε β} {b : β} :
    (if p then throw reason >>= rest else rest ⟨⟩) = .ok b ↔ ¬ p ∧ rest ⟨⟩ = .ok b := by
  split
  next h => exact ⟨nofun, fun hp => absurd h hp.1⟩
  next h => exact ⟨fun hb => ⟨h, hb⟩, fun hb => hb.2⟩

/-- A run that failed either failed its test, or passed it and failed behind it. -/
theorem throwIf_eq_error {p : Prop} [Decidable p] {reason e : ε} {rest : PUnit → Except ε β} :
    (if p then throw reason >>= rest else rest ⟨⟩) = .error e ↔
      p ∧ reason = e ∨ ¬ p ∧ rest ⟨⟩ = .error e := by
  split
  next h =>
    simp only [h, true_and, not_true_eq_false, false_and, or_false]
    exact ⟨fun he => Except.error.inj he, fun he => congrArg Except.error he⟩
  next h => simp only [h, false_and, not_false_eq_true, true_and, false_or]

/-- What comes behind a test comes behind what the test guards. -/
theorem throwIf_bind {p : Prop} [Decidable p] {reason : ε} {rest : PUnit → Except ε α}
    {f : α → Except ε β} :
    (if p then throw reason >>= rest else rest ⟨⟩) >>= f =
      if p then throw reason >>= fun u => rest u >>= f else rest ⟨⟩ >>= f := by
  split
  next => rfl
  next => rfl

end BlockPipeline
