import Mathlib.Data.List.Basic

/-!
# Executable transition systems

A machine is a step function `step : S → A → Option S`: `none` says that the action is not enabled.
A run is a list of actions. The rules below are the induction rules for runs: an invariant of the
states, and an invariant that relates the state to the steps taken so far.
-/

namespace Machine

variable {S A : Type} {step : S → A → Option S}

/-- The state after a list of actions, all of them enabled. -/
def run (step : S → A → Option S) : S → List A → Option S
  | s, [] => some s
  | s, a :: as => (step s a).bind fun s' => run step s' as

/-- The states in which the actions of a run are taken, each with its action. -/
def trail (step : S → A → Option S) : S → List A → List (S × A)
  | _, [] => []
  | s, a :: as => (s, a) :: ((step s a).map fun s' => trail step s' as).getD []

@[simp] theorem run_nil (s : S) : run step s [] = some s := rfl

theorem run_cons {s t : S} {a : A} {as : List A} :
    run step s (a :: as) = some t ↔ ∃ s', step s a = some s' ∧ run step s' as = some t := by
  simp only [run, Option.bind_eq_some_iff]

theorem run_append {s : S} {as bs : List A} :
    run step s (as ++ bs) = (run step s as).bind fun s' => run step s' bs := by
  induction as generalizing s with
  | nil => rfl
  | cons a as ih => cases h : step s a <;> simp [run, h, ih]

theorem run_append_iff {s t : S} {as bs : List A} :
    run step s (as ++ bs) = some t ↔ ∃ s', run step s as = some s' ∧ run step s' bs = some t := by
  simp only [run_append, Option.bind_eq_some_iff]

theorem run_snoc {s t : S} {as : List A} {a : A} :
    run step s (as ++ [a]) = some t ↔ ∃ s', run step s as = some s' ∧ step s' a = some t := by
  simp only [run_append_iff, run_cons, run_nil, Option.some.injEq, exists_eq_right]

theorem trail_cons {s s' : S} {a : A} (h : step s a = some s') (as : List A) :
    trail step s (a :: as) = (s, a) :: trail step s' as := by
  simp [trail, h]

/-- The actions of a complete trail are those of the run. -/
theorem trail_actions {s s' : S} {as : List A} (h : run step s as = some s') :
    (trail step s as).map Prod.snd = as := by
  induction as generalizing s with
  | nil => rfl
  | cons a as ih =>
    obtain ⟨t, ht, h⟩ := run_cons.1 h
    simp [trail, ht, ih h]

/-- An invariant of the states. -/
theorem run_invariant {I : S → Prop} (hstep : ∀ s a s', I s → step s a = some s' → I s')
    {s t : S} {as : List A} (hs : I s) (h : run step s as = some t) : I t := by
  induction as generalizing s with
  | nil =>
    cases h
    exact hs
  | cons a as ih =>
    obtain ⟨s', hs', h⟩ := run_cons.1 h
    exact ih (hstep s a s' hs hs') h

/-- An invariant that relates the state to the steps taken so far. -/
theorem run_history {I : List (S × A) → S → Prop} {s₀ : S} (h₀ : I [] s₀)
    (hstep : ∀ past s a s', I past s → step s a = some s' → I (past ++ [(s, a)]) s')
    {t : S} {as : List A} (h : run step s₀ as = some t) : I (trail step s₀ as) t := by
  suffices H : ∀ (as : List A) (past : List (S × A)) (s : S), I past s →
      run step s as = some t → I (past ++ trail step s as) t from H as [] s₀ h₀ h
  intro as
  induction as with
  | nil =>
    intro past s hI h
    cases h
    simpa [trail] using hI
  | cons a as ih =>
    intro past s hI h
    obtain ⟨s', hs', h⟩ := run_cons.1 h
    have := ih (past ++ [(s, a)]) s' (hstep past s a s' hI hs') h
    simpa [trail, hs'] using this

/-- An invariant that relates the state to the actions taken so far. -/
theorem run_actions {I : List A → S → Prop} {s₀ : S} (h₀ : I [] s₀)
    (hstep : ∀ past s a s', I past s → step s a = some s' → I (past ++ [a]) s')
    {t : S} {as : List A} (h : run step s₀ as = some t) : I as t := by
  have := run_history (I := fun past s => I (past.map Prod.snd) s) h₀
    (fun past s a s' hI hs => by simpa using hstep _ s a s' hI hs) h
  rwa [trail_actions h] at this

/-! ## Ranking -/

section

variable {I : S → Prop} {rank : S → Nat}

/-- Where every step decreases the rank, a run is not longer than the rank that it uses up. -/
theorem run_length_le (hstep : ∀ s a s', I s → step s a = some s' → I s' ∧ rank s' < rank s)
    {s t : S} (hs : I s) {as : List A} (h : run step s as = some t) :
    as.length + rank t ≤ rank s := by
  induction as generalizing s with
  | nil =>
    cases h
    simp
  | cons a as ih =>
    obtain ⟨s', hs', h⟩ := run_cons.1 h
    obtain ⟨hI, hlt⟩ := hstep s a s' hs hs'
    have hle := ih hI h
    rw [List.length_cons]
    omega

/-- Where moreover a step is enabled until the state is done, some run ends in a state that is. -/
theorem exists_run_done {Done : S → Prop}
    (hstep : ∀ s a s', I s → step s a = some s' → I s' ∧ rank s' < rank s)
    (henabled : ∀ s, I s → ¬ Done s → ∃ a s', step s a = some s') {s : S} (hs : I s) :
    ∃ as t, run step s as = some t ∧ Done t := by
  induction hn : rank s using Nat.strongRecOn generalizing s with
  | _ n ih =>
    by_cases hdone : Done s
    · exact ⟨[], s, rfl, hdone⟩
    · obtain ⟨a, s', hs'⟩ := henabled s hs hdone
      obtain ⟨hI, hlt⟩ := hstep s a s' hs hs'
      obtain ⟨as, t, hrun, ht⟩ := ih (rank s') (by omega) hI rfl
      exact ⟨a :: as, t, run_cons.2 ⟨s', hs', hrun⟩, ht⟩

end

/-! ## Simulation -/

variable {T B : Type} {step' : T → B → Option T}

/-- A function that maps states and actions, and steps to steps, maps runs to runs, state by state. -/
theorem run_map {f : S → T} {g : A → B}
    (hstep : ∀ s a s', step s a = some s' → step' (f s) (g a) = some (f s')) {s t : S} {as : List A}
    (h : run step s as = some t) :
    run step' (f s) (as.map g) = some (f t) ∧
      trail step' (f s) (as.map g) = (trail step s as).map fun x => (f x.1, g x.2) := by
  induction as generalizing s with
  | nil =>
    cases h
    exact ⟨rfl, rfl⟩
  | cons a as ih =>
    obtain ⟨s', hs', h⟩ := run_cons.1 h
    obtain ⟨hrun, htrail⟩ := ih h
    have hfs' := hstep s a s' hs'
    refine ⟨run_cons.2 ⟨f s', hfs', hrun⟩, ?_⟩
    rw [List.map_cons, trail_cons hfs', trail_cons hs', htrail]
    rfl

/-- A step that is matched by a run keeps the states related, and so does a run. -/
theorem run_simulates {R : S → T → Prop}
    (hstep : ∀ s t a s', R s t → step s a = some s' → ∃ bs t', run step' t bs = some t' ∧ R s' t')
    {s s' : S} {t : T} (hR : R s t) {as : List A} (h : run step s as = some s') :
    ∃ bs t', run step' t bs = some t' ∧ R s' t' := by
  induction as generalizing s t with
  | nil =>
    cases h
    exact ⟨[], t, rfl, hR⟩
  | cons a as ih =>
    obtain ⟨s₁, hs₁, h⟩ := run_cons.1 h
    obtain ⟨bs, t₁, hbs, hR₁⟩ := hstep s t a s₁ hR hs₁
    obtain ⟨bs', t', hbs', hR'⟩ := ih hR₁ h
    exact ⟨bs ++ bs', t', run_append_iff.2 ⟨t₁, hbs, hbs'⟩, hR'⟩

end Machine
