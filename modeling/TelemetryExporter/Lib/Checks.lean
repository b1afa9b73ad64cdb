import Mathlib.Data.List.Basic

/-!
# Checks

A computation that can fail checks something. It *reports* a set of defects if it fails exactly when
there is one of them, and then with one of them. Checks that are made one after the other report the
defects of all of them, although the run stops at the first: so what a sequence of checks reports
does not depend on their order.
-/

namespace Check

variable {E F A B T : Type}

/-- The computation fails exactly if there is a defect, and its error is one. -/
structure Reports (x : Except E A) (defect : E → Prop) : Prop where
  sound : ∀ e, x = .error e → defect e
  complete : ∀ e, defect e → ∃ e', x = .error e'

variable {x : Except E A} {D D' : E → Prop}

/-- Bound computations that succeed. -/
theorem bind_ok_iff {f : A → Except E B} {b : B} :
    x >>= f = .ok b ↔ ∃ a, x = .ok a ∧ f a = .ok b := by
  cases x with
  | error e => exact ⟨nofun, fun ⟨_, h, _⟩ => nomatch h⟩
  | ok a =>
    constructor
    · intro h
      exact ⟨a, rfl, h⟩
    · rintro ⟨_, ⟨⟩, h⟩
      exact h

theorem map_ok_iff {f : A → B} {b : B} : x.map f = .ok b ↔ ∃ a, x = .ok a ∧ f a = b := by
  cases x with
  | error e => exact ⟨nofun, fun ⟨_, h, _⟩ => nomatch h⟩
  | ok a =>
    constructor
    · rintro ⟨⟩
      exact ⟨a, rfl, rfl⟩
    · rintro ⟨_, ⟨⟩, rfl⟩
      rfl

namespace Reports

theorem ok_iff (h : Reports x D) : (∃ a, x = .ok a) ↔ ∀ e, ¬ D e := by
  constructor
  · rintro ⟨a, rfl⟩ e he
    obtain ⟨e', he'⟩ := h.complete e he
    cases he'
  · intro hD
    cases hx : x with
    | error e => exact absurd (h.sound e hx) (hD e)
    | ok a => exact ⟨a, rfl⟩

theorem congr (h : Reports x D) (hD : ∀ e, D e ↔ D' e) : Reports x D' :=
  ⟨fun e he => (hD e).1 (h.sound e he), fun e he => h.complete e ((hD e).2 he)⟩

theorem of_ok {a : A} (hx : x = .ok a) (hD : ∀ e, ¬ D e) : Reports x D := by
  subst hx
  exact ⟨nofun, fun e he => absurd he (hD e)⟩

theorem of_error {e : E} (hx : x = .error e) (he : D e) : Reports x D := by
  subst hx
  refine ⟨fun e' h => ?_, fun _ _ => ⟨e, rfl⟩⟩
  cases h
  exact he

/-- What is checked next can rely on the checks made so far. -/
theorem bind {f : A → Except E B} (h : Reports x D) (hf : ∀ a, x = .ok a → Reports (f a) D') :
    Reports (x >>= f) fun e => D e ∨ D' e := by
  cases hx : x with
  | error e =>
    refine ⟨fun e' he => ?_, fun _ _ => ⟨e, rfl⟩⟩
    cases he
    exact .inl (h.sound e hx)
  | ok a =>
    refine ⟨fun e he => .inr ((hf a hx).sound e he), fun e he => ?_⟩
    rcases he with he | he
    · exact absurd he (h.ok_iff.1 ⟨a, hx⟩ e)
    · exact (hf a hx).complete e he

theorem map (h : Reports x D) (f : A → B) : Reports (x.map f) D := by
  cases x with
  | error e => exact of_error rfl (h.sound e rfl)
  | ok a => exact of_ok rfl (h.ok_iff.1 ⟨a, rfl⟩)

theorem mapError (h : Reports x D) (f : E → F) :
    Reports (x.mapError f) fun e => ∃ e', D e' ∧ f e' = e := by
  cases x with
  | error e => exact of_error rfl ⟨e, h.sound e rfl, rfl⟩
  | ok a =>
    refine of_ok rfl ?_
    rintro e ⟨e', he', -⟩
    exact h.ok_iff.1 ⟨a, rfl⟩ e' he'

/-- A check of something that may be absent. -/
theorem elim {o : Option T} {a : A} {f : T → Except E A} {D : T → E → Prop}
    (h : ∀ t, o = some t → Reports (f t) (D t)) :
    Reports (o.elim (.ok a) f) fun e => ∃ t, o = some t ∧ D t e := by
  cases o with
  | none => exact of_ok rfl fun e ⟨_, ht, _⟩ => nomatch ht
  | some t =>
    refine (h t rfl).congr fun e => ⟨fun he => ⟨t, rfl, he⟩, ?_⟩
    rintro ⟨_, ⟨⟩, he⟩
    exact he

theorem mapM {o : Option T} {f : T → Except E A} {D : T → E → Prop}
    (h : ∀ t, o = some t → Reports (f t) (D t)) :
    Reports (o.mapM f) fun e => ∃ t, o = some t ∧ D t e := by
  cases o with
  | none => exact of_ok rfl fun e ⟨_, ht, _⟩ => nomatch ht
  | some t =>
    refine ((h t rfl).map some).congr fun e => ⟨fun he => ⟨t, rfl, he⟩, ?_⟩
    rintro ⟨_, ⟨⟩, he⟩
    exact he

/-- Elements that are checked one after the other, each whatever the ones before gave. -/
theorem foldlM {f : B → T → Except E B} {D : T → E → Prop} (h : ∀ b t, Reports (f b t) (D t))
    (b : B) (l : List T) : Reports (l.foldlM f b) fun e => ∃ t ∈ l, D t e := by
  induction l generalizing b with
  | nil => exact of_ok rfl fun e ⟨_, ht, _⟩ => nomatch ht
  | cons t l ih =>
    rw [List.foldlM_cons]
    refine ((h b t).bind fun b' _ => ih b').congr fun e => ?_
    simp only [List.mem_cons, exists_eq_or_imp]

end Reports

end Check
