import Mathlib.Data.List.Basic
import Mathlib.Order.Basic
import Mathlib.Order.MinMax

/-!
# Instruments that share a stamp

A group of instruments is updated by events and read by reports. All readings of a report carry one
stamp, which some of the events advance. A `Meter` is a cumulative instrument that is read only when
it has changed; when its last reading is more than `gap` before, the old value is repeated `lead`
before the new one. A gauge keeps the highest value measured and is read by every report.

The readings of a meter are strictly increasing in time exactly if the stamps of the reports that
find it changed are, and those of a gauge agree with each other exactly if no event raises it
between two reports with one stamp.
-/

namespace Series

/-- An event, or a report. -/
inductive Action (E : Type) where
  | event (e : E)
  | report

variable {E V W C : Type}

/-- What the events of a list of actions have to say. -/
def collect (f : E → Option V) : List (Action E) → List V
  | [] => []
  | .event e :: rest => (f e).toList ++ collect f rest
  | .report :: rest => collect f rest

theorem collect_append (f : E → Option V) (as bs : List (Action E)) :
    collect f (as ++ bs) = collect f as ++ collect f bs := by
  induction as with
  | nil => rfl
  | cons a as ih => cases a <;> simp [collect, ih]

theorem mem_collect {f : E → Option V} {v : V} {actions : List (Action E)} :
    v ∈ collect f actions ↔ ∃ e, .event e ∈ actions ∧ f e = some v := by
  induction actions with
  | nil => simp [collect]
  | cons a rest ih => cases a <;> simp [collect, ih, or_and_right, exists_or]

/-! ## The stamp -/

section

variable (advance : E → Option Nat)

/-- The stamp after a list of actions. -/
def stampAfter : Nat → List (Action E) → Nat
  | t, [] => t
  | t, .event e :: rest => stampAfter ((advance e).getD t) rest
  | t, .report :: rest => stampAfter t rest

/-- The stamps of the reports that are the first one after an event of the kind. -/
def freshStamps (kind : E → Bool) : Nat → Bool → List (Action E) → List Nat
  | _, _, [] => []
  | t, fresh, .event e :: rest => freshStamps kind ((advance e).getD t) (fresh || kind e) rest
  | t, fresh, .report :: rest => (if fresh then [t] else []) ++ freshStamps kind t false rest

variable {advance}

theorem stampAfter_append (t : Nat) (as bs : List (Action E)) :
    stampAfter advance t (as ++ bs) = stampAfter advance (stampAfter advance t as) bs := by
  induction as generalizing t with
  | nil => rfl
  | cons a as ih => cases a <;> simp only [List.cons_append, stampAfter, ih]

theorem stampAfter_eq_or_mem (t : Nat) (actions : List (Action E)) :
    stampAfter advance t actions = t ∧ collect advance actions = [] ∨
      stampAfter advance t actions ∈ collect advance actions := by
  induction actions generalizing t with
  | nil => exact .inl ⟨rfl, rfl⟩
  | cons a rest ih =>
    cases a with
    | report => exact ih t
    | event e =>
      simp only [stampAfter, collect]
      cases h : advance e with
      | none => exact ih t
      | some s =>
        rcases ih s with ⟨hs, -⟩ | hs
        · exact .inr (by simp [hs])
        · exact .inr (List.mem_append_right _ hs)

/-- The stamp is that of the last advance, if there is one. -/
theorem stampAfter_mem {t : Nat} {actions : List (Action E)} {s : Nat}
    (h : s ∈ collect advance actions) :
    stampAfter advance t actions ∈ collect advance actions := by
  rcases @stampAfter_eq_or_mem _ advance t actions with ⟨-, hnil⟩ | hmem
  · rw [hnil] at h
    cases h
  · exact hmem

theorem freshStamps_sublist {kind kind' : E → Bool} (hkind : ∀ e, kind e = true → kind' e = true)
    {t : Nat} {fresh fresh' : Bool} (hfresh : fresh = true → fresh' = true)
    (actions : List (Action E)) :
    (freshStamps advance kind t fresh actions).Sublist
      (freshStamps advance kind' t fresh' actions) := by
  induction actions generalizing t fresh fresh' with
  | nil => exact .slnil
  | cons a rest ih =>
    cases a with
    | event e =>
      apply ih
      intro h
      simp only [Bool.or_eq_true] at h ⊢
      exact h.imp hfresh (hkind e)
    | report =>
      simp only [freshStamps]
      refine List.Sublist.append ?_ (ih id)
      cases fresh with
      | false => exact List.nil_sublist _
      | true => simp [hfresh rfl]

section

/-! When every event of the kind advances the stamp, it does so in time. -/

variable {kind : E → Bool} (hcovers : ∀ e, kind e = true → (advance e).isSome = true)

include hcovers

theorem mem_freshStamps {t : Nat} {fresh : Bool} {actions : List (Action E)} {s : Nat}
    (h : s ∈ freshStamps advance kind t fresh actions) :
    fresh = true ∧ s = t ∨ s ∈ collect advance actions := by
  induction actions generalizing t fresh with
  | nil => cases h
  | cons a rest ih =>
    cases a with
    | report =>
      simp only [freshStamps, List.mem_append] at h
      rcases h with h | h
      · cases fresh with
        | false => cases h
        | true => exact .inl ⟨rfl, by simpa using h⟩
      · rcases ih h with ⟨hfalse, -⟩ | h
        · cases hfalse
        · exact .inr h
    | event e =>
      simp only [collect, List.mem_append]
      cases hadvance : advance e with
      | none =>
        have hkind : kind e = false := by
          by_contra hkind
          have := hcovers e (by simpa using hkind)
          rw [hadvance] at this
          cases this
        simp only [freshStamps, hkind, hadvance, Bool.or_false, Option.getD_none] at h
        rcases ih h with h | h
        · exact .inl h
        · exact .inr (.inr h)
      | some a =>
        simp only [freshStamps, hadvance, Option.getD_some] at h
        rcases ih h with ⟨-, h⟩ | h
        · exact .inr (.inl (by simp [h]))
        · exact .inr (.inr h)

theorem freshStamps_increasing {t : Nat} {fresh : Bool} {actions : List (Action E)}
    (hincreasing : (collect advance actions).Pairwise (· < ·))
    (hfresh : fresh = true → ∀ a ∈ collect advance actions, t < a) :
    (freshStamps advance kind t fresh actions).Pairwise (· < ·) := by
  induction actions generalizing t fresh with
  | nil => exact .nil
  | cons a rest ih =>
    cases a with
    | report =>
      simp only [freshStamps, List.pairwise_append]
      refine ⟨by cases fresh <;> simp, ih hincreasing nofun, ?_⟩
      intro x hx y hy
      cases fresh with
      | false => cases hx
      | true =>
        obtain rfl : x = t := by simpa using hx
        rcases mem_freshStamps hcovers hy with ⟨hfalse, -⟩ | hy
        · cases hfalse
        · exact hfresh rfl y hy
    | event e =>
      simp only [freshStamps]
      simp only [collect, List.pairwise_append] at hincreasing
      apply ih hincreasing.2.1
      intro h a ha
      cases hadvance : advance e with
      | some s =>
        rw [hadvance] at hincreasing
        exact hincreasing.2.2 s (by simp) a ha
      | none =>
        have hkind : kind e = false := by
          by_contra hkind
          have := hcovers e (by simpa using hkind)
          rw [hadvance] at this
          cases this
        rw [hkind, Bool.or_false] at h
        exact hfresh h a (List.mem_append_right _ ha)

end

end

/-! ## Cumulative instruments -/

/-- A cumulative instrument: its value, the one last read with its stamp, and whether the value has
been updated since. -/
structure Meter (V : Type) where
  value : V
  last : V
  lastStamp : Nat
  fresh : Bool

namespace Meter

/-- The update by an event, if it has one. -/
def record (m : Meter V) : Option (V → V) → Meter V
  | some f => { m with value := f m.value, fresh := true }
  | none => m

/-- What a report with the stamp reads. -/
def points (gap lead t : Nat) (m : Meter V) : List (Nat × V) :=
  if m.fresh then
    (if m.lastStamp + gap < t then [(t - lead, m.last)] else []) ++ [(t, m.value)]
  else []

/-- The instrument after a report. -/
def reported (t : Nat) (m : Meter V) : Meter V :=
  if m.fresh then { m with last := m.value, lastStamp := t, fresh := false } else m

/-- All readings over a list of actions. -/
def series (advance : E → Option Nat) (gap lead : Nat) (update : E → Option (V → V)) :
    Nat → Meter V → List (Action E) → List (Nat × V)
  | _, _, [] => []
  | t, m, .event e :: rest =>
    series advance gap lead update ((advance e).getD t) (m.record (update e)) rest
  | t, m, .report :: rest =>
    m.points gap lead t ++ series advance gap lead update t (m.reported t) rest

@[simp] theorem record_lastStamp (m : Meter V) (f : Option (V → V)) :
    (m.record f).lastStamp = m.lastStamp := by
  cases f <;> rfl

@[simp] theorem record_last (m : Meter V) (f : Option (V → V)) : (m.record f).last = m.last := by
  cases f <;> rfl

@[simp] theorem record_fresh (m : Meter V) (f : Option (V → V)) :
    (m.record f).fresh = (m.fresh || f.isSome) := by
  cases f <;> simp [record]

@[simp] theorem reported_fresh (t : Nat) (m : Meter V) : (m.reported t).fresh = false := by
  unfold reported
  split
  · rfl
  · next h => simpa using h

theorem points_of_stale {gap lead t : Nat} {m : Meter V} (h : m.fresh = false) :
    m.points gap lead t = [] := by
  simp [points, h]

theorem mem_points {gap lead t : Nat} {m : Meter V} {p : Nat × V} (h : p ∈ m.points gap lead t) :
    m.fresh = true ∧ (p = (t, m.value) ∨ p = (t - lead, m.last) ∧ m.lastStamp + gap < t) := by
  unfold points at h
  split at h
  · next hfresh =>
    rw [List.mem_append] at h
    rcases h with h | h
    · split at h
      · next hgap => exact ⟨hfresh, .inr ⟨by simpa using h, hgap⟩⟩
      · cases h
    · exact ⟨hfresh, .inl (by simpa using h)⟩
  · cases h

section

variable {advance : E → Option Nat} {update : E → Option (V → V)} {gap lead : Nat}

theorem freshStamps_sublist_series (t : Nat) (m : Meter V) (actions : List (Action E)) :
    (freshStamps advance (fun e => (update e).isSome) t m.fresh actions).Sublist
      ((series advance gap lead update t m actions).map Prod.fst) := by
  induction actions generalizing t m with
  | nil => exact .slnil
  | cons a rest ih =>
    cases a with
    | event e => simpa [freshStamps, series] using ih ((advance e).getD t) (m.record (update e))
    | report =>
      simp only [freshStamps, series, List.map_append]
      refine List.Sublist.append ?_ (by simpa using ih t (m.reported t))
      cases hfresh : m.fresh with
      | false => exact List.nil_sublist _
      | true => simp [points, hfresh]

variable (hlead : lead ≤ gap)

include hlead

theorem lastStamp_lt_of_mem_series {t : Nat} {m : Meter V} {actions : List (Action E)}
    (hlast : ∀ s ∈ freshStamps advance (fun e => (update e).isSome) t m.fresh actions,
      m.lastStamp < s)
    (hincreasing :
      (freshStamps advance (fun e => (update e).isSome) t m.fresh actions).Pairwise (· < ·))
    {p : Nat × V} (hp : p ∈ series advance gap lead update t m actions) : m.lastStamp < p.1 := by
  induction actions generalizing t m with
  | nil => cases hp
  | cons a rest ih =>
    cases a with
    | event e =>
      have := @ih ((advance e).getD t) (m.record (update e))
        (by simpa [freshStamps] using hlast) (by simpa [freshStamps] using hincreasing) hp
      simpa using this
    | report =>
      simp only [freshStamps, List.pairwise_append] at hincreasing
      simp only [freshStamps, List.mem_append] at hlast
      rw [series, List.mem_append] at hp
      cases hfresh : m.fresh with
      | false =>
        rw [points_of_stale hfresh] at hp
        have hsame : m.reported t = m := by simp [reported, hfresh]
        rw [hsame] at hp
        rcases hp with hp | hp
        · cases hp
        · exact ih (fun s hs => hlast s (.inr (hfresh ▸ hs))) (by simpa [hfresh] using hincreasing.2.1)
            hp
      | true =>
        have ht : m.lastStamp < t := hlast t (.inl (by simp [hfresh]))
        rcases hp with hp | hp
        · rcases (mem_points hp).2 with rfl | ⟨rfl, hgap⟩
          · exact ht
          · simp only
            omega
        · -- the readings after this report come after its stamp
          have hstamp : (m.reported t).lastStamp = t := by simp [reported, hfresh]
          have := @ih t (m.reported t)
            (fun s hs => hstamp.symm ▸ hincreasing.2.2 t (by simp [hfresh]) s (by simpa using hs))
            (by simpa using hincreasing.2.1) hp
          rw [hstamp] at this
          exact Nat.lt_trans ht this

variable (hpos : 0 < lead)

include hpos

theorem series_increasing_iff (t : Nat) (m : Meter V) (actions : List (Action E)) :
    (series advance gap lead update t m actions).Pairwise (fun p q => p.1 < q.1) ↔
      (freshStamps advance (fun e => (update e).isSome) t m.fresh actions).Pairwise (· < ·) := by
  constructor
  · intro h
    exact (List.pairwise_map.2 h).sublist (freshStamps_sublist_series t m actions)
  · intro h
    induction actions generalizing t m with
    | nil => exact .nil
    | cons a rest ih =>
      cases a with
      | event e => exact ih ((advance e).getD t) (m.record (update e)) (by simpa [freshStamps] using h)
      | report =>
        simp only [freshStamps, List.pairwise_append] at h
        rw [series, List.pairwise_append]
        have hrest := ih t (m.reported t) (by simpa using h.2.1)
        cases hfresh : m.fresh with
        | false =>
          rw [points_of_stale hfresh]
          exact ⟨.nil, hrest, nofun⟩
        | true =>
          refine ⟨?_, hrest, ?_⟩
          · rw [points, if_pos hfresh]
            split
            · next hgap =>
              simp only [List.cons_append, List.nil_append, List.pairwise_cons, List.mem_cons,
                List.not_mem_nil, or_false, forall_eq, false_implies, implies_true, List.Pairwise.nil,
                and_true]
              omega
            · simp
          · intro p hp q hq
            have hstamp : (m.reported t).lastStamp = t := by simp [reported, hfresh]
            have hq : t < q.1 := by
              have := lastStamp_lt_of_mem_series hlead
                (fun s hs => hstamp.symm ▸ h.2.2 t (by simp [hfresh]) s (by simpa using hs))
                (by simpa using h.2.1) hq
              rwa [hstamp] at this
            rcases (mem_points hp).2 with rfl | ⟨rfl, -⟩
            · exact hq
            · simp only
              omega

end

section

variable {advance : E → Option Nat} {update : E → Option (V → V)} {gap lead : Nat}
  [Preorder C] {count : V → C}
  (hupdate : ∀ e f v, update e = some f → count v ≤ count (f v))

include hupdate

theorem last_le_of_mem_series {t : Nat} {m : Meter V} {actions : List (Action E)}
    (hm : count m.last ≤ count m.value) {p : Nat × V}
    (hp : p ∈ series advance gap lead update t m actions) : count m.last ≤ count p.2 := by
  induction actions generalizing t m with
  | nil => cases hp
  | cons a rest ih =>
    cases a with
    | event e =>
      cases hf : update e with
      | none =>
        rw [series, hf] at hp
        exact ih hm hp
      | some f =>
        rw [series, hf] at hp
        exact ih (m := m.record (some f)) (hm.trans (hupdate e f m.value hf)) hp
    | report =>
      rw [series, List.mem_append] at hp
      rcases hp with hp | hp
      · rcases (mem_points hp).2 with rfl | ⟨rfl, -⟩
        · exact hm
        · exact le_rfl
      · cases hfresh : m.fresh with
        | false =>
          have hsame : m.reported t = m := by simp [reported, hfresh]
          exact ih hm (hsame ▸ hp)
        | true =>
          have hnew : m.reported t = { m with last := m.value, lastStamp := t, fresh := false } := by
            simp [reported, hfresh]
          rw [hnew] at hp
          exact hm.trans (ih (m := { m with last := m.value, lastStamp := t, fresh := false })
            le_rfl hp)

/-- The counts that a meter reports never decrease. -/
theorem series_monotone (t : Nat) (m : Meter V) (actions : List (Action E))
    (hm : count m.last ≤ count m.value) :
    (series advance gap lead update t m actions).Pairwise (fun p q => count p.2 ≤ count q.2) := by
  induction actions generalizing t m with
  | nil => exact .nil
  | cons a rest ih =>
    cases a with
    | event e =>
      cases hf : update e with
      | none =>
        rw [series, hf]
        exact ih _ m hm
      | some f =>
        rw [series, hf]
        exact ih _ (m.record (some f)) (hm.trans (hupdate e f m.value hf))
    | report =>
      rw [series, List.pairwise_append]
      cases hfresh : m.fresh with
      | false =>
        have hsame : m.reported t = m := by simp [reported, hfresh]
        rw [hsame, points_of_stale hfresh]
        exact ⟨.nil, ih t m hm, nofun⟩
      | true =>
        have hnew : m.reported t = { m with last := m.value, lastStamp := t, fresh := false } := by
          simp [reported, hfresh]
        rw [hnew]
        refine ⟨?_, ih t _ le_rfl, ?_⟩
        · rw [points, if_pos hfresh]
          split
          · simpa using hm
          · simp
        · intro p hp q hq
          have hq : count m.value ≤ count q.2 := last_le_of_mem_series hupdate
            (m := { m with last := m.value, lastStamp := t, fresh := false }) le_rfl hq
          rcases (mem_points hp).2 with rfl | ⟨rfl, -⟩
          · exact hq
          · exact hm.trans hq

end

/-- Two readings in a row are not far apart, unless the value stays the same; the last reading
before counts too. -/
theorem series_close {advance : E → Option Nat} {update : E → Option (V → V)} {gap lead : Nat}
    (hlead : lead ≤ gap) (t : Nat) (m : Meter V) (actions : List (Action E)) :
    ((m.lastStamp, m.last) :: series advance gap lead update t m actions).IsChain
      fun p q => p.2 = q.2 ∨ q.1 ≤ p.1 + gap := by
  induction actions generalizing t m with
  | nil => exact .singleton _
  | cons a rest ih =>
    cases a with
    | event e =>
      have hrest := ih ((advance e).getD t) (m.record (update e))
      rwa [record_lastStamp, record_last] at hrest
    | report =>
      rw [series]
      cases hfresh : m.fresh with
      | false =>
        have hsame : m.reported t = m := by simp [reported, hfresh]
        rw [points_of_stale hfresh, hsame]
        exact ih t m
      | true =>
        have hrest : ((t, m.value) :: series advance gap lead update t (m.reported t) rest).IsChain
            fun p q => p.2 = q.2 ∨ q.1 ≤ p.1 + gap := by
          have hreported := ih t (m.reported t)
          have hnew : m.reported t = { m with last := m.value, lastStamp := t, fresh := false } := by
            simp [reported, hfresh]
          rwa [hnew] at hreported ⊢
        rw [points, if_pos hfresh]
        by_cases hgap : m.lastStamp + gap < t
        · rw [if_pos hgap]
          refine .cons_cons (.inl rfl) (.cons_cons (.inr ?_) hrest)
          show t ≤ t - lead + gap
          omega
        · rw [if_neg hgap]
          exact .cons_cons (.inr (Nat.le_of_not_lt hgap)) hrest

end Meter

/-! ## Gauges of the highest value -/

section

variable [LinearOrder W]

/-- The highest value after one more measurement, if there is one. -/
def raise : Option W → Option W → Option W
  | highest, none => highest
  | none, some w => some w
  | some highest, some w => some (max highest w)

/-- The highest value after a list of actions. -/
def highestAfter (measure : E → Option W) : Option W → List (Action E) → Option W
  | highest, [] => highest
  | highest, .event e :: rest => highestAfter measure (raise highest (measure e)) rest
  | highest, .report :: rest => highestAfter measure highest rest

/-- All readings of a gauge over a list of actions. -/
def gaugeSeries (advance : E → Option Nat) (measure : E → Option W) :
    Nat → Option W → List (Action E) → List (Nat × W)
  | _, _, [] => []
  | t, highest, .event e :: rest =>
    gaugeSeries advance measure ((advance e).getD t) (raise highest (measure e)) rest
  | t, highest, .report :: rest =>
    (highest.map fun w => (t, w)).toList ++ gaugeSeries advance measure t highest rest

/-- Once something has been measured, an event between two reports with one stamp measures nothing
higher. -/
def Settled (advance : E → Option Nat) (measure : E → Option W) (t : Nat)
    (actions : List (Action E)) : Prop :=
  ∀ before between after, actions = before ++ .report :: (between ++ .report :: after) →
    collect measure before ≠ [] →
    stampAfter advance t before = stampAfter advance t (before ++ between) →
    ∀ w ∈ collect measure between, ∃ w' ∈ collect measure before, w ≤ w'

variable {advance : E → Option Nat} {measure : E → Option W}

/-- The highest of a value and of what has been measured after it. -/
theorem highestAfter_some (w : W) (actions : List (Action E)) :
    ∃ x, highestAfter measure (some w) actions = some x ∧
      (x = w ∨ x ∈ collect measure actions) ∧ w ≤ x ∧ ∀ y ∈ collect measure actions, y ≤ x := by
  induction actions generalizing w with
  | nil => exact ⟨w, rfl, .inl rfl, le_rfl, nofun⟩
  | cons a rest ih =>
    cases a with
    | report => exact ih w
    | event e =>
      simp only [highestAfter, collect]
      cases hmeasure : measure e with
      | none => exact ih w
      | some v =>
        obtain ⟨x, hx, hmem, hle, hall⟩ := ih (max w v)
        refine ⟨x, hx, ?_, (le_max_left w v).trans hle, ?_⟩
        · rcases hmem with rfl | hmem
          · rcases max_choice w v with h | h
            · exact .inl h
            · exact .inr (by simp [h])
          · exact .inr (List.mem_append_right _ hmem)
        · intro y hy
          rw [List.mem_append] at hy
          rcases hy with hy | hy
          · obtain rfl : y = v := by simpa using hy
            exact (le_max_right w y).trans hle
          · exact hall y hy

theorem highestAfter_none (actions : List (Action E)) :
    highestAfter measure none actions = none ∧ collect measure actions = [] ∨
      ∃ x, highestAfter measure none actions = some x ∧ x ∈ collect measure actions ∧
        ∀ y ∈ collect measure actions, y ≤ x := by
  induction actions with
  | nil => exact .inl ⟨rfl, rfl⟩
  | cons a rest ih =>
    cases a with
    | report => exact ih
    | event e =>
      simp only [highestAfter, collect]
      cases hmeasure : measure e with
      | none => exact ih
      | some v =>
        obtain ⟨x, hx, hmem, hle, hall⟩ := @highestAfter_some _ _ _ measure v rest
        refine .inr ⟨x, hx, ?_, ?_⟩
        · rcases hmem with rfl | hmem
          · exact List.mem_cons_self
          · exact List.mem_cons_of_mem _ hmem
        · intro y hy
          rcases List.mem_cons.1 hy with rfl | hy
          · exact hle
          · exact hall y hy

theorem mem_gaugeSeries {t : Nat} {highest : Option W} {actions : List (Action E)} {p : Nat × W} :
    p ∈ gaugeSeries advance measure t highest actions ↔
      ∃ before after, actions = before ++ .report :: after ∧ stampAfter advance t before = p.1 ∧
        highestAfter measure highest before = some p.2 := by
  induction actions generalizing t highest with
  | nil => simp [gaugeSeries]
  | cons a rest ih =>
    constructor
    · intro h
      cases a with
      | event e =>
        obtain ⟨before, after, rfl, hstamp, hhighest⟩ := ih.1 h
        exact ⟨.event e :: before, after, rfl, hstamp, hhighest⟩
      | report =>
        rw [gaugeSeries, List.mem_append] at h
        rcases h with h | h
        · simp only [Option.mem_toList, Option.map_eq_some_iff] at h
          obtain ⟨w, hw, rfl⟩ := h
          exact ⟨[], rest, rfl, rfl, hw⟩
        · obtain ⟨before, after, rfl, hstamp, hhighest⟩ := ih.1 h
          exact ⟨.report :: before, after, rfl, hstamp, hhighest⟩
    · rintro ⟨before, after, hactions, hstamp, hhighest⟩
      cases before with
      | nil =>
        obtain ⟨rfl, rfl⟩ := List.cons.inj hactions
        rw [gaugeSeries, List.mem_append]
        simp only [stampAfter, highestAfter] at hstamp hhighest
        exact .inl (by simp [hhighest, hstamp])
      | cons b before =>
        obtain ⟨rfl, rfl⟩ := List.cons.inj hactions
        cases a with
        | event e => exact ih.2 ⟨before, after, rfl, hstamp, hhighest⟩
        | report =>
          rw [gaugeSeries, List.mem_append]
          exact .inr (ih.2 ⟨before, after, rfl, hstamp, hhighest⟩)

theorem gaugeSeries_pairwise {t : Nat} {highest : Option W} {actions : List (Action E)} :
    (gaugeSeries advance measure t highest actions).Pairwise (fun p q => p.1 = q.1 → p.2 = q.2) ↔
      ∀ before between after, actions = before ++ .report :: (between ++ .report :: after) →
        ∀ x y, highestAfter measure highest before = some x →
          highestAfter measure (some x) between = some y →
          stampAfter advance t before = stampAfter advance t (before ++ between) → x = y := by
  induction actions generalizing t highest with
  | nil => simp [gaugeSeries]
  | cons a rest ih =>
    cases a with
    | event e =>
      rw [gaugeSeries, ih]
      constructor
      · intro h before between after hactions x y
        cases before with
        | nil => cases hactions
        | cons b before =>
          obtain ⟨rfl, hrest⟩ := List.cons.inj hactions
          exact h before between after hrest x y
      · intro h before between after hactions x y
        exact h (.event e :: before) between after (by rw [hactions]; rfl) x y
    | report =>
      rw [gaugeSeries, List.pairwise_append, ih]
      constructor
      · rintro ⟨-, hrest, hcross⟩ before between after hactions x y hx hy hstamp
        cases before with
        | cons b before =>
          obtain ⟨rfl, hrest'⟩ := List.cons.inj hactions
          exact hrest before between after hrest' x y hx hy hstamp
        | nil =>
          obtain ⟨-, rfl⟩ := List.cons.inj hactions
          simp only [highestAfter] at hx
          subst hx
          exact hcross (t, x) (by simp) (stampAfter advance t between, y)
            (mem_gaugeSeries.2 ⟨between, after, rfl, rfl, hy⟩) hstamp
      · intro h
        refine ⟨by cases highest <;> simp, fun before between after hactions x y hx hy hstamp =>
          h (.report :: before) between after (by rw [hactions]; rfl) x y hx hy hstamp, ?_⟩
        rintro p hp q hq hstamp
        simp only [Option.mem_toList, Option.map_eq_some_iff] at hp
        obtain ⟨w, rfl, rfl⟩ := hp
        obtain ⟨between, after, rfl, hbetween, hq⟩ := mem_gaugeSeries.1 hq
        exact h [] between after rfl w q.2 rfl hq (hstamp.trans hbetween.symm)

/-- Two readings with one stamp agree exactly if nothing raises the gauge between them. -/
theorem gaugeSeries_consistent_iff (t : Nat) (actions : List (Action E)) :
    (gaugeSeries advance measure t none actions).Pairwise (fun p q => p.1 = q.1 → p.2 = q.2) ↔
      Settled advance measure t actions := by
  rw [gaugeSeries_pairwise]
  constructor
  · intro h before between after hactions hmeasured hstamp w hw
    rcases @highestAfter_none _ _ _ measure before with ⟨-, hnil⟩ | ⟨x, hx, hmem, -⟩
    · exact absurd hnil hmeasured
    · obtain ⟨y, hy, -, -, hall⟩ := @highestAfter_some _ _ _ measure x between
      have hxy := h before between after hactions x y hx hy hstamp
      exact ⟨x, hmem, hxy ▸ hall w hw⟩
  · intro h before between after hactions x y hx hy hstamp
    rcases @highestAfter_none _ _ _ measure before with ⟨hnone, -⟩ | ⟨x', hx', hmem, hall⟩
    · rw [hnone] at hx
      cases hx
    · obtain rfl : x' = x := Option.some.inj (hx'.symm.trans hx)
      obtain ⟨y', hy', hmem', hle, -⟩ := @highestAfter_some _ _ _ measure x' between
      obtain rfl : y' = y := Option.some.inj (hy'.symm.trans hy)
      rcases hmem' with rfl | hmem'
      · rfl
      · obtain ⟨w, hw, hle'⟩ := h before between after hactions (List.ne_nil_of_mem hmem) hstamp y'
          hmem'
        exact le_antisymm hle (hle'.trans (hall w hw))

/-- A gauge whose measurements all advance the stamp is settled. -/
theorem settled_of_covers (hcovers : ∀ e, (measure e).isSome = true → (advance e).isSome = true)
    {t : Nat} {actions : List (Action E)}
    (hincreasing : (collect advance actions).Pairwise (· < ·)) :
    Settled advance measure t actions := by
  have hadvances : ∀ {as : List (Action E)} {w : W}, w ∈ collect measure as →
      ∃ s, s ∈ collect advance as := by
    intro as w hw
    obtain ⟨e, he, hmeasure⟩ := mem_collect.1 hw
    obtain ⟨s, hs⟩ := Option.isSome_iff_exists.1 (hcovers e (by rw [hmeasure]; rfl))
    exact ⟨s, mem_collect.2 ⟨e, he, hs⟩⟩
  intro before between after hactions hmeasured hstamp w hw
  obtain ⟨v, hv⟩ := List.exists_mem_of_ne_nil _ hmeasured
  obtain ⟨s, hs⟩ := hadvances hv
  obtain ⟨s', hs'⟩ := hadvances hw
  have hbefore := stampAfter_mem (t := t) hs
  have hbetween := stampAfter_mem (t := stampAfter advance t before) hs'
  rw [stampAfter_append] at hstamp
  rw [← hstamp] at hbetween
  rw [hactions, collect_append, collect, collect_append, List.pairwise_append] at hincreasing
  exact absurd (hincreasing.2.2 _ hbefore _ (List.mem_append_left _ hbetween)) (Nat.lt_irrefl _)

/-- A gauge that is always measured with one value is settled. -/
theorem settled_of_constant {x : W} {t : Nat} {actions : List (Action E)}
    (h : ∀ w ∈ collect measure actions, w = x) : Settled advance measure t actions := by
  intro before between after hactions hmeasured _ w hw
  rw [hactions, collect_append, collect, collect_append, collect] at h
  obtain ⟨v, hv⟩ := List.exists_mem_of_ne_nil _ hmeasured
  have hvalue : v = x := h v (List.mem_append_left _ hv)
  have hvalue' : w = x := h w (List.mem_append_right _ (List.mem_append_left _ hw))
  exact ⟨v, hv, by rw [hvalue, hvalue']⟩

end

end Series
