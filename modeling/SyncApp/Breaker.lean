import SyncApp.Foundations.Machine

/-!
# The circuit breaker

The breaker of `server/pkg/breaker/breaker.go`.  The clock is an argument, and a call through the
breaker says whether it succeeded.

Main results:

- `doCall_state`: a call is made if the breaker allows it.
- `Traffic.probes_within_max`: when a half-open breaker keeps to its bound and is closed by its own
  probe.
-/

namespace SyncApp

open Foundations

/-- `State`. -/
inductive BreakerState where
  | closed
  | opened
  | halfOpen
deriving DecidableEq

structure Breaker where
  state : BreakerState
  failures : Int
  threshold : Int
  cooldown : Int
  openedAt : Int
  halfOpenMax : Int
  halfOpen : Int

/-- What becomes of a call through a breaker.  `errOpen` is `ErrOpen`. -/
inductive CallResult where
  | errOpen
  | failed
  | ok

namespace Breaker

/-- `New`, with times in milliseconds. -/
def new (threshold cooldown : Int) : Breaker where
  state := .closed
  failures := 0
  threshold := if threshold ≤ 0 then 5 else threshold
  cooldown := if cooldown ≤ 0 then 5000 else cooldown
  openedAt := 0
  halfOpenMax := 1
  halfOpen := 0

variable (b : Breaker)

def allow (now : Int) : Bool × Breaker :=
  match b.state with
  | .closed => (true, b)
  | .opened =>
    if now - b.openedAt ≥ b.cooldown then (true, { b with state := .halfOpen, halfOpen := 0 })
    else (false, b)
  | .halfOpen =>
    if b.halfOpen < b.halfOpenMax then (true, { b with halfOpen := b.halfOpen + 1 })
    else (false, b)

def success : Breaker :=
  { b with failures := 0, state := if b.state = .halfOpen then .closed else b.state }

def failure (now : Int) : Breaker :=
  let b := { b with failures := b.failures + 1 }
  if b.state = .halfOpen ∨ (b.state = .closed ∧ b.failures ≥ b.threshold) then
    { b with state := .opened, openedAt := now }
  else b

/-- `Do`, for a call that is begun and done at the times given. -/
def doCall {S : Type} (b : Breaker) (started finished : Int) (fn : S → Bool × S) (s : S) :
    CallResult × Breaker × S :=
  let (allowed, b) := b.allow started
  if !allowed then (.errOpen, b, s)
  else
    let (succeeded, s) := fn s
    if succeeded then (.ok, b.success, s) else (.failed, b.failure finished, s)

/-- A call is made if the breaker allows it, and otherwise nothing happens. -/
theorem doCall_state {S : Type} (b : Breaker) (started finished : Int) (fn : S → Bool × S) (s : S) :
    (b.doCall started finished fn s).2.2 = if (b.allow started).1 then (fn s).2 else s := by
  unfold doCall
  cases hallow : b.allow started with
  | mk allowed b' =>
    cases allowed with
    | false => rfl
    | true =>
      cases hfn : fn s with
      | mk succeeded s' => cases succeeded <;> rfl

/-! ## Calls under way -/

/-- The breaker, the number of half-open periods so far, and the calls under way, each with the
period it was admitted in. -/
structure Traffic where
  breaker : Breaker
  period : Nat
  calls : List (Option Nat)

inductive Event where
  | allow (now : Int)
  /-- One of the calls under way reports. -/
  | report (i : Nat) (succeeded : Bool) (now : Int)

namespace Traffic

variable (t : Traffic)

def step : Event → Bool × Traffic
  | .allow now =>
    let (allowed, b) := t.breaker.allow now
    let period := if t.breaker.state = .opened ∧ allowed then t.period + 1 else t.period
    let call := if b.state = .halfOpen then some period else none
    (allowed, ⟨b, period, if allowed then t.calls ++ [call] else t.calls⟩)
  | .report i succeeded now =>
    if i < t.calls.length then
      let b := if succeeded then t.breaker.success else t.breaker.failure now
      (true, ⟨b, t.period, t.calls.eraseIdx i⟩)
    else (false, t)

/-- Nobody asks while the probe of a period is under way, and a period begins when all calls have
reported. -/
def Sole : Event → Prop
  | .allow now => t.breaker.state ≠ .halfOpen ∧
      (t.breaker.state = .opened → (t.breaker.allow now).1 = true → t.calls = [])
  | .report .. => True

instance (t : Traffic) : ∀ e : Event, Decidable (t.Sole e)
  | .allow _ => inferInstanceAs (Decidable (_ ∧ _))
  | .report .. => inferInstanceAs (Decidable True)

/-- While half-open no more than `halfOpenMax` calls are under way, and only one of the period
closes the breaker. -/
def Proper : Prop :=
  t.breaker.state = .halfOpen → (t.calls.length : Int) ≤ t.breaker.halfOpenMax ∧
    ∀ e, (t.step e).2.breaker.state = .closed →
      ∃ i now, e = .report i true now ∧ t.calls[i]? = some (some t.period)

/-- One probe is meant to be admitted, and the call with which a period begins is not counted. -/
def Counted : Prop :=
  t.breaker.halfOpenMax = 1 ∧ (t.breaker.state = .halfOpen →
    0 ≤ t.breaker.halfOpen ∧ t.breaker.halfOpen + 1 ≤ t.calls.length)

variable {t : Traffic} {i : Nat} {succeeded : Bool} {now : Int}

/-- A report ends a period. -/
lemma report_not_halfOpen (hi : i < t.calls.length) :
    (t.step (.report i succeeded now)).2.breaker.state ≠ .halfOpen := by
  simp only [step, hi, if_true]
  cases succeeded with
  | true =>
    cases hstate : t.breaker.state with
    | closed | opened | halfOpen => simp [success, hstate]
  | false =>
    cases hstate : t.breaker.state with
    | closed =>
      simp only [Bool.false_eq_true, if_false, failure, hstate]
      split <;> simp
    | opened | halfOpen => simp [failure, hstate]

lemma step_report_of_le (hi : t.calls.length ≤ i) :
    (t.step (.report i succeeded now)).2 = t := by
  simp [step, Nat.not_lt.mpr hi]

/-- What an `Allow` does: it lets a call through, begins a period, counts a probe, or refuses. -/
lemma step_allow_cases (t : Traffic) (now : Int) :
    (t.breaker.state = .closed ∧
      (t.step (.allow now)).2 = ⟨t.breaker, t.period, t.calls ++ [none]⟩) ∨
    (t.breaker.state = .opened ∧ (t.breaker.allow now).1 = true ∧ (t.step (.allow now)).2 =
      ⟨{ t.breaker with state := .halfOpen, halfOpen := 0 }, t.period + 1,
        t.calls ++ [some (t.period + 1)]⟩) ∨
    (t.breaker.state = .halfOpen ∧ t.breaker.halfOpen < t.breaker.halfOpenMax ∧
      (t.step (.allow now)).2 = ⟨{ t.breaker with halfOpen := t.breaker.halfOpen + 1 }, t.period,
        t.calls ++ [some t.period]⟩) ∨
    (t.breaker.state = .opened ∧ (t.breaker.allow now).1 = false ∨
      t.breaker.state = .halfOpen ∧ t.breaker.halfOpenMax ≤ t.breaker.halfOpen) ∧
      (t.step (.allow now)).2 = t := by
  cases hstate : t.breaker.state with
  | closed => simp [step, Breaker.allow, hstate]
  | opened =>
    by_cases hcooled : now - t.breaker.openedAt ≥ t.breaker.cooldown
    · simp [step, Breaker.allow, hstate, hcooled]
    · simp [step, Breaker.allow, hstate, hcooled]
  | halfOpen =>
    by_cases hroom : t.breaker.halfOpen < t.breaker.halfOpenMax
    · simp [step, Breaker.allow, hstate, hroom]
    · simp [step, Breaker.allow, hstate, hroom, Int.not_lt.mp hroom]

/-- The calls of a period are counted whatever is asked and reported. -/
lemma counted_step (e : Event) (h : t.Counted) : (t.step e).2.Counted := by
  cases e with
  | report i succeeded now =>
    rcases Nat.lt_or_ge i t.calls.length with hi | hi
    · refine ⟨?_, fun hhalf => (report_not_halfOpen hi hhalf).elim⟩
      rw [← h.1]
      simp only [step, hi, if_true, success, failure]
      split
      · rfl
      · split <;> rfl
    · rw [step_report_of_le hi]
      exact h
  | allow now =>
    rcases step_allow_cases t now with ⟨hstate, hstep⟩ | ⟨-, -, hstep⟩ | ⟨hstate, -, hstep⟩ |
      ⟨-, hstep⟩
    · rw [hstep]
      exact ⟨h.1, fun hhalf => absurd (hstate.symm.trans hhalf) (by decide)⟩
    · rw [hstep]
      refine ⟨h.1, fun _ => ⟨Int.le_refl 0, ?_⟩⟩
      simp only [List.length_append, List.length_singleton]
      omega
    · have hcount := h.2 hstate
      rw [hstep]
      refine ⟨h.1, fun _ => ?_⟩
      simp only [List.length_append, List.length_singleton]
      omega
    · rw [hstep]
      exact h

/-- The only call under way is the one the period began with, so only that one closes it. -/
lemma proper_of_sole (hcalls : t.calls = [some t.period]) (hmax : t.breaker.halfOpenMax = 1) :
    t.Proper := by
  intro hhalf
  refine ⟨by simp [hcalls, hmax], fun e he => ?_⟩
  cases e with
  | allow now =>
    rcases step_allow_cases t now with ⟨hstate, -⟩ | ⟨hstate, -, -⟩ | ⟨-, -, hstep⟩ | ⟨-, hstep⟩
    · exact absurd (hstate.symm.trans hhalf) (by decide)
    · exact absurd (hstate.symm.trans hhalf) (by decide)
    · rw [hstep] at he
      exact absurd (hhalf.symm.trans he) (by decide)
    · rw [hstep] at he
      exact absurd (hhalf.symm.trans he) (by decide)
  | report i succeeded now =>
    rcases Nat.lt_or_ge i t.calls.length with hi | hi
    · have hfirst : i = 0 := by simpa [hcalls] using hi
      cases succeeded with
      | true => exact ⟨i, now, rfl, by simp [hcalls, hfirst]⟩
      | false => simp [step, hi, failure, hhalf] at he
    · rw [step_report_of_le hi] at he
      exact absurd (hhalf.symm.trans he) (by decide)

/-- A step of a proper state leads to a proper one exactly if it is sole. -/
lemma proper_step_iff (e : Event) (hcnt : t.Counted) (h : t.Proper) :
    (t.step e).2.Proper ↔ t.Sole e := by
  cases e with
  | report i succeeded now =>
    refine iff_of_true ?_ trivial
    rcases Nat.lt_or_ge i t.calls.length with hi | hi
    · exact fun hhalf => (report_not_halfOpen hi hhalf).elim
    · rw [step_report_of_le hi]
      exact h
  | allow now =>
    rcases hcnt with ⟨hmax, hcount⟩
    unfold Sole
    rcases step_allow_cases t now with ⟨hstate, hstep⟩ | ⟨hstate, hallow, hstep⟩ |
      ⟨hstate, -, hstep⟩ | ⟨href, hstep⟩
    · rw [hstep]
      refine iff_of_true (fun hhalf => ?_) (by simp [hstate])
      exact absurd (hstate.symm.trans hhalf) (by decide)
    · rw [hstep]
      simp only [hstate, hallow, ne_eq, reduceCtorEq, not_false_eq_true, forall_const, true_and]
      constructor
      · intro hproper
        have hlen := (hproper rfl).1
        simp only [List.length_append, List.length_singleton, hmax] at hlen
        exact List.length_eq_zero_iff.mp (by omega)
      · intro hnone
        exact proper_of_sole (by simp [hnone]) hmax
    · -- The probe is under way and was not counted, so one more is let through.
      have hprobe := hcount hstate
      refine iff_of_false (fun hproper => ?_) (fun hsole => hsole.1 hstate)
      rw [hstep] at hproper
      have htwo := (hproper hstate).1
      simp only [List.length_append, List.length_singleton, hmax] at htwo
      omega
    · rw [hstep]
      rcases href with ⟨hstate, hallow⟩ | ⟨hstate, hfull⟩
      · exact iff_of_true h (by simp [hstate, hallow])
      · have hprobe := hcount hstate
        have hone := (h hstate).1
        omega

/-- Probes are within the bound, and periods end by their own calls, throughout a run exactly if
every step is sole. -/
theorem probes_within_max (threshold cooldown : Int) (events : List Event) :
    (∀ before rest, events = before ++ rest →
      (Machine.final step ⟨new threshold cooldown, 0, []⟩ before).Proper) ↔
      Machine.Guarded step Sole ⟨new threshold cooldown, 0, []⟩ events :=
  Machine.forall_final_iff_guarded step (fun _ e h _ => counted_step e h)
    (fun _ e hcnt h _ => proper_step_iff e hcnt h) ⟨rfl, nofun⟩ nofun
    (Machine.guarded_true step _ events)

-- A call fails; after the cooldown one is let through, and succeeds.
example : Machine.Guarded step Sole ⟨new 1 1, 0, []⟩
    [.allow 0, .report 0 false 0, .allow 1, .report 0 true 2] := by
  decide

/-- The probe after the first is let through as well, and a call of an earlier period closes the
breaker. -/
theorem probes_over_max :
    (let t := Machine.final step ⟨new 1 1, 0, []⟩
      [.allow 0, .report 0 false 0, .allow 1, .allow 1]
    t.breaker.state = .halfOpen ∧ t.breaker.halfOpenMax = 1 ∧ t.calls.length = 2) ∧
    let t := Machine.final step ⟨new 1 1, 0, []⟩
      [.allow 0, .allow 0, .report 0 false 0, .allow 1]
    t.breaker.state = .halfOpen ∧ t.calls = [none, some 1] ∧
      (t.step (.report 0 true 1)).2.breaker.state = .closed := by
  decide

end Traffic
end Breaker
end SyncApp
