import Mathlib.Logic.Basic

/-!
# Deterministic machines with inputs and outputs

A machine takes a list of inputs, one step each, and answers every one.

Main results:

- `invariant_final`, `guarded_final`: what each step keeps holds after every run.
- `forall_final_iff_guarded`: what holds at every point exactly if each step is admitted.
- `outputs_eq_of_simulation`: machines related by a simulation answer alike.
-/

namespace Foundations.Machine

variable {S T I O : Type} (step : S → I → O × S)

/-- The state after a list of inputs. -/
def final : S → List I → S
  | s, [] => s
  | s, i :: is => final (step s i).2 is

/-- The answers to a list of inputs. -/
def outputs : S → List I → List O
  | _, [] => []
  | s, i :: is => (step s i).1 :: outputs (step s i).2 is

/-- Every input meets the guard in the state it is applied to. -/
def Guarded (guard : S → I → Prop) : S → List I → Prop
  | _, [] => True
  | s, i :: is => guard s i ∧ Guarded guard (step s i).2 is

instance decidableGuarded (guard : S → I → Prop) [∀ s i, Decidable (guard s i)] :
    ∀ (s : S) (is : List I), Decidable (Guarded step guard s is)
  | _, [] => isTrue trivial
  | s, i :: is =>
    have := decidableGuarded guard (step s i).2 is
    inferInstanceAs (Decidable (guard s i ∧ Guarded step guard (step s i).2 is))

variable (s : S) (is js : List I)

@[simp]
lemma final_nil : final step s [] = s :=
  rfl

@[simp]
lemma final_cons (i : I) (is : List I) : final step s (i :: is) = final step (step s i).2 is :=
  rfl

lemma outputs_cons (i : I) (is : List I) :
    outputs step s (i :: is) = (step s i).1 :: outputs step (step s i).2 is :=
  rfl

lemma final_append : final step s (is ++ js) = final step (final step s is) js := by
  induction is generalizing s with
  | nil => rfl
  | cons i is ih => exact ih _

lemma length_outputs : (outputs step s is).length = is.length := by
  induction is generalizing s with
  | nil => rfl
  | cons i is ih => exact congrArg (· + 1) (ih _)

lemma outputs_append :
    outputs step s (is ++ js) = outputs step s is ++ outputs step (final step s is) js := by
  induction is generalizing s with
  | nil => rfl
  | cons i is ih => exact congrArg (_ :: ·) (ih _)

variable {guard : S → I → Prop} {Inv : S → Prop} {s : S} {is : List I}

lemma guarded_append (s : S) (is js : List I) : Guarded step guard s (is ++ js) ↔
      Guarded step guard s is ∧ Guarded step guard (final step s is) js := by
  induction is generalizing s with
  | nil => simp [Guarded]
  | cons i is ih => simp [Guarded, ih, and_assoc]

lemma guarded_true (s : S) (is : List I) : Guarded step (fun _ _ => True) s is := by
  induction is generalizing s with
  | nil => trivial
  | cons i is ih => exact ⟨trivial, ih _⟩

theorem invariant_final (hstep : ∀ s i, Inv s → Inv (step s i).2) (hs : Inv s) (is : List I) :
    Inv (final step s is) := by
  induction is generalizing s with
  | nil => exact hs
  | cons i is ih => exact ih (hstep s i hs)

/-- An invariant kept by every step that meets the guard holds after every run
whose steps all meet it. -/
theorem guarded_final (hstep : ∀ s i, Inv s → guard s i → Inv (step s i).2) (hs : Inv s)
    (hrun : Guarded step guard s is) : Inv (final step s is) := by
  induction is generalizing s with
  | nil => exact hs
  | cons i is ih => exact ih (hstep s i hs hrun.1) hrun.2

/-- Where a step keeps an invariant exactly if it meets a guard, the invariant holds throughout a
run exactly if all its steps meet the guard. -/
theorem forall_final_iff_guarded {P : S → Prop} {admitted : S → I → Prop}
    (hkeep : ∀ s i, P s → admitted s i → P (step s i).2)
    (hstep : ∀ s i, P s → Inv s → admitted s i → (Inv (step s i).2 ↔ guard s i)) (hs : P s)
    (hinv : Inv s) (hrun : Guarded step admitted s is) :
    (∀ before rest, is = before ++ rest → Inv (final step s before)) ↔ Guarded step guard s is := by
  induction is generalizing s with
  | nil =>
    constructor
    · intro _
      trivial
    · intro _ before rest hsplit
      rw [(List.append_eq_nil_iff.mp hsplit.symm).1]
      exact hinv
  | cons i is ih =>
    rcases hrun with ⟨hnow, hlater⟩
    have hmeets := hstep s i hs hinv hnow
    have hs' := hkeep s i hs hnow
    constructor
    · intro h
      have hinv' := h [i] is rfl
      refine ⟨hmeets.mp hinv', (ih hs' hinv' hlater).mp ?_⟩
      intro before rest hsplit
      exact h (i :: before) rest (congrArg (i :: ·) hsplit)
    · rintro ⟨hguard, hguards⟩ before rest hsplit
      cases before with
      | nil => exact hinv
      | cons j before =>
        rcases List.cons.inj hsplit with ⟨rfl, htail⟩
        exact (ih hs' (hmeets.mpr hguard) hlater).mpr hguards before rest htail

/-- Two machines whose related states answer alike and stay related give the same answers along runs
that meet the guard. -/
theorem outputs_eq_of_simulation {step' : T → I → O × T} {R : S → T → Prop}
    (hstep : ∀ s t i, R s t → guard s i →
      (step s i).1 = (step' t i).1 ∧ R (step s i).2 (step' t i).2) {t : T} (hst : R s t)
    (hrun : Guarded step guard s is) : outputs step s is = outputs step' t is := by
  induction is generalizing s t with
  | nil => rfl
  | cons i is ih =>
    rcases hstep s t i hst hrun.1 with ⟨hout, hnext⟩
    simp only [outputs]
    rw [hout, ih hnext hrun.2]

lemma bind_eq_ok {E α β : Type} {x : Except E α} {f : α → Except E β} {b : β} :
    x >>= f = .ok b ↔ ∃ a, x = .ok a ∧ f a = .ok b := by
  cases x <;> simp [bind, Except.bind]

/-- Two results agree when both fail, or both succeed with related values. -/
inductive Agree {E F α β : Type} (R : α → β → Prop) : Except E α → Except F β → Prop where
  | error (e : E) (f : F) : Agree R (.error e) (.error f)
  | ok {a : α} {b : β} (h : R a b) : Agree R (.ok a) (.ok b)

namespace Agree

variable {E F α β γ δ : Type} {R : α → β → Prop} {Q : γ → δ → Prop}

variable {x : Except E α} {y : Except F β}

variable (hxy : Agree R x y)
include hxy

lemma bind {f : α → Except E γ} {g : β → Except F δ} (hfg : ∀ a b, R a b → Agree Q (f a) (g b)) :
    Agree Q (x >>= f) (y >>= g) := by
  cases hxy with
  | error e e' => exact .error e e'
  | ok h => exact hfg _ _ h

lemma mono {Q : α → β → Prop} (hRQ : ∀ a b, R a b → Q a b) : Agree Q x y := by
  cases hxy with
  | error e f => exact .error e f
  | ok h => exact .ok (hRQ _ _ h)

lemma isOk_eq : x.isOk = y.isOk := by
  cases hxy with
  | error | ok => rfl

end Agree

end Foundations.Machine
