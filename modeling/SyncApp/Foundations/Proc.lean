import Mathlib.Logic.Basic

/-!
# Programs that fail part-way

A program over shared memory that fails leaves the memory as far as it got.  It refines a function
on values if it gives the same result, shows the value returned, and changes nothing else.

Main results:

- `Refines.of_exec`: how refinements compose along a program.
-/

namespace Foundations

/-- Programs over memory `H` with errors `E`. -/
abbrev Proc (H E α : Type) := ExceptT E (StateM H) α

namespace Proc

variable {H S E α β : Type}

/-- The result of a program and the memory it leaves, also when it fails. -/
def exec (m : Proc H E α) (h : H) : Except E α × H := m.run.run h

@[simp]
lemma exec_pure (a : α) (h : H) : exec (pure a : Proc H E α) h = (.ok a, h) :=
  rfl

@[simp]
lemma exec_throw (e : E) (h : H) : exec (throw e : Proc H E α) h = (.error e, h) :=
  rfl

@[simp]
lemma exec_get (h : H) : exec (get : Proc H E H) h = (.ok h, h) :=
  rfl

@[simp]
lemma exec_set (h h' : H) : exec (set h' : Proc H E PUnit) h = (.ok ⟨⟩, h') :=
  rfl

lemma exec_bind (m : Proc H E α) (k : α → Proc H E β) (h : H) :
    exec (m >>= k) h =
      match exec m h with
      | (.ok a, h') => exec (k a) h'
      | (.error e, h') => (.error e, h') := by
  simp only [exec, ExceptT.run_bind, StateT.run_bind]
  cases hm : (StateT.run (ExceptT.run m) h : Id _) with
  | mk r h' =>
    cases r with
    | ok | error => rfl

/-- The program, started in `h`, refines a function on values: it gives its result, leaves memory
with its value as view and the invariant, and stays within `Keeps`. -/
def Refines (Inv : H → Prop) (view : H → S) (Keeps : H → H → Prop) (h : H)
    (m : Proc H E α) (f : S → Except E (α × S)) : Prop :=
  Keeps h (exec m h).2 ∧
    match f (view h) with
    | .ok (a, s) => (exec m h).1 = .ok a ∧ view (exec m h).2 = s ∧ Inv (exec m h).2
    | .error e => (exec m h).1 = .error e

variable {Inv : H → Prop} {view : H → S} {Keeps : H → H → Prop} {h : H}

variable {f : S → Except E (α × S)} {m : Proc H E α}

lemma Refines.throw (hkeeps : Keeps h h) {e : E} (hf : f (view h) = .error e) :
    Refines Inv view Keeps h (throw e : Proc H E α) f := by
  refine ⟨hkeeps, ?_⟩
  rw [hf]
  rfl

/-- A program that cannot fail: one fact about the memory it leaves. -/
theorem Refines.of_exec {a : α} {h' : H} (hexec : exec m h = (.ok a, h'))
    (hf : f (view h) = .ok (a, view h')) (hkeeps : Keeps h h') (hinv : Inv h') :
    Refines Inv view Keeps h m f := by
  refine ⟨by rw [hexec]; exact hkeeps, ?_⟩
  rw [hf, hexec]
  exact ⟨rfl, rfl, hinv⟩

lemma Refines.bind (htrans : ∀ a b c, Keeps a b → Keeps b c → Keeps a c) {k : α → Proc H E β}
    {g : α → S → Except E (β × S)} (hm : Refines Inv view Keeps h m f)
    (hk : ∀ a h', exec m h = (.ok a, h') → Keeps h h' → Inv h' →
      Refines Inv view Keeps h' (k a) (g a)) :
    Refines Inv view Keeps h (m >>= k) (fun s => f s >>= fun r => g r.1 r.2) := by
  rcases hm with ⟨hkeeps, hres⟩
  unfold Refines
  rw [exec_bind]
  rcases hexec : exec m h with ⟨r, h'⟩
  rw [hexec] at hkeeps hres
  cases hf : f (view h) with
  | error =>
    simp only [hf] at hres
    subst hres
    refine ⟨hkeeps, ?_⟩
    simp only [hf]
    rfl
  | ok result =>
    rcases result with ⟨a, s⟩
    simp only [hf] at hres
    rcases hres with ⟨rfl, rfl, hinv⟩
    rcases hk a h' hexec hkeeps hinv with ⟨hkeeps', hresult'⟩
    refine ⟨htrans _ _ _ hkeeps hkeeps', ?_⟩
    simp only [hf]
    exact hresult'

/-- A function on values as one that returns nothing else. -/
def unit (f : S → Except E S) (s : S) : Except E (Unit × S) := (f s).map (Prod.mk ())

lemma Refines.seq (htrans : ∀ a b c, Keeps a b → Keeps b c → Keeps a c)
    {m : Proc H E Unit} {k : Proc H E β} {f : S → Except E S} {g : S → Except E (β × S)}
    (hm : Refines Inv view Keeps h m (unit f))
    (hk : ∀ h', Keeps h h' → Inv h' → Refines Inv view Keeps h' k g) :
    Refines Inv view Keeps h (m >>= fun _ => k) (fun s => f s >>= g) := by
  have hbind := Refines.bind (k := fun _ => k) (g := fun _ => g) htrans hm
    (fun _ h' _ hkeeps hinv => hk h' hkeeps hinv)
  have hsame : (fun s => unit f s >>= fun r => g r.2) = fun s => f s >>= g := by
    funext s
    unfold unit
    cases f s with
    | error | ok => rfl
  rw [hsame] at hbind
  exact hbind

/-- Refinement looks at the function at one value only. -/
lemma Refines.congr {g : S → Except E (α × S)} (hm : Refines Inv view Keeps h m f)
    (hfg : g (view h) = f (view h)) : Refines Inv view Keeps h m g := by
  unfold Refines
  rw [hfg]
  exact hm

end Proc
end Foundations
