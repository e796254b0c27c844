import Mathlib.Data.List.Range

/-!
# Symmetric key chains

A one-way step turns a chain key into the next one and a message key.  Positions are numbers,
whatever calls took the steps.

Main results:

- `advance_add`, `keyAt_advance`: steps compose.
-/

namespace Foundations.KeyChain

variable {C M : Type} (kdf : C → C × M)

/-- The chain key after `n` steps. -/
def advance (n : Nat) (c : C) : C := (fun x => (kdf x).1)^[n] c

/-- The message key at position `n`. -/
def keyAt (c : C) (n : Nat) : M := (kdf (advance kdf n c)).2

/-- The message keys at the first `n` positions. -/
def keys (c : C) (n : Nat) : List M := (List.range n).map (keyAt kdf c)

variable (c : C) (n m : Nat)

@[simp]
lemma advance_zero : advance kdf 0 c = c :=
  rfl

lemma advance_succ : advance kdf (n + 1) c = (kdf (advance kdf n c)).1 :=
  Function.iterate_succ_apply' _ _ _

theorem advance_add : advance kdf (m + n) c = advance kdf m (advance kdf n c) :=
  Function.iterate_add_apply _ _ _ _

@[simp]
lemma keyAt_zero : keyAt kdf c 0 = (kdf c).2 :=
  rfl

theorem keyAt_advance : keyAt kdf (advance kdf m c) n = keyAt kdf c (m + n) := by
  rw [keyAt, keyAt, ← advance_add, Nat.add_comm]

@[simp]
lemma keys_zero : keys kdf c 0 = [] :=
  rfl

lemma keys_succ : keys kdf c (n + 1) = keys kdf c n ++ [keyAt kdf c n] := by
  simp [keys, List.range_succ]

lemma keys_one : keys kdf c 1 = [(kdf c).2] := by
  simp [keys, List.range_succ]

end Foundations.KeyChain
