import Mathlib.Data.List.Basic

/-!
# Keys joined of two texts

Two texts that are joined with a bar to one key.

Main results:

- `joinKey_inj`: the key determines the two if the first has no bar.
-/

namespace Foundations

open List

/-- A text that can be the first part of a joined key. -/
structure KeyPart where
  text : String
  noBar : '|' ∉ text.toList
deriving DecidableEq

lemma KeyPart.text_inj {a b : KeyPart} : a.text = b.text ↔ a = b := by
  rcases a with ⟨a, ha⟩
  rcases b with ⟨b, hb⟩
  rw [KeyPart.mk.injEq]

/-- Two texts with a bar between them. -/
def joinKey (a b : String) : String := a ++ "|" ++ b

/-- A list is cut in one way only at the first place where an entry stands. -/
lemma append_cons_inj {α : Type} {c : α} {xs xs' ys ys' : List α} (hxs : c ∉ xs)
    (hxs' : c ∉ xs') (h : xs ++ c :: ys = xs' ++ c :: ys') : xs = xs' ∧ ys = ys' := by
  induction xs generalizing xs' with
  | nil =>
    cases xs' with
    | nil => exact ⟨rfl, (cons.inj h).2⟩
    | cons => exact absurd (cons.inj h).1 (ne_of_not_mem_cons hxs')
  | cons x xs ih =>
    cases xs' with
    | nil => exact absurd (cons.inj h).1.symm (ne_of_not_mem_cons hxs)
    | cons =>
      rcases cons.inj h with ⟨rfl, hrest⟩
      rcases ih (not_mem_of_not_mem_cons hxs) (not_mem_of_not_mem_cons hxs') hrest
        with ⟨rfl, rfl⟩
      exact ⟨rfl, rfl⟩

theorem joinKey_inj {a a' : KeyPart} {b b' : String} :
    joinKey a.text b = joinKey a'.text b' ↔ a = a' ∧ b = b' := by
  constructor
  · intro h
    have hlist := congrArg String.toList h
    simp only [joinKey, String.toList_append, append_assoc] at hlist
    rcases append_cons_inj a.noBar a'.noBar hlist with ⟨ha, hb⟩
    exact ⟨KeyPart.text_inj.mp (String.toList_inj.mp ha), String.toList_inj.mp hb⟩
  · rintro ⟨rfl, rfl⟩
    rfl

end Foundations
