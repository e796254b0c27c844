import Mathlib.Logic.Function.Basic

/-!
# Tables as functions
-/

namespace Foundations

open Function

/-- What an updated table has at a key is the new value, or what it had. -/
lemma update_cases {α β : Type} [DecidableEq α] {f : α → β} {a b : α} {x y : β}
    (h : update f a x b = y) : b = a ∧ x = y ∨ b ≠ a ∧ f b = y := by
  rcases eq_or_ne b a with rfl | hne
  · exact .inl ⟨rfl, (update_self ..).symm.trans h⟩
  · exact .inr ⟨hne, (update_of_ne hne ..).symm.trans h⟩

end Foundations
