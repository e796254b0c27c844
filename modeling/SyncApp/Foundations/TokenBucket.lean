import Mathlib.Tactic.Linarith
import Mathlib.Tactic.Ring

/-!
# Token buckets

A bucket is refilled at a steady rate up to its capacity, and an action that is admitted takes one
token.

Main results:

- `level_later`: the level after a time, which bounds what is admitted from then on.
-/

namespace Foundations

/-- A bucket, with the time of its last refill. -/
structure Bucket where
  capacity : ℚ
  tokens : ℚ
  refill : ℚ
  last : ℚ

namespace Bucket

def level (b : Bucket) (now : ℚ) : ℚ :=
  min b.capacity (b.tokens + (now - b.last) * b.refill)

/-- One token is taken if it is there. -/
def allow (b : Bucket) (now : ℚ) : Bool × Bucket :=
  let level := b.level now
  if 1 ≤ level then (true, { b with tokens := level - 1, last := now })
  else (false, { b with tokens := level, last := now })

/-- The bucket holds no debt and no more than it can, and was not refilled later. -/
structure Sound (b : Bucket) (now : ℚ) : Prop where
  refill_nonneg : 0 ≤ b.refill
  tokens_nonneg : 0 ≤ b.tokens
  tokens_le : b.tokens ≤ b.capacity
  last_le : b.last ≤ now

variable {b : Bucket} {now later : ℚ}

lemma Sound.level_nonneg (h : b.Sound now) : 0 ≤ b.level now := by
  have hgain : 0 ≤ (now - b.last) * b.refill :=
    mul_nonneg (sub_nonneg.mpr h.last_le) h.refill_nonneg
  have htok := h.tokens_nonneg
  exact le_min (htok.trans h.tokens_le) (by linarith)

lemma Sound.mono (h : b.Sound now) (hle : now ≤ later) : b.Sound later :=
  { h with last_le := h.last_le.trans hle }

theorem level_later (b : Bucket) (hrefill : 0 ≤ b.refill) (hle : now ≤ later) :
    b.level later = min b.capacity (b.level now + b.refill * (later - now)) := by
  have hgain : 0 ≤ b.refill * (later - now) := mul_nonneg hrefill (sub_nonneg.mpr hle)
  have hsplit : (later - b.last) * b.refill =
      (now - b.last) * b.refill + b.refill * (later - now) := by ring
  rw [level, level, hsplit, ← add_assoc]
  rcases le_total b.capacity (b.tokens + (now - b.last) * b.refill) with hfull | hfull
  · rw [min_eq_left hfull, min_eq_left (le_add_of_nonneg_right hgain),
      min_eq_left (hfull.trans (le_add_of_nonneg_right hgain))]
  · rw [min_eq_right hfull]

lemma level_le_capacity (b : Bucket) (now : ℚ) : b.level now ≤ b.capacity := min_le_left _ _

lemma level_last (h : b.tokens ≤ b.capacity) : b.level b.last = b.tokens := by
  rw [level, sub_self, zero_mul, add_zero, min_eq_right h]

lemma allow_settings (b : Bucket) (now : ℚ) : (b.allow now).2.capacity = b.capacity ∧
    (b.allow now).2.refill = b.refill ∧ (b.allow now).2.last = now := by
  unfold allow
  dsimp only
  split
  · exact ⟨rfl, rfl, rfl⟩
  · exact ⟨rfl, rfl, rfl⟩

lemma allow_fst (b : Bucket) (now : ℚ) : (b.allow now).1 = decide (1 ≤ b.level now) := by
  unfold allow
  dsimp only
  split
  · next hone => exact (decide_eq_true hone).symm
  · next hnone => exact (decide_eq_false hnone).symm

lemma Sound.allow (h : b.Sound now) : (b.allow now).2.Sound now ∧
    (b.allow now).2.level now + (if (b.allow now).1 then 1 else 0) = b.level now := by
  have hnonneg := h.level_nonneg
  have hle := b.level_le_capacity now
  unfold Bucket.allow
  dsimp only
  split
  · next hone =>
    have htok : b.level now - 1 ≤ b.capacity := by linarith
    refine ⟨⟨h.refill_nonneg, sub_nonneg.mpr hone, htok, le_rfl⟩, ?_⟩
    exact (congrArg (· + 1) (level_last htok)).trans (sub_add_cancel _ _)
  · refine ⟨⟨h.refill_nonneg, hnonneg, hle, le_rfl⟩, ?_⟩
    rw [if_neg (by simp), add_zero]
    exact level_last hle

end Bucket
end Foundations
