import Mathlib.Data.List.Nodup
import Mathlib.Order.Nat
import SyncApp.Foundations.Tables

/-!
# Chains of positions that are used once

Holders stand each at a position of a chain, which is named by the draw it began with, and move
forward on it or begin another.

Main results:

- `Valid.use`: no position is used twice if its holder has moved past it, or does so in the same
  step.
-/

namespace Foundations

open List
open Function (update update_of_ne update_self)

/-- The draws so far, where each holder stands, and the positions used. -/
structure Ledger (D : Type) where
  drawn : Nat
  current : D → Option (Nat × Nat)
  used : List (Nat × Nat)

namespace Ledger

variable {D : Type}

/-- Every holder is on a chain of its own and past whatever was used of it. -/
structure Valid (L : Ledger D) : Prop where
  fresh : ∀ d c n, L.current d = some (c, n) → c < L.drawn
  apart : ∀ d d' c n n', L.current d = some (c, n) → L.current d' = some (c, n') → d = d'
  ahead : ∀ d c n m, L.current d = some (c, n) → (c, m) ∈ L.used → m < n
  old : ∀ c m, (c, m) ∈ L.used → c < L.drawn
  once : L.used.Nodup

/-- A holder may go on from a position: nobody else is on the chain, and nothing from there on
was used. -/
structure Holds (L : Ledger D) (d : D) (c n : Nat) : Prop where
  drawn : c < L.drawn
  only : ∀ d' m, L.current d' = some (c, m) → d' = d ∧ m ≤ n
  unused : ∀ m, (c, m) ∈ L.used → m < n

lemma valid_empty : Valid (⟨0, fun _ => none, []⟩ : Ledger D) :=
  ⟨by simp, by simp, by simp, by simp, nodup_nil⟩

variable {drawn : Nat} {current : D → Option (Nat × Nat)} {used : List (Nat × Nat)}

lemma Valid.draw (h : Valid ⟨drawn, current, used⟩) : Valid ⟨drawn + 1, current, used⟩ where
  fresh d c n hd := Nat.lt_succ_of_lt (h.fresh d c n hd)
  apart := h.apart
  ahead := h.ahead
  old c m hm := Nat.lt_succ_of_lt (h.old c m hm)
  once := h.once

variable {c n : Nat} {d : D} {L : Ledger D}

lemma Holds.draw (h : Holds ⟨drawn, current, used⟩ d c n) :
    Holds ⟨drawn + 1, current, used⟩ d c n :=
  ⟨Nat.lt_succ_of_lt h.drawn, h.only, h.unused⟩

lemma Holds.mono {n' : Nat} (h : L.Holds d c n) (hn : n ≤ n') : L.Holds d c n' where
  drawn := h.drawn
  only d' m hd' := ⟨(h.only d' m hd').1, (h.only d' m hd').2.trans hn⟩
  unused m hm := (h.unused m hm).trans_le hn

lemma Valid.holds (h : L.Valid) (hd : L.current d = some (c, n)) : L.Holds d c n where
  drawn := h.fresh d c n hd
  only d' m hd' := by
    cases h.apart d d' c n m hd hd'
    rw [hd] at hd'
    cases hd'
    exact ⟨rfl, le_rfl⟩
  unused m := h.ahead d c n m hd

lemma Valid.holds_draw (h : Valid ⟨drawn, current, used⟩) (d : D) :
    Holds ⟨drawn + 1, current, used⟩ d drawn 0 where
  drawn := Nat.lt_succ_self drawn
  only d' m hd' := absurd (h.fresh d' drawn m hd') (lt_irrefl drawn)
  unused m hm := absurd (h.old drawn m hm) (lt_irrefl drawn)

theorem Valid.use (h : Valid ⟨drawn, current, used⟩) {m : Nat} (hc : c < drawn)
    (hnew : (c, m) ∉ used) (hpass : ∀ d n, current d = some (c, n) → m < n) :
    Valid ⟨drawn, current, used ++ [(c, m)]⟩ := by
  refine ⟨h.fresh, h.apart, ?_, ?_, ?_⟩
  · intro d c' n m' hd hused
    rcases mem_append.mp hused with hold | hlast
    · exact h.ahead d c' n m' hd hold
    · cases mem_singleton.mp hlast
      exact hpass d n hd
  · intro c' m' hused
    rcases mem_append.mp hused with hold | hlast
    · exact h.old c' m' hold
    · cases mem_singleton.mp hlast
      exact hc
  · exact nodup_append.mpr ⟨h.once, nodup_singleton _, by
      intro a ha b hb heq
      rw [mem_singleton.mp hb] at heq
      exact hnew (heq ▸ ha)⟩

variable [DecidableEq D]

lemma Valid.place (h : Valid ⟨drawn, current, used⟩) {target : Option (Nat × Nat)}
    (hto : ∀ c n, target = some (c, n) → Holds ⟨drawn, current, used⟩ d c n) :
    Valid ⟨drawn, update current d target, used⟩ := by
  -- Everyone stands at the new place, or where they stood.
  refine ⟨?_, ?_, ?_, h.old, h.once⟩
  · intro d' c n hd'
    rcases update_cases hd' with ⟨-, hnew⟩ | ⟨-, hold⟩
    · exact (hto c n hnew).drawn
    · exact h.fresh d' c n hold
  · intro d₁ d₂ c n₁ n₂ h₁ h₂
    rcases update_cases h₁ with ⟨heq₁, hnew₁⟩ | ⟨hne₁, hold₁⟩
    · rcases update_cases h₂ with ⟨heq₂, -⟩ | ⟨-, hold₂⟩
      · rw [heq₁, heq₂]
      · rw [heq₁, ((hto c n₁ hnew₁).only d₂ n₂ hold₂).1]
    · rcases update_cases h₂ with ⟨-, hnew₂⟩ | ⟨-, hold₂⟩
      · exact absurd ((hto c n₂ hnew₂).only d₁ n₁ hold₁).1 hne₁
      · exact h.apart d₁ d₂ c n₁ n₂ hold₁ hold₂
  · intro d' c n m hd' hused
    rcases update_cases hd' with ⟨-, hnew⟩ | ⟨-, hold⟩
    · exact (hto c n hnew).unused m hused
    · exact h.ahead d' c n m hold hused

/-- The position behind one that a holder has moved to may still be used. -/
lemma Valid.use_behind (h : Valid ⟨drawn, update current d (some (c, n + 1)), used⟩)
    (hold : Holds ⟨drawn, current, used⟩ d c n) :
    Valid ⟨drawn, update current d (some (c, n + 1)), used ++ [(c, n)]⟩ := by
  refine h.use hold.drawn (fun hused => lt_irrefl n (hold.unused n hused)) ?_
  intro d' m hd'
  rcases update_cases hd' with ⟨rfl, hnew⟩ | ⟨hne, hkept⟩
  · cases hnew
    exact Nat.lt_succ_self n
  · exact absurd (hold.only d' m hkept).1 hne

lemma Valid.advance (h : Valid ⟨drawn, current, used⟩)
    (hold : Holds ⟨drawn, current, used⟩ d c n) :
    Valid ⟨drawn, update current d (some (c, n + 1)), used ++ [(c, n)]⟩ := by
  apply Valid.use_behind _ hold
  apply h.place
  intro c' n' heq
  cases heq
  exact hold.mono (Nat.le_succ n)

end Ledger
end Foundations
