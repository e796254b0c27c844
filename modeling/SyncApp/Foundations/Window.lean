import Mathlib.Data.List.DropRight

/-!
# Windows and numbered lists

A window holds the last entries of a list that grows at its end.  A list is numbered if its entries
carry consecutive numbers.

Main results:

- `push_eq`: a push keeps the last entries of the longer list.
-/

namespace Foundations

open List

variable {α : Type}

namespace Window

variable (cap : Nat) (xs new : List α)

/-- Append entries, and drop the oldest ones beyond the capacity. -/
def push : List α :=
  if cap < (xs ++ new).length then (xs ++ new).drop ((xs ++ new).length - cap) else xs ++ new

theorem push_eq : push cap xs new = (xs ++ new).rtake cap := by
  unfold push rtake
  split
  · rfl
  · next hfits =>
    rw [Nat.sub_eq_zero_of_le (Nat.le_of_not_lt hfits), drop_zero]

variable {β : Type} {n : Nat} {xs ys : List α} {p : α → Bool}

lemma map_rtake (f : α → β) (n : Nat) (xs : List α) :
    (xs.rtake n).map f = (xs.map f).rtake n := by
  unfold rtake
  rw [map_drop, length_map]

lemma map_push (f : α → β) (cap : Nat) (xs new : List α) :
    (push cap xs new).map f = push cap (xs.map f) (new.map f) := by
  rw [push_eq, push_eq, map_rtake, map_append]

lemma length_rtake (n : Nat) (xs : List α) : (xs.rtake n).length = min n xs.length := by
  unfold rtake
  rw [length_drop]
  omega

lemma rtake_suffix (n : Nat) (xs : List α) : xs.rtake n <:+ xs :=
  drop_suffix _ _

lemma rtake_of_length_le (h : xs.length ≤ n) : xs.rtake n = xs := by
  unfold rtake
  rw [Nat.sub_eq_zero_of_le h, drop_zero]

lemma rtake_append_of_length_le (h : ys.length ≤ n) :
    (xs ++ ys).rtake n = xs.rtake (n - ys.length) ++ ys := by
  unfold rtake
  rw [drop_append, length_append]
  congr 1
  · congr 1
    omega
  · rw [Nat.sub_eq_zero_of_le (by omega), drop_zero]

lemma rtake_append_of_le_length (h : n ≤ ys.length) : (xs ++ ys).rtake n = ys.rtake n := by
  unfold rtake
  rw [drop_append, length_append, drop_of_length_le (by omega), nil_append]
  congr 1
  omega

lemma rtake_rtake (m n : Nat) (xs : List α) : (xs.rtake m).rtake n = xs.rtake (min m n) := by
  unfold rtake
  rw [drop_drop, length_drop]
  congr 1
  omega

lemma getLast?_rtake (hn : 0 < n) (xs : List α) : (xs.rtake n).getLast? = xs.getLast? := by
  unfold rtake
  rw [getLast?_drop]
  split
  · have hnil : xs = [] := length_eq_zero_iff.mp (by omega)
    rw [hnil]
    rfl
  · rfl

lemma push_rtake (xs new : List α) : push cap (xs.rtake cap) new = (xs ++ new).rtake cap := by
  rw [push_eq]
  rcases Nat.le_total new.length cap with hfits | hfull
  · rw [rtake_append_of_length_le hfits, rtake_append_of_length_le hfits, rtake_rtake,
      Nat.min_eq_right (Nat.sub_le _ _)]
  · rw [rtake_append_of_le_length hfull, rtake_append_of_le_length hfull]

lemma filter_append_right (hxs : ∀ x ∈ xs, p x = false) (hys : ∀ y ∈ ys, p y = true) :
    (xs ++ ys).filter p = ys := by
  have hnone : xs.filter p = [] := by
    rw [filter_eq_nil_iff]
    exact fun x hx => Bool.not_eq_true _ ▸ hxs x hx
  rw [filter_append, hnone, filter_eq_self.mpr hys, nil_append]

lemma filter_append_left (hxs : ∀ x ∈ xs, p x = true) (hys : ∀ y ∈ ys, p y = false) :
    (xs ++ ys).filter p = xs := by
  have hnone : ys.filter p = [] := by
    rw [filter_eq_nil_iff]
    exact fun y hy => Bool.not_eq_true _ ▸ hys y hy
  rw [filter_append, hnone, filter_eq_self.mpr hxs, append_nil]

end Window

/-- The entries carry consecutive numbers. -/
def Numbered (num : α → Nat) (first : Nat) (xs : List α) : Prop :=
  xs.map num = range' first xs.length
deriving Decidable

namespace Numbered

variable {num : α → Nat} {first : Nat} {xs ys : List α}

lemma nil (num : α → Nat) (first : Nat) : Numbered num first [] :=
  rfl

variable {x : α}

@[simp]
lemma cons_iff : Numbered num first (x :: xs) ↔ num x = first ∧ Numbered num (first + 1) xs := by
  unfold Numbered
  rw [map_cons, length_cons, range'_succ, cons.injEq]

lemma append_iff : Numbered num first (xs ++ ys) ↔
      Numbered num first xs ∧ Numbered num (first + xs.length) ys := by
  induction xs generalizing first with
  | nil => simp [nil]
  | cons x xs ih =>
    rw [cons_append, cons_iff, cons_iff, ih, length_cons, and_assoc,
      Nat.add_right_comm, Nat.add_assoc]

variable (h : Numbered num first xs)
include h

lemma cut {k : Nat} (hk : k ≤ xs.length) :
    Numbered num first (xs.take k) ∧ Numbered num (first + k) (xs.drop k) := by
  rw [← take_append_drop k xs, append_iff, length_take, Nat.min_eq_left hk] at h
  exact h

lemma le_of_mem (hx : x ∈ xs) : first ≤ num x := by
  have hmem := mem_map_of_mem (f := num) hx
  rw [h, mem_range'_1] at hmem
  exact hmem.1

lemma lt_of_mem (hx : x ∈ xs) : num x < first + xs.length := by
  have hmem := mem_map_of_mem (f := num) hx
  rw [h, mem_range'_1] at hmem
  exact hmem.2

lemma getLast?_eq (hne : xs ≠ []) : xs.getLast?.map num = some (first + xs.length - 1) := by
  rw [← getLast?_map, h, getLast?_range', if_neg (by simpa using hne)]

lemma foldl_larger {m : Nat} (hm : m < first) :
    xs.foldl (fun m x => if m < num x then num x else m) m =
      if xs = [] then m else first + xs.length - 1 := by
  induction xs generalizing first m with
  | nil => rfl
  | cons x xs ih =>
    rw [cons_iff] at h
    rw [foldl_cons, if_pos (h.1 ▸ hm), h.1, ih h.2 (Nat.lt_succ_self first),
      if_neg (cons_ne_nil x xs), length_cons]
    split
    · next hnil => simp [hnil]
    · omega

end Numbered
end Foundations
