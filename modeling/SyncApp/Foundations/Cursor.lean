import Mathlib.Data.List.Basic

/-!
# Reading a list page by page

A reader asks for the entries after the one whose key it saw last.

Main results:

- `afterCursor_append`, `afterCursor_eq_nil`: what comes after an entry that is still there, or is
  not.
- `pages_eq`: a reader that always asks for the next page sees the whole list.
-/

namespace Foundations.Cursor

open List

variable {α β : Type} [DecidableEq β] {key : α → β}

/-- The entries after the first one with the given key. -/
def afterCursor (key : α → β) (c : β) : List α → List α
  | [] => []
  | x :: xs => if key x = c then xs else afterCursor key c xs

lemma afterCursor_sublist (c : β) (xs : List α) : (afterCursor key c xs).Sublist xs := by
  induction xs with
  | nil => exact List.Sublist.refl []
  | cons x xs ih =>
    unfold afterCursor
    split
    · exact sublist_cons_self x xs
    · exact ih.cons x

variable {xs : List α} {c : Option β} {limit : Nat}

theorem afterCursor_eq_nil {c : β} (h : c ∉ xs.map key) : afterCursor key c xs = [] := by
  induction xs with
  | nil => rfl
  | cons x xs ih =>
    rw [map_cons, mem_cons, not_or] at h
    unfold afterCursor
    rw [if_neg (Ne.symm h.1), ih h.2]

theorem afterCursor_append {x : α} {ys : List α} (h : key x ∉ xs.map key) :
    afterCursor key (key x) (xs ++ x :: ys) = ys := by
  induction xs with
  | nil => exact if_pos rfl
  | cons x' xs ih =>
    rw [map_cons, mem_cons, not_or] at h
    rw [cons_append, afterCursor, if_neg (Ne.symm h.1), ih h.2]

/-- Entries of a list may have gone: as long as the cursor's entry is there, what comes
after it is what is left of what came after it. -/
lemma afterCursor_eq_filter [DecidableEq α] {c : β} {all : List α} (hsub : xs.Sublist all)
    (hnodup : (all.map key).Nodup) (hmem : c ∈ xs.map key) :
    afterCursor key c xs = xs.filter fun x => x ∈ afterCursor key c all := by
  induction hsub with
  | slnil => cases hmem
  | @cons xs all a hsub ih =>
    rw [map_cons, nodup_cons] at hnodup
    have hne : key a ≠ c := by
      rintro rfl
      exact hnodup.1 ((hsub.map key).subset hmem)
    rw [afterCursor, if_neg hne]
    exact ih hnodup.2 hmem
  | @cons_cons xs all a hsub ih =>
    rw [map_cons, nodup_cons] at hnodup
    have hnew : a ∉ all := fun ha => hnodup.1 (mem_map_of_mem ha)
    by_cases hc : key a = c
    · rw [afterCursor, afterCursor, if_pos hc, if_pos hc, filter_cons,
        if_neg (by simpa using hnew), filter_eq_self.mpr]
      exact fun x hx => decide_eq_true (hsub.subset hx)
    · have hmem' : c ∈ xs.map key := by
        rw [map_cons, mem_cons] at hmem
        exact hmem.resolve_left (Ne.symm hc)
      have hafter : a ∉ afterCursor key c all :=
        fun ha => hnew ((afterCursor_sublist c all).subset ha)
      rw [afterCursor, afterCursor, if_neg hc, if_neg hc, filter_cons,
        if_neg (by simpa using hafter)]
      exact ih hnodup.2 hmem'

/-- The entries that are left for a reader: all of them without a cursor. -/
def remaining (key : α → β) (xs : List α) : Option β → List α
  | none => xs
  | some c => afterCursor key c xs

/-- A reader asks for the next page until one is not full. -/
def pages (key : α → β) (limit : Nat) (xs : List α) : Nat → Option β → List α
  | 0, _ => []
  | n + 1, c =>
    let page := (remaining key xs c).take limit
    if page.length < limit then page
    else page ++ pages key limit xs n (page.getLast?.map key)

lemma remaining_next (hlim : 0 < limit) (hnodup : (xs.map key).Nodup)
    (hsuffix : remaining key xs c <:+ xs) (hfull : limit ≤ (remaining key xs c).length) :
    remaining key xs (((remaining key xs c).take limit).getLast?.map key) =
      (remaining key xs c).drop limit := by
  generalize remaining key xs c = left at hsuffix hfull
  rcases hsuffix with ⟨seen, rfl⟩
  have hne : left.take limit ≠ [] := by
    intro hnil
    have hlen := congrArg length hnil
    rw [length_take, Nat.min_eq_left hfull] at hlen
    exact Nat.ne_of_gt hlim hlen
  have hsplit : left = (left.take limit).dropLast ++ (left.take limit).getLast hne ::
      left.drop limit := by
    conv_lhs => rw [← take_append_drop limit left, ← dropLast_append_getLast hne]
    rw [append_assoc]
    rfl
  rw [getLast?_eq_some_getLast hne, Option.map_some]
  generalize (left.take limit).getLast hne = x at hsplit ⊢
  generalize left.drop limit = rest at hsplit ⊢
  rw [hsplit, ← append_assoc] at hnodup ⊢
  refine afterCursor_append ?_
  rw [map_append, map_cons, nodup_append] at hnodup
  exact fun hmem => hnodup.2.2 _ hmem _ mem_cons_self rfl

theorem pages_eq (hlim : 0 < limit) (hnodup : (xs.map key).Nodup) {n : Nat}
    (hsuffix : remaining key xs c <:+ xs) (hn : (remaining key xs c).length < n) :
    pages key limit xs n c = remaining key xs c := by
  induction n generalizing c with
  | zero => exact absurd hn (Nat.not_lt_zero _)
  | succ n ih =>
    unfold pages
    dsimp only
    split
    · next hshort =>
      rw [length_take] at hshort
      exact take_of_length_le (by omega)
    · next hfull =>
      have hfull' : limit ≤ (remaining key xs c).length := by
        rw [length_take] at hfull
        omega
      have hnext := remaining_next hlim hnodup hsuffix hfull'
      rw [ih]
      · rw [hnext, take_append_drop]
      · rw [hnext]
        exact (drop_suffix limit _).trans hsuffix
      · rw [hnext, length_drop]
        omega

end Foundations.Cursor
