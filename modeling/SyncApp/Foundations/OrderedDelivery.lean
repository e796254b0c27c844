import Mathlib.Data.List.Nodup

/-!
# Delivery in order, key by key

Records are staged, and delivered some of them more than once.  A delivery follows the staging order
if no record is delivered before all that were staged earlier under its key.

Main results:

- `Follows.append`, `Follows.take`, `Follows.stage`: how that is kept.
-/

namespace Foundations.OrderedDelivery

open List

variable {α κ : Type}

/-- A record was staged before another one. -/
def Before (staged : List α) (q r : α) : Prop :=
  ∃ earlier later, staged = earlier ++ r :: later ∧ q ∈ earlier

namespace Before

variable {staged new rows : List α} {q r : α}

/-- In a list without repetitions, what comes before a record stands to its left. -/
lemma mem_left (h : Before staged q r) (hnodup : staged.Nodup) {before after : List α}
    (heq : staged = before ++ r :: after) : q ∈ before := by
  rcases h with ⟨_, _, heq', hq⟩
  rw [heq, nodup_middle, nodup_cons, mem_append, not_or] at hnodup
  rcases hnodup with ⟨⟨hpre, hafter⟩, -⟩
  have hsame := (append_cons_inj_of_notMem hpre hafter).mp (heq.symm.trans heq')
  exact hsame.1 ▸ hq

lemma of_append (h : Before (staged ++ new) q r) (hnodup : (staged ++ new).Nodup)
    (hr : r ∈ staged) : Before staged q r := by
  rcases append_of_mem hr with ⟨before, after, heq⟩
  have hsplit : staged ++ new = before ++ r :: (after ++ new) := by
    rw [heq, append_assoc, cons_append]
  exact ⟨before, after, heq, h.mem_left hnodup hsplit⟩

lemma sublist (h : Before staged q r) (hnodup : staged.Nodup) (hrows : rows.Sublist staged)
    (hq : q ∈ rows) (hr : r ∈ rows) : Before rows q r := by
  rcases h with ⟨_, _, rfl, hearlier⟩
  have hsplit := nodup_append.mp hnodup
  rcases sublist_append_iff.mp hrows with ⟨left, right, rfl, hleft, hright⟩
  have hqleft : q ∈ left := by
    rcases mem_append.mp hq with hin | hin
    · exact hin
    · exact absurd rfl (hsplit.2.2 q hearlier q (hright.subset hin))
  have hrright : r ∈ right := by
    rcases mem_append.mp hr with hin | hin
    · exact absurd rfl (hsplit.2.2 r (hleft.subset hin) r mem_cons_self)
    · exact hin
  rcases sublist_cons_iff.mp hright with hlater | ⟨rest, rfl, -⟩
  · exact absurd (hlater.subset hrright) (nodup_cons.mp hsplit.2.1).1
  · exact ⟨left, rest, rfl, hqleft⟩

end Before

variable (key : α → κ)

/-- Deliveries that come after those in `done` follow the staging order: each
record comes after all that were staged before it under its key. -/
def Follows (staged done next : List α) : Prop :=
  ∀ before r after, next = before ++ r :: after →
    ∀ q, Before staged q r → key q = key r → q ∈ done ∨ q ∈ before

namespace Follows

variable {key} {staged new done next next' : List α}

lemma nil (staged done : List α) : Follows key staged done [] :=
  fun _ _ _ h => absurd h (by simp)

variable (h : Follows key staged done next)
include h

theorem append (h' : Follows key staged (done ++ next) next') :
    Follows key staged done (next ++ next') := by
  intro before r after heq q hpre hkey
  rcases append_eq_append_iff.mp heq with ⟨left, rfl, hnext'⟩ | ⟨right, hnext, hrest⟩
  · rcases h' left r after hnext' q hpre hkey with hdone | hleft
    · rcases mem_append.mp hdone with hdone | hmem
      · exact .inl hdone
      · exact .inr (mem_append_left _ hmem)
    · exact .inr (mem_append_right _ hleft)
  · cases right with
    | nil =>
      rw [append_nil] at hnext
      subst hnext
      rcases h' [] r after hrest.symm q hpre hkey with hdone | hnil
      · exact mem_append.mp hdone
      · exact absurd hnil not_mem_nil
    | cons a right =>
      rw [cons_append, cons.injEq] at hrest
      rw [← hrest.1] at hnext
      exact h before r right hnext q hpre hkey

theorem take (n : Nat) : Follows key staged done (next.take n) := by
  intro before r after heq q hpre hkey
  apply h before r (after ++ next.drop n) _ q hpre hkey
  rw [← cons_append, ← append_assoc, ← heq, take_append_drop]

theorem stage (hnodup : (staged ++ new).Nodup) (hnext : ∀ r ∈ next, r ∈ staged) :
    Follows key (staged ++ new) done next := by
  intro before r after heq q hpre hkey
  have hr : r ∈ staged := by
    apply hnext
    rw [heq]
    exact mem_append_right _ mem_cons_self
  exact h before r after heq q (hpre.of_append hnodup hr) hkey

end Follows

end Foundations.OrderedDelivery
