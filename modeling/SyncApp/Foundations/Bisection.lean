import SyncApp.Foundations.Machine

/-!
# Doing jobs in bulk, with bisection

Jobs are done in bulk where that works; where it does not, the list is halved and each half done the
same way.  A bulk attempt is sound if it gives what the jobs give one after the other.

Main results:

- `bisect_eq`: so does bisection then, whichever attempts fail.
-/

namespace Foundations.Bisection

open List
open Machine (final outputs)

variable {S J R : Type}

/-- Do a list of jobs whose first one has the given position.  Attempts in bulk may depend on it;
results go with the positions of their jobs. -/
def bisect (bulk : Nat → S → List J → Option (List R × S)) (one : S → J → R × S) :
    Nat → List J → S → List (R × Nat) × S
  | _, [], s => ([], s)
  | pos, [j], s =>
    match bulk pos s [j] with
    | some (results, s') => (results.zipIdx pos, s')
    | none => ([((one s j).1, pos)], (one s j).2)
  | pos, j :: j' :: js, s =>
    match bulk pos s (j :: j' :: js) with
    | some (results, s') => (results.zipIdx pos, s')
    | none =>
      let mid := (j :: j' :: js).length / 2
      let left := bisect bulk one pos ((j :: j' :: js).take mid) s
      let right := bisect bulk one (pos + mid) ((j :: j' :: js).drop mid) left.2
      (left.1 ++ right.1, right.2)
termination_by _ jobs _ => jobs.length
decreasing_by
  all_goals
    simp only [length_take, length_drop, length_cons]
    omega

/-- An attempt in bulk that succeeds gives what the jobs give one after the other. -/
def Sound (bulk : Nat → S → List J → Option (List R × S)) (one : S → J → R × S) : Prop :=
  ∀ pos s jobs results s', bulk pos s jobs = some (results, s') →
    results = outputs one s jobs ∧ s' = final one s jobs

lemma halves_eq (one : S → J → R × S) (pos : Nat) (left right : List J) (s : S) :
    ((outputs one s left).zipIdx pos ++
        (outputs one (final one s left) right).zipIdx (pos + left.length),
      final one (final one s left) right) =
      ((outputs one s (left ++ right)).zipIdx pos, final one s (left ++ right)) := by
  rw [Machine.outputs_append, Machine.final_append, zipIdx_append, Machine.length_outputs]

/-- Bisection over a sound bulk step is the jobs one after the other, with one result
for each job. -/
theorem bisect_eq {bulk : Nat → S → List J → Option (List R × S)} {one : S → J → R × S}
    (hbulk : Sound bulk one) (pos : Nat) (jobs : List J) (s : S) : bisect bulk one pos jobs s =
      ((outputs one s jobs).zipIdx pos, final one s jobs) := by
  induction pos, jobs, s using bisect.induct bulk one with
  | case1 =>
    unfold bisect
    rfl
  | case2 pos j s results s' hres =>
    unfold bisect
    rcases hbulk pos s [j] results s' hres with ⟨rfl, rfl⟩
    rw [hres]
  | case3 pos j s hnone =>
    unfold bisect
    rw [hnone]
    rfl
  | case4 pos j j' js s results s' hres =>
    unfold bisect
    rcases hbulk pos s (j :: j' :: js) results s' hres with ⟨rfl, rfl⟩
    rw [hres]
  | case5 pos j j' js s hnone mid left _ ihleft ihright =>
    have hlen : ((j :: j' :: js).take mid).length = mid := by
      rw [length_take]
      exact Nat.min_eq_left (Nat.div_le_self _ _)
    have hsplit := halves_eq one pos ((j :: j' :: js).take mid) ((j :: j' :: js).drop mid) s
    rw [take_append_drop, hlen] at hsplit
    have hleft : left = _ := ihleft
    rw [hleft] at ihright
    unfold bisect
    rw [hnone]
    dsimp only
    rw [ihleft, ihright]
    exact hsplit

end Foundations.Bisection
