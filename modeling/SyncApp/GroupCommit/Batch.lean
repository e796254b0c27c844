import SyncApp.Foundations.Bisection
import SyncApp.GroupCommit.Tables

/-!
# Group commit

The batcher of `server/internal/store/postgres/batch.go` takes all sequence numbers of a batch and
then writes all rows.  If the transaction fails the batch is halved; a repeated dedup key makes it
fail.

Main results:

- `group_commit_transparent`: a batch does what its jobs do one by one.
- `run_eq`: so does a whole stream of submissions.
-/

namespace SyncApp.GroupCommit

open Foundations Messaging Outbox List
open Machine (final outputs)

/-! ## One transaction -/

/-- The first phase: a number for each job, in the order of the batch. -/
def bumpAll : (Int → Option Int) → List Job → Except DbError (List Int × (Int → Option Int))
  | seqs, [] => .ok ([], seqs)
  | seqs, j :: js =>
    match seqBump seqs (atoi j.m.chatID) with
    | .error e => .error e
    | .ok (seq, seqs) =>
      match bumpAll seqs js with
      | .error e => .error e
      | .ok (rest, seqs) => .ok (seq :: rest, seqs)

/-- The second phase: the rows of each job, in the order of the batch. -/
def writeAll (checks : Checks) : Log → List (Job × Int) → Except DbError Log
  | log, [] => .ok log
  | log, (j, seq) :: rest =>
    match write checks log j seq with
    | .error e => .error e
    | .ok log => writeAll checks log rest

/-- `flushTx`.  A failure of the connection or of the commit is an error of its
own. -/
def flushTx (checks : Checks) (fault : Option DbError) (t : Tables) (batch : List Job) :
    Except DbError (List WriteResult × Tables) :=
  match bumpAll t.chatSeq batch with
  | .error e => .error e
  | .ok (seqs, chatSeq) =>
    match writeAll checks t.log (batch.zip seqs) with
    | .error e => .error e
    | .ok log =>
      match fault with
      | some e => .error e
      | none => .ok ((batch.zip seqs).map fun p => .ok (p.1.stored p.2, false), ⟨chatSeq, log⟩)

variable {batch : List Job} {checks : Checks} {t : Tables}

/-- Two phases that succeed have done what `insertOne` does job by job. -/
lemma insertOne_of_phases {seqs : List Int} {chatSeq : Int → Option Int} {log : Log}
    (hbump : bumpAll t.chatSeq batch = .ok (seqs, chatSeq))
    (hwrite : writeAll checks t.log (batch.zip seqs) = .ok log) :
    (batch.zip seqs).map (fun p => .ok (p.1.stored p.2, false)) =
        outputs (insertOne checks) t batch ∧
      ⟨chatSeq, log⟩ = final (insertOne checks) t batch := by
  induction batch generalizing t seqs with
  | nil =>
    simp only [zip_nil_left, writeAll, Except.ok.injEq] at hwrite
    rcases hbump with ⟨rfl, rfl⟩
    subst hwrite
    exact ⟨rfl, rfl⟩
  | cons j batch ih =>
    unfold bumpAll at hbump
    split at hbump
    · cases hbump
    · next seq afterOne hone =>
      split at hbump
      · cases hbump
      · next rest afterAll hrest =>
        rcases hbump with ⟨rfl, rfl⟩
        rw [zip_cons_cons] at hwrite ⊢
        unfold writeAll at hwrite
        split at hwrite
        · cases hwrite
        · next logOne hlog =>
          have hfirst := insertOne_of_write hone hlog
          have hlater := ih (t := ⟨afterOne, logOne⟩) hrest hwrite
          rw [map_cons, hlater.1, hlater.2, Machine.outputs_cons, Machine.final_cons,
            hfirst]
          exact ⟨rfl, rfl⟩

/-- A batch that commits has done what `insertOne` does job by job. -/
lemma flushTx_sound {fault : Option DbError} {results : List WriteResult} {t' : Tables}
    (h : flushTx checks fault t batch = .ok (results, t')) :
    results = outputs (insertOne checks) t batch ∧ t' = final (insertOne checks) t batch := by
  unfold flushTx at h
  split at h
  · cases h
  · next seqs chatSeq hbump =>
    split at h
    · cases h
    · next log hwrite =>
      split at h
      · cases h
      · rcases h with ⟨rfl, rfl⟩
        exact insertOne_of_phases hbump hwrite

/-- The transactions that fail on their own account, by the position of their first
job and by their length. -/
abbrev Faults := Nat → Nat → Option DbError

/-- One attempt of `flushOrSplit`. -/
def attempt (checks : Checks) (faults : Faults) (pos : Nat) (t : Tables) (batch : List Job) :
    Option (List WriteResult × Tables) :=
  (flushTx checks (faults pos batch.length) t batch).toOption

/-- `flush`, with `flushOrSplit`: the results as they are sent, each with the
position of the job it is sent to, and the tables after it. -/
def flush (checks : Checks) (faults : Faults) (pos : Nat) (batch : List Job) (t : Tables) :
    List (WriteResult × Nat) × Tables :=
  Bisection.bisect (attempt checks faults) (insertOne checks) pos batch t

lemma attempt_sound (checks : Checks) (faults : Faults) :
    Bisection.Sound (attempt checks faults) (insertOne checks) := by
  intro pos t batch results t' h
  unfold attempt at h
  cases hflush : flushTx checks (faults pos batch.length) t batch with
  | error =>
    rw [hflush] at h
    cases h
  | ok =>
    rw [hflush] at h
    simp only [Except.toOption, Option.some.injEq] at h
    subst h
    exact flushTx_sound hflush

/-- A flush is the jobs done one after the other: every job is sent one result, the
one that `insertOne` gives it, and the tables end up the same. -/
lemma flush_eq (checks : Checks) (faults : Faults) (pos : Nat) (batch : List Job) (t : Tables) :
    flush checks faults pos batch t = ((outputs (insertOne checks) t batch).zipIdx pos,
        final (insertOne checks) t batch) :=
  Bisection.bisect_eq (attempt_sound checks faults) pos batch t

/-- Group commit is transparent: whatever the rows are refused for, and whichever
transactions fail, the batch is done job by job. -/
theorem group_commit_transparent (checks : Checks) (faults : Faults) (batch : List Job)
    (t : Tables) : (flush checks faults 0 batch t).2 = final (insertOne checks) t batch ∧
      (flush checks faults 0 batch t).1.map Prod.snd = range batch.length ∧
      (flush checks faults 0 batch t).1.map Prod.fst = outputs (insertOne checks) t batch := by
  rw [flush_eq]
  refine ⟨rfl, ?_, ?_⟩
  · rw [zipIdx_map_snd, Machine.length_outputs, range_eq_range']
  · exact zipIdx_map_fst _ _

/-- What the batcher waits for. -/
inductive Arrival where
  | job (j : Job)
  | timer

def submitted : List Arrival → List Job
  | [] => []
  | .job j :: rest => j :: submitted rest
  | .timer :: rest => submitted rest

/-- `collect`: more jobs for the batch, until it is full or the timer fires.
The arrivals end when the batcher is stopped. -/
def collect (maxBatch : Nat) : List Job → List Arrival → List Job × List Arrival
  | batch, [] => (batch, [])
  | batch, .job j :: rest =>
    if batch.length < maxBatch then collect maxBatch (batch ++ [j]) rest
    else (batch, .job j :: rest)
  | batch, .timer :: rest => (batch, rest)

lemma collect_length_le (maxBatch : Nat) (batch : List Job) (arrivals : List Arrival) :
    (collect maxBatch batch arrivals).2.length ≤ arrivals.length := by
  fun_induction collect maxBatch batch arrivals with
  | case1 batch => exact Nat.le_refl _
  | case2 batch j rest hroom ih => exact Nat.le_succ_of_le ih
  | case3 batch j rest hfull => exact Nat.le_refl _
  | case4 batch rest => exact Nat.le_succ _

/-- `run`: one batch after the other. -/
def run (checks : Checks) (faults : Faults) (maxBatch : Nat) :
    Nat → List Arrival → Tables → List (WriteResult × Nat) × Tables
  | _, [], t => ([], t)
  | pos, .timer :: rest, t => run checks faults maxBatch pos rest t
  | pos, .job first :: rest, t =>
    let collected := collect maxBatch [first] rest
    let flushed := flush checks faults pos collected.1 t
    let later := run checks faults maxBatch (pos + collected.1.length) collected.2 flushed.2
    (flushed.1 ++ later.1, later.2)
termination_by _ arrivals _ => arrivals.length
decreasing_by
  · exact Nat.lt_succ_self _
  · exact Nat.lt_succ_of_le (collect_length_le _ _ _)

lemma collect_submitted (maxBatch : Nat) (batch : List Job) (arrivals : List Arrival) :
    (collect maxBatch batch arrivals).1 ++ submitted (collect maxBatch batch arrivals).2 =
      batch ++ submitted arrivals := by
  fun_induction collect maxBatch batch arrivals with
  | case1 batch => rfl
  | case2 batch j rest hroom ih =>
    rw [ih, append_assoc]
    rfl
  | case3 batch j rest hfull | case4 batch rest => rfl

/-- The batcher's run is the submitted jobs done one after the other. -/
theorem run_eq (checks : Checks) (faults : Faults) (maxBatch pos : Nat) (arrivals : List Arrival)
    (t : Tables) : run checks faults maxBatch pos arrivals t =
      ((outputs (insertOne checks) t (submitted arrivals)).zipIdx pos,
        final (insertOne checks) t (submitted arrivals)) := by
  fun_induction run checks faults maxBatch pos arrivals t with
  | case1 pos t => rfl
  | case2 pos rest t ih => exact ih
  | case3 pos first rest t collected flushed later ih =>
    have hsubmitted := collect_submitted maxBatch [first] rest
    have hflushed : flushed = _ := flush_eq checks faults pos collected.1 t
    have hhalves := Bisection.halves_eq (insertOne checks) pos collected.1 (submitted collected.2) t
    have hlater : later = _ := ih
    rw [hlater, hflushed]
    rw [hsubmitted] at hhalves
    exact hhalves

end SyncApp.GroupCommit
