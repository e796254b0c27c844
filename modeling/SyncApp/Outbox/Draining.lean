import SyncApp.Outbox.Memory

/-!
# When draining ends

A call of the relay next to which nothing is staged.  A turn makes the outbox shorter, or its first
record is refused and nothing changes; with a full batch the call goes on.

Main results:

- `drain_returns_iff`: a call returns unless the bus refuses the first record of a full batch for
  ever.
-/

namespace SyncApp.Outbox

open Foundations Messaging List

/-- The first turns of a call.  The bus answers by turn and by position in the
batch. -/
def quietTurns (publish : Nat → Nat → Bool) (n : Nat) : List (Turn (List ServiceOp) Unit) :=
  (range n).map fun i => ⟨[], [], publish i, ()⟩

variable (batch : Nat) (w : World Service) (publish : Nat → Nat → Bool)

/-- The first turns of a call: whether it is over, and the world after them. -/
def quietDrain (n : Nat) : Bool × World Service :=
  memoryBox.drain batch w (quietTurns publish n)

/-- The call returns after finitely many turns. -/
def Returns : Prop :=
  ∃ n, (quietDrain batch w publish n).1 = true

def FullBatch (s : Store) : Prop :=
  s.pollOutbox batch ≠ [] ∧ batch ≤ (s.pollOutbox batch).length

/-- After some turns the call goes on with a full batch, and the bus refuses the
first record of every batch from then on. -/
def Stuck : Prop :=
  ∃ n, (quietDrain batch w publish n).1 = false ∧
    FullBatch batch (quietDrain batch w publish n).2.store.store ∧
    ∀ m, n ≤ m → publish m 0 = false

variable {batch i : Nat} {rec : OutboxRecord} {recs : List OutboxRecord} {s : Store}
  {accepts : Nat → Bool} {w : World Service}

/-- The outbox begins with a record that is marked, or with the first one polled. -/
lemma pollOutbox_head (h : s.pollOutbox batch = rec :: recs) :
    ∃ first rest, s.outbox = first :: rest ∧ (s.outboxSent first.id = true ∨ first = rec) := by
  unfold Store.pollOutbox at h
  cases hbox : s.outbox with
  | nil =>
    rw [hbox] at h
    exact absurd h (by simp [Store.pollLoop])
  | cons first rest =>
    refine ⟨first, rest, rfl, ?_⟩
    by_cases hsent : s.outboxSent first.id = true
    · exact .inl hsent
    right
    rw [hbox] at h
    unfold Store.pollLoop at h
    rw [if_neg hsent, nil_append] at h
    by_cases hfull : (batch : Int) ≤ ([first] : List OutboxRecord).length
    · rw [if_pos hfull] at h
      exact (cons.inj h).1
    · rw [if_neg hfull] at h
      rcases pollLoop_eq_take s.outboxSent batch [first] rest with ⟨n, hn, -⟩
      rw [hn] at h
      exact (cons.inj h).1

/-- Marking the first record that was polled makes the outbox shorter. -/
lemma markSent_shortens (h : s.pollOutbox batch = rec :: recs) {ids : List String}
    (hids : rec.id ∈ ids) : (s.markSent ids).outbox.length < s.outbox.length := by
  rcases pollOutbox_head h with ⟨first, rest, hbox, hfirst⟩
  have hmarked : ids.foldl (fun sent id => Function.update sent id true) s.outboxSent first.id
      = true := by
    rw [foldl_marks]
    rcases hfirst with hsent | rfl
    · exact .inl hsent
    · exact .inr hids
  unfold Store.markSent
  dsimp only
  rw [hbox]
  unfold Store.compact
  rw [if_pos hmarked]
  exact Nat.lt_succ_of_le (drops_compact rest _).sublist.length_le

lemma quiet_round_eq (batch : Nat) (w : World Service) (accepts : Nat → Bool) :
    memoryBox.round batch w ⟨[], [], accepts, ()⟩ =
      if w.store.store.pollOutbox batch = [] then (true, w)
      else memoryBox.deliver batch w ⟨[], [], accepts, ()⟩ (w.store.store.pollOutbox batch) := by
  have hquiet : memoryBox.meanwhile w ([] : List ServiceOp) = w := by
    unfold Box.meanwhile
    dsimp only [memoryBox, stagedBy]
    rw [append_nil]
    rfl
  unfold Box.round
  rw [hquiet]
  rfl

lemma quiet_round_refused (hpoll : w.store.store.pollOutbox batch ≠ []) (h : accepts 0 = false) :
    (memoryBox.round batch w ⟨[], [], accepts, ()⟩).1 =
        decide ((w.store.store.pollOutbox batch).length < batch) ∧
      (memoryBox.round batch w ⟨[], [], accepts, ()⟩).2.store = w.store := by
  rw [quiet_round_eq, if_neg hpoll]
  cases hrecs : w.store.store.pollOutbox batch with
  | nil => exact absurd hrecs hpoll
  | cons =>
    unfold Box.deliver
    rw [publishEach, if_neg (Bool.eq_false_iff.mp h)]
    exact ⟨rfl, rfl⟩

lemma quiet_round_accepted (hpoll : w.store.store.pollOutbox batch ≠ []) (h : accepts 0 = true) :
    (memoryBox.round batch w ⟨[], [], accepts, ()⟩).2.store.store.outbox.length <
      w.store.store.outbox.length := by
  rw [quiet_round_eq, if_neg hpoll]
  cases hrecs : w.store.store.pollOutbox batch with
  | nil => exact absurd hrecs hpoll
  | cons =>
    unfold Box.deliver
    rw [publishEach, if_pos h]
    exact markSent_shortens hrecs mem_cons_self

/-- A turn after which the call goes on has polled a full batch. -/
lemma fullBatch_of_goes_on (h : (memoryBox.round batch w ⟨[], [], accepts, ()⟩).1 = false) :
    FullBatch batch w.store.store := by
  rw [quiet_round_eq] at h
  by_cases hpoll : w.store.store.pollOutbox batch = []
  · rw [if_pos hpoll] at h
    exact absurd h.symm Bool.false_ne_true
  · rw [if_neg hpoll] at h
    refine ⟨hpoll, Nat.le_of_not_lt fun hshort => ?_⟩
    rw [memoryBox.deliver_over batch w _ hshort] at h
    exact absurd h.symm Bool.false_ne_true

/-! ## Turn by turn -/

section Turns

variable {batch : Nat} {w : World Service} {publish : Nat → Nat → Bool}

lemma quietDrain_succ (n : Nat) (h : (quietDrain batch w publish n).1 = false) :
    quietDrain batch w publish (n + 1) =
      memoryBox.round batch (quietDrain batch w publish n).2 ⟨[], [], publish n, ()⟩ := by
  unfold quietDrain quietTurns at *
  rw [range_succ, map_append]
  exact memoryBox.drain_snoc batch h _

variable {n : Nat}

lemma quietDrain_over (h : (quietDrain batch w publish n).1 = true) (k : Nat) :
    (quietDrain batch w publish (n + k)).1 = true := by
  unfold quietDrain quietTurns at *
  rw [range_add, map_append]
  exact memoryBox.drain_over_append batch h _

/-- Stuck calls stay where they are. -/
lemma stuck_turn (hgoes : (quietDrain batch w publish n).1 = false)
    (hfull : FullBatch batch (quietDrain batch w publish n).2.store.store)
    (href : publish n 0 = false) : (quietDrain batch w publish (n + 1)).1 = false ∧
      (quietDrain batch w publish (n + 1)).2.store = (quietDrain batch w publish n).2.store := by
  rw [quietDrain_succ n hgoes]
  rcases quiet_round_refused hfull.1 href with ⟨hover, hstore⟩
  refine ⟨?_, hstore⟩
  rw [hover]
  exact decide_eq_false (Nat.not_lt.mpr hfull.2)

lemma not_returns_of_stuck (h : Stuck batch w publish) : ¬ Returns batch w publish := by
  rcases h with ⟨n, hgoes, hfull, href⟩
  have hstuck : ∀ k, (quietDrain batch w publish (n + k)).1 = false ∧
      FullBatch batch (quietDrain batch w publish (n + k)).2.store.store := by
    intro k
    induction k with
    | zero => exact ⟨hgoes, hfull⟩
    | succ k ih =>
      have hturn := stuck_turn ih.1 ih.2 (href (n + k) (Nat.le_add_right n k))
      refine ⟨hturn.1, ?_⟩
      rw [← Nat.add_assoc, hturn.2]
      exact ih.2
  rintro ⟨m, hm⟩
  have hover := quietDrain_over hm n
  rw [Nat.add_comm, (hstuck m).1] at hover
  exact absurd hover Bool.false_ne_true

lemma outbox_shrinks (hgoes : ∀ n, (quietDrain batch w publish n).1 = false) (n : Nat) :
    (quietDrain batch w publish (n + 1)).2.store.store.outbox.length +
        (if publish n 0 = true then 1 else 0) ≤
      (quietDrain batch w publish n).2.store.store.outbox.length := by
  have hnext := hgoes (n + 1)
  rw [quietDrain_succ n (hgoes n)] at hnext ⊢
  have hfull := fullBatch_of_goes_on hnext
  by_cases hacc : publish n 0 = true
  · rw [if_pos hacc]
    exact quiet_round_accepted hfull.1 hacc
  rw [if_neg hacc]
  have hstore := (quiet_round_refused (w := (quietDrain batch w publish n).2) hfull.1
    (by simpa using hacc)).2
  rw [hstore]
  exact Nat.le_refl _

lemma stuck_of_not_returns (h : ¬ Returns batch w publish) : Stuck batch w publish := by
  have hgoes : ∀ n, (quietDrain batch w publish n).1 = false := by
    intro n
    rw [← Bool.not_eq_true]
    exact fun hover => h ⟨n, hover⟩
  -- The turn from which on the outbox is as short as it gets.
  let left : Nat → Nat := fun n => (quietDrain batch w publish n).2.store.store.outbox.length
  let last := Function.argmin left
  have hlast : ∀ k, left (last + k) = left last := by
    intro k
    induction k with
    | zero => rfl
    | succ k =>
      have hshrinks : left (last + k + 1) ≤ left (last + k) :=
        Nat.le_of_add_right_le (outbox_shrinks hgoes (last + k))
      have hleast : left last ≤ left (last + k + 1) := Function.argmin_le left _
      rw [← Nat.add_assoc]
      omega
  refine ⟨last, hgoes last, ?_, ?_⟩
  · have hnext := hgoes (last + 1)
    rw [quietDrain_succ last (hgoes last)] at hnext
    exact fullBatch_of_goes_on hnext
  · intro m hm
    rw [← Bool.not_eq_true]
    intro hacc
    have hshrinks := outbox_shrinks hgoes m
    rw [if_pos hacc] at hshrinks
    change left (m + 1) + 1 ≤ left m at hshrinks
    have hpre := hlast (m - last)
    have hafter := hlast (m + 1 - last)
    rw [Nat.add_sub_cancel' hm] at hpre
    rw [Nat.add_sub_cancel' (show last ≤ m + 1 from Nat.le_succ_of_le hm)] at hafter
    omega

end Turns

/-- A call next to which nothing is staged returns, for any outbox and any bus, unless it gets stuck
at a full batch whose first record the bus refuses for ever. -/
theorem drain_returns_iff (batch : Nat) (w : World Service) (publish : Nat → Nat → Bool) :
    Returns batch w publish ↔ ¬ Stuck batch w publish := by
  constructor
  · intro hreturns hstuck
    exact not_returns_of_stuck hstuck hreturns
  · intro hstuck
    by_contra hreturns
    exact hstuck (stuck_of_not_returns hreturns)

section Sample

def numberedRecord (n : Nat) : OutboxRecord where
  id := formatInt n
  subject := .messageCreated
  key := "a"
  data := messageBody (draft "1" "a" "1")

def backlog : World Service :=
  ⟨{ Service.new nodeOne with
      store := { Store.new with outbox := (range defaultBatch).map numberedRecord } }, [], []⟩

/-- With a full batch in the outbox and a bus that is down, a call never returns. -/
theorem refused_batch_never_returns : ¬ Returns defaultBatch backlog (fun _ _ => false) := by
  apply not_returns_of_stuck
  refine ⟨0, rfl, ?_, fun _ _ => rfl⟩
  unfold FullBatch
  decide +kernel

end Sample

end SyncApp.Outbox
