import SyncApp.Foundations.Machine
import SyncApp.Foundations.OrderedDelivery
import SyncApp.Messaging.Model

/-!
# The outbox relay

The relay of `server/internal/outbox` polls the outbox, publishes what it is handed and marks what
was published.  It leaves a batch at the first failure, but ends the call only if the batch was
short.  The store is a parameter, with what the rest of the server does to it.

Main results:

- `Box.stops_of_failsShort`: a call stops at a failure outside full batches.
- `Box.Lawful.run`: what every lawful store keeps.
-/

namespace SyncApp.Outbox

open Foundations OrderedDelivery Messaging List
open OutboxRecord (key)

/-- `store.OutboxStore` as the relay uses it.  Answers may depend on circumstances of type `E`;
`others` is what the rest of the server does, with the records that it stages. -/
structure Box (S A E : Type) where
  others : S → A → List OutboxRecord × S
  poll : S → E → Nat → Option (List OutboxRecord) × S
  markSent : S → E → List String → Bool × S
  purgeSent : S → E → Nat → S

/-- The circumstances of one turn of the loop. -/
structure Turn (A E : Type) where
  /-- What happens to the store before it is polled. -/
  arrivals : A
  /-- What happens to it between polling and marking. -/
  lateArrivals : A
  /-- The answers of the bus, by position in the batch. -/
  accepts : Nat → Bool
  /-- The circumstances of the store. -/
  store : E

/-- An attempt to publish a record, and whether the bus took it. -/
structure Attempt where
  record : OutboxRecord
  accepted : Bool
deriving DecidableEq

/-- The store, with all records ever staged and all attempts to publish. -/
structure World (S : Type) where
  store : S
  staged : List OutboxRecord
  attempts : List Attempt

/-- The records that were published, in order. -/
def published (attempts : List Attempt) : List OutboxRecord :=
  attempts.filterMap fun t => if t.accepted then some t.record else none

/-- The inner loop of `drain`: publish one record after the other, up to the
first failure. -/
def publishEach (accepts : Nat → Bool) : Nat → List OutboxRecord → List Attempt
  | _, [] => []
  | i, rec :: recs =>
    if accepts i then ⟨rec, true⟩ :: publishEach accepts (i + 1) recs else [⟨rec, false⟩]

/-- `New` sets the batch size. -/
def defaultBatch : Nat := 200

namespace Box

variable {S A E : Type} (box : Box S A E) (batch : Nat) (w : World S)

/-- The rest of the server does something. -/
def meanwhile (a : A) : World S :=
  let out := box.others w.store a
  { w with store := out.2, staged := w.staged ++ out.1 }

variable (turn : Turn A E)

/-- Publish a batch and mark what was published.  The result tells whether the
call is over. -/
def deliver (recs : List OutboxRecord) : Bool × World S :=
  let attempts := publishEach turn.accepts 0 recs
  let sent := (published attempts).map (·.id)
  let w := box.meanwhile { w with attempts := w.attempts ++ attempts } turn.lateArrivals
  if sent ≠ [] then
    match box.markSent w.store turn.store sent with
    | (false, s) => (true, { w with store := s })
    | (true, s) => (recs.length < batch, { w with store := s })
  else (recs.length < batch, w)

/-- One turn of the loop of `drain`. -/
def round : Bool × World S :=
  let w := box.meanwhile w turn.arrivals
  match box.poll w.store turn.store batch with
  | (none, s) => (true, { w with store := s })
  | (some recs, s) =>
    if recs = [] then (true, { w with store := s })
    else box.deliver batch { w with store := s } turn recs

/-- `drain`, as far as the list of turns goes: whether the call is over, and
the world after it. -/
def drain : World S → List (Turn A E) → Bool × World S
  | w, [] => (false, w)
  | w, turn :: turns =>
    match box.round batch w turn with
    | (true, w') => (true, w')
    | (false, w') => drain w' turns

/-! ## Stopping at a failure -/

def handed : List OutboxRecord :=
  ((box.poll (box.meanwhile w turn.arrivals).store turn.store batch).1).getD []

def FailsShort : Prop :=
  ∀ i < (box.handed batch w turn).length, turn.accepts i = false →
    (box.handed batch w turn).length < batch

instance (w : World S) (turn : Turn A E) : Decidable (box.FailsShort batch w turn) := by
  unfold FailsShort
  infer_instance

/-- No publish of the call fails in a full batch. -/
def CallFailsShort : World S → List (Turn A E) → Prop
  | _, [] => True
  | w, turn :: turns =>
    box.FailsShort batch w turn ∧
      ((box.round batch w turn).1 = false → CallFailsShort (box.round batch w turn).2 turns)

/-- A failed attempt is the last one of the call, and the call is over. -/
def StopsAtFailure (turns : List (Turn A E)) : Prop :=
  ∀ before rec after,
    (box.drain batch w turns).2.attempts = w.attempts ++ (before ++ ⟨rec, false⟩ :: after) →
      after = [] ∧ (box.drain batch w turns).1 = true

end Box

lemma publishEach_failed {accepts : Nat → Bool} {i : Nat} {recs : List OutboxRecord}
    {before after : List Attempt} {rec : OutboxRecord}
    (h : publishEach accepts i recs = before ++ ⟨rec, false⟩ :: after) :
    after = [] ∧ ∃ j < recs.length, accepts (i + j) = false := by
  induction recs generalizing i before with
  | nil => exact absurd h (by simp [publishEach])
  | cons first recs ih =>
    unfold publishEach at h
    by_cases hacc : accepts i = true
    · rw [if_pos hacc] at h
      cases before with
      | nil =>
        rw [nil_append, cons.injEq, Attempt.mk.injEq] at h
        exact absurd h.1.2.symm Bool.false_ne_true
      | cons =>
        rw [cons_append, cons.injEq] at h
        rcases ih h.2 with ⟨hafter, j, hj, hfails⟩
        refine ⟨hafter, j + 1, Nat.succ_lt_succ hj, ?_⟩
        rw [← hfails]
        congr 1
        omega
    · rw [if_neg hacc] at h
      refine ⟨?_, 0, Nat.succ_pos _, by simpa using hacc⟩
      cases before with
      | nil => exact (cons.inj h).2.symm
      | cons => exact absurd (cons.inj h).2 (by simp)

/-- What is published of a batch are its first records. -/
lemma published_publishEach (accepts : Nat → Bool) (i : Nat) (recs : List OutboxRecord) :
    ∃ n, published (publishEach accepts i recs) = recs.take n := by
  induction recs generalizing i with
  | nil => exact ⟨0, rfl⟩
  | cons rec recs ih =>
    unfold publishEach
    split
    · rcases ih (i + 1) with ⟨n, hn⟩
      refine ⟨n + 1, ?_⟩
      rw [take_succ_cons, ← hn]
      rfl
    · exact ⟨0, rfl⟩

lemma published_append (attempts attempts' : List Attempt) :
    published (attempts ++ attempts') = published attempts ++ published attempts' :=
  filterMap_append

namespace Box

variable {S A E : Type} (box : Box S A E) (batch : Nat) (w : World S) (turn : Turn A E)

lemma deliver_attempts (recs : List OutboxRecord) :
    (box.deliver batch w turn recs).2.attempts = w.attempts ++ publishEach turn.accepts 0 recs := by
  unfold deliver
  dsimp only
  split
  · split
    · rfl
    · rfl
  · rfl

lemma deliver_over {recs : List OutboxRecord} (h : recs.length < batch) :
    (box.deliver batch w turn recs).1 = true := by
  unfold deliver
  dsimp only
  split
  · split
    · rfl
    · exact decide_eq_true h
  · exact decide_eq_true h

lemma round_attempts : (box.round batch w turn).2.attempts =
      w.attempts ++ publishEach turn.accepts 0 (box.handed batch w turn) := by
  unfold round handed
  dsimp only
  rcases box.poll (box.meanwhile w turn.arrivals).store turn.store batch with ⟨answer, s⟩
  cases answer with
  | none => exact (append_nil _).symm
  | some recs =>
    dsimp only
    split
    · next hnil =>
      rw [hnil]
      exact (append_nil _).symm
    · exact box.deliver_attempts batch _ turn recs

lemma round_over (h : (box.handed batch w turn).length < batch) :
    (box.round batch w turn).1 = true := by
  unfold handed at h
  unfold round
  dsimp only
  generalize box.poll (box.meanwhile w turn.arrivals).store turn.store batch = out at h ⊢
  rcases out with ⟨answer, s⟩
  cases answer with
  | none => rfl
  | some =>
    dsimp only
    split
    · rfl
    · exact box.deliver_over batch _ turn h

lemma drain_attempts (turns : List (Turn A E)) :
    ∃ more, (box.drain batch w turns).2.attempts = w.attempts ++ more := by
  induction turns generalizing w with
  | nil => exact ⟨[], (append_nil _).symm⟩
  | cons turn turns ih =>
    have hround := box.round_attempts batch w turn
    unfold drain
    generalize box.round batch w turn = out at hround ⊢
    rcases out with ⟨ended, w'⟩
    cases ended with
    | true => exact ⟨_, hround⟩
    | false =>
      rcases ih w' with ⟨more, hmore⟩
      refine ⟨publishEach turn.accepts 0 (box.handed batch w turn) ++ more, ?_⟩
      rw [hmore, hround, append_assoc]

variable {turns : List (Turn A E)} {w : World S}

lemma drain_over_append (h : (box.drain batch w turns).1 = true) (more : List (Turn A E)) :
    (box.drain batch w (turns ++ more)).1 = true := by
  induction turns generalizing w with
  | nil => exact absurd h.symm (by simp [drain])
  | cons turn turns ih =>
    rw [cons_append]
    unfold drain at h ⊢
    generalize box.round batch w turn = out at h ⊢
    rcases out with ⟨ended, _⟩
    cases ended with
    | true => rfl
    | false => exact ih h

lemma drain_snoc (h : (box.drain batch w turns).1 = false) (turn : Turn A E) :
    box.drain batch w (turns ++ [turn]) = box.round batch (box.drain batch w turns).2 turn := by
  induction turns generalizing w with
  | nil =>
    rw [nil_append]
    unfold drain
    generalize box.round batch w turn = out
    rcases out with ⟨ended, w'⟩
    cases ended with
    | true | false => rfl
  | cons first turns ih =>
    rw [cons_append]
    unfold drain at h ⊢
    generalize box.round batch w first = out at h ⊢
    rcases out with ⟨ended, _⟩
    cases ended with
    | true => exact absurd h.symm Bool.false_ne_true
    | false => exact ih h

/-- A call whose failures are in short batches stops at the first failure. -/
theorem stops_of_failsShort (h : box.CallFailsShort batch w turns) :
    box.StopsAtFailure batch w turns := by
  induction turns generalizing w with
  | nil =>
    intro before rec after heq
    have hlen := congrArg length heq
    simp [drain] at hlen
  | cons turn turns ih =>
    rcases h with ⟨hshort, hrest⟩
    have hround := box.round_attempts batch w turn
    have hover := box.round_over batch w turn
    intro before rec after heq
    unfold drain at heq ⊢
    generalize box.round batch w turn = out at hround hover hrest heq ⊢
    rcases out with ⟨ended, w'⟩
    cases ended with
    | true =>
      rw [hround, append_cancel_left_eq] at heq
      exact ⟨(publishEach_failed heq).1, rfl⟩
    | false =>
      -- The batch was full, so nothing in it failed.
      rcases box.drain_attempts batch w' turns with ⟨_, hmore⟩
      rw [hmore, hround, append_assoc, append_cancel_left_eq] at heq
      have hfull : ∀ before' after', publishEach turn.accepts 0 (box.handed batch w turn) ≠
          before' ++ ⟨rec, false⟩ :: after' := by
        intro before' after' hfailed
        rcases (publishEach_failed hfailed).2 with ⟨j, hj, hfails⟩
        rw [Nat.zero_add] at hfails
        exact absurd (hover (hshort j hj hfails)) Bool.false_ne_true
      rcases append_eq_append_iff.mp heq with ⟨left, rfl, hleft⟩ | ⟨right, hright, htail⟩
      · apply ih (hrest rfl) left rec after
        rw [hmore, hleft]
      cases right with
      | nil =>
        apply ih (hrest rfl) [] rec after
        rw [hmore, nil_append, htail, nil_append]
      | cons attempt right =>
        rw [cons_append, cons.injEq] at htail
        rw [← htail.1] at hright
        exact absurd hright (hfull before right)

/-! ## Publishing in order -/

/-- What the relay does with its store: a call of `drain`, or one chunk of
`purge`. -/
inductive Task (A E : Type) where
  | drain (turns : List (Turn A E))
  | purge (store : E) (limit : Nat)

def step (w : World S) : Task A E → Bool × World S
  | .drain turns => box.drain batch w turns
  | .purge e limit => (true, { w with store := box.purgeSent w.store e limit })

/-- What a store must do for records to be published in order: `Inv` relates it to what was staged
and published, as long as others keep to `OthersOk` and polls meet `PollOk`. -/
structure Lawful (Inv : S → List OutboxRecord → List OutboxRecord → Prop)
    (OthersOk : S → List OutboxRecord → A → Prop) (PollOk : S → E → Prop) : Prop where
  nodup {s staged done} : Inv s staged done → staged.Nodup
  others {s staged done} (a : A) : Inv s staged done → OthersOk s staged a →
    Inv (box.others s a).2 (staged ++ (box.others s a).1) done
  poll {s staged done} (e : E) : Inv s staged done → PollOk s e →
    Inv (box.poll s e batch).2 staged done ∧
      ∀ recs, (box.poll s e batch).1 = some recs →
        Follows key staged done recs ∧ ∀ r ∈ recs, r ∈ staged
  deliver {s staged done} (recs : List OutboxRecord) : Inv s staged done →
    Inv s staged (done ++ recs)
  markSent {s staged done} (e : E) (ids : List String) : Inv s staged done →
    (∀ id ∈ ids, ∃ r ∈ done, r ∈ staged ∧ r.id = id) → Inv (box.markSent s e ids).2 staged done
  purgeSent {s staged done} (e : E) (limit : Nat) : Inv s staged done →
    Inv (box.purgeSent s e limit) staged done

section Runs

variable (Inv : S → List OutboxRecord → List OutboxRecord → Prop)
  (OthersOk : S → List OutboxRecord → A → Prop) (PollOk : S → E → Prop)

/-- The circumstances of a turn are as the store needs them. -/
structure TurnOk (w : World S) (turn : Turn A E) : Prop where
  arrivals : OthersOk w.store w.staged turn.arrivals
  poll : PollOk (box.meanwhile w turn.arrivals).store turn.store
  lateArrivals : OthersOk (box.poll (box.meanwhile w turn.arrivals).store turn.store batch).2
    (box.meanwhile w turn.arrivals).staged turn.lateArrivals

/-- The circumstances of each turn of a call are as the store needs them. -/
def CallOk : World S → List (Turn A E) → Prop
  | _, [] => True
  | w, turn :: turns =>
    box.TurnOk batch OthersOk PollOk w turn ∧
      ((box.round batch w turn).1 = false → CallOk (box.round batch w turn).2 turns)

/-- The circumstances of a task are as the store needs them. -/
def TaskOk (w : World S) : Task A E → Prop
  | .drain turns => box.CallOk batch OthersOk PollOk w turns
  | .purge _ _ => True

/-- The store accounts for what was staged and published, and records were
published in order. -/
structure InOrder (w : World S) : Prop where
  account : Inv w.store w.staged (published w.attempts)
  follows : Follows key w.staged [] (published w.attempts)
  staged : ∀ r ∈ published w.attempts, r ∈ w.staged

variable {box batch Inv OthersOk PollOk}

namespace Lawful

variable (hbox : box.Lawful batch Inv OthersOk PollOk) {w : World S}

include hbox

lemma meanwhile (h : InOrder Inv w) {a : A} (ha : OthersOk w.store w.staged a) :
    InOrder Inv (box.meanwhile w a) := by
  have hacct := hbox.others a h.account ha
  constructor
  · exact hacct
  · exact h.follows.stage (hbox.nodup hacct) h.staged
  · intro r hr
    exact mem_append_left _ (h.staged r hr)

variable {recs : List OutboxRecord} {turn : Turn A E} (h : InOrder Inv w)
include h

lemma publishes (accepts : Nat → Bool)
    (hfollows : Follows key w.staged (published w.attempts) recs)
    (hstaged : ∀ r ∈ recs, r ∈ w.staged) :
    InOrder Inv { w with attempts := w.attempts ++ publishEach accepts 0 recs } := by
  rcases published_publishEach accepts 0 recs with ⟨n, hn⟩
  constructor
  · rw [published_append]
    exact hbox.deliver _ h.account
  · rw [published_append, hn]
    exact h.follows.append (hfollows.take n)
  · intro r hr
    rw [published_append, hn] at hr
    rcases mem_append.mp hr with hold | hnew
    · exact h.staged r hold
    · exact hstaged r (mem_of_mem_take hnew)

lemma deliver_inOrder (hfollows : Follows key w.staged (published w.attempts) recs)
    (hstaged : ∀ r ∈ recs, r ∈ w.staged) (hlate : OthersOk w.store w.staged turn.lateArrivals) :
    InOrder Inv (box.deliver batch w turn recs).2 := by
  have hpub := hbox.publishes h turn.accepts hfollows hstaged
  have hlast := hbox.meanwhile hpub hlate
  have hmarked := hbox.markSent turn.store
    ((published (publishEach turn.accepts 0 recs)).map (·.id)) hlast.account (by
      intro id hid
      rcases mem_map.mp hid with ⟨r, hr, rfl⟩
      have happend := published_append w.attempts (publishEach turn.accepts 0 recs)
      have hdone : r ∈ published (w.attempts ++ publishEach turn.accepts 0 recs) :=
        happend ▸ mem_append_right _ hr
      exact ⟨r, hdone, hlast.staged r hdone, rfl⟩)
  unfold Box.deliver
  dsimp only
  split
  · generalize box.markSent _ turn.store _ = out at hmarked ⊢
    rcases out with ⟨ok, s⟩
    cases ok with
    | false | true => exact ⟨hmarked, hlast.follows, hlast.staged⟩
  · exact hlast

lemma round_inOrder (hturn : box.TurnOk batch OthersOk PollOk w turn) :
    InOrder Inv (box.round batch w turn).2 := by
  have harrived := hbox.meanwhile h hturn.arrivals
  have hpolled := hbox.poll turn.store harrived.account hturn.poll
  have hlate := hturn.lateArrivals
  unfold round
  dsimp only
  generalize box.poll (box.meanwhile w turn.arrivals).store turn.store batch = out
    at hpolled hlate ⊢
  rcases out with ⟨answer, s⟩
  have hclaimed : InOrder Inv { box.meanwhile w turn.arrivals with store := s } :=
    ⟨hpolled.1, harrived.follows, harrived.staged⟩
  cases answer with
  | none => exact hclaimed
  | some recs =>
    dsimp only
    rcases hpolled.2 recs rfl with ⟨hfollows, hstaged⟩
    split
    · exact hclaimed
    · exact hbox.deliver_inOrder hclaimed hfollows hstaged hlate

lemma drain_inOrder (hturns : box.CallOk batch OthersOk PollOk w turns) :
    InOrder Inv (box.drain batch w turns).2 := by
  induction turns generalizing w with
  | nil => exact h
  | cons turn turns ih =>
    rcases hturns with ⟨hturn, hrest⟩
    have hround := hbox.round_inOrder h hturn
    unfold drain
    generalize box.round batch w turn = out at hround hrest ⊢
    rcases out with ⟨ended, _⟩
    cases ended with
    | true => exact hround
    | false => exact ih hround (hrest rfl)

theorem run {tasks : List (Task A E)}
    (htasks : Machine.Guarded (box.step batch) (box.TaskOk batch OthersOk PollOk) w tasks) :
    InOrder Inv (Machine.final (box.step batch) w tasks) := by
  refine Machine.guarded_final _ (fun w task h htask => ?_) h htasks
  cases task with
  | drain => exact hbox.drain_inOrder h htask
  | purge e limit => exact ⟨hbox.purgeSent e limit h.account, h.follows, h.staged⟩

end Lawful

end Runs

end Box

end SyncApp.Outbox
