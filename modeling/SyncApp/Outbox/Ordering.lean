import SyncApp.Outbox.Memory
import SyncApp.Outbox.Postgres

/-!
# Draining the outbox

What the relay guarantees over both stores.

Main results:

- `drain_stops_and_keeps_order`: a call stops at the first failure outside full batches, and each
  key's records are published in order; over Postgres if polls pass over no claimed record.
-/

namespace SyncApp.Outbox

open Foundations OrderedDelivery Messaging List
open Machine (final)

/-- No record was published before every record of its key that was staged
earlier. -/
def PublishedInOrder {S : Type} (w : World S) : Prop :=
  ∀ before r after, published w.attempts = before ++ r :: after →
    ∀ q, Before w.staged q r → q.key = r.key → q ∈ before

lemma Box.InOrder.publishedInOrder {S : Type}
    {Inv : S → List OutboxRecord → List OutboxRecord → Prop} {w : World S}
    (h : Box.InOrder Inv w) : PublishedInOrder w := by
  intro before r after heq q hpre hkey
  rcases h.follows before r after heq q hpre hkey with hnil | hmem
  · exact absurd hnil not_mem_nil
  · exact hmem

/-- A call in which no publish fails in a full batch ends with its first failure.  Over the
in-memory store every run publishes in order; over Postgres every one in which numbers grow and no
poll passes over an unsent record of the same key. -/
theorem drain_stops_and_keeps_order (batch : Nat) :
    (∀ (S A E : Type) (box : Box S A E) (w : World S) (turns : List (Turn A E)),
      box.CallFailsShort batch w turns → box.StopsAtFailure batch w turns) ∧
    (∀ (ids : Generator) (tasks : List (Box.Task (List ServiceOp) Unit)),
      Machine.Guarded (memoryBox.step batch)
          (memoryBox.TaskOk batch RequestsInTime fun _ _ => True) (memoryWorld ids) tasks →
        PublishedInOrder (final (memoryBox.step batch) (memoryWorld ids) tasks)) ∧
    (∀ tasks : List (Box.Task (List Insert) Conditions), Machine.Guarded (postgresBox.step batch)
          (postgresBox.TaskOk batch (fun _ => Ascending) (PassesNone batch)) postgresWorld tasks →
        PublishedInOrder (final (postgresBox.step batch) postgresWorld tasks)) := by
  refine ⟨?_, ?_, ?_⟩
  · intro S A E box w turns h
    exact box.stops_of_failsShort batch h
  · intro ids tasks htasks
    exact ((memoryBox_lawful batch).run (memoryWorld_inOrder ids) htasks).publishedInOrder
  · intro tasks htasks
    exact ((postgresBox_lawful batch).run postgresWorld_inOrder htasks).publishedInOrder

section Sample

/-- The insert of a numbered record in one chat. -/
def numberedInsert (n : Nat) : Insert where
  num := n
  subject := .messageCreated
  key := "a"
  payload := messageBody (draft "1" "a" "1")

/-- Statements that are answered at a given time, with rows by number. -/
def answeredAt (now : Int) : Conditions where
  pollAt := now
  pollOutcome := .answered
  arrange rows := rows
  markAt := now
  markOutcome := .answered
  purgeBefore := 0

/-- The second record of a short batch is refused at first. -/
def shortBatchTurns : List (Turn (List Insert) Conditions) :=
  [⟨[numberedInsert 1, numberedInsert 2], [], (· == 0), answeredAt 100000⟩]

/-- After the claim has run out the record is published. -/
def patientTasks : List (Box.Task (List Insert) Conditions) :=
  [.drain shortBatchTurns, .drain [⟨[], [], fun _ => true, answeredAt 200000⟩]]

/-- Messages are sent, and the bus refuses the second one at first. -/
def memoryTasks : List (Box.Task (List ServiceOp) Unit) :=
  [.drain [⟨[.createChat (groupChat "a"), sendText "one" "", sendText "two" ""], [], (· == 0), ()⟩],
    .drain [⟨[sendText "three" ""], [], fun _ => true, ()⟩], .purge () 10]

theorem drain_stops_and_keeps_order_sample :
    postgresBox.StopsAtFailure defaultBatch postgresWorld shortBatchTurns ∧ PublishedInOrder
        (final (memoryBox.step defaultBatch) (memoryWorld nodeOne) memoryTasks) ∧
      PublishedInOrder (final (postgresBox.step defaultBatch) postgresWorld patientTasks) ∧
      (published (final (postgresBox.step defaultBatch) postgresWorld
        patientTasks).attempts).map (·.id) = ["1", "2"] := by
  rcases drain_stops_and_keeps_order defaultBatch with ⟨hstops, hmemory, hpostgres⟩
  refine ⟨?_, ?_, ?_, by decide +kernel⟩
  · apply hstops
    exact ⟨by decide +kernel, fun _ => trivial⟩
  · apply hmemory
    refine ⟨⟨⟨?_, trivial, trivial⟩, fun _ => trivial⟩, ⟨⟨?_, trivial, trivial⟩, fun _ => trivial⟩,
      trivial, trivial⟩
    · unfold RequestsInTime
      decide +kernel
    · unfold RequestsInTime
      decide +kernel
  · apply hpostgres
    have hfirst : Ascends (numberedInsert 1).row.record (numberedInsert 2).row.record :=
      ⟨1, 2, rfl, rfl, by decide⟩
    refine ⟨⟨⟨⟨?_, ?_, trivial⟩, ?_, trivial⟩, fun _ => trivial⟩,
      ⟨⟨trivial, ?_, trivial⟩, fun _ => trivial⟩, trivial⟩
    · intro q hq
      exact absurd hq not_mem_nil
    · intro q hq
      rw [mem_singleton.mp hq]
      exact hfirst
    · unfold PassesNone
      decide +kernel
    · unfold PassesNone
      decide +kernel

/-- Every record of a full batch is refused, and then the bus is back. -/
def fullBatchTurns : List (Turn (List Insert) Conditions) :=
  [⟨(range (defaultBatch + 1)).map fun n => numberedInsert (n + 1), [], fun _ => false,
      answeredAt 100000⟩,
    ⟨[], [], fun _ => true, answeredAt 100000⟩]

/-- A record is refused, and the next call comes before its claim has run out. -/
def hastyTasks : List (Box.Task (List Insert) Conditions) :=
  [.drain [⟨[numberedInsert 1], [], fun _ => false, answeredAt 100000⟩],
    .drain [⟨[numberedInsert 2], [], fun _ => true, answeredAt 100020⟩]]

/-- A call goes on after a failure in a full batch.  A record that was claimed and refused is
overtaken by a later one. -/
theorem failure_is_passed_over :
    ¬ postgresBox.StopsAtFailure defaultBatch postgresWorld fullBatchTurns ∧ ¬ PublishedInOrder
        (final (postgresBox.step defaultBatch) postgresWorld hastyTasks) := by
  constructor
  · intro hstops
    -- The refused batch stays claimed, and the next turn polls the record behind it.
    have hattempts : (postgresBox.drain defaultBatch postgresWorld fullBatchTurns).2.attempts =
        [⟨(numberedInsert 1).row.record, false⟩, ⟨(numberedInsert 201).row.record, true⟩] := by
      decide +kernel
    have hlast := (hstops [] _ _ hattempts).1
    exact absurd hlast (by simp)
  · intro hord
    have hpub : published (final (postgresBox.step defaultBatch) postgresWorld
        hastyTasks).attempts = [(numberedInsert 2).row.record] := by
      decide +kernel
    have hstaged : (final (postgresBox.step defaultBatch) postgresWorld
        hastyTasks).staged = [(numberedInsert 1).row.record, (numberedInsert 2).row.record] := by
      decide +kernel
    have hfirst := hord [] _ [] hpub (numberedInsert 1).row.record
      ⟨[(numberedInsert 1).row.record], [], hstaged, mem_singleton_self _⟩ rfl
    exact absurd hfirst not_mem_nil

end Sample

end SyncApp.Outbox
