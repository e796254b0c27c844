import SyncApp.Messaging.Rows

/-!
# Self-destruction over shards

`ExpireDue` of `server/internal/message` over the sharded store.  The store goes on past a shard
that fails and returns what the others expired with the error; `ExpireDue` announces nothing then.

Main results:

- `expiry_announced`: every expired message is announced if no shard fails.
-/

namespace SyncApp.Messaging

open Foundations RowLog List
open Store (expireRows expired new tombstone)
open Machine (final outputs)

/-- A run of `ExpireDue`: for each shard the order in which it visits its chats, or none if it
fails, and the tombstones whose event can be published. -/
structure Sweep where
  now : Int
  limit : Int
  asks : List (Option (List String))
  publishes : Message → Bool

/-- The loop of the sharded `ExpireMessages`: what was expired, whether a shard failed, and the
shards. -/
def expireShards (now per : Int) :
    List Store → List (Option (List String)) → List Message × Bool × List Store
  | [], _ => ([], false, [])
  | shard :: shards, asks =>
    let rest := expireShards now per shards asks.tail
    match asks.head?.join with
    | none => (rest.1, true, shard :: rest.2.2)
    | some order =>
      let got := shard.expireMessages now per order
      (got.1 ++ rest.1, rest.2.1, got.2 :: rest.2.2)

variable (shards : List Store)

/-- The sharded `ExpireMessages`. -/
def expireMessages (sweep : Sweep) : List Message × Bool × List Store :=
  let per := sweep.limit / shards.length
  expireShards sweep.now (if per < 1 then 1 else per) shards sweep.asks

/-- `ExpireDue`: the events that are published, and the shards. -/
def expireDue (sweep : Sweep) : List Event × List Store :=
  let out := expireMessages shards sweep
  if out.2.1 then ([], out.2.2)
  else ((out.1.filter sweep.publishes).map (Service.expiredEvent sweep.now), out.2.2)

/-- A run that expires messages meets no failing shard and publishes all their events. -/
def Heard (sweep : Sweep) : Prop :=
  let out := expireMessages shards sweep
  out.1 = [] ∨ out.2.1 = false ∧ ∀ m ∈ out.1, sweep.publishes m = true

/-- What a run does to a row: nothing, or its time has come and it is one of the tombstones. -/
def Reaped (now : Int) (tombstones : List Message) (m m' : Message) : Prop :=
  m' = m ∨ expired now m = true ∧ m' = tombstone now m ∧ m' ∈ tombstones

variable {now : Int} {out out' : List Message}

lemma Reaped.mono (h : out ⊆ out') {m m' : Message} (hm : Reaped now out m m') :
    Reaped now out' m m' :=
  hm.imp_right fun ⟨hdue, heq, hmem⟩ => ⟨hdue, heq, h hmem⟩

lemma Reaped.rows (rows : List Message) : List.Forall₂ (Reaped now out) rows rows :=
  forall₂_same.mpr fun _ _ => .inl rfl

lemma Reaped.trans (a b c : Message) (hab : Reaped now out a b) (hbc : Reaped now out b c) :
    Reaped now out a c := by
  rcases hab with rfl | ⟨hdue, heq, hmem⟩
  · exact hbc
  rcases hbc with rfl | ⟨hdue', _⟩
  · exact .inr ⟨hdue, heq, hmem⟩
  rw [heq] at hdue'
  simp [expired, tombstone] at hdue'

lemma reaped_expireRows (cap : Nat) (rows : List Message) :
    List.Forall₂ (Reaped now (expireRows now cap rows).2) rows (expireRows now cap rows).1 := by
  induction rows generalizing cap with
  | nil =>
    cases cap with
    | zero | succ => exact .nil
  | cons m rows ih =>
    cases cap with
    | zero => exact Reaped.rows _
    | succ cap =>
      unfold expireRows
      split
      · next hdue =>
        refine .cons (.inr ⟨hdue, rfl, mem_cons_self⟩) ((ih cap).imp fun _ _ h => ?_)
        exact h.mono (subset_cons_self _ _)
      · exact .cons (.inl rfl) (ih (cap + 1))

lemma reaped_expireChats (cap : Nat) (order : List String) (s : Store) (chatID : String) :
    List.Forall₂ (Reaped now (s.expireChats now cap order).1) (s.messages chatID)
      ((s.expireChats now cap order).2.messages chatID) := by
  induction order generalizing cap s with
  | nil => exact Reaped.rows _
  | cons id order ih =>
    refine forall₂_trans Reaped.trans ?_ ((ih _ _).imp fun _ _ h => h.mono
      (subset_append_right _ _))
    rw [Store.setRows_messages]
    split
    · next hid =>
      rw [hid]
      exact (reaped_expireRows cap _).imp fun _ _ h => h.mono (subset_append_left _ _)
    · exact Reaped.rows _

lemma reaped_expireShards (per : Int) (shards : List Store) (asks : List (Option (List String))) :
    List.Forall₂ (fun s s' => ∀ chatID, List.Forall₂
        (Reaped now (expireShards now per shards asks).1) (s.messages chatID) (s'.messages chatID))
      shards (expireShards now per shards asks).2.2 := by
  induction shards generalizing asks with
  | nil => exact .nil
  | cons shard shards ih =>
    unfold expireShards
    split
    · exact .cons (fun _ => Reaped.rows _) (ih asks.tail)
    refine .cons (fun chatID => ?_) ((ih asks.tail).imp fun _ _ h chatID => ?_)
    · exact (reaped_expireChats _ _ shard chatID).imp fun _ _ h => h.mono
        (subset_append_left _ _)
    · exact (h chatID).imp fun _ _ h => h.mono (subset_append_right _ _)

/-! ## Sequences of runs -/

def rowAt (i : Nat) (chatID : String) (j : Nat) : Option Message :=
  shards[i]?.bind fun s => (s.messages chatID)[j]?

variable {shards : List Store} {sweeps : List Sweep} {i j : Nat} {chatID : String}
  {row row' : Message}

lemma reaped_rowAt (sweep : Sweep) (hrow : rowAt shards i chatID j = some row) :
    ∃ row', rowAt (expireDue shards sweep).2 i chatID j = some row' ∧
      Reaped sweep.now (expireMessages shards sweep).1 row row' := by
  rcases Option.bind_eq_some_iff.mp hrow with ⟨s, hs, hrow⟩
  have hshards : (expireDue shards sweep).2 = (expireMessages shards sweep).2.2 := by
    unfold expireDue
    dsimp only
    split <;> rfl
  rcases Extends.of_forall₂ (reaped_expireShards _ shards sweep.asks) i s hs with ⟨s', hs', hrows⟩
  rcases Extends.of_forall₂ (hrows chatID) j row hrow with ⟨row', hrow', hreaped⟩
  refine ⟨row', ?_, hreaped⟩
  rw [hshards]
  exact Option.bind_eq_some_iff.mpr ⟨s', hs', hrow'⟩

lemma rowAt_final_of_deleted (sweeps : List Sweep) (hrow : rowAt shards i chatID j = some row)
    (hdead : row.deleted = true) : rowAt (final expireDue shards sweeps) i chatID j = some row := by
  induction sweeps generalizing shards with
  | nil => exact hrow
  | cons sweep sweeps ih =>
    rcases reaped_rowAt sweep hrow with ⟨_, hrow', rfl | ⟨hdue, _⟩⟩
    · exact ih hrow'
    · simp [expired, hdead] at hdue

/-- A row that a run reaps is due, and if the run is heard its event is published. -/
lemma announced_of_reaped {sweep : Sweep}
    (hdue : expired sweep.now row = true) (hmem : row' ∈ (expireMessages shards sweep).1) :
    (row.expiresAt ≠ 0 ∧ row.expiresAt ≤ sweep.now) ∧ (Heard shards sweep →
        Service.expiredEvent sweep.now row' ∈ (expireDue shards sweep).1) := by
  constructor
  · simp only [expired, Bool.not_eq_true', decide_eq_false_iff_not, not_or] at hdue
    exact ⟨hdue.1, by omega⟩
  · rintro (hnil | ⟨hhealthy, hall⟩)
    · rw [hnil] at hmem
      cases hmem
    · unfold expireDue
      dsimp only
      rw [hhealthy, if_neg (by decide)]
      exact mem_map_of_mem (mem_filter.mpr ⟨hmem, hall row' hmem⟩)

/-- A message that a sequence of runs turned into a tombstone was due at one of them; where every
run that expires messages is heard, its event was published. -/
theorem expiry_announced (hrow : rowAt shards i chatID j = some row) (hlive : row.deleted = false)
    (hrow' : rowAt (final expireDue shards sweeps) i chatID j = some row')
    (hdead : row'.deleted = true) :
    (∃ sweep ∈ sweeps, row.expiresAt ≠ 0 ∧ row.expiresAt ≤ sweep.now) ∧
      (Machine.Guarded expireDue Heard shards sweeps → ∃ sweep ∈ sweeps,
        Service.expiredEvent sweep.now row' ∈ (outputs expireDue shards sweeps).flatten) := by
  induction sweeps generalizing shards with
  | nil =>
    cases hrow.symm.trans hrow'
    exact absurd hdead (by simp [hlive])
  | cons sweep sweeps ih =>
    rcases reaped_rowAt sweep hrow with ⟨row₁, hrow₁, rfl | ⟨hdue, heq, hmem⟩⟩
    · rcases ih hrow₁ hrow' with ⟨⟨later, hlater, htime⟩, hheard⟩
      refine ⟨⟨later, mem_cons_of_mem _ hlater, htime⟩, fun hguard => ?_⟩
      rcases hheard hguard.2 with ⟨later, hlater, hev⟩
      exact ⟨later, mem_cons_of_mem _ hlater, mem_append_right _ hev⟩
    · have hdead₁ : row₁.deleted = true := by rw [heq]; rfl
      cases (rowAt_final_of_deleted sweeps hrow₁ hdead₁).symm.trans hrow'
      have hnow := announced_of_reaped hdue hmem
      exact ⟨⟨sweep, mem_cons_self, hnow.1⟩, fun hguard =>
        ⟨sweep, mem_cons_self, mem_append_left _ (hnow.2 hguard.1)⟩⟩

namespace Sample

/-- A shard with one message that is due at time 5. -/
def due (chatID : String) : Store :=
  { new with
    messages := Function.update new.messages chatID [{ draft "m" chatID "1" with expiresAt := 5 }] }

/-- A run over two shards. -/
def sweep (now : Int) (asks : List (Option (List String))) (publishes : Bool) : Sweep :=
  ⟨now, 200, asks, fun _ => publishes⟩

end Sample

open Sample in
/-- One shard fails while the other expires its message, and in another run the event cannot be
published: no later run announces them. -/
theorem expired_unannounced :
    let sweeps := [sweep 5 [some ["a"], none] true, sweep 6 [some ["a"], some ["b"]] false,
      sweep 7 [some ["a"], some ["b"]] true]
    let shards := final expireDue [due "a", due "b"] sweeps
    (rowAt shards 0 "a" 0).map (·.deleted) = some true ∧
      (rowAt shards 1 "b" 0).map (·.deleted) = some true ∧
      (outputs expireDue [due "a", due "b"] sweeps).flatten.length = 0 := by
  decide +kernel

open Sample in
theorem expiry_announced_two : ∃ s ∈ [sweep 5 [some ["a"], some ["b"]] true], ∃ row,
      Service.expiredEvent s.now row ∈ (outputs expireDue [due "a", due "b"]
        [sweep 5 [some ["a"], some ["b"]] true]).flatten := by
  have hrow : rowAt [due "a", due "b"] 0 "a" 0 =
      some { draft "m" "a" "1" with expiresAt := 5 } := rfl
  rcases reaped_rowAt (sweep 5 [some ["a"], some ["b"]] true) hrow with ⟨row', hrow', -⟩
  have hdead : row'.deleted = true := by
    cases hrow'
    rfl
  have hfinal : rowAt (final expireDue [due "a", due "b"]
      [sweep 5 [some ["a"], some ["b"]] true]) 0 "a" 0 = some row' := hrow'
  have hheard : Machine.Guarded expireDue Heard [due "a", due "b"]
      [sweep 5 [some ["a"], some ["b"]] true] := ⟨.inr ⟨rfl, fun _ _ => rfl⟩, trivial⟩
  rcases (expiry_announced hrow rfl hfinal hdead).2 hheard with ⟨s, hs, hev⟩
  exact ⟨s, hs, _, hev⟩

end SyncApp.Messaging
