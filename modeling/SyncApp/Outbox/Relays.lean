import SyncApp.Outbox.Memory

/-!
# Several relays over one store

Any number of relays work on one in-memory store, step by step, while records are staged, so batches
overlap.  A mark is set only for what was published, and a record leaves the outbox only with its
mark.

Main results:

- `no_event_lost`: what was not published is in the outbox, unmarked.
-/

namespace SyncApp.Outbox

open Foundations Messaging List

/-! ## The relays -/

inductive Phase where
  /-- Between two calls. -/
  | resting
  /-- At the head of the loop of `drain`. -/
  | polling
  /-- Inside a batch of the given size: the records that are left, and the
  identifiers of those that were published. -/
  | publishing (size : Nat) (left : List OutboxRecord) (sent : List String)
  /-- About to mark what was published of a batch. -/
  | marking (size : Nat) (sent : List String)

/-- The store with what was staged and published, the relays, and the calls of
`MarkSent` so far. -/
structure Relays where
  world : World Store
  phases : Nat → Phase
  calls : List (List String)

/-- One step of a relay or of the rest of the server. -/
inductive RelayEvent where
  /-- A call on the store that is not one of the relay's. -/
  | request (op : StoreOp)
  /-- A relay enters `drain`. -/
  | start (relay : Nat)
  | poll (relay : Nat)
  /-- The next record of the batch is published, or refused. -/
  | publish (relay : Nat) (accepted : Bool)
  | mark (relay : Nat)
  /-- An earlier call of `MarkSent` is made again. -/
  | again (call : Nat)
  | purge (limit : Int)
  /-- A relay is stopped, wherever it is. -/
  | stop (relay : Nat)

/-- The calls that the relays make on the outbox. -/
def isOutboxCall : StoreOp → Bool
  | .poll _ | .markSent _ | .purgeSent _ => true
  | _ => false

def stagedIn (s : Store) (op : StoreOp) : List OutboxRecord :=
  (s.step op).2.outbox.drop s.outbox.length

variable (batch size : Nat)

/-- After a batch the call ends if the batch was short. -/
def afterBatch : Phase := if size < batch then .resting else .polling

/-- The end of a batch: what was published is marked, if anything was. -/
def endBatch (sent : List String) : Phase :=
  if sent ≠ [] then .marking size sent else afterBatch batch size

namespace Relays

def move (w : Relays) (relay : Nat) (phase : Phase) : Relays :=
  { w with phases := Function.update w.phases relay phase }

def record (w : Relays) (attempt : Attempt) : Relays :=
  { w with world := { w.world with attempts := w.world.attempts ++ [attempt] } }

/-- A call of `MarkSent`. -/
def markSent (w : Relays) (ids : List String) : Relays :=
  { w with
    world := { w.world with store := w.world.store.markSent ids }
    calls := w.calls ++ [ids] }

/-- One step.  An event that does not fit where the relay is changes nothing. -/
def step (batch : Nat) (w : Relays) : RelayEvent → Unit × Relays
  | .request op =>
    if isOutboxCall op then ((), w)
    else ((), { w with
      world := { w.world with
        store := (w.world.store.step op).2
        staged := w.world.staged ++ stagedIn w.world.store op } })
  | .start relay =>
    match w.phases relay with
    | .resting => ((), w.move relay .polling)
    | _ => ((), w)
  | .poll relay =>
    match w.phases relay with
    | .polling =>
      let recs := w.world.store.pollOutbox batch
      if recs = [] then ((), w.move relay .resting)
      else ((), w.move relay (.publishing recs.length recs []))
    | _ => ((), w)
  | .publish relay accepted =>
    match w.phases relay with
    | .publishing size (rec :: left) sent =>
      if accepted then
        let sent := sent ++ [rec.id]
        ((), (w.record ⟨rec, true⟩).move relay
          (if left = [] then endBatch batch size sent else .publishing size left sent))
      else ((), (w.record ⟨rec, false⟩).move relay (endBatch batch size sent))
    | _ => ((), w)
  | .mark relay =>
    match w.phases relay with
    | .marking size sent => ((), (w.markSent sent).move relay (afterBatch batch size))
    | _ => ((), w)
  | .again call =>
    match w.calls[call]? with
    | some ids => ((), w.markSent ids)
    | none => ((), w)
  | .purge limit =>
    ((), { w with world := { w.world with store := (w.world.store.purgeSent limit).2 } })
  | .stop relay => ((), w.move relay .resting)

/-- An empty store and relays that have not started. -/
def new : Relays := ⟨⟨.new, [], []⟩, fun _ => .resting, []⟩

abbrev after (batch : Nat) (w : Relays) (events : List RelayEvent) : Relays :=
  Machine.final (step batch) w events

end Relays

/-- Records were added at the end of the outbox, and no mark was set. -/
structure Adds (s s' : Store) : Prop where
  outbox : ∃ more, s'.outbox = s.outbox ++ more
  outboxSent : s'.outboxSent = s.outboxSent

namespace Adds

lemma of_eq {s s' : Store} (hbox : s'.outbox = s.outbox)
    (hsent : s'.outboxSent = s.outboxSent) : Adds s s' :=
  ⟨⟨[], hbox.trans (append_nil _).symm⟩, hsent⟩

lemma stageOutbox {s written : Store} (mkOb : Option MakeOutbox) (m : Message)
    (hbox : written.outbox = s.outbox) (hsent : written.outboxSent = s.outboxSent) :
    Adds s (written.stageOutbox mkOb m) := by
  rw [Store.stageOutbox_eq]
  exact ⟨⟨_, by rw [hbox]⟩, hsent⟩

lemma insertMessage (s : Store) (m : Message) (dedupKey : String) (mkOb : Option MakeOutbox) :
    Adds s (s.insertMessage m dedupKey mkOb).2 := by
  have hcases := s.insertMessage_cases m dedupKey mkOb
  generalize s.insertMessage m dedupKey mkOb = out at hcases ⊢
  cases hcases with
  | duplicate | noChat => exact of_eq rfl rfl
  | stored => exact stageOutbox _ _ rfl rfl

lemma rewriteMessage (s : Store) (chatID id : String) (f : Message → Message)
    (mkOb : Option MakeOutbox) : Adds s (s.rewriteMessage chatID id f mkOb).2 := by
  have hcases := s.rewriteMessage_cases chatID id f mkOb
  generalize s.rewriteMessage chatID id f mkOb = out at hcases ⊢
  cases hcases with
  | noMessage => exact of_eq rfl rfl
  | rewritten => exact stageOutbox _ _ rfl rfl

/-- The rest of the server only adds records at the end, and sets no mark. -/
lemma step (s : Store) {op : StoreOp} (hop : isOutboxCall op = false) : Adds s (s.step op).2 := by
  cases op with
  | createUser =>
    simp only [Store.step, Store.createUser]
    split
    · exact of_eq rfl rfl
    · exact of_eq rfl rfl
  | createChat => exact of_eq rfl rfl
  | getOrCreatePair =>
    simp only [Store.step, Store.getOrCreatePair]
    split
    · exact of_eq rfl rfl
    · exact of_eq rfl rfl
  | insertMessage => exact insertMessage s ..
  | editMessage chatID id text at_ mkOb | deleteMessage chatID id at_ mkOb =>
    exact rewriteMessage s chatID id _ mkOb
  | expireMessages now limit order =>
    have h := Service.expireChats_outbox now (if limit ≤ 0 then 200 else limit).toNat order s
    exact of_eq h.1 h.2
  | deleteAccount userID now =>
    have h := Service.deleteAccount_outbox s userID now
    exact of_eq h.1 h.2
  | poll | markSent | purgeSent => exact absurd hop Bool.false_ne_true.symm

end Adds

lemma step_outbox (s : Store) {op : StoreOp} (hop : isOutboxCall op = false) :
    (s.step op).2.outbox = s.outbox ++ stagedIn s op := by
  rcases (Adds.step s hop).outbox with ⟨_, hmore⟩
  unfold stagedIn
  rw [hmore, drop_left]

/-! ## Nothing is lost -/

/-- The identifiers under which something was published. -/
def publishedIDs (attempts : List Attempt) : List String := (published attempts).map (·.id)

/-- A relay has only staged records before it, and only published ones behind it. -/
def Phase.Sound (staged : List OutboxRecord) (done : List String) : Phase → Prop
  | .resting | .polling => True
  | .publishing _ left sent => (∀ r ∈ left, r ∈ staged) ∧ sent ⊆ done
  | .marking _ sent => sent ⊆ done

lemma Phase.Sound.mono {staged staged' : List OutboxRecord} {done done' : List String}
    {phase : Phase} (h : phase.Sound staged done) (hstaged : staged ⊆ staged')
    (hdone : done ⊆ done') : phase.Sound staged' done' := by
  cases phase with
  | resting | polling => trivial
  | publishing => exact ⟨fun r hr => hstaged (h.1 r hr), List.Subset.trans h.2 hdone⟩
  | marking => exact List.Subset.trans h hdone

lemma afterBatch_sound (staged : List OutboxRecord) (done : List String) :
    (afterBatch batch size).Sound staged done := by
  unfold afterBatch
  split
  · trivial
  · trivial

lemma endBatch_sound {staged : List OutboxRecord} {sent done : List String}
    (h : sent ⊆ done) : (endBatch batch size sent).Sound staged done := by
  unfold endBatch
  split
  · exact h
  · exact afterBatch_sound batch size staged done

namespace Relays

/-- What was not published is in the outbox without a mark, and marks are set only
for what was published. -/
structure Sound (w : Relays) : Prop where
  outbox : ∀ r ∈ w.world.store.outbox, r ∈ w.world.staged
  marks : ∀ id, w.world.store.outboxSent id = true → id ∈ publishedIDs w.world.attempts
  kept : ∀ r ∈ w.world.staged, r ∈ w.world.store.outbox ∨ r.id ∈ publishedIDs w.world.attempts
  published : ∀ r ∈ published w.world.attempts, r ∈ w.world.staged
  phases : ∀ relay, (w.phases relay).Sound w.world.staged (publishedIDs w.world.attempts)
  calls : ∀ ids ∈ w.calls, ids ⊆ publishedIDs w.world.attempts

namespace Sound

variable {w : Relays}

lemma new : Sound Relays.new where
  outbox _ h := absurd h not_mem_nil
  marks _ h := absurd h Bool.false_ne_true
  kept _ h := absurd h not_mem_nil
  published _ h := absurd h not_mem_nil
  phases _ := trivial
  calls _ h := absurd h not_mem_nil

variable (h : w.Sound)
include h

lemma move {relay : Nat} {phase : Phase}
    (hphase : phase.Sound w.world.staged (publishedIDs w.world.attempts)) :
    (w.move relay phase).Sound where
  outbox := h.outbox
  marks := h.marks
  kept := h.kept
  published := h.published
  phases other := by
    unfold Relays.move
    dsimp only
    rw [Function.update_apply]
    split
    · exact hphase
    · exact h.phases other
  calls := h.calls

lemma record (attempt : Attempt) (hstaged : attempt.record ∈ w.world.staged) :
    (w.record attempt).Sound := by
  have hdone : publishedIDs w.world.attempts ⊆ publishedIDs (w.world.attempts ++ [attempt]) := by
    unfold publishedIDs
    rw [published_append, map_append]
    exact subset_append_left _ _
  constructor
  · exact h.outbox
  · exact fun id hid => hdone (h.marks id hid)
  · intro r hr
    rcases h.kept r hr with hmem | hpub
    · exact .inl hmem
    · exact .inr (hdone hpub)
  · intro r hr
    change r ∈ Outbox.published (w.world.attempts ++ [attempt]) at hr
    rw [published_append] at hr
    rcases mem_append.mp hr with hold | hnew
    · exact h.published r hold
    rcases attempt with ⟨_, accepted⟩
    cases accepted with
    | false => exact absurd hnew not_mem_nil
    | true =>
      rw [mem_singleton.mp hnew]
      exact hstaged
  · exact fun relay => (h.phases relay).mono (List.Subset.refl _) hdone
  · exact fun ids hids => List.Subset.trans (h.calls ids hids) hdone

lemma drops {sent : String → Bool} {s : Store}
    (hsent : ∀ id, sent id = true → id ∈ publishedIDs w.world.attempts)
    (hdrops : Drops w.world.store.outbox sent s.outbox s.outboxSent) :
    Sound { w with world := { w.world with store := s } } where
  outbox r hr := h.outbox r (hdrops.sublist.subset hr)
  marks id hid := hsent id (hdrops.marks id hid)
  kept r hr := by
    rcases h.kept r hr with hmem | hpub
    · cases hmark : sent r.id with
      | true => exact .inr (hsent r.id hmark)
      | false => exact .inl (hdrops.kept r hmem hmark)
    · exact .inr hpub
  published := h.published
  phases := h.phases
  calls := h.calls

lemma markSent {ids : List String} (hids : ids ⊆ publishedIDs w.world.attempts) :
    (w.markSent ids).Sound := by
  have hmarked :
      Sound { w with world := { w.world with store := w.world.store.markSent ids } } := by
    refine h.drops (fun id hid => ?_) (drops_compact _ _)
    rcases (foldl_marks ids w.world.store.outboxSent id).mp hid with hold | hnew
    · exact h.marks id hold
    · exact hids hnew
  exact { hmarked with
    calls := forall_mem_append.mpr ⟨h.calls, forall_mem_singleton.mpr hids⟩ }

lemma request {op : StoreOp} (hop : isOutboxCall op = false) :
    Sound { w with
      world := { w.world with
        store := (w.world.store.step op).2
        staged := w.world.staged ++ stagedIn w.world.store op } } := by
  have hbox := step_outbox w.world.store hop
  constructor
  · intro r hr
    rw [hbox] at hr
    rcases mem_append.mp hr with hold | hnew
    · exact mem_append_left _ (h.outbox r hold)
    · exact mem_append_right _ hnew
  · intro id hid
    rw [(Adds.step w.world.store hop).outboxSent] at hid
    exact h.marks id hid
  · intro r hr
    rw [hbox]
    rcases mem_append.mp hr with hold | hnew
    · rcases h.kept r hold with hmem | hpub
      · exact .inl (mem_append_left _ hmem)
      · exact .inr hpub
    · exact .inl (mem_append_right _ hnew)
  · exact fun r hr => mem_append_left _ (h.published r hr)
  · exact fun relay => (h.phases relay).mono (subset_append_left _ _) (List.Subset.refl _)
  · exact h.calls

lemma poll {batch : Nat} {r : OutboxRecord} (hr : r ∈ w.world.store.pollOutbox batch) :
    r ∈ w.world.staged := by
  rcases pollLoop_eq_take w.world.store.outboxSent batch [] w.world.store.outbox with ⟨n, hn, -⟩
  unfold Store.pollOutbox at hr
  rw [hn, nil_append] at hr
  exact h.outbox r (mem_of_mem_filter (mem_of_mem_take hr))

lemma publish (batch : Nat) {relay size : Nat} {rec : OutboxRecord} {left : List OutboxRecord}
    {sent : List String} (hphase : w.phases relay = .publishing size (rec :: left) sent)
    (accepted : Bool) : (step batch w (.publish relay accepted)).2.Sound := by
  have hs := h.phases relay
  rw [hphase] at hs
  rcases hs with ⟨hleft, hsent⟩
  have hrecorded := h.record ⟨rec, accepted⟩ (hleft rec mem_cons_self)
  have hdone : publishedIDs w.world.attempts ⊆
      publishedIDs (w.record ⟨rec, accepted⟩).world.attempts := by
    unfold publishedIDs Relays.record
    rw [published_append, map_append]
    exact subset_append_left _ _
  simp only [step, hphase]
  cases accepted with
  | false =>
    apply hrecorded.move
    exact endBatch_sound batch size (List.Subset.trans hsent hdone)
  | true =>
    apply hrecorded.move
    have hsent' : sent ++ [rec.id] ⊆ publishedIDs (w.record ⟨rec, true⟩).world.attempts := by
      apply append_subset.mpr
      refine ⟨List.Subset.trans hsent hdone, ?_⟩
      unfold publishedIDs Relays.record
      rw [published_append, map_append]
      exact subset_append_right _ _
    split
    · exact endBatch_sound batch size hsent'
    · exact ⟨fun r hr => hleft r (mem_cons_of_mem _ hr), hsent'⟩

end Sound

lemma sound_step (batch : Nat) (w : Relays) (event : RelayEvent) (h : w.Sound) :
    (step batch w event).2.Sound := by
  cases event with
  | request =>
    simp only [step]
    split
    · exact h
    · next hop => exact h.request (by simpa using hop)
  | start =>
    simp only [step]
    split
    · exact h.move trivial
    · exact h
  | poll =>
    simp only [step]
    split
    · split
      · exact h.move trivial
      · exact h.move ⟨fun r hr => h.poll hr, nil_subset _⟩
    · exact h
  | publish relay accepted =>
    cases hphase : w.phases relay with
    | publishing size left =>
      cases left with
      | nil => simpa only [step, hphase] using h
      | cons => exact h.publish batch hphase accepted
    | resting | polling | marking => simpa only [step, hphase] using h
  | mark relay =>
    have hs := h.phases relay
    simp only [step]
    split
    · next size sent hphase =>
      rw [hphase] at hs
      exact (h.markSent hs).move (afterBatch_sound batch size _ _)
    · exact h
  | again =>
    simp only [step]
    split
    · next ids hcall => exact h.markSent (h.calls ids (mem_of_getElem? hcall))
    · exact h
  | purge limit => exact h.drops h.marks (drops_purgeLoop limit _ _ 0)
  | stop => exact h.move trivial

end Relays

/-- A record is returned by every poll whose limit is large enough. -/
def Pollable (s : Store) (r : OutboxRecord) : Prop :=
  ∃ n : Nat, ∀ limit : Int, n ≤ limit → r ∈ s.pollOutbox limit

lemma pollable_of_unmarked {s : Store} {r : OutboxRecord} (hmem : r ∈ s.outbox)
    (hsent : s.outboxSent r.id = false) : Pollable s r := by
  refine ⟨s.outbox.length, fun limit hlim => ?_⟩
  unfold Store.pollOutbox
  rcases pollLoop_eq_take s.outboxSent limit [] s.outbox with ⟨n, hn, hcap⟩
  rw [hn, take_of_length_le ((length_filter_le _ _).trans (by simp at hcap; omega)), nil_append]
  exact mem_filter.mpr ⟨hmem, by rw [hsent]; rfl⟩

/-- Every staged record can still be polled or is done, and none was marked or
removed that is not done. -/
structure NothingLost (w : World Store) (Done : OutboxRecord → Prop) : Prop where
  pollable : ∀ r ∈ w.staged, Pollable w.store r ∨ Done r
  marked : ∀ r ∈ w.staged, w.store.outboxSent r.id = true → Done r
  removed : ∀ r ∈ w.staged, r ∉ w.store.outbox → Done r

lemma Relays.Sound.nothingLost {w : Relays} (h : w.Sound) :
    NothingLost w.world fun r => r.id ∈ publishedIDs w.world.attempts where
  pollable r hr := by
    rcases h.kept r hr with hmem | hpub
    · cases hmark : w.world.store.outboxSent r.id with
      | true => exact .inr (h.marks r.id hmark)
      | false => exact .inl (pollable_of_unmarked hmem hmark)
    · exact .inr hpub
  marked r _ hmark := h.marks r.id hmark
  removed r hr hgone := (h.kept r hr).resolve_left hgone

/-- Where identifiers are distinct, what was published under the identifier of a
record is that record. -/
lemma Relays.Sound.published_of_id {w : Relays} (h : w.Sound)
    (hids : (w.world.staged.map (·.id)).Nodup) {r : OutboxRecord} (hr : r ∈ w.world.staged)
    (hid : r.id ∈ publishedIDs w.world.attempts) : r ∈ Outbox.published w.world.attempts := by
  rcases mem_map.mp hid with ⟨q, hq, hsame⟩
  exact inj_on_of_nodup_map hids (h.published q hq) hr hsame ▸ hq

/-- Along every run of any number of relays, every staged record can still be polled or was
published, and none was marked or removed without.  As far as identifiers are distinct it is the
record itself that was published. -/
theorem no_event_lost (batch : Nat) (events : List RelayEvent) :
    let w := (Relays.new.after batch events).world
    (NothingLost w fun r => r.id ∈ publishedIDs w.attempts) ∧
      ((w.staged.map (·.id)).Nodup → NothingLost w fun r => r ∈ published w.attempts) := by
  have hs : (Relays.new.after batch events).Sound :=
    Machine.invariant_final _ (Relays.sound_step batch) Relays.Sound.new events
  refine ⟨hs.nothingLost, fun hids => ?_⟩
  have hlost := hs.nothingLost
  constructor
  · intro r hr
    exact (hlost.pollable r hr).imp_right (hs.published_of_id hids hr)
  · intro r hr hmark
    exact hs.published_of_id hids hr (hlost.marked r hr hmark)
  · intro r hr hgone
    exact hs.published_of_id hids hr (hlost.removed r hr hgone)

section Sample

/-- A message whose event is staged under a given identifier. -/
def stageMessage (id ob : String) : RelayEvent :=
  .request (.insertMessage (draft id "a" "1") "" (some (outboxFor ob .messageCreated)))

/-- Two relays poll the same two records: the first publishes and marks both; the second publishes
one and marks a record that has left the outbox.  Then a third is staged. -/
def overlappingEvents : List RelayEvent :=
  [.request (.createChat (groupChat "a")), stageMessage "1" "11", stageMessage "2" "12",
    .start 1, .start 2, .poll 1, .poll 2, .publish 1 true, .publish 2 true, .publish 1 true,
    .publish 2 false, .mark 1, .mark 2, .again 0, .purge 10, stageMessage "3" "13"]

theorem no_event_lost_overlapping : let w := (Relays.new.after defaultBatch overlappingEvents).world
    (w.staged.map (·.id) = ["11", "12", "13"] ∧ publishedIDs w.attempts = ["11", "11", "12"] ∧
      w.store.outbox.map (·.id) = ["13"]) ∧
      NothingLost w fun r => r ∈ published w.attempts := by
  refine ⟨by decide +kernel, (no_event_lost defaultBatch overlappingEvents).2 ?_⟩
  decide +kernel

end Sample

end SyncApp.Outbox
