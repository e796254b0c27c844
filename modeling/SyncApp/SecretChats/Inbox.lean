import SyncApp.SecretChats.Redelivery

/-!
# Receiving on iOS while the process may stop

`receive`, `persist`, `noteSecretAck` and `flushAcks` of `SecretChatService` and of the local store.
Session, prekeys, message and acknowledgement are written one after the other; the acknowledgement
is then handed to the writer of the connection and taken out of the store.  Calls give way to each
other between two writes, and the process may stop anywhere.

Main results:

- `Inbox.kept_run`: what holds of the messages that were opened, after every schedule.
- `Inbox.acked_rounds`: what is owed is told over a connection that holds.
- `crash_loses_no_message`: when a message that opens is cached and acknowledged.
-/

namespace SyncApp.SecretChats

open Foundations Foundations.Interleaving List Function
open Option (bind_some getD_some map_some)
open Safe (read write)
open Opened (plaintext)

/-! ## The local store -/

/-- A secret chat in the local store. -/
structure ChatRow where
  id : String
  peerUserID : String
  archived : Bool

/-- A message in the local store, without its id. -/
structure MessageRow where
  chatID : String
  senderID : String
  text : String

/-- The id under which a message of the queue is cached. -/
def queuedID (queueID : String) : String := "secret-q-" ++ queueID

lemma queuedID_injective : Function.Injective queuedID := by
  intro q q' h
  have hlist := congrArg String.toList h
  simp only [queuedID, String.toList_append] at hlist
  exact String.toList_inj.mp (append_cancel_left hlist)

/-- `SecretMsgBody`: the sender, the envelope, the row in the queue, empty for a live frame, and the
UUID drawn for a live frame, which is no id of a queued one. -/
structure SecretMsgBody (S : Suite) where
  peer : Peer
  envelope : Inbound S
  queueID : String
  uuid : String
  apart : ∀ q, "secret-" ++ peer.device ++ "-" ++ uuid ≠ queuedID q

/-- The id under which the message is cached. -/
def SecretMsgBody.id {S : Suite} (body : SecretMsgBody S) : String :=
  if body.queueID = "" then "secret-" ++ body.peer.device ++ "-" ++ body.uuid
  else queuedID body.queueID

/-- The rows of `pendingSecretAcks`. -/
def ackLimit : Nat := 200

/-- The service, the rows of the local store, and the acknowledgements that the writer of the
connection holds, if there is one.  The rest is not the phone's: `acked` is what the server was
told, `log` the queue rows and texts whose sessions were saved, `busy` those whose acknowledgement
is not noted yet, `torn` those at which the process stopped, and `lost` those whose acknowledgement
is gone. -/
structure Inbox (S : Suite) where
  service : Ios S
  chats : List ChatRow
  messages : AList fun _ : String => MessageRow
  acks : List String
  outbound : Option (List (List String))
  acked : List String
  log : List (String × String)
  busy : List String
  torn : List String
  lost : List String

variable {S : Suite}

namespace Inbox

/-- A phone without messages. -/
def new (service : Ios S) : Inbox S where
  service := service
  chats := []
  messages := ∅
  acks := []
  outbound := none
  acked := []
  log := []
  busy := []
  torn := []
  lost := []

variable (w : Inbox S)

/-- The acknowledgements that the writer holds. -/
def waiting : List String := (w.outbound.getD []).flatten

/-- The acknowledgements that are noted, on their way or told. -/
def owed : List String := w.acks ++ w.waiting ++ w.acked

/-- After a change, what was owed and is owed no more is lost. -/
def strand (w w' : Inbox S) : Inbox S :=
  { w' with lost := w.owed.filter (· ∉ w'.owed) ++ w'.lost }

def within (change : Ios S → Ios S) : Inbox S :=
  { w with service := change w.service }

variable (body : SecretMsgBody S)

def saveSecretSession (o : Opened S) : Inbox S :=
  { w with
    service := w.service.saveSession body.peer o.session
    log := (body.queueID, o.plaintext) :: w.log
    busy := if body.queueID = "" then w.busy else body.queueID :: w.busy }

/-- The chat of a peer, if there is one: those that are not archived come first. -/
def secretChat (peerUserID : String) : Option String :=
  ((w.chats.filter (fun c => !c.archived) ++ w.chats.filter ChatRow.archived).find?
    (·.peerUserID = peerUserID)).map ChatRow.id

def upsertChat (chat : ChatRow) : Inbox S :=
  { w with
    chats := if chat.id ∈ w.chats.map ChatRow.id
      then w.chats.map fun c => if c.id = chat.id then chat else c
      else w.chats ++ [chat] }

/-- `upsertMessages`: a message that is there keeps its chat and its sender. -/
def upsertMessage (id : String) (message : MessageRow) : Inbox S :=
  let row := match w.messages.lookup id with
    | none => message
    | some old => { old with text := message.text }
  { w with messages := w.messages.insert id row }

def noteSecretAck (queueID : String) : Inbox S :=
  { w with
    acks := if queueID ∈ w.acks then w.acks else w.acks ++ [queueID]
    busy := w.busy.filter (· ≠ queueID)
    torn := w.torn.filter (· ≠ queueID)
    lost := w.lost.filter (· ≠ queueID) }

/-- `ackSecrets`: the frame is handed to the writer. -/
def ackSecrets (ids : List String) : Inbox S :=
  { w with outbound := w.outbound.map (· ++ [ids]) }

def clearSecretAcks (ids : List String) : Inbox S :=
  w.strand { w with acks := w.acks.filter (· ∉ ids) }

/-- The writer sends its next frame, and the server hears it or not. -/
def transmit (heard : Bool) : Inbox S :=
  match w.outbound with
  | some (frame :: rest) =>
    if heard then { w with outbound := some rest, acked := frame ++ w.acked }
    else w.strand { w with outbound := some rest }
  | _ => w

/-- The connection is closed, or a new one takes its place. -/
def reconnect (connected : Bool) : Inbox S :=
  w.strand { w with outbound := if connected then some [] else none }

/-- The process starts again from what it had stored. -/
def restart (w : Inbox S) : Inbox S :=
  w.strand { w with
    service := w.service.restart
    outbound := none
    busy := []
    torn := w.busy ++ w.torn }

/-- `flushAcks`: nothing is sent and nothing cleared while there is no connection. -/
def flushAcks : Task (Inbox S) Unit :=
  .read fun w =>
    let pending := w.acks.take ackLimit
    if pending = [] then .done ()
    else
      .act (fun w => w.ackSecrets pending) fun w =>
        match w.outbound with
        | none => .done ()
        | some _ => .write (fun w => w.clearSecretAcks pending) (.done ())

/-- The chat for a peer whose chat is not known yet. -/
def placeholder (ourUserID peerUserID : String) : ChatRow where
  id := if peerUserID < ourUserID then "secret:" ++ peerUserID ++ ":" ++ ourUserID
    else "secret:" ++ ourUserID ++ ":" ++ peerUserID
  peerUserID := peerUserID
  archived := false

def row (text chatID : String) : MessageRow :=
  ⟨chatID, body.peer.user.text, text⟩

def persist (ourUserID text : String) (rest : Task (Inbox S) Unit) : Task (Inbox S) Unit :=
  .read fun w =>
    match w.secretChat body.peer.user.text with
    | some chatID => .write (fun w => w.upsertMessage body.id (row body text chatID)) rest
    | none =>
      let chat := placeholder ourUserID body.peer.user.text
      .write (fun w => w.upsertChat chat) <|
        .write (fun w => w.upsertMessage body.id (row body text chat.id)) rest

/-- The end of `receive`. -/
def acknowledge : Task (Inbox S) Unit :=
  if body.queueID = "" then .done ()
  else .write (fun w => w.noteSecretAck body.queueID) flushAcks

variable (ourUserID : String)

/-- What `receive` does with a message that was opened. -/
def keep (o : Opened S) : Task (Inbox S) Unit :=
  .write (fun w => w.saveSecretSession body o) <|
    .write (fun w => w.within fun s => { s with keys := s.keys.drop o.consumed }) <|
      persist body ourUserID o.plaintext (acknowledge body)

/-- `receive`, once it has an object or none. -/
def receiveWith (existing : Option Nat) : Task (Inbox S) Unit :=
  .act (fun w => w.within fun s => s.inbound body.peer body.envelope existing) fun w =>
    match openSecret w.service.keys (existing.bind w.service.heap) body.envelope
        w.service.draws with
    | none => .done ()
    | some o => keep body ourUserID o

def receive : Task (Inbox S) Unit :=
  .read fun w =>
    match w.service.live body.peer.key with
    | some r => receiveWith body ourUserID (some r)
    | none =>
      .act (fun w => w.within fun s => s.restore body.peer) fun w =>
        receiveWith body ourUserID (some w.service.refs)

end Inbox

/-- What happens to a phone: calls, and what the connection does.  Everything else that changes the
service is left open. -/
inductive InboxCall (S : Suite) where
  | receive (body : SecretMsgBody S) (ourUserID : String)
  | flushAcks
  | upsertChat (chat : ChatRow)
  | transmit (heard : Bool)
  | reconnect (connected : Bool)
  | elsewhere (change : Ios S → Ios S)

def InboxCall.task : InboxCall S → Task (Inbox S) Unit
  | .receive body ourUserID => Inbox.receive body ourUserID
  | .flushAcks => Inbox.flushAcks
  | .upsertChat chat => .write (fun w => w.upsertChat chat) (.done ())
  | .transmit heard => .write (fun w => w.transmit heard) (.done ())
  | .reconnect connected => .write (fun w => w.reconnect connected) (.done ())
  | .elsewhere change => .write (fun w => w.within change) (.done ())

namespace Inbox

variable (service : Ios S) (events : List (Event (InboxCall S)))

/-- The phone after a schedule. -/
def run : Inbox S :=
  ((⟨new service, []⟩ : Pool (Inbox S) Unit).after InboxCall.task restart events).state

/-! ## What every schedule keeps -/

variable {w w' : Inbox S} {q : String}

/-- A message that was opened is in work, or the process stopped there, or it is cached and its
acknowledgement is accounted for; and nothing else is cached or acknowledged. -/
structure Kept (w : Inbox S) : Prop where
  settled : ∀ q text, (q, text) ∈ w.log → q ≠ "" → (q ∈ w.busy ∨ q ∈ w.torn) ∨
    (w.messages.lookup (queuedID q)).isSome ∧ (q ∈ w.owed ∨ q ∈ w.lost)
  rows : ∀ q row, w.messages.lookup (queuedID q) = some row → (q, row.text) ∈ w.log
  known : ∀ q ∈ w.owed, ∃ text, (q, text) ∈ w.log

/-- What calls rely on: messages that were opened and rows of the cache do not go away. -/
structure Grows (w w' : Inbox S) : Prop where
  log : ∀ entry ∈ w.log, entry ∈ w'.log
  rows : ∀ id, (w.messages.lookup id).isSome → (w'.messages.lookup id).isSome

lemma Grows.refl (w : Inbox S) : Grows w w := ⟨fun _ => id, fun _ => id⟩

lemma Grows.trans {w'' : Inbox S} (h : Grows w w') (h' : Grows w' w'') : Grows w w'' :=
  ⟨fun entry hentry => h'.log entry (h.log entry hentry), fun id hid => h'.rows id (h.rows id hid)⟩

def discipline (S : Suite) : Discipline (Inbox S) where
  inv := Kept
  rel := Grows
  refl := Grows.refl
  trans := Grows.trans

lemma kept_new : Kept (new service) where
  settled _ _ h := nomatch h
  rows _ _ h := by simp [new] at h
  known _ h := by simp [owed, waiting, new] at h

lemma mem_owed : q ∈ w.owed ↔ q ∈ w.acks ∨ q ∈ w.waiting ∨ q ∈ w.acked := by
  simp [owed]

section

variable (h : Kept w)
include h

section

variable (hlog : w'.log = w.log) (hmsgs : w'.messages = w.messages)
  (hopen : ∀ q, q ∈ w.busy ∨ q ∈ w.torn → q ∈ w'.busy ∨ q ∈ w'.torn)
include hlog hmsgs hopen

lemma Kept.change (howed : ∀ q, q ∈ w.owed ∨ q ∈ w.lost → q ∈ w'.owed ∨ q ∈ w'.lost)
    (hknown : ∀ q ∈ w'.owed, ∃ text, (q, text) ∈ w.log) : Kept w' := by
  refine ⟨?_, ?_, ?_⟩
  · intro q text hq hne
    rw [hlog] at hq
    rw [hmsgs]
    rcases h.settled q text hq hne with hunset | ⟨hrow, hacc⟩
    · exact .inl (hopen q hunset)
    · exact .inr ⟨hrow, howed q hacc⟩
  · rw [hmsgs, hlog]
    exact h.rows
  · rw [hlog]
    exact hknown

/-- A change after which less is owed: the rest is lost. -/
lemma Kept.strand (hlost : w'.lost = w.lost) (hless : ∀ q ∈ w'.owed, q ∈ w.owed) :
    Kept (w.strand w') := by
  refine h.change hlog hmsgs hopen ?_ fun q hq => h.known q (hless q hq)
  intro q hq
  by_cases hstill : q ∈ w'.owed
  · exact .inl hstill
  right
  rcases hq with howed | hgone
  · exact mem_append_left _ (mem_filter.mpr ⟨howed, decide_eq_true hstill⟩)
  · refine mem_append_right _ ?_
    rw [hlost]
    exact hgone

end

lemma Kept.within (change : Ios S → Ios S) : Kept (w.within change) :=
  { h with }

lemma Kept.upsertChat (chat : ChatRow) : Kept (w.upsertChat chat) :=
  { h with }

lemma Kept.ackSecrets {ids : List String} (hids : ∀ q ∈ ids, ∃ text, (q, text) ∈ w.log) :
    Kept (w.ackSecrets ids) := by
  have hwaiting : ∀ q, q ∈ (w.ackSecrets ids).waiting ↔
      q ∈ w.waiting ∨ (w.outbound.isSome ∧ q ∈ ids) := by
    intro q
    unfold Inbox.ackSecrets Inbox.waiting
    cases w.outbound with
    | none | some => simp
  refine h.change rfl rfl (fun _ => id) ?_ ?_
  · rintro q (howed | hlost)
    · left
      rw [mem_owed] at howed ⊢
      rw [hwaiting]
      rcases howed with hack | hwait | htold
      · exact .inl hack
      · exact .inr (.inl (.inl hwait))
      · exact .inr (.inr htold)
    · exact .inr hlost
  · intro q hq
    rw [mem_owed, hwaiting] at hq
    rcases hq with hack | (hwait | ⟨-, hnew⟩) | htold
    · exact h.known q (mem_owed.mpr (.inl hack))
    · exact h.known q (mem_owed.mpr (.inr (.inl hwait)))
    · exact hids q hnew
    · exact h.known q (mem_owed.mpr (.inr (.inr htold)))

lemma Kept.clearSecretAcks (ids : List String) : Kept (w.clearSecretAcks ids) := by
  refine h.strand rfl rfl (fun _ => id) rfl ?_
  intro q hq
  rw [mem_owed] at hq ⊢
  rcases hq with hack | hrest
  · exact .inl (mem_of_mem_filter hack)
  · exact .inr hrest

lemma Kept.transmit (heard : Bool) : Kept (w.transmit heard) := by
  unfold Inbox.transmit
  split
  · next frame rest hframes =>
    have hwaiting : w.waiting = frame ++ rest.flatten := by
      simp [waiting, hframes]
    split
    · -- The frame moves from the writer to the server.
      refine h.change rfl rfl (fun _ => id) ?_ ?_
      · rintro q (howed | hlost)
        · left
          rw [mem_owed, hwaiting] at howed
          simp only [mem_owed, waiting, getD_some, mem_append] at howed ⊢
          tauto
        · exact .inr hlost
      · intro q hq
        refine h.known q ?_
        rw [mem_owed, hwaiting]
        simp only [mem_owed, waiting, getD_some, mem_append] at hq ⊢
        tauto
    · refine h.strand rfl rfl (fun _ => id) rfl ?_
      intro q hq
      rw [mem_owed, hwaiting]
      simp only [mem_owed, waiting, getD_some, mem_append] at hq ⊢
      tauto
  · exact h

lemma Kept.reconnect (connected : Bool) : Kept (w.reconnect connected) := by
  refine h.strand rfl rfl (fun _ => id) rfl ?_
  intro q hq
  rw [mem_owed] at hq ⊢
  rcases hq with hack | hwait | htold
  · exact .inl hack
  · cases connected <;> simp [waiting] at hwait
  · exact .inr (.inr htold)

lemma Kept.restart : Kept w.restart := by
  refine h.strand rfl rfl ?_ rfl ?_
  · intro q hq
    exact .inr (mem_append.mpr hq)
  · intro q hq
    rw [mem_owed] at hq ⊢
    rcases hq with hack | hwait | htold
    · exact .inl hack
    · simp [waiting] at hwait
    · exact .inr (.inr htold)

lemma Kept.saveSecretSession (body : SecretMsgBody S) (o : Opened S) :
    Kept (w.saveSecretSession body o) := by
  have hbusy : ∀ q ∈ w.busy, q ∈ (w.saveSecretSession body o).busy := by
    intro q hq
    unfold Inbox.saveSecretSession
    split
    · exact hq
    · exact mem_cons_of_mem _ hq
  refine ⟨?_, ?_, ?_⟩
  · intro q text hq hne
    rcases mem_cons.mp hq with heq | hold
    · cases heq
      left
      left
      unfold Inbox.saveSecretSession
      rw [if_neg hne]
      exact mem_cons_self
    · rcases h.settled q text hold hne with (hq | htorn) | hrow
      · exact .inl (.inl (hbusy q hq))
      · exact .inl (.inr htorn)
      · exact .inr hrow
  · intro q row hrow
    exact mem_cons_of_mem _ (h.rows q row hrow)
  · intro q hq
    rcases h.known q hq with ⟨text, htext⟩
    exact ⟨text, mem_cons_of_mem _ htext⟩

end

lemma lookup_upsertMessage (w : Inbox S) (id : String) (message : MessageRow) :
    ∃ row, (w.upsertMessage id message).messages.lookup id = some row ∧
      row.text = message.text := by
  unfold upsertMessage
  rw [AList.lookup_insert]
  split
  · exact ⟨_, rfl, rfl⟩
  · exact ⟨_, rfl, rfl⟩

lemma lookup_upsertMessage_ne (message : MessageRow) {id id' : String} (hne : id' ≠ id) :
    (w.upsertMessage id message).messages.lookup id' = w.messages.lookup id' :=
  AList.lookup_insert_ne hne

lemma Grows.upsertMessage (w : Inbox S) (id : String) (message : MessageRow) :
    Grows w (w.upsertMessage id message) := by
  refine ⟨fun _ hentry => hentry, ?_⟩
  intro id' hid'
  by_cases heq : id' = id
  · subst heq
    rcases lookup_upsertMessage w id' message with ⟨_, hrow, -⟩
    rw [hrow]
    rfl
  · rw [lookup_upsertMessage_ne message heq]
    exact hid'

variable {body : SecretMsgBody S} {text : String} {t : Inbox S}

lemma Kept.upsertMessage (h : Kept w) (chatID : String) (hlog : (body.queueID, text) ∈ w.log) :
    Kept (w.upsertMessage body.id (row body text chatID)) := by
  refine ⟨?_, ?_, h.known⟩
  · intro q text' hq hne
    rcases h.settled q text' hq hne with hunset | ⟨hrow, hacc⟩
    · exact .inl hunset
    · exact .inr ⟨(Grows.upsertMessage w body.id (row body text chatID)).rows _ hrow, hacc⟩
  · intro q row' hrow'
    by_cases heq : queuedID q = body.id
    · -- A live frame has no such id, so this is the message of the queue.
      have hq : q = body.queueID := by
        unfold SecretMsgBody.id at heq
        split at heq
        · exact absurd heq.symm (body.apart q)
        · exact queuedID_injective heq
      rcases lookup_upsertMessage w body.id (row body text chatID) with ⟨_, hkept, htext⟩
      rw [heq, hkept] at hrow'
      cases hrow'
      rw [htext, hq]
      exact hlog
    · rw [lookup_upsertMessage_ne _ heq] at hrow'
      exact h.rows q row' hrow'

lemma mem_owed_noteSecretAck (w : Inbox S) (q p : String) :
    p ∈ (w.noteSecretAck q).owed ↔ p = q ∨ p ∈ w.owed := by
  have hacks : p ∈ (w.noteSecretAck q).acks ↔ p = q ∨ p ∈ w.acks := by
    unfold noteSecretAck
    split
    · next hmem =>
      constructor
      · exact .inr
      · rintro (rfl | hp)
        · exact hmem
        · exact hp
    · rw [mem_append, mem_singleton, or_comm]
  rw [mem_owed, mem_owed, hacks, or_assoc]
  rfl

lemma Kept.noteSecretAck (h : Kept w) (hlog : (q, text) ∈ w.log)
    (hrow : (w.messages.lookup (queuedID q)).isSome) : Kept (w.noteSecretAck q) := by
  have howed := mem_owed_noteSecretAck w q
  refine ⟨?_, h.rows, ?_⟩
  · intro p text' hp hne
    by_cases heq : p = q
    · subst heq
      exact .inr ⟨hrow, .inl ((howed p).mpr (.inl rfl))⟩
    have hother : ∀ {ids : List String}, p ∈ ids → p ∈ ids.filter (· ≠ q) :=
      fun hmem => mem_filter.mpr ⟨hmem, decide_eq_true heq⟩
    rcases h.settled p text' hp hne with (hbusy | htorn) | ⟨hrow', hacc | hlost⟩
    · exact .inl (.inl (hother hbusy))
    · exact .inl (.inr (hother htorn))
    · exact .inr ⟨hrow', .inl ((howed p).mpr (.inr hacc))⟩
    · exact .inr ⟨hrow', .inr (hother hlost)⟩
  · intro p hp
    rcases (howed p).mp hp with rfl | hacc
    · exact ⟨text, hlog⟩
    · exact h.known p hacc

/-! ## Whole schedules -/

/-- A call that keeps all this, whatever the others do. -/
abbrev Behaves : Task (Inbox S) Unit → Inbox S → Prop := Safe (discipline S) fun _ _ => True

lemma safe_done (w : Inbox S) : Behaves (.done ()) w :=
  Safe.done fun _ _ _ => trivial

lemma safe_flushAcks (w : Inbox S) : Behaves flushAcks w := by
  refine read fun t _ ht => ?_
  dsimp only
  split
  · exact safe_done t
  intro u htu hu
  refine ⟨⟨fun _ => id, fun _ => id⟩, hu.ackSecrets ?_, ?_⟩
  · intro q hq
    rcases ht.known q (mem_owed.mpr (.inl (mem_of_mem_take hq))) with ⟨text, htext⟩
    exact ⟨text, htu.log _ htext⟩
  · dsimp only
    split
    · exact safe_done _
    · refine write fun v _ hv => ?_
      exact ⟨⟨fun _ => id, fun _ => id⟩, hv.clearSecretAcks _, safe_done _⟩

section Receiving

variable {body : SecretMsgBody S} {text : String}

lemma safe_persist (ourUserID : String) {rest : Task (Inbox S) Unit}
    (hlog : (body.queueID, text) ∈ w.log)
    (hrest : ∀ t, Grows w t → (t.messages.lookup body.id).isSome → Behaves rest t) :
    Behaves (persist body ourUserID text rest) w := by
  -- The row is there once it is written, whatever chat it is in.
  have hwrite : ∀ u chatID, Grows w u →
      Behaves (.write (fun w => w.upsertMessage body.id (row body text chatID)) rest) u := by
    intro u chatID hwu
    refine write fun v huv hv => ?_
    have hgrows := Grows.upsertMessage v body.id (row body text chatID)
    rcases lookup_upsertMessage v body.id (row body text chatID) with ⟨_, hkept, -⟩
    refine ⟨hgrows, hv.upsertMessage chatID (huv.log _ (hwu.log _ hlog)), ?_⟩
    refine hrest _ ((hwu.trans huv).trans hgrows) ?_
    rw [hkept]
    rfl
  refine read fun t hwt ht => ?_
  split
  · next chatID _ => exact hwrite t chatID hwt
  refine write fun u htu hu => ?_
  refine ⟨⟨fun _ => id, fun _ => id⟩, hu.upsertChat _, ?_⟩
  exact hwrite _ _ ⟨(hwt.trans htu).log, (hwt.trans htu).rows⟩

lemma safe_acknowledge (hlog : (body.queueID, text) ∈ w.log)
    (hrow : (w.messages.lookup body.id).isSome) : Behaves (acknowledge body) w := by
  unfold acknowledge
  split
  · exact safe_done w
  · next hqueued =>
    refine write fun t hwt ht => ?_
    have hid : body.id = queuedID body.queueID := if_neg hqueued
    have hrow' : (t.messages.lookup (queuedID body.queueID)).isSome := by
      rw [← hid]
      exact hwt.rows _ hrow
    exact ⟨⟨fun _ => id, fun _ => id⟩, ht.noteSecretAck (hwt.log _ hlog) hrow', safe_flushAcks _⟩

variable (body : SecretMsgBody S) (ourUserID : String)

lemma safe_receiveWith (existing : Option Nat) (w : Inbox S) :
    Behaves (receiveWith body ourUserID existing) w := by
  intro t _ ht
  refine ⟨⟨fun _ => id, fun _ => id⟩, ht.within _, ?_⟩
  dsimp only
  split
  · exact safe_done _
  · next o _ =>
    refine write fun u _ hu => ?_
    refine ⟨⟨fun _ => mem_cons_of_mem _, fun _ => id⟩, hu.saveSecretSession body o, ?_⟩
    refine write fun v huv hv => ?_
    refine ⟨⟨fun _ => id, fun _ => id⟩, hv.within _, ?_⟩
    have hlog : (body.queueID, o.plaintext) ∈ v.log := huv.log _ mem_cons_self
    refine safe_persist ourUserID hlog fun x hvx hrow => ?_
    exact safe_acknowledge (hvx.log _ hlog) hrow

lemma safe_receive (w : Inbox S) : Behaves (receive body ourUserID) w := by
  refine read fun t _ ht => ?_
  split
  · exact safe_receiveWith body ourUserID _ t
  · intro u _ hu
    exact ⟨⟨fun _ => id, fun _ => id⟩, hu.within _, safe_receiveWith body ourUserID _ _⟩

end Receiving

/-- A call of one write that touches neither the messages nor what was opened. -/
lemma safe_write {change : Inbox S → Inbox S} (hkept : ∀ t, Kept t → Kept (change t))
    (hlog : ∀ t, (change t).log = t.log) (hmsgs : ∀ t, (change t).messages = t.messages)
    (w : Inbox S) : Behaves (.write change (.done ())) w := by
  refine write fun t _ ht => ?_
  refine ⟨⟨?_, ?_⟩, hkept t ht, safe_done _⟩
  · rw [hlog]
    exact fun _ => id
  · rw [hmsgs]
    exact fun _ => id

lemma untouched_transmit (w : Inbox S) (heard : Bool) :
    (w.transmit heard).log = w.log ∧ (w.transmit heard).messages = w.messages := by
  unfold Inbox.transmit
  split
  · split
    · exact ⟨rfl, rfl⟩
    · exact ⟨rfl, rfl⟩
  · exact ⟨rfl, rfl⟩

lemma safe_task (call : InboxCall S) (w : Inbox S) : Behaves call.task w := by
  cases call with
  | receive => exact safe_receive _ _ w
  | flushAcks => exact safe_flushAcks w
  | upsertChat chat =>
    exact safe_write (fun _ ht => ht.upsertChat chat) (fun _ => rfl) (fun _ => rfl) w
  | transmit heard =>
    exact safe_write (fun _ ht => ht.transmit heard) (fun t => (untouched_transmit t heard).1)
      (fun t => (untouched_transmit t heard).2) w
  | reconnect => exact safe_write (fun _ ht => ht.reconnect ..) (fun _ => rfl) (fun _ => rfl) w
  | elsewhere change =>
    exact safe_write (fun _ ht => ht.within change) (fun _ => rfl) (fun _ => rfl) w

theorem kept_run : Kept (run service events) := by
  have hstart : (⟨new service, []⟩ : Pool (Inbox S) Unit).Safe (discipline S)
      (fun _ _ => True) := ⟨kept_new service, nofun⟩
  exact (safe_final safe_task (fun _ h => Kept.restart h) hstart events).inv

lemma alone_flushAcks (w : Inbox S) :
    (flushAcks.alone w).2 = if w.acks.take ackLimit = [] then w
      else
        match w.outbound with
        | none => w.ackSecrets (w.acks.take ackLimit)
        | some _ => (w.ackSecrets (w.acks.take ackLimit)).clearSecretAcks
            (w.acks.take ackLimit) := by
  unfold flushAcks
  rw [Task.alone_read]
  dsimp only
  split
  · rfl
  rw [Task.alone_act]
  split
  · rfl
  · rfl

lemma owed_flushAcks (hq : q ∈ w.owed) : q ∈ (flushAcks.alone w).2.owed := by
  rw [alone_flushAcks]
  split
  · exact hq
  rw [mem_owed] at hq
  split
  · next hnone =>
    rw [mem_owed]
    simpa [ackSecrets, waiting, hnone] using hq
  · next frames hframes =>
    simp only [mem_owed, clearSecretAcks, strand, ackSecrets, waiting, hframes,
      map_some, getD_some, flatten_append, mem_append,
      mem_filter, decide_eq_true_eq, flatten_cons, flatten_nil,
      append_nil] at hq ⊢
    tauto

/-- `flushAcks`, and the writer sends a frame that is heard. -/
def round (w : Inbox S) : Inbox S := (flushAcks.alone w).2.transmit true

/-- The rows and frames that are left. -/
def backlog (w : Inbox S) : Nat := w.acks.length + (w.outbound.getD []).length

lemma owed_round (hq : q ∈ w.owed) : q ∈ w.round.owed := by
  have hflushed := owed_flushAcks hq
  unfold round transmit
  split
  · next frame rest hframes =>
    simp only [mem_owed, waiting, hframes, getD_some, flatten_cons,
      mem_append, if_true] at hflushed ⊢
    tauto
  · exact hflushed

lemma length_filter_take_lt {acks : List String} (hne : acks.take ackLimit ≠ []) :
    (acks.filter (· ∉ acks.take ackLimit)).length < acks.length := by
  cases acks with
  | nil => exact absurd rfl hne
  | cons a =>
    refine length_filter_lt_length_iff_exists.mpr ⟨a, mem_cons_self, ?_⟩
    simp [ackLimit]

/-- A round leaves the connection and less of what is left. -/
lemma backlog_round (hconn : w.outbound.isSome) :
    w.round.outbound.isSome ∧ w.round.backlog ≤ w.backlog - 1 := by
  rcases Option.isSome_iff_exists.mp hconn with ⟨frames, hframes⟩
  unfold round
  rw [alone_flushAcks]
  split
  · next hnone =>
    have hacks : w.acks = [] := by
      cases hacks : w.acks with
      | nil => rfl
      | cons => simp [hacks, ackLimit] at hnone
    cases frames with
    | nil | cons => simp [transmit, backlog, hframes, hacks]
  · next hsome =>
    have hless := length_filter_take_lt hsome
    cases frames with
    | nil =>
      simp only [transmit, clearSecretAcks, strand, ackSecrets, hframes, map_some,
        nil_append, backlog, getD_some, length_nil, if_true]
      exact ⟨rfl, by omega⟩
    | cons =>
      simp only [transmit, clearSecretAcks, strand, ackSecrets, hframes, map_some,
        cons_append, backlog, getD_some, length_cons, length_append,
        length_nil, if_true]
      exact ⟨rfl, by omega⟩

lemma mem_acked_of_backlog (h : w.backlog = 0) (hq : q ∈ w.owed) : q ∈ w.acked := by
  have hacks : w.acks = [] := eq_nil_of_length_eq_zero (Nat.eq_zero_of_add_eq_zero_right h)
  have hframes : w.outbound.getD [] = [] :=
    eq_nil_of_length_eq_zero (Nat.eq_zero_of_add_eq_zero_left h)
  simpa [mem_owed, waiting, hacks, hframes] using hq

/-- Once the connection holds, what is owed is told. -/
theorem acked_rounds {n : Nat} (hconn : w.outbound.isSome) (hn : w.backlog ≤ n)
    (hq : q ∈ w.owed) : q ∈ (Inbox.round^[n] w).acked := by
  induction n generalizing w with
  | zero => exact mem_acked_of_backlog (Nat.le_zero.mp hn) hq
  | succ n ih =>
    rcases backlog_round hconn with ⟨hconnected', _⟩
    exact ih hconnected' (by omega) (owed_round hq)

/-- The session with a device as `receive` finds it: in memory, or else on disk. -/
def found (w : Inbox S) (peer : Peer) : Option (Agreed S) :=
  match w.service.live peer.key with
  | some r => w.service.heap r
  | none => w.service.rows peer

/-- The message as `receive` opens it. -/
def opening (w : Inbox S) (body : SecretMsgBody S) : Option (Opened S) :=
  openSecret w.service.keys (w.found body.peer) body.envelope w.service.draws

lemma alone_persist (body : SecretMsgBody S) (ourUserID text : String)
    (rest : Task (Inbox S) Unit) (w : Inbox S) :
    ∃ t row, (persist body ourUserID text rest).alone w = rest.alone t ∧
      t.service = w.service ∧ t.messages.lookup body.id = some row ∧ row.text = text := by
  unfold persist
  rw [Task.alone_read]
  split
  · next chatID _ =>
    rcases lookup_upsertMessage w body.id (row body text chatID) with ⟨kept, hkept, htext⟩
    exact ⟨_, kept, rfl, rfl, hkept, htext⟩
  · rcases lookup_upsertMessage (w.upsertChat (placeholder ourUserID body.peer.user.text)) body.id
      (row body text (placeholder ourUserID body.peer.user.text).id) with ⟨kept, hkept, htext⟩
    exact ⟨_, kept, rfl, rfl, hkept, htext⟩

lemma messages_flushAcks (w : Inbox S) : (flushAcks.alone w).2.messages = w.messages := by
  rw [alone_flushAcks]
  split
  · rfl
  split
  · rfl
  · rfl

lemma messages_acknowledge (body : SecretMsgBody S) (w : Inbox S) :
    ((acknowledge body).alone w).2.messages = w.messages := by
  unfold acknowledge
  split
  · rfl
  · exact messages_flushAcks (w.noteSecretAck body.queueID)

/-- A message of the queue is cached with its text, and its acknowledgement is noted and told once
the connection holds. -/
structure Keeps (w : Inbox S) (q text : String) : Prop where
  cached : ∃ row, w.messages.lookup (queuedID q) = some row ∧ row.text = text
  owed : q ∈ w.owed
  told : w.outbound.isSome → ∀ n, w.backlog ≤ n → q ∈ (Inbox.round^[n] w).acked

/-- A call that opens its message goes on to keep it. -/
lemma exists_alone_keep {o : Opened S} (ourUserID : String) (hopen : w.opening body = some o) :
    ∃ t, (receive body ourUserID).alone w = (keep body ourUserID o).alone t := by
  unfold opening found at hopen
  unfold receive receiveWith
  rw [Task.alone_read]
  split at hopen
  · simp only [Task.alone_act, bind_some, hopen]
    exact ⟨_, rfl⟩
  have hrestored : (w.service.restore body.peer).heap w.service.refs =
      w.service.rows body.peer := update_self ..
  have hopen' : openSecret (w.within fun s => s.restore body.peer).service.keys
      ((w.within fun s => s.restore body.peer).service.heap w.service.refs) body.envelope
      (w.within fun s => s.restore body.peer).service.draws = some o := by
    refine Eq.trans ?_ hopen
    exact congrArg (fun σ => openSecret w.service.keys σ body.envelope w.service.draws) hrestored
  simp only [Task.alone_act, bind_some, hopen']
  exact ⟨_, rfl⟩

/-- A message that opens is cached, and a message of the queue is owed an acknowledgement. -/
lemma alone_receive {o : Opened S} (ourUserID : String) (hqueued : body.queueID ≠ "")
    (hopen : w.opening body = some o) :
    ((receive body ourUserID).alone w).2.Keeps body.queueID o.plaintext := by
  rcases exists_alone_keep ourUserID hopen with ⟨t, ht⟩
  unfold keep at ht
  simp only [Task.alone_write] at ht
  rcases alone_persist body ourUserID o.plaintext (acknowledge body)
    ((t.saveSecretSession body o).within fun s => { s with keys := s.keys.drop o.consumed }) with
    ⟨u, kept, hu, -, hkept, htext⟩
  rw [ht, hu]
  have hid : body.id = queuedID body.queueID := if_neg hqueued
  have howed : body.queueID ∈ ((acknowledge body).alone u).2.owed := by
    unfold acknowledge
    rw [if_neg hqueued, Task.alone_write]
    exact owed_flushAcks ((mem_owed_noteSecretAck u _ _).mpr (.inl rfl))
  refine ⟨⟨kept, ?_, htext⟩, howed, fun hconn n hn => acked_rounds hconn hn howed⟩
  rw [messages_acknowledge body u, ← hid]
  exact hkept

/-! ## A call that is cut off -/

/-- Nothing that is stored has changed. -/
structure SameStore (w w' : Inbox S) : Prop where
  disk : w'.service.disk = w.service.disk
  keychain : w'.service.keychain = w.service.keychain
  keys : w'.service.keys = w.service.keys
  chats : w'.chats = w.chats
  messages : w'.messages = w.messages
  acks : w'.acks = w.acks
  log : w'.log = w.log

lemma SameStore.inbound (h : SameStore w w') (peer : Peer) (m : Inbound S)
    (existing : Option Nat) : SameStore w (w'.within fun s => s.inbound peer m existing) := by
  have hsame : (w'.service.inbound peer m existing).disk = w'.service.disk ∧
      (w'.service.inbound peer m existing).keychain = w'.service.keychain ∧
      (w'.service.inbound peer m existing).keys = w'.service.keys := by
    unfold Ios.inbound
    split
    · exact ⟨rfl, rfl, rfl⟩
    · exact ⟨rfl, rfl, rfl⟩
  exact ⟨hsame.1.trans h.disk, hsame.2.1.trans h.keychain, hsame.2.2.trans h.keys, h.chats,
    h.messages, h.acks, h.log⟩

/-- Nothing that is stored has changed, or the session of a message was saved. -/
def Pristine (w w' : Inbox S) : Prop := SameStore w w' ∨ w.log.length < w'.log.length

variable (body : SecretMsgBody S) (ourUserID : String)

/-- From the session on, the message is among those that were opened. -/
lemma ensures_keep (o : Opened S) (hlog : t.log = w.log) :
    Ensures (Pristine w) (fun _ _ => True) (keep body ourUserID o) t := by
  have hflush : ∀ u : Inbox S, w.log.length < u.log.length →
      Ensures (Pristine w) (fun _ _ => True) flushAcks u := by
    intro u hu
    refine ⟨.inr hu, ?_⟩
    dsimp only
    split
    · trivial
    refine ⟨.inr hu, ?_⟩
    dsimp only
    split
    · trivial
    · exact ⟨.inr hu, trivial⟩
  have hack : ∀ u : Inbox S, w.log.length < u.log.length →
      Ensures (Pristine w) (fun _ _ => True) (acknowledge body) u := by
    intro u hu
    unfold acknowledge
    split
    · trivial
    · exact ⟨.inr hu, hflush _ hu⟩
  have hsaved : w.log.length < (t.saveSecretSession body o).log.length := by
    rw [← hlog]
    exact Nat.lt_succ_self _
  refine ⟨.inr hsaved, .inr hsaved, .inr hsaved, ?_⟩
  dsimp only
  split
  · exact ⟨.inr hsaved, hack _ hsaved⟩
  · exact ⟨.inr hsaved, .inr hsaved, hack _ hsaved⟩

lemma ensures_receiveWith (existing : Option Nat) (h : SameStore w t) :
    Ensures (Pristine w) (fun _ _ => True) (receiveWith body ourUserID existing) t := by
  have hin := h.inbound body.peer body.envelope existing
  refine ⟨.inl hin, ?_⟩
  dsimp only
  split
  · trivial
  · exact ensures_keep body ourUserID _ hin.log

lemma sameStore_cut (w : Inbox S) (n : Nat)
    (hlog : ((receive body ourUserID).cut n w).log = w.log) :
    SameStore w ((receive body ourUserID).cut n w) := by
  have hself : SameStore w w := ⟨rfl, rfl, rfl, rfl, rfl, rfl, rfl⟩
  have hensures : Ensures (Pristine w) (fun _ _ => True) (receive body ourUserID) w := by
    refine ⟨.inl hself, ?_⟩
    dsimp only
    split
    · exact ensures_receiveWith body ourUserID _ hself
    · have hrestored : SameStore w (w.within fun s => s.restore body.peer) :=
        ⟨rfl, rfl, rfl, rfl, rfl, rfl, rfl⟩
      exact ⟨.inl hrestored, ensures_receiveWith body ourUserID _ hrestored⟩
  rcases hensures.cut (.inl hself) n with hsame | hlonger
  · exact hsame
  · rw [hlog] at hlonger
    exact absurd hlonger (Nat.lt_irrefl _)

end Inbox

/-- Whether a frame opens, and to which text, does not depend on the key pair that is drawn. -/
def Suite.Steady (S : Suite) : Prop :=
  ∀ s draw draw' header c,
    (S.decrypt s draw header c).map Prod.fst = (S.decrypt s draw' header c).map Prod.fst

lemma steady_ideal (own : String) : (ideal own).Steady := by
  intro s draw draw' header c
  exact Ratchet.Ideal.text_decrypt s _ _ header c

lemma plaintext_openExisting (σ : Agreed S) (header : S.Header) (c : S.Cipher) (draw : Nat) :
    (openExisting σ header c draw).map plaintext =
      (S.decrypt σ.session draw header c).map Prod.fst := by
  unfold openExisting
  cases S.decrypt σ.session draw header c with
  | none | some => rfl

lemma plaintext_openCandidate (ik ek : S.Key) (header : S.Header) (c : S.Cipher) (draw : Nat)
    (candidate : S.Pair × Option S.Pair) :
    (openCandidate ik ek header c draw candidate).map plaintext =
      (S.x3dhResponder candidate.1 candidate.2 ik ek).bind fun secret =>
        (S.decrypt (S.responder secret candidate.1) draw header c).map Prod.fst := by
  unfold openCandidate
  cases S.x3dhResponder candidate.1 candidate.2 ik ek with
  | none => rfl
  | some secret =>
    simp only [bind_some]
    cases S.decrypt (S.responder secret candidate.1) draw header c with
    | none | some => rfl

/-- So it is with the whole of opening a message. -/
lemma Suite.Steady.plaintext_openSecret (hsteady : S.Steady) (keys : Prekeys S)
    (existing : Option (Agreed S)) (m : Inbound S) (draw draw' : Nat) :
    (openSecret keys existing m draw).map plaintext =
      (openSecret keys existing m draw').map plaintext := by
  unfold openSecret
  split
  · next header c _ _ =>
    have hex : (existing.bind fun σ => openExisting σ header c draw).map plaintext =
        (existing.bind fun σ => openExisting σ header c draw').map plaintext := by
      simp only [Option.map_bind, comp_def, plaintext_openExisting]
      congr 1
      funext σ
      exact hsteady σ.session draw draw' header c
    have hfirst : (openFirst keys m header c draw).map plaintext =
        (openFirst keys m header c draw').map plaintext := by
      unfold openFirst openAsResponder
      split
      · simp only [map_findSome?, comp_def, plaintext_openCandidate]
        congr 1
        funext candidate
        congr 1
        funext secret
        exact hsteady _ draw draw' header c
      · rfl
    cases hopen : existing.bind fun σ => openExisting σ header c draw with
    | none =>
      cases hopen' : existing.bind fun σ => openExisting σ header c draw' with
      | none => exact hfirst
      | some => simp [hopen, hopen'] at hex
    | some =>
      cases hopen' : existing.bind fun σ => openExisting σ header c draw' with
      | none => simp [hopen, hopen'] at hex
      | some =>
        rw [hopen, hopen'] at hex
        exact hex
  · rfl

/-! ## What happens in between -/

/-- The prekeys of which some one-time ones are gone. -/
def Prekeys.keep (p : S.Pair → Bool) (keys : Prekeys S) : Prekeys S :=
  { keys with oneTimePreKeys := keys.oneTimePreKeys.filter p }

lemma Prekeys.exists_drop_eq_keep (keys : Prekeys S) (consumed : Option S.Pair) :
    ∃ p, keys.drop consumed = keys.keep p := by
  cases consumed with
  | none => exact ⟨fun _ => true, by simp [drop, keep]⟩
  | some pair => exact ⟨fun k => S.pub k ≠ S.pub pair, rfl⟩

lemma Prekeys.keep_keep (keys : Prekeys S) (p p' : S.Pair → Bool) :
    (keys.keep p).keep p' = keys.keep fun k => p' k && p k := by
  simp [keep, filter_filter]

lemma Prekeys.candidates_keep (keys : Prekeys S) (p : S.Pair → Bool) :
    (keys.keep p).candidates = keys.candidates.filter fun c => c.2.all p := by
  unfold candidates keep
  rw [filter_flatMap]
  congr 1
  funext spk
  rw [filter_map, filter_append, filter_map]
  rfl

lemma findSome?_filter_of {α β : Type} {f : α → Option β} {p : α → Bool} {b : β} {l : List α}
    (h : l.findSome? f = some b) (hp : ∀ a, f a = some b → p a = true) :
    (l.filter p).findSome? f = some b := by
  induction l with
  | nil => cases h
  | cons a l ih =>
    rw [findSome?_cons] at h
    cases hfa : f a with
    | none =>
      rw [hfa] at h
      rw [filter_cons]
      split
      · rw [findSome?_cons, hfa]
        exact ih h
      · exact ih h
    | some b' =>
      rw [hfa] at h
      cases h
      rw [filter_cons_of_pos (hp a hfa), findSome?_cons, hfa]

/-- A message opens as before while the one-time prekey that it takes is there. -/
lemma openSecret_keep {keys : Prekeys S} {existing : Option (Agreed S)} {m : Inbound S}
    {draw : Nat} {o : Opened S} {p : S.Pair → Bool} (h : openSecret keys existing m draw = some o)
    (hp : o.consumed.all p = true) : openSecret (keys.keep p) existing m draw = some o := by
  unfold openSecret at h
  split at h
  · next header c hhdr hciph =>
    rw [openSecret, hhdr, hciph]
    dsimp only
    split at h
    · exact h
    · unfold openFirst at h
      split at h
      · next ik ek hik hek =>
        rw [openFirst, hik, hek]
        dsimp only
        rw [openAsResponder, keys.candidates_keep]
        refine findSome?_filter_of h fun candidate hopen => ?_
        have hcons : o.consumed = candidate.2 := by
          unfold openCandidate at hopen
          split at hopen
          · cases hopen
          · split at hopen <;> cases hopen
            rfl
        exact hcons ▸ hp
      · cases h
  · cases h

/-- A device has its stored session and none in memory, and of the prekeys some one-time ones are
gone. -/
structure Ios.Spared (peer : Peer) (row : Option (Agreed S)) (keys : Prekeys S) (s : Ios S) :
    Prop where
  live : s.live peer.key = none
  row : s.rows peer = row
  keys : ∃ p, s.keys = keys.keep p

/-- A call that does not concern a device. -/
def InboxCall.Spares (peer : Peer) : InboxCall S → Prop
  | .receive body _ => body.peer ≠ peer
  | .elsewhere change =>
    ∀ s, (s.live peer.key = none → (change s).live peer.key = none) ∧
      (change s).rows peer = s.rows peer ∧ ∃ p, (change s).keys = s.keys.keep p
  | _ => True

section

variable {peer other : Peer} {row : Option (Agreed S)} {keys : Prekeys S} {s : Ios S}

lemma Ios.Spared.opening {w t : Inbox S} {body : SecretMsgBody S} {o : Opened S}
    (h : t.service.Spared body.peer (w.found body.peer) w.service.keys) (hsteady : S.Steady)
    (hopen : w.opening body = some o)
    (hkey : ∀ k ∈ o.consumed, k ∈ t.service.keys.oneTimePreKeys) :
    (t.opening body).map plaintext = some o.plaintext := by
  obtain ⟨p, hp⟩ := h.keys
  have hfound : t.found body.peer = w.found body.peer := by
    refine Eq.trans ?_ h.row
    unfold Inbox.found
    rw [h.live]
  have hleft : o.consumed.all p = true := by
    cases hcons : o.consumed with
    | none => rfl
    | some k =>
      have hmem := hkey k hcons
      rw [hp] at hmem
      exact (mem_filter.mp hmem).2
  unfold Inbox.opening at hopen ⊢
  rw [hfound, hp, hsteady.plaintext_openSecret _ _ _ _ w.service.draws,
    openSecret_keep hopen hleft]
  rfl

namespace Ios

lemma Spared.of_keep (h : s.Spared peer row keys) {s' : Ios S}
    (hlive : s'.live peer.key = none) (hrow : s'.rows peer = s.rows peer)
    (hkeys : ∃ p, s'.keys = s.keys.keep p) : s'.Spared peer row keys := by
  obtain ⟨p, hp⟩ := h.keys
  obtain ⟨p', hp'⟩ := hkeys
  exact ⟨hlive, hrow.trans h.row, _, by rw [hp', hp, Prekeys.keep_keep]⟩

lemma Spared.inbound (h : s.Spared peer row keys) (hne : other ≠ peer) (m : Inbound S)
    (existing : Option Nat) : (s.inbound other m existing).Spared peer row keys := by
  unfold Ios.inbound
  split
  · exact h
  · refine ⟨?_, h.row, h.keys⟩
    exact (update_of_ne (Peer.key_injective.ne hne.symm) ..).trans h.live

lemma Spared.saveSession (h : s.Spared peer row keys) (hne : other ≠ peer) (σ : Agreed S) :
    (s.saveSession other σ).Spared peer row keys :=
  ⟨h.live, (AList.lookup_insert_ne hne.symm).trans h.row, h.keys⟩

lemma Spared.drop (h : s.Spared peer row keys) (consumed : Option S.Pair) :
    Ios.Spared peer row keys { s with keys := s.keys.drop consumed } :=
  h.of_keep h.live rfl (s.keys.exists_drop_eq_keep consumed)

end Ios

namespace Inbox

variable (peer row keys) in
/-- Calls leave a device what it needs. -/
def sparing : Discipline (Inbox S) where
  inv w := w.service.Spared peer row keys
  rel _ _ := True
  refl _ := trivial
  trans _ _ := trivial

variable {w : Inbox S} {body : SecretMsgBody S}

/-- A write that leaves the service. -/
lemma spares_write {change : Inbox S → Inbox S} {rest : Task (Inbox S) Unit}
    (hservice : ∀ t, (change t).service = t.service)
    (hrest : ∀ t, Safe (sparing peer row keys) (fun _ _ => True) rest t) :
    Safe (sparing peer row keys) (fun _ _ => True) (.write change rest) w :=
  write fun t _ ht =>
    ⟨trivial, (congrArg (Ios.Spared peer row keys) (hservice t)).mpr ht, hrest _⟩

lemma spares_flushAcks : Safe (sparing peer row keys) (fun _ _ => True) flushAcks w := by
  refine read fun t _ ht => ?_
  dsimp only
  split
  · exact fun _ _ _ => trivial
  refine fun u _ hu => ⟨trivial, hu, ?_⟩
  dsimp only
  split
  · exact fun _ _ _ => trivial
  · exact spares_write (fun _ => rfl) fun _ _ _ _ => trivial

lemma spares_acknowledge :
    Safe (sparing peer row keys) (fun _ _ => True) (acknowledge body) w := by
  unfold acknowledge
  split
  · exact fun _ _ _ => trivial
  · exact spares_write (fun _ => rfl) fun _ => spares_flushAcks

lemma spares_persist (ourUserID text : String) : Safe (sparing peer row keys) (fun _ _ => True)
    (persist body ourUserID text (acknowledge body)) w := by
  refine read fun t _ _ => ?_
  split
  · exact spares_write (fun _ => rfl) fun _ => spares_acknowledge
  · exact spares_write (fun _ => rfl) fun _ =>
      spares_write (fun _ => rfl) fun _ => spares_acknowledge

lemma spares_receiveWith (hne : body.peer ≠ peer) (ourUserID : String) (existing : Option Nat) :
    Safe (sparing peer row keys) (fun _ _ => True) (receiveWith body ourUserID existing) w := by
  intro t _ ht
  refine ⟨trivial, Ios.Spared.inbound ht hne body.envelope existing, ?_⟩
  dsimp only
  split
  · exact fun _ _ _ => trivial
  · next o _ =>
    refine write fun u _ hu => ⟨trivial, Ios.Spared.saveSession hu hne o.session, ?_⟩
    refine write fun v _ hv => ⟨trivial, Ios.Spared.drop hv o.consumed, ?_⟩
    exact spares_persist ourUserID o.plaintext

lemma spares_task (call : InboxCall S) (hcall : call.Spares peer) (w : Inbox S) :
    Safe (sparing peer row keys) (fun _ _ => True) call.task w := by
  cases call with
  | receive body ourUserID =>
    refine read fun t _ ht => ?_
    split
    · exact spares_receiveWith hcall ourUserID _
    · refine fun u _ hu => ⟨trivial, ⟨hu.live, hu.row, hu.keys⟩, ?_⟩
      exact spares_receiveWith hcall ourUserID _
  | flushAcks => exact spares_flushAcks
  | upsertChat | reconnect => exact spares_write (fun _ => rfl) fun _ _ _ _ => trivial
  | transmit heard =>
    refine spares_write (fun t => ?_) fun _ _ _ _ => trivial
    unfold transmit
    split
    · split <;> rfl
    · rfl
  | elsewhere change =>
    refine write fun t _ ht => ⟨trivial, ?_, fun _ _ _ => trivial⟩
    obtain ⟨hlive, hrow, hkeys⟩ := hcall t.service
    exact Ios.Spared.of_keep ht (hlive ht.live) hrow hkeys

/-- The phone after a schedule of calls that do not concern a device. -/
def later (peer : Peer) (w : Inbox S)
    (events : List (Event { call : InboxCall S // call.Spares peer })) : Inbox S :=
  ((⟨w, []⟩ : Pool (Inbox S) Unit).after (fun call => call.1.task) restart events).state

/-- Whatever is done with other devices, and wherever the process stops, a device has what it
needs. -/
lemma spared_after (h : w.service.Spared peer row keys)
    (events : List (Event { call : InboxCall S // call.Spares peer })) :
    (later peer w events).service.Spared peer row keys := by
  have hstart : (⟨w, []⟩ : Pool (Inbox S) Unit).Safe (sparing peer row keys)
      (fun _ _ => True) := ⟨h, nofun⟩
  refine (safe_final (fun call t => spares_task call.1 call.2 t) ?_ hstart events).inv
  exact fun t ht => ⟨rfl, ht.row, ht.keys⟩

end Inbox

end

open Inbox in
/-- A message of the queue, after any schedule of calls, lost connections and stops.  If it was
opened, is not in work and the process did not stop between its session and the note, it is cached
with a text that it opened to, and acknowledged over a connection that holds unless the note was
lost.  If it was not opened, it is neither.  If it opens when it is delivered, the call caches it
and notes its acknowledgement.  If the process stops before the session is saved, what is stored is
as it was, and after any calls for other devices, with any stops, which leave the one-time prekey
that it takes, the next delivery opens it to the same text. -/
theorem crash_loses_no_message (service : Ios S) (events : List (Event (InboxCall S)))
    {q : String} (hq : q ≠ "") :
    let w := run service events
    (∀ text, (q, text) ∈ w.log → q ∉ w.busy → q ∉ w.torn →
      ∃ row, w.messages.lookup (queuedID q) = some row ∧ (q, row.text) ∈ w.log ∧
        (q ∉ w.lost → w.outbound.isSome → ∀ n, w.backlog ≤ n → q ∈ (Inbox.round^[n] w).acked)) ∧
    ((∀ text, (q, text) ∉ w.log) → w.messages.lookup (queuedID q) = none ∧ q ∉ w.owed) ∧
    (∀ body ourUserID o, body.queueID = q → w.opening body = some o →
      ((receive body ourUserID).alone w).2.Keeps q o.plaintext) ∧
    ∀ body ourUserID n, ((receive body ourUserID).cut n w).log = w.log →
      let stopped := ((receive body ourUserID).cut n w).restart
      SameStore w stopped ∧
        ∀ o between, S.Steady → body.queueID = q → w.found body.peer = w.service.rows body.peer →
          w.opening body = some o →
          (∀ k ∈ o.consumed, k ∈ (later body.peer stopped between).service.keys.oneTimePreKeys) →
          ((receive body ourUserID).alone (later body.peer stopped between)).2.Keeps q
            o.plaintext := by
  intro w
  have hkept := kept_run service events
  refine ⟨?_, ?_, ?_, ?_⟩
  · intro text hlog hbusy htorn
    rcases hkept.settled q text hlog hq with hunset | ⟨hrow, howed⟩
    · exact absurd hunset (not_or.mpr ⟨hbusy, htorn⟩)
    rcases Option.isSome_iff_exists.mp hrow with ⟨row, hrow⟩
    refine ⟨row, hrow, hkept.rows q row hrow, ?_⟩
    intro hlost hconn n hn
    exact acked_rounds hconn hn (howed.resolve_right hlost)
  · intro hnever
    refine ⟨?_, ?_⟩
    · cases hrow : w.messages.lookup (queuedID q) with
      | none => rfl
      | some row => exact absurd (hkept.rows q row hrow) (hnever row.text)
    · intro howed
      rcases hkept.known q howed with ⟨text, htext⟩
      exact hnever text htext
  · rintro body ourUserID o rfl hopen
    exact alone_receive ourUserID hq hopen
  · intro body ourUserID n hlog stopped
    have hsame := sameStore_cut body ourUserID w n hlog
    refine ⟨{ hsame with }, ?_⟩
    rintro o between hsteady rfl hfound hopen hkey
    have hspared : stopped.service.Spared body.peer (w.found body.peer) w.service.keys := by
      refine ⟨rfl, ?_, fun _ => true, ?_⟩
      · rw [hfound]
        exact congrArg (fun disk => AList.lookup body.peer disk) hsame.disk
      · exact Eq.trans hsame.keys (by simp [Prekeys.keep])
    have hagain := (spared_after hspared between).opening hsteady hopen hkey
    rcases Option.map_eq_some_iff.mp hagain with ⟨o', hopen', htext⟩
    exact htext ▸ alone_receive ourUserID hq hopen'

namespace Inbox

def alicePhone : Ios (ideal "alice") := Ios.new "tablet" Redelivery.aliceKeys

def queued (m : Option (Inbound (ideal "alice"))) (queueID : String) :
    SecretMsgBody (ideal "alice") where
  peer := Redelivery.bobPhone
  envelope := m.getD ⟨"", "", none, none, none, none⟩
  queueID := queueID
  uuid := ""
  apart q h := by
    have hlist := congrArg String.toList h
    simp [queuedID, Redelivery.bobPhone] at hlist

/-- The first message of another device, and a later one. -/
def one : SecretMsgBody (ideal "alice") := queued (Redelivery.fromBob "alice.otk")[0]? "1"

def two : SecretMsgBody (ideal "alice") := queued (Redelivery.fromBob "alice.otk")[1]? "2"

/-- The first message of a new session of the device. -/
def begun : SecretMsgBody (ideal "alice") := queued (Redelivery.fromBob "")[0]? "3"

/-- A call starts as the call of a given number, and takes some actions. -/
def calling (index : Nat) (call : InboxCall (ideal "alice")) (actions : Nat) :
    List (Event (InboxCall (ideal "alice"))) :=
  .start call :: replicate actions (.run index)

/-- A frame of another device. -/
def stray : SecretMsgBody (ideal "alice") :=
  { queued none "3" with
    peer := ⟨Redelivery.bobPhone.user, "tablet"⟩
    apart := fun q h => by
      have hlist := congrArg String.toList h
      simp [queuedID] at hlist }

/-- Another device is heard of, the process stops once more, and there is a new connection. -/
def between : List (Event { call : InboxCall (ideal "alice") // call.Spares one.peer }) :=
  [.start ⟨.receive stray "alice", fun h => absurd (congrArg Peer.device h) (by decide)⟩,
    .run 0, .run 0, .restart,
    .start ⟨.reconnect true, trivial⟩, .run 0]

/-- The process stops before the session of the first message is saved, and the message is delivered
again. -/
theorem crash_loses_no_message_early :
    let w := later one.peer ((receive one "alice").cut 3 (run alicePhone [])).restart between
    (∃ row, ((receive one "alice").alone w).2.messages.lookup (queuedID "1") = some row ∧
        row.text = "one") ∧
      "1" ∈ (Inbox.round^[2] ((receive one "alice").alone w).2).acked := by
  have h := crash_loses_no_message alicePhone [] (q := "1") (by decide)
  have hopen : ((run alicePhone []).opening one).map plaintext = some "one" := by
    decide +kernel
  rcases Option.map_eq_some_iff.mp hopen with ⟨o, hopen, htext⟩
  have hkeeps := (h.2.2.2 one "alice" 3 (by decide +kernel)).2 o between (steady_ideal _) rfl rfl
    hopen ?_
  · rw [htext] at hkeeps
    exact ⟨hkeeps.cached, hkeeps.told (by decide +kernel) 2 (by decide +kernel)⟩
  · have hall : ((run alicePhone []).opening one).all fun o => o.consumed.all fun k =>
        k ∈ (later one.peer ((receive one "alice").cut 3 (run alicePhone [])).restart
          between).service.keys.oneTimePreKeys := by decide +kernel
    intro k hk
    rw [hopen, Option.all_some, Option.mem_def.mp hk] at hall
    simpa using hall

/-- The second message is delivered again, over a connection that holds: the text that is cached for
it, what the server is told, and the text that it opens to. -/
def outcome (events : List (Event (InboxCall (ideal "alice")))) :
    Option String × List String × Option String :=
  let w := run alicePhone
    (events ++ [.restart] ++ calling 0 (.reconnect true) 1 ++ calling 1 (.receive two "alice") 20)
  ((w.messages.lookup (queuedID "2")).map MessageRow.text, (Inbox.round^[5] w).acked,
    (w.opening two).map plaintext)

/-- The second message opens.  If the process stops after its session is saved, it is not cached and
does not open again; if it stops before the acknowledgement is sent, it is not acknowledged.  If it
stops before and the device begins a new session, it is neither. -/
theorem crash_loses_message :
    let first := calling 0 (.reconnect true) 1 ++ calling 1 (.receive one "alice") 20 ++
      calling 2 (.transmit true) 1
    ((run alicePhone first).opening two).map plaintext = some "two" ∧
      outcome (first ++ calling 3 (.receive two "alice") 4) = (none, ["1"], none) ∧
      outcome (first ++ calling 3 (.receive two "alice") 6) = (some "two", ["1"], none) ∧
      outcome (first ++ calling 3 (.receive two "alice") 20) = (some "two", ["1"], none) ∧
      outcome (first ++ calling 3 (.receive two "alice") 2 ++ [.restart] ++
        calling 0 (.reconnect true) 1 ++ calling 1 (.receive begun "alice") 20 ++
        calling 2 (.transmit true) 1) = (none, ["3", "1"], none) := by
  decide +kernel

end Inbox

end SyncApp.SecretChats
