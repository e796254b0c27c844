import SyncApp.Foundations.Base64
import SyncApp.Router.Memory
import SyncApp.SecretQueue.Paging

/-!
# The relay of secret messages

`handlers_e2e.go` and `secretqueue.go` of `server/internal/gateway`.  A message that no node can
deliver is queued under the account and device it names; a device reads its own queue.  Senders may
leave the device open, or name one that does not exist.

Main results:

- `queued_readable_iff`: which queued messages a device can read.
-/

namespace SyncApp.SecretQueue

open Foundations Messaging Function

def validID (s : String) : Bool := s ≠ "" && s.utf8ByteSize ≤ 20 && s.toList.all Char.isDigit

def maxDeviceIDLen : Nat := 64

def validDeviceID (s : String) : Bool :=
  s.utf8ByteSize ≤ maxDeviceIDLen && s.toList.all fun ch =>
    ch = '-' || ch = '_' || ch = '.' || ch.isDigit || ch.isLower || ch.isUpper

/-- `wire.SecretMsgBody`, as far as a sender fills it in. -/
structure SecretMsgBody where
  toUserID : String
  toDeviceID : String
  ratchetHeader : String := ""
  ciphertext : String := ""
  header : List UInt8 := []
  cipher : List UInt8 := []

/-- `wire.SecretPayload`.  The decoder of the base64 text skips line breaks. -/
def secretPayload (b : SecretMsgBody) : Option (List UInt8 × List UInt8) :=
  if 0 < b.header.length ∨ 0 < b.cipher.length then some (b.header, b.cipher)
  else if b.ratchetHeader = "" ∧ b.ciphertext = "" then none
  else
    (Base64.decode (b.ciphertext.toList.filter fun ch => ch ≠ '\r' && ch ≠ '\n')).map fun c =>
      (b.ratchetHeader.toUTF8.toList, c)

/-- The codes of the errors that the handlers reply. -/
inductive ErrCode where
  | badArg
  | forbidden
deriving DecidableEq

/-- `replyError`. -/
structure ErrorReply where
  code : ErrCode
  text : String
deriving DecidableEq

structure SecretAckBody where
  toUserID : String
  toDeviceID : String
  devices : Nat
  queued : Bool
deriving DecidableEq

/-- The envelopes of a page and the `wire.SecretSyncedBody` that ends it. -/
structure SecretSynced where
  envs : List SecretEnvelope
  count : Nat
  nextAfter : String
  done : Bool

/-- A connection, under the account and the device of its session. -/
structure Conn where
  userID : KeyPart
  deviceID : String

/-- A secret message: the request, whether one of the two has blocked the other, the identifier that
the generator would give, and the time. -/
structure Send where
  conn : Conn
  body : SecretMsgBody
  blocked : Bool
  id : String
  now : Int

/-- `secretQueueTTL`, in milliseconds. -/
def secretQueueTTL : Int := 14 * 24 * 60 * 60 * 1000

def maxQueuedPerDevice : Int := 1000

def maxSecretSyncPage : Nat := 100

/-- The queue with its history, the router, the account of each device that has had a
session, and the identifiers that the generator has given. -/
structure Relay where
  history : History
  router : Router.MemoryRouter
  owner : String → Option KeyPart
  drawn : List String

/-- The envelope of a message: `queueSecret` fills it in. -/
def Send.envelope (s : Send) (recipient : KeyPart) (header cipher : List UInt8) :
    SecretEnvelope where
  id := s.id
  toUserID := recipient
  toDeviceID := s.body.toDeviceID
  fromUserID := s.conn.userID.text
  fromDeviceID := s.conn.deviceID
  header := header
  ciphertext := cipher
  createdAt := s.now
  expiresAt := s.now + secretQueueTTL

lemma bar_notMem_of_validID {s : String} (h : validID s = true) : '|' ∉ s.toList := by
  unfold validID at h
  rw [Bool.and_eq_true, List.all_eq_true] at h
  exact fun hbar => absurd (h.2 '|' hbar) (by decide)

/-- The recipient of a message that is sent to a valid identifier. -/
def Send.recipient (s : Send) (h : validID s.body.toUserID = true) : KeyPart :=
  ⟨s.body.toUserID, bar_notMem_of_validID h⟩

lemma ne_empty_of_validID {s : String} (h : validID s = true) : s ≠ "" := by
  rintro rfl
  exact absurd h (by decide)

namespace Relay

variable (g : Relay)

/-- `UpsertDevice`, as far as the account goes: the devices of others are left. -/
def upsertDevice (deviceID : String) (user : KeyPart) : Option Relay :=
  match g.owner deviceID with
  | none => some { g with owner := update g.owner deviceID (some user) }
  | some user' => if user' = user then some g else none

/-- `startSession`: the device of the session.  A device that asks for no identifier,
or for one of another account, gets one from the generator. -/
def startSession (user : KeyPart) (deviceID first second : String) : Option String × Relay :=
  let deviceID := if deviceID = "" then first else deviceID
  match g.upsertDevice deviceID user with
  | some g => (some deviceID, g)
  | none =>
    match g.upsertDevice second user with
    | some g => (some second, g)
    | none => (none, g)

/-- `routeToDevice`: the number of nodes that the message goes to. -/
def routeToDevice (userID deviceID : String) : Nat :=
  (g.router.nodesForDevice userID deviceID).length

def queueSecret (s : Send) (recipient : KeyPart) (header cipher : List UInt8) : Relay :=
  let env := s.envelope recipient header cipher
  { g with
    history := (g.history.step (.enqueue env maxQueuedPerDevice)).2
    drawn := s.id :: g.drawn }

/-- `handleSecretSend`.  The answer goes out to peers that have asked for it. -/
def handleSecretSend (s : Send) : Except ErrorReply SecretAckBody × Relay :=
  if hto : validID s.body.toUserID = true then
    if ¬ validDeviceID s.body.toDeviceID then
      (.error ⟨.badArg, "invalid recipient device"⟩, g)
    else if s.body.toUserID ≠ s.conn.userID.text ∧ s.blocked then
      (.error ⟨.forbidden, "blocked"⟩, g)
    else
      match secretPayload s.body with
      | none => (.error ⟨.badArg, "bad ratchet payload"⟩, g)
      | some (header, cipher) =>
        let delivered := g.routeToDevice s.body.toUserID s.body.toDeviceID
        if delivered = 0 then
          (.ok ⟨s.body.toUserID, s.body.toDeviceID, delivered, true⟩,
            g.queueSecret s (s.recipient hto) header cipher)
        else (.ok ⟨s.body.toUserID, s.body.toDeviceID, delivered, false⟩, g)
  else (.error ⟨.badArg, "invalid recipient"⟩, g)

def syncLimit (limit : Int) : Nat :=
  if limit ≤ 0 ∨ (maxSecretSyncPage : Int) < limit then maxSecretSyncPage else limit.toNat

/-- `handleSecretSync`, with the history of the queue. -/
def handleSecretSync (c : Conn) (after : String) (limit : Int) :
    Except ErrorReply SecretSynced × Relay :=
  if after ≠ "" ∧ ¬ validID after then (.error ⟨.badArg, "invalid cursor"⟩, g)
  else
    let read := g.history.step (.pending c.userID c.deviceID after (syncLimit limit))
    let envs := read.1
    let nextAfter := (envs.getLast?.map (·.id)).getD ""
    let done : Bool := envs.length < syncLimit limit
    (.ok ⟨envs, envs.length, nextAfter, done⟩, { g with history := read.2 })

def handleSecretAcked (c : Conn) (ids : List String) : Except ErrorReply Nat × Relay :=
  if maxSecretSyncPage < ids.length then (.error ⟨.badArg, "too many ids"⟩, g)
  else if ¬ ids.all validID then (.error ⟨.badArg, "invalid id"⟩, g)
  else
    (.ok (g.history.store.ackSecrets c.userID.text c.deviceID ids).1,
      { g with history := (g.history.step (.ack c.userID c.deviceID ids)).2 })

/-! ## Reading page by page -/

/-- What a device is returned that asks for pages until there is none, with the number of requests
that it makes at most. -/
def readAll (g : Relay) (c : Conn) (limit : Int) : Nat → String → List SecretEnvelope
  | 0, _ => []
  | n + 1, after =>
    match (g.handleSecretSync c after limit).1 with
    | .error _ => []
    | .ok page => if page.done then page.envs else page.envs ++ g.readAll c limit n page.nextAfter

/-- The queue that a connection reads. -/
def queue (g : Relay) (c : Conn) : List SecretEnvelope := g.history.queue c.userID c.deviceID

variable (g : Relay) (c : Conn) (limit : Int) {after : String}

lemma syncLimit_pos : 0 < syncLimit limit := by
  unfold syncLimit
  split
  · decide
  · omega

lemma pageLimit_syncLimit : Store.pageLimit (syncLimit limit) = syncLimit limit := by
  have hpos := syncLimit_pos limit
  unfold Store.pageLimit
  rw [if_neg (by omega), Int.toNat_natCast]

/-- The cursor that a request gives. -/
def cursor (after : String) : Option String := if after = "" then none else some after

def page (g : Relay) (c : Conn) (after : String) (limit : Int) : List SecretEnvelope :=
  (Cursor.remaining (·.id) (g.queue c) (cursor after)).take (syncLimit limit)

lemma handleSecretSync_eq (hafter : after = "" ∨ validID after = true) (limit : Int) :
    (g.handleSecretSync c after limit).1 = .ok ⟨g.page c after limit, (g.page c after limit).length,
        ((g.page c after limit).getLast?.map (·.id)).getD "",
        (g.page c after limit).length < syncLimit limit⟩ := by
  have hval : ¬ (after ≠ "" ∧ ¬ validID after = true) := by
    rintro ⟨hne, hinvalid⟩
    exact hafter.elim hne hinvalid
  have henvs : (g.history.step (.pending c.userID c.deviceID after (syncLimit limit))).1 =
      g.page c after limit := by
    simp only [History.step]
    rw [Store.pendingSecrets_eq, pageLimit_syncLimit]
    rfl
  unfold handleSecretSync
  dsimp only
  rw [if_neg hval, henvs]

lemma page_subset (after : String) (limit : Int) : g.page c after limit ⊆ g.queue c := by
  intro e he
  have hleft := List.mem_of_mem_take he
  unfold cursor at hleft
  split at hleft
  · exact hleft
  · exact (Cursor.afterCursor_sublist _ _).subset hleft

lemma readAll_subset (n : Nat) (after : String) : g.readAll c limit n after ⊆ g.queue c := by
  induction n generalizing after with
  | zero => exact List.nil_subset _
  | succ n ih =>
    unfold readAll
    by_cases hafter : after = "" ∨ validID after = true
    · rw [handleSecretSync_eq g c hafter]
      dsimp only
      split
      · exact page_subset g c after limit
      · exact List.append_subset.mpr ⟨page_subset g c after limit, ih _⟩
    · rw [not_or] at hafter
      unfold handleSecretSync
      rw [if_pos hafter]
      exact List.nil_subset _

lemma readAll_eq_pages (n : Nat) (hafter : after = "" ∨ validID after = true)
    (hids : ∀ e ∈ g.queue c, validID e.id = true) : g.readAll c limit n after =
      Cursor.pages (·.id) (syncLimit limit) (g.queue c) n (cursor after) := by
  induction n generalizing after with
  | zero => rfl
  | succ n ih =>
    unfold readAll Cursor.pages
    rw [handleSecretSync_eq g c hafter]
    change (if decide ((g.page c after limit).length < syncLimit limit) = true then _ else _) =
      if (g.page c after limit).length < syncLimit limit then _ else _
    by_cases hshort : (g.page c after limit).length < syncLimit limit
    · rw [if_pos hshort, if_pos (decide_eq_true hshort)]
      rfl
    rw [if_neg hshort, if_neg (by rwa [decide_eq_true_eq])]
    -- A full page has a last envelope, whose identifier is the next cursor.
    have hne : g.page c after limit ≠ [] := by
      intro hnil
      rw [hnil] at hshort
      exact hshort (syncLimit_pos limit)
    have hlast := hids _ (page_subset g c after limit (List.getLast_mem hne))
    have hcur : cursor (((g.page c after limit).getLast?.map (·.id)).getD "") =
        (g.page c after limit).getLast?.map (·.id) := by
      rw [List.getLast?_eq_some_getLast hne]
      exact if_neg (ne_empty_of_validID hlast)
    rw [ih, hcur]
    · rfl
    · rw [List.getLast?_eq_some_getLast hne]
      exact .inr hlast

lemma readAll_eq_queue {n : Nat} (hids : ∀ e ∈ g.queue c, validID e.id = true)
    (hnodup : ((g.queue c).map (·.id)).Nodup) (hn : (g.queue c).length < n) :
    g.readAll c limit n "" = g.queue c := by
  rw [readAll_eq_pages g c limit n (.inl rfl) hids]
  exact Cursor.pages_eq (syncLimit_pos limit) hnodup (List.suffix_refl _) hn

end Relay

/-- What the gateway is asked. -/
inductive Event where
  | login (user : KeyPart) (deviceID first second : String)
  | connect (c : Conn) (nodeID : String)
  | disconnect (c : Conn) (nodeID : String)
  | secretSend (s : Send)
  | secretSync (c : Conn) (after : String) (limit : Int)
  | secretAcked (c : Conn) (ids : List String)
  | deleteAccount (user : KeyPart)
  | purge (now limit : Int) (visit : List String)

/-- What it replies. -/
inductive Reply where
  | none
  | session (deviceID : Option String)
  | secretAck (ack : Except ErrorReply SecretAckBody)
  | synced (page : Except ErrorReply SecretSynced)
  | acked (count : Except ErrorReply Nat)

namespace Relay

/-- One request. -/
def step (g : Relay) : Event → Reply × Relay
  | .login user deviceID first second =>
    let r := g.startSession user deviceID first second
    (.session r.1, r.2)
  | .connect c nodeID => (.none, { g with router := g.router.bind c.userID.text c.deviceID nodeID })
  | .disconnect c nodeID =>
    (.none, { g with router := g.router.unbind c.userID.text c.deviceID nodeID })
  | .secretSend s =>
    let r := g.handleSecretSend s
    (.secretAck r.1, r.2)
  | .secretSync c after limit =>
    let r := g.handleSecretSync c after limit
    (.synced r.1, r.2)
  | .secretAcked c ids =>
    let r := g.handleSecretAcked c ids
    (.acked r.1, r.2)
  | .deleteAccount user =>
    (.none, { g with owner := fun deviceID => (g.owner deviceID).filter (· ≠ user) })
  | .purge now limit visit =>
    (.none, { g with history := (g.history.step (.purge now limit visit)).2 })

/-- No devices and no messages. -/
def new : Relay := ⟨.new, .new, fun _ => none, []⟩

abbrev after (events : List Event) : Relay := Machine.final step new events

/-- Connections are those of devices that have had a session. -/
def Owned (g : Relay) (c : Conn) : Prop := g.owner c.deviceID = some c.userID
deriving Decidable

/-- Requests come from connections of devices, and the generator gives identifiers that
are decimal numbers, a new one for each envelope. -/
def Genuine (g : Relay) : Event → Prop
  | .login _ _ first second => validID first = true ∧ validID second = true
  | .connect c _ => g.Owned c
  | .disconnect c _ => g.Owned c
  | .secretSend s => g.Owned s.conn ∧ validID s.id = true ∧ s.id ∉ g.drawn
  | .secretSync c _ _ => g.Owned c
  | .secretAcked c _ => g.Owned c
  | .deleteAccount _ => True
  | .purge _ _ _ => True

instance (g : Relay) (event : Event) : Decidable (g.Genuine event) := by
  unfold Genuine
  split <;> infer_instance

/-! ## What holds in every run -/

/-- Envelopes are queued under the account and device they are addressed to, with identifiers from
the generator; and no device has the empty identifier. -/
structure Sound (g : Relay) : Prop where
  kept : g.history.Kept
  addressed : ∀ user deviceID, ∀ e ∈ g.history.enqueued user deviceID,
    e.toUserID = user ∧ e.toDeviceID = deviceID
  ids : ∀ user deviceID, ∀ e ∈ g.history.enqueued user deviceID,
    validID e.id = true ∧ e.id ∈ g.drawn
  named : g.owner "" = none

lemma sound_new : new.Sound := ⟨History.kept_new, nofun, nofun, rfl⟩

variable {g : Relay}

lemma Sound.history (hs : g.Sound) {op : QueueOp}
    (hop : (g.history.step op).2.enqueued = g.history.enqueued) (hfresh : g.history.Fresh op) :
    Sound { g with history := (g.history.step op).2 } where
  kept := History.kept_step _ op hs.kept hfresh
  addressed := by
    rw [hop]
    exact hs.addressed
  ids := by
    rw [hop]
    exact hs.ids
  named := hs.named

lemma Sound.queueSecret (hs : g.Sound) {s : Send} (hid : validID s.id = true)
    (hnew : s.id ∉ g.drawn) (recipient : KeyPart) (header cipher : List UInt8) :
    (g.queueSecret s recipient header cipher).Sound where
  kept := by
    refine History.kept_step _ _ hs.kept ⟨ne_empty_of_validID hid, fun hmem => ?_⟩
    rcases List.mem_map.mp hmem with ⟨e, he, heq⟩
    have hdrawn := (hs.ids _ _ e he).2
    rw [heq] at hdrawn
    exact hnew hdrawn
  addressed := by
    intro user deviceID e he
    rcases History.mem_enqueued_of_enqueue he with he | ⟨rfl, rfl, rfl⟩
    · exact hs.addressed user deviceID e he
    · exact ⟨rfl, rfl⟩
  ids := by
    intro user deviceID e he
    rcases History.mem_enqueued_of_enqueue he with he | ⟨rfl, -, -⟩
    · exact (hs.ids user deviceID e he).imp_right (List.mem_cons_of_mem _)
    · exact ⟨hid, List.mem_cons_self⟩
  named := hs.named

lemma Sound.upsertDevice {g g' : Relay} (hs : g.Sound) {deviceID : String} {user : KeyPart}
    (hne : deviceID ≠ "") (h : g.upsertDevice deviceID user = some g') : g'.Sound := by
  unfold Relay.upsertDevice at h
  split at h
  · rcases Option.some.inj h with rfl
    refine ⟨hs.kept, hs.addressed, hs.ids, ?_⟩
    dsimp only
    rw [update_of_ne (Ne.symm hne)]
    exact hs.named
  · split at h
    · rcases Option.some.inj h with rfl
      exact hs
    · cases h

lemma Sound.startSession {g : Relay} (hs : g.Sound) (user : KeyPart) (deviceID : String)
    {first second : String} (hfirst : validID first = true) (hsecond : validID second = true) :
    (g.startSession user deviceID first second).2.Sound := by
  have hne : (if deviceID = "" then first else deviceID) ≠ "" := by
    split
    · exact ne_empty_of_validID hfirst
    · assumption
  unfold Relay.startSession
  dsimp only
  split
  · next h => exact hs.upsertDevice hne h
  · split
    · next h => exact hs.upsertDevice (ne_empty_of_validID hsecond) h
    · exact hs

/-- A message that is refused or delivered changes nothing; one that is not is queued. -/
lemma handleSecretSend_cases (g : Relay) (s : Send) : ((g.handleSecretSend s).2 = g ∧
      ∀ ack, (g.handleSecretSend s).1 = .ok ack → ack.queued = false) ∨
      ∃ recipient header cipher, recipient.text = s.body.toUserID ∧
        secretPayload s.body = some (header, cipher) ∧
        (g.handleSecretSend s).2 = g.queueSecret s recipient header cipher := by
  unfold handleSecretSend
  split
  · next hto =>
    split
    · exact .inl ⟨rfl, fun _ h => by cases h⟩
    split
    · exact .inl ⟨rfl, fun _ h => by cases h⟩
    split
    · exact .inl ⟨rfl, fun _ h => by cases h⟩
    · next header cipher hload =>
      dsimp only
      split
      · exact .inr ⟨_, header, cipher, rfl, hload, rfl⟩
      refine .inl ⟨rfl, ?_⟩
      intro ack h
      cases h
      rfl
  · exact .inl ⟨rfl, fun _ h => by cases h⟩

lemma sound_step (g : Relay) (event : Event) (hs : g.Sound) (hgen : g.Genuine event) :
    (g.step event).2.Sound := by
  cases event with
  | login => exact hs.startSession _ _ hgen.1 hgen.2
  | connect | disconnect => exact { hs with }
  | secretSend s =>
    simp only [step]
    rcases g.handleSecretSend_cases s with ⟨hsame, -⟩ | ⟨recipient, header, cipher, -, -, heq⟩
    · rw [hsame]
      exact hs
    · rw [heq]
      exact hs.queueSecret hgen.2.1 hgen.2.2 recipient header cipher
  | secretSync =>
    unfold step handleSecretSync
    dsimp only
    split
    · exact hs
    · exact hs.history rfl trivial
  | secretAcked =>
    unfold step handleSecretAcked
    dsimp only
    split
    · exact hs
    · split
      · exact hs
      · exact hs.history rfl trivial
  | deleteAccount =>
    refine ⟨hs.kept, hs.addressed, hs.ids, ?_⟩
    simp only [step]
    rw [hs.named]
    rfl
  | purge => exact hs.history rfl trivial

lemma sound_after {events : List Event} (h : Machine.Guarded step Genuine new events) :
    (after events).Sound :=
  Machine.guarded_final step sound_step sound_new h

/-- Some device of the account is returned the envelope when it reads its queue, in pages
of at most the given length. -/
def Readable (g : Relay) (user : KeyPart) (e : SecretEnvelope) (limit : Int) : Prop :=
  ∃ c : Conn, c.userID = user ∧ g.Owned c ∧ ∃ n, e ∈ g.readAll c limit n ""

/-- An envelope in a queue can be read by the device it is addressed to, and by no
other. -/
lemma Sound.readable_iff (hs : g.Sound) {c : Conn} {e : SecretEnvelope} (he : e ∈ g.queue c)
    (limit : Int) : g.Readable c.userID e limit ↔ g.Owned c := by
  constructor
  · rintro ⟨c', huser, howned, n, hread⟩
    have hthere := hs.addressed _ _ e ((hs.kept.queue _ _).subset he)
    have hread' := hs.addressed _ _ e
      ((hs.kept.queue _ _).subset (g.readAll_subset c' limit n "" hread))
    unfold Owned at howned ⊢
    rw [← hthere.2, hread'.2, ← huser]
    exact howned
  · intro howned
    refine ⟨c, rfl, howned, (g.queue c).length + 1, ?_⟩
    have hsub := hs.kept.queue c.userID c.deviceID
    rw [readAll_eq_queue g c limit _ _ (Nat.lt_succ_self _)]
    · exact he
    · exact fun e' he' => (hs.ids _ _ e' (hsub.subset he')).1
    · exact (hs.kept.nodup _ _).sublist (hsub.map _)

/-- The envelope of a queued message is in the queue of the device it is addressed to. -/
lemma mem_queueSecret (g : Relay) (s : Send) (recipient : KeyPart) (header cipher : List UInt8) :
    s.envelope recipient header cipher ∈
      (g.queueSecret s recipient header cipher).queue ⟨recipient, s.body.toDeviceID⟩ := by
  rcases g.history.store.enqueueSecret_self (s.envelope recipient header cipher) maxQueuedPerDevice
    with ⟨kept, -, heq⟩
  have hqueue : (g.queueSecret s recipient header cipher).queue ⟨recipient, s.body.toDeviceID⟩ =
      kept ++ [s.envelope recipient header cipher] := heq
  rw [hqueue]
  exact List.mem_append_right _ List.mem_cons_self

end Relay

open Relay in
/-- A message that is accepted and queued is in the queue it is addressed to.  As long as it is
there, some device of the recipient is returned it if and only if the recipient has a device of that
identifier. -/
theorem queued_readable_iff (before : List Event) (s : Send)
    (ack : SecretAckBody) (hack : ((after before).handleSecretSend s).1 = .ok ack)
    (hqueued : ack.queued = true) : ∃ recipient header cipher, recipient.text = s.body.toUserID ∧
      secretPayload s.body = some (header, cipher) ∧ s.envelope recipient header cipher ∈
        (after (before ++ [.secretSend s])).queue ⟨recipient, s.body.toDeviceID⟩ ∧
      ∀ later : List Event, Machine.Guarded step Genuine new (before ++ .secretSend s :: later) →
        s.envelope recipient header cipher ∈
          (after (before ++ .secretSend s :: later)).queue ⟨recipient, s.body.toDeviceID⟩ → ∀ limit,
          (after (before ++ .secretSend s :: later)).Readable recipient
              (s.envelope recipient header cipher) limit ↔
            (after (before ++ .secretSend s :: later)).owner s.body.toDeviceID =
              some recipient := by
  rcases (after before).handleSecretSend_cases s with
    ⟨-, hunqueued⟩ | ⟨recipient, header, cipher, hrecipient, hload, heq⟩
  · rw [hunqueued ack hack] at hqueued
    cases hqueued
  refine ⟨recipient, header, cipher, hrecipient, hload, ?_, fun later hlater he limit => ?_⟩
  · unfold after
    rw [Machine.final_append, Machine.final_cons, Machine.final_nil]
    simp only [step]
    rw [heq]
    exact mem_queueSecret _ s recipient header cipher
  · exact (sound_after hlater).readable_iff he limit

open Relay in
/-- Nobody reads a queued message that is addressed to no particular device. -/
lemma open_device_unreadable {events : List Event}
    (h : Machine.Guarded step Genuine new events) {user : KeyPart} {e : SecretEnvelope}
    (he : e ∈ (after events).queue ⟨user, ""⟩) (limit : Int) :
    ¬ (after events).Readable user e limit := by
  have hs := sound_after h
  intro hread
  have howned : (after events).owner "" = some user := (hs.readable_iff he limit).mp hread
  rw [hs.named] at howned
  cases howned

def account (n : Nat) : KeyPart := ⟨formatInt n, bar_notMem_formatInt n⟩

/-- Account 7 has a phone, which is not connected; account 8 is in the browser. -/
def phoneAway : List Event :=
  [.login (account 7) "phone" "100" "101", .login (account 8) "web" "102" "103",
    .connect ⟨account 8, "web"⟩ "node-1"]

/-- A message from the browser to a device of account 7. -/
def toSeven (deviceID : String) : Send where
  conn := ⟨account 8, "web"⟩
  body := { toUserID := "7", toDeviceID := deviceID, header := [1], cipher := [2] }
  blocked := false
  id := "900"
  now := 5

theorem queued_readable_iff_phone : ∃ e : SecretEnvelope, e.ciphertext = [2] ∧
      (Relay.after (phoneAway ++ [.secretSend (toSeven "phone")])).Readable (account 7) e 10 := by
  have hphone : (Relay.after (phoneAway ++ [.secretSend (toSeven "phone")])).owner "phone" =
      some (account 7) := by decide +kernel
  rcases queued_readable_iff phoneAway (toSeven "phone") ⟨"7", "phone", 0, true⟩
    (by decide +kernel) rfl with ⟨⟨text, noBar⟩, header, cipher, htext, hload, hmem, hread⟩
  cases htext
  cases hload
  exact ⟨_, rfl, (hread [] (by decide +kernel) hmem 10).mpr hphone⟩

/-- The message is for any device of account 7.  It is queued, and the phone cannot read
it. -/
theorem queued_unreadable : let events := phoneAway ++ [.secretSend (toSeven "")]
    Machine.Guarded Relay.step Relay.Genuine .new events ∧
      ((Relay.after phoneAway).handleSecretSend (toSeven "")).1 = .ok ⟨"7", "", 0, true⟩ ∧
      (toSeven "").envelope (account 7) [1] [2] ∈ (Relay.after events).queue ⟨account 7, ""⟩ ∧
      ∀ limit, ¬ (Relay.after events).Readable (account 7)
        ((toSeven "").envelope (account 7) [1] [2]) limit := by
  have hrun : Machine.Guarded Relay.step Relay.Genuine .new
      (phoneAway ++ [.secretSend (toSeven "")]) := by decide +kernel
  have hqueued : (toSeven "").envelope (account 7) [1] [2] ∈
      (Relay.after (phoneAway ++ [.secretSend (toSeven "")])).queue ⟨account 7, ""⟩ := by
    decide +kernel
  exact ⟨hrun, by decide +kernel, hqueued, open_device_unreadable hrun hqueued⟩

end SyncApp.SecretQueue
