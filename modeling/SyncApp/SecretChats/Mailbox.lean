import SyncApp.SecretChats.Symbolic

/-!
# What a call does to the stored sessions

A call that is left alone does the same on all clients: an inbound message is opened with the
session there is or as a first one, and a message goes out on the session there is or on a new one.
They differ in which messages carry the key of the handshake, on iOS all until one of the peer
opens, and in what is stored when they are stopped.

Main results:

- `Web.mailbox_receive`, `Android.mailbox_receive`, `Ios.mailbox_receive`: an inbound message.
- `Web.mailbox_sealFor`, `Android.mailbox_relay`, `Ios.mailbox_sendOne`: an outgoing one.
- `Web.Consistent.mailbox_restart`, `Android.mailbox_killed`, `Ios.mailbox_restart`: a stop.
-/

namespace SyncApp.SecretChats

open Foundations Foundations.Interleaving
open Function (update update_eq_self update_of_ne update_self)

variable (S : Suite) (D : Type)

/-- What a client keeps: the sessions with devices, its prekeys, and on iOS the ephemeral keys that
it still has to repeat. -/
structure Mailbox where
  sessions : D → Option (Agreed S)
  keys : Prekeys S
  pending : D → Option String

/-- The clients. -/
inductive Kind where
  | web
  | android
  | ios
deriving DecidableEq

/-- A sealed message as it is relayed. -/
structure Posted where
  bootstrap : Option String
  header : S.Header
  ciphertext : S.Cipher

variable {S D}

/-- The one-time prekey of a bundle as the clients read it. -/
def Kind.oneTimePreKey (kind : Kind) (b : Bundle) : Option (Option S.Key) :=
  match kind with
  | .web => Web.oneTimePreKey S b
  | .android | .ios => some (b.oneTimeKey S)

/-- The message as another device receives it. -/
def Posted.inbound (fromUserId fromDeviceId identityKey : String) (p : Posted S) : Inbound S where
  fromUserId := fromUserId
  fromDeviceId := fromDeviceId
  ik := p.bootstrap.map fun _ => identityKey
  ek := p.bootstrap
  header := some p.header
  ciphertext := some p.ciphertext

namespace Mailbox

variable (b : Mailbox S D)

def opened (d : D) (m : Inbound S) (draw : Nat) : Option (Opened S) :=
  openSecret b.keys (b.sessions d) m draw

variable (kind : Kind) (d : D)

/-- The session for a bundle: the stored one, or a new one with its ephemeral key. -/
def sessionFor (bundle : Bundle) (draw : Nat) : Option (Agreed S × Option String) :=
  match b.sessions d with
  | some σ => some (σ, none)
  | none =>
    match startSession S bundle (kind.oneTimePreKey bundle) draw with
    | .session σ ephemeral => some (σ, some ephemeral)
    | .malformed => none
    | .refused => none

variable {bundle : Bundle} {ephemeral : Option String} {σ : Agreed S} {text : String}

lemma sessionFor_eq_some {b : Mailbox S D} {kind : Kind} {d : D} {draw : Nat}
    (h : b.sessionFor kind d bundle draw = some (σ, ephemeral)) :
    (b.sessions d = some σ ∧ ephemeral = none) ∨ ∃ key, ephemeral = some key ∧ b.sessions d = none ∧
        startSession S bundle (kind.oneTimePreKey bundle) draw = .session σ key := by
  unfold sessionFor at h
  split at h
  · next hσ =>
    cases h
    exact .inl ⟨hσ, rfl⟩
  · next hnone =>
    split at h
    · next key hstart =>
      cases h
      exact .inr ⟨key, rfl, hnone, hstart⟩
    · cases h
    · cases h

variable [DecidableEq D]

/-- What an inbound message leaves behind. -/
def receive (m : Inbound S) (draw : Nat) : Mailbox S D :=
  match b.opened d m draw with
  | none => b
  | some o =>
    { sessions := update b.sessions d (some o.session)
      keys := b.keys.drop o.consumed
      pending := update b.pending d none }

/-- The ephemeral keys to repeat, once a session has begun. -/
def owes (ephemeral : Option String) : D → Option String :=
  match kind, ephemeral with
  | .ios, some key => update b.pending d (some key)
  | _, _ => b.pending

/-- The ephemeral key that a message carries. -/
def bootstrap (ephemeral : Option String) : Option String :=
  match kind with
  | .web | .android => ephemeral
  | .ios => b.owes kind d ephemeral d

/-- Seal a message for the device of a bundle. -/
def send (bundle : Bundle) (text : String) (draw : Nat) : Option (Posted S × Mailbox S D) :=
  match b.sessionFor kind d bundle draw with
  | none => none
  | some (σ, ephemeral) =>
    match S.encrypt σ.session text with
    | none => none
    | some ((header, ciphertext), session) =>
      some (⟨b.bootstrap kind d ephemeral, header, ciphertext⟩,
        { b with
          sessions := update b.sessions d (some ⟨session, σ.peer⟩)
          pending := b.owes kind d ephemeral })

/-- Messages to one device, one after the other, the first one with the given draw. -/
def sendAll (kind : Kind) (d : D) (bundle : Bundle) :
    Mailbox S D → Nat → List String → List (Posted S)
  | _, _, [] => []
  | b, draw, text :: rest =>
    match b.send kind d bundle text draw with
    | none => []
    | some (posted, b') => posted :: sendAll kind d bundle b' (draw + 1) rest

/-- The app is started again from what it had stored. -/
def restart : Mailbox S D := { b with pending := fun _ => none }

variable {b : Mailbox S D} {kind : Kind} {d : D} {m : Inbound S} {draw : Nat}

lemma receive_of_none (h : b.opened d m draw = none) : b.receive d m draw = b := by
  unfold receive
  rw [h]

lemma receive_of_some {o : Opened S} (h : b.opened d m draw = some o) :
    b.receive d m draw =
      { sessions := update b.sessions d (some o.session)
        keys := b.keys.drop o.consumed
        pending := update b.pending d none } := by
  unfold receive
  rw [h]

lemma send_of_sealed {header : S.Header} {ciphertext : S.Cipher} {session : S.Session}
    (hσ : b.sessionFor kind d bundle draw = some (σ, ephemeral))
    (hseal : S.encrypt σ.session text = some ((header, ciphertext), session)) :
    b.send kind d bundle text draw =
      some (⟨b.bootstrap kind d ephemeral, header, ciphertext⟩,
        { b with
          sessions := update b.sessions d (some ⟨session, σ.peer⟩)
          pending := b.owes kind d ephemeral }) := by
  unfold send
  rw [hσ]
  dsimp only
  rw [hseal]

lemma send_eq_some {posted : Posted S} {box : Mailbox S D}
    (h : b.send kind d bundle text draw = some (posted, box)) :
    ∃ σ ephemeral session, b.sessionFor kind d bundle draw = some (σ, ephemeral) ∧
      S.encrypt σ.session text = some ((posted.header, posted.ciphertext), session) ∧
      posted.bootstrap = b.bootstrap kind d ephemeral ∧
      box = { b with
        sessions := update b.sessions d (some ⟨session, σ.peer⟩)
        pending := b.owes kind d ephemeral } := by
  unfold send at h
  split at h
  · cases h
  · next σ ephemeral hσ =>
    split at h
    · cases h
    · next header ciphertext session hseal =>
      cases h
      exact ⟨σ, ephemeral, session, hσ, hseal, rfl, rfl⟩

end Mailbox

def Frame.posted (f : Frame S) : Posted S := ⟨f.bootstrap, f.header, f.ciphertext⟩

namespace Web

/-- What a page keeps. -/
def mailbox (s : Web S) : Mailbox S String := ⟨s.sessions, s.keys, fun _ => none⟩

theorem mailbox_receive (s : Web S) (m : Inbound S) : (s.receive m).mailbox =
      s.mailbox.receive (sessionKey m.fromUserId m.fromDeviceId) m s.draws := by
  unfold receive
  dsimp only
  split
  · next hopen => exact (Mailbox.receive_of_none (b := s.mailbox) hopen).symm
  · next o hopen =>
    rw [Mailbox.receive_of_some (b := s.mailbox) hopen]
    have hpend : s.mailbox.pending = fun _ => none := rfl
    rw [hpend, update_eq_self]
    cases hcons : o.consumed with
    | none | some => rfl

/-- A page that is closed with no write queued and opened again has the sessions that it had. -/
theorem Consistent.mailbox_restart {s : Web S} (h : s.Consistent) (hwarm : s.hydrated = true)
    (hqueue : s.queue = []) : s.restart.hydrate.mailbox.sessions = s.mailbox.sessions := by
  have hsaved := h.saved hwarm
  rw [hqueue] at hsaved
  exact hsaved

/-- Sealing for a device posts the same as the mailbox, keeps the same, and fails where it fails. -/
theorem mailbox_sealFor (s : Web S) (key text : String) (bundle : Bundle) :
    s.mailbox.send .web key bundle text s.draws = (s.sealFor key text bundle).bind fun s' =>
      s'.frames.getLast?.map fun frame => (frame.posted, s'.mailbox) := by
  have hfor : s.mailbox.sessionFor .web key bundle s.draws = s.sessionFor key bundle := rfl
  unfold Mailbox.send sealFor sealWith
  rw [hfor]
  cases s.sessionFor key bundle with
  | none => rfl
  | some found =>
    cases hout : S.encrypt found.1.session text with
    | none => simp [hout]
    | some => simp [hout, saveSession, Frame.posted, mailbox, Mailbox.bootstrap, Mailbox.owes]

end Web

/-! ## The Android client -/

namespace Android

/-- What the data store keeps. -/
def mailbox (s : Android S) : Mailbox S String := ⟨s.sessions, s.keys, fun _ => none⟩

variable {α : Type}

lemma alone_saveSession (key : String) (σ : Agreed S) (rest : Task (Android S) α)
    (s : Android S) : (saveSession key σ rest).alone s = rest.alone (s.saved key σ) := rfl

lemma alone_dropOneTimePreKey (consumed : Option S.Pair) (rest : Task (Android S) α)
    (s : Android S) :
    (dropOneTimePreKey consumed rest).alone s =
      rest.alone { s with keys := s.keys.drop consumed } := by
  cases consumed with
  | none | some => rfl

theorem mailbox_receive (s : Android S) (m : Inbound S) : ((receive m).alone s).2.mailbox =
      s.mailbox.receive (sessionKey m.fromUserId m.fromDeviceId) m s.draws := by
  unfold receive
  simp only [Task.alone_read, Task.alone_act]
  cases hopen : openSecret s.keys (s.sessions (sessionKey m.fromUserId m.fromDeviceId)) m
      s.draws with
  | none =>
    have hnoted : s.noted s.keys m = s := by
      unfold noted
      simp only [hopen]
    rw [hnoted]
    exact (Mailbox.receive_of_none (b := s.mailbox) hopen).symm
  | some =>
    rw [Mailbox.receive_of_some (b := s.mailbox) hopen]
    have hpend : s.mailbox.pending = fun _ => none := rfl
    rw [hpend, update_eq_self]
    have hnoted : (s.noted s.keys m).sessions = s.sessions ∧ (s.noted s.keys m).keys = s.keys := by
      unfold noted
      simp only [hopen, and_self]
    simp only [alone_saveSession, alone_dropOneTimePreKey, Task.alone_done, saved, mailbox, hnoted]

theorem mailbox_relay (s : Android S) (trust : String → Option Pin) (key text : String)
    (bundle : Bundle) : s.mailbox.send .android key bundle text s.draws =
      match s.sealFor trust key text bundle with
      | .sealed frame σ =>
        some (frame.posted, ((s.relay trust key text bundle).saved key σ).mailbox)
      | .skipped | .failed => none := by
  have hkept : s.mailbox.sessions key = s.sessions key := rfl
  unfold Mailbox.send Mailbox.sessionFor relay sealFor sealWith
  rw [hkept]
  dsimp only [Kind.oneTimePreKey]
  cases s.sessions key with
  | some σ =>
    cases hout : S.encrypt σ.session text with
    | none => simp only [hout, Sealing.ofSeal]
    | some =>
      simp only [hout, Sealing.ofSeal]
      rfl
  | none =>
    cases startSession S bundle (some (bundle.oneTimeKey S)) s.draws with
    | malformed | refused => rfl
    | session σ ephemeral =>
      cases hout : S.encrypt σ.session text with
      | none => simp only [hout, Sealing.ofSeal]
      | some =>
        simp only [hout, Sealing.ofSeal]
        rfl

/-- What is left of a process that dies while it sends a message: nothing was sent, or the session
that sealed the message is not saved, or the store keeps what the mailbox does. -/
def Left (s : Android S) (key text : String) (bundle : Bundle) (t : Android S) : Prop :=
  (t.sessions = s.sessions ∧ t.frames = s.frames) ∨ t.unsaved = true ∨
    ∃ posted box, s.mailbox.send .android key bundle text s.draws = some (posted, box) ∧
      t.sessions = box.sessions

lemma ensures_end {s t : Android S} {key text : String} {bundle : Bundle} (peerUserId : String)
    (trust : String → Option Pin) (changed : Bool) (h : s.Left key text bundle t) :
    Ensures (s.Left key text bundle) (fun _ _ => True) (sendLoop peerUserId text [] trust changed)
      t := by
  unfold sendLoop
  split
  · exact ⟨h, trivial⟩
  · trivial

/-- The process may die at every point. -/
theorem mailbox_killed (s : Android S) (peerUserId text : String) (bundle : Bundle)
    (trust : String → Option Pin) (changed : Bool) (n : Nat) :
    s.Left (sessionKey (bundle.owner peerUserId) bundle.deviceId) text bundle
      ((sendLoop peerUserId text [bundle] trust changed).cut n s) := by
  have hsend := s.mailbox_relay trust (sessionKey (bundle.owner peerUserId) bundle.deviceId) text
    bundle
  have hidle : (∀ frame σ, s.sealFor trust (sessionKey (bundle.owner peerUserId) bundle.deviceId)
      text bundle ≠ .sealed frame σ) →
      s.relay trust (sessionKey (bundle.owner peerUserId) bundle.deviceId) text bundle = s := by
    intro hnot
    unfold relay
    split
    · next frame σ hseal => exact absurd hseal (hnot frame σ)
    · rfl
    · rfl
  refine @Ensures.cut _ _ (fun _ _ => True) _ _ _ ?_ (.inl ⟨rfl, rfl⟩) n
  unfold sendLoop
  dsimp only
  split
  · trivial
  cases hseal : s.sealFor trust (sessionKey (bundle.owner peerUserId) bundle.deviceId) text
      bundle with
  | «sealed» =>
    rw [hseal] at hsend
    have hunsaved : (s.relay trust (sessionKey (bundle.owner peerUserId) bundle.deviceId) text
        bundle).unsaved = true := by
      unfold relay
      rw [hseal]
    refine ⟨.inr (.inl hunsaved), ?_⟩
    dsimp only
    rw [hseal]
    refine ⟨.inr (.inl hunsaved), .inr (.inr ⟨_, _, hsend, rfl⟩), ?_⟩
    split
    · exact ensures_end peerUserId _ _ (.inr (.inr ⟨_, _, hsend, rfl⟩))
    · exact ensures_end peerUserId _ _ (.inr (.inr ⟨_, _, hsend, rfl⟩))
  | skipped =>
    have hrelay := hidle (by simp [hseal])
    refine ⟨.inl ⟨congrArg sessions hrelay, congrArg frames hrelay⟩, ?_⟩
    dsimp only
    rw [hseal, hrelay]
    exact ensures_end peerUserId trust changed (.inl ⟨rfl, rfl⟩)
  | failed =>
    have hrelay := hidle (by simp [hseal])
    refine ⟨.inl ⟨congrArg sessions hrelay, congrArg frames hrelay⟩, ?_⟩
    dsimp only
    rw [hseal]
    trivial

end Android

/-! ## The iOS client -/

namespace Ios

/-- What the service keeps: the rows on disk, the keys in the keychain, and the ephemeral keys in
memory. -/
def mailbox (s : Ios S) : Mailbox S Peer :=
  ⟨s.rows, s.keys, fun peer => s.pendingBootstrap peer.key⟩

lemma pending_update (pending : String → Option String) (peer : Peer) (key : Option String) :
    (fun q : Peer => update pending peer.key key q.key) =
      update (fun q : Peer => pending q.key) peer key := by
  funext q
  rcases eq_or_ne q peer with rfl | hne
  · rw [update_self, update_self]
  · rw [update_of_ne hne, update_of_ne (Peer.key_injective.ne hne)]

variable {peer : Peer} {r : Nat} {s : Ios S} {b : Bundle} {σ : Agreed S} {text : String}

lemma mailbox_receiveWith (m : Inbound S) (hr : s.heap r = s.rows peer) :
    ((receiveWith peer m (some r)).alone s).2.mailbox = s.mailbox.receive peer m s.draws := by
  unfold receiveWith
  simp only [Task.alone_act, Option.bind_some]
  rw [hr]
  cases hopen : openSecret s.keys (s.rows peer) m s.draws with
  | none =>
    have hin : s.inbound peer m (some r) = s := by
      unfold inbound
      rw [Option.bind_some, hr, hopen]
    rw [hin]
    exact (Mailbox.receive_of_none (b := s.mailbox) hopen).symm
  | some o =>
    rw [Mailbox.receive_of_some (b := s.mailbox) hopen]
    have hin : (s.inbound peer m (some r)).rows = s.rows ∧
        (s.inbound peer m (some r)).keys = s.keys ∧
        (s.inbound peer m (some r)).pendingBootstrap = update s.pendingBootstrap peer.key none := by
      unfold inbound
      rw [Option.bind_some, hr, hopen]
      exact ⟨rfl, rfl, rfl⟩
    rcases hin with ⟨hrows, hkeys, hpend⟩
    have hsaved := rows_saveSession (s.inbound peer m (some r)) peer o.session
    rw [hrows] at hsaved
    simp only [Task.alone_write, Task.alone_done]
    have hdropped : ((s.inbound peer m (some r)).saveSession peer o.session).keys = s.keys := hkeys
    have hcleared : ((s.inbound peer m (some r)).saveSession peer o.session).pendingBootstrap =
        update s.pendingBootstrap peer.key none := hpend
    unfold mailbox
    simp only [hdropped, hcleared, pending_update]
    exact congrArg (fun rows => Mailbox.mk rows _ _) hsaved

theorem mailbox_receive (h : s.Synced none) (peer : Peer) (m : Inbound S) :
    ((receive peer m).alone s).2.mailbox = s.mailbox.receive peer m s.draws := by
  unfold receive
  rw [Task.alone_read]
  cases hlive : s.live peer.key with
  | some r =>
    rcases h.same peer r (by simp) hlive with ⟨σ, hheap, hrow⟩
    exact mailbox_receiveWith m (hheap.trans hrow.symm)
  | none =>
    have hrest : (s.restore peer).heap s.refs = (s.restore peer).rows peer := update_self ..
    exact mailbox_receiveWith m hrest

/-- The object for a bundle, and what is known of it: its session, and the key it still owes. -/
lemma alone_session (h : s.Synced none) {ephemeral : Option String}
    (hσ : s.mailbox.sessionFor .ios peer b s.draws = some (σ, ephemeral)) :
    ∃ r t, (session peer b).alone s = (some r, t) ∧ t.heap r = some σ ∧ t.frames = s.frames ∧
      t.mailbox = { s.mailbox with pending := s.mailbox.owes .ios peer ephemeral } := by
  unfold session
  rw [Task.alone_read]
  unfold Mailbox.sessionFor at hσ
  cases hlive : s.live peer.key with
  | some r =>
    rcases h.same peer r (by simp) hlive with ⟨τ, hheap, hrow⟩
    rw [show s.mailbox.sessions peer = some τ from hrow] at hσ
    cases hσ
    exact ⟨r, s, rfl, hheap, rfl, rfl⟩
  | none =>
    simp only [Task.alone_act, Task.alone_done]
    unfold loadSession
    cases hrow : s.disk.lookup peer with
    | some τ =>
      rw [show s.mailbox.sessions peer = some τ from hrow] at hσ
      cases hσ
      exact ⟨s.refs, _, rfl, update_self .., rfl, rfl⟩
    | none =>
      rw [show s.mailbox.sessions peer = none from hrow] at hσ
      dsimp only [Kind.oneTimePreKey] at hσ
      cases hstart : startSession S b (some (b.oneTimeKey S)) s.draws with
      | session τ key =>
        rw [hstart] at hσ
        cases hσ
        refine ⟨s.refs, _, rfl, update_self .., rfl, ?_⟩
        exact congrArg (Mailbox.mk s.rows s.keys)
          (pending_update s.pendingBootstrap peer (some key))
      | malformed | refused =>
        rw [hstart] at hσ
        cases hσ

/-- An object seals a message, its session is saved and the message is sent. -/
lemma mailbox_transmit {t : Ios S} {header : S.Header} {ciphertext : S.Cipher}
    {session : S.Session} (b : Bundle) (hheap : t.heap r = some σ)
    (hout : S.encrypt σ.session text = some ((header, ciphertext), session)) :
    ∃ frame, t.sealOn peer text r = some (frame, ⟨session, σ.peer⟩) ∧
      frame.posted = ⟨t.mailbox.pending peer, header, ciphertext⟩ ∧
      (t.encrypt peer text b r).frames = t.frames ∧
      ((t.encrypt peer text b r).saveSession peer ⟨session, σ.peer⟩).mailbox =
        { t.mailbox with
          sessions := update t.mailbox.sessions peer (some ⟨session, σ.peer⟩) } := by
  have hseal : t.sealOn peer text r =
      some (⟨peer.key, t.pendingBootstrap peer.key, header, ciphertext, text,
        σ.position.getD (0, 0), σ.peer, t.pins peer.pinKey⟩, ⟨session, σ.peer⟩) := by
    unfold sealOn sealWith
    rw [hheap]
    simp only [hout]
  have hencrypt : (t.encrypt peer text b r).frames = t.frames ∧
      (t.encrypt peer text b r).mailbox = t.mailbox := by
    unfold encrypt
    rw [hseal]
    exact ⟨rfl, rfl⟩
  refine ⟨_, hseal, rfl, hencrypt.1, ?_⟩
  have hrows := rows_saveSession (t.encrypt peer text b r) peer ⟨session, σ.peer⟩
  rw [← hencrypt.2]
  exact congrArg (fun rows => Mailbox.mk rows _ _) hrows

theorem mailbox_restart (s : Ios S) : s.restart.mailbox = s.mailbox.restart := rfl

/-- Without a session for a bundle the service is left as it is. -/
lemma alone_session_none (h : s.Synced none)
    (hnone : s.mailbox.sessionFor .ios peer b s.draws = none) :
    (session peer b).alone s = (none, s) := by
  unfold Mailbox.sessionFor at hnone
  have hlook : s.mailbox.sessions peer = s.disk.lookup peer := rfl
  rw [hlook] at hnone
  unfold session
  rw [Task.alone_read]
  cases hlive : s.live peer.key with
  | some r =>
    rcases h.same peer r (by simp) hlive with ⟨τ, -, hrow⟩
    rw [show s.disk.lookup peer = some τ from hrow] at hnone
    cases hnone
  | none =>
    simp only [Task.alone_act, Task.alone_done]
    unfold loadSession
    cases hrow : s.disk.lookup peer with
    | some =>
      rw [hrow] at hnone
      cases hnone
    | none =>
      rw [hrow] at hnone
      dsimp only [Kind.oneTimePreKey] at hnone
      cases hstart : startSession S b (some (b.oneTimeKey S)) s.draws with
      | session =>
        rw [hstart] at hnone
        cases hnone
      | malformed | refused => rfl

/-- One bundle of a message posts and keeps the same as the mailbox; where that posts nothing,
nothing is sent, and rows and prekeys are as they were. -/
theorem mailbox_sendOne (h : s.Synced none) (user : UserID) (text : String) :
    let t := ((sendOne user text b).alone s).2
    match s.mailbox.send .ios ⟨user, b.deviceId⟩ b text s.draws with
    | some (posted, box) =>
      ∃ frame, t.frames = s.frames ++ [frame] ∧ frame.posted = posted ∧ t.mailbox = box
    | none =>
      t.frames = s.frames ∧ t.mailbox = { s.mailbox with pending := t.mailbox.pending } := by
  intro t
  unfold Mailbox.send
  cases hσ : s.mailbox.sessionFor .ios ⟨user, b.deviceId⟩ b s.draws with
  | none =>
    have hend : t = s := by
      simp only [t]
      unfold sendOne
      rw [Task.alone_bind, alone_session_none h hσ]
      rfl
    rw [hend]
    exact ⟨rfl, rfl⟩
  | some found =>
    obtain ⟨σ, ephemeral⟩ := found
    rcases alone_session h hσ with ⟨r, u, halone, hheap, hframes, hbox⟩
    dsimp only
    cases hout : S.encrypt σ.session text with
    | none =>
      have hseal : u.sealOn ⟨user, b.deviceId⟩ text r = none := by
        unfold sealOn sealWith
        rw [hheap]
        simp only [hout]
      have hend : t = u := by
        simp only [t]
        unfold sendOne
        rw [Task.alone_bind, halone]
        simp only [Task.alone_act]
        rw [hseal]
        simp only [encrypt, hseal, Task.alone_done]
      rw [hend, hbox]
      exact ⟨hframes, rfl⟩
    | some sealed =>
      obtain ⟨⟨header, ciphertext⟩, session⟩ := sealed
      rcases mailbox_transmit b hheap hout with ⟨frame, hseal, hposted, hkept, hsaved⟩
      have hend : t = ((u.encrypt ⟨user, b.deviceId⟩ text b r).saveSession ⟨user, b.deviceId⟩
          ⟨session, σ.peer⟩).transmit ⟨user, b.deviceId⟩ b frame := by
        simp only [t]
        unfold sendOne
        rw [Task.alone_bind, halone]
        simp only [Task.alone_act]
        rw [hseal]
        rfl
      refine ⟨frame, ?_, ?_, ?_⟩
      · rw [hend, ← hframes, ← hkept]
        rfl
      · rw [hposted, hbox]
        rfl
      · rw [hend]
        refine Eq.trans ?_ (hsaved.trans ?_)
        · rfl
        · rw [hbox]

open Symbolic in
/-- A first message carries the key of the handshake. -/
theorem mailbox_sendOne_first : ∃ frame,
    ((sendOne bob "hi" bobBundle).alone (new "pad" aliceKeys)).2.frames = [frame] ∧
      frame.bootstrap = some "alice" := by
  have hsync : (new "pad" aliceKeys).Synced none := synced_of_unloaded (fun _ => rfl) none
  rcases mailbox_sendOne (b := bobBundle) hsync bob "hi" with ⟨frame, hframes, hposted, -⟩
  exact ⟨frame, hframes, congrArg Posted.bootstrap hposted⟩

end Ios

end SyncApp.SecretChats
