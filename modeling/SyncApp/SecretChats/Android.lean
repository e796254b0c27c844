import SyncApp.SecretChats.Model

/-!
# Secret chats on Android

`SecretChatEngine` and `SecretKeyStore` of the Android client, over one data store whose reads and
writes a coroutine waits for; `saveSession` reads and then writes all sessions.  Between the read of
a session and the next wait the message is sealed and relayed.  Nothing keeps two calls apart.

Main results:

- `Android.consistent_run`: what holds after calls that do not overlap.
-/

namespace SyncApp.SecretChats

open Foundations Foundations.Interleaving
open Function (update)

variable (S : Suite)

/-- The data store, and what left the device.  `unsaved` notes a message that was relayed before its
session is saved; the last two fields are as on the web. -/
structure Android where
  sessions : String → Option (Agreed S)
  pins : String → Option Pin
  keys : Prekeys S
  draws : Nat
  frames : List (Frame S)
  unsaved : Bool
  intruded : Bool
  repinned : Bool

/-- How a message for one device is sealed. -/
inductive Sealing where
  | sealed (frame : Frame S) (σ : Agreed S)
  /-- The bundle does not decode: the loop goes on. -/
  | skipped
  /-- An exception leaves the loop. -/
  | failed

variable {S}

/-- The outcome of sealing, as an exception if there is no sending chain. -/
def Sealing.ofSeal : Option (Frame S × Agreed S) → Sealing S
  | none => .failed
  | some (frame, σ) => .sealed frame σ

lemma Sealing.eq_some_of_ofSeal {r : Option (Frame S × Agreed S)} {frame : Frame S}
    {σ : Agreed S} (h : Sealing.ofSeal r = .sealed frame σ) : r = some (frame, σ) := by
  cases r with
  | none => cases h
  | some =>
    cases h
    rfl

namespace Android

def new (keys : Prekeys S) : Android S where
  sessions := fun _ => none
  pins := fun _ => none
  keys := keys
  draws := 0
  frames := []
  unsaved := false
  intruded := false
  repinned := false

variable (s : Android S) (trust : String → Option Pin) (key text : String)

/-- Seal a message for the device of a bundle. -/
def sealFor (b : Bundle) : Sealing S :=
  match s.sessions key with
  | some σ => .ofSeal (sealWith key text (trust key) none σ)
  | none =>
    match startSession S b (some (b.oneTimeKey S)) s.draws with
    | .malformed => .skipped
    | .refused => .failed
    | .session σ ephemeral => .ofSeal (sealWith key text (trust key) (some ephemeral) σ)

/-- Relay the message, if there is one. -/
def relay (b : Bundle) : Android S :=
  match s.sealFor trust key text b with
  | .sealed frame σ =>
    { s with
      draws := s.draws + 1
      frames := s.frames ++ [frame]
      unsaved := true
      repinned := s.repinned || decide (trust key = none) && Pin.foreign (some b.pin) (some σ) }
  | .skipped => s
  | .failed => s

def saved (key : String) (σ : Agreed S) : Android S :=
  { s with sessions := update s.sessions key (some σ), unsaved := false }

/-- `saveSession`: read all sessions, then write them all. -/
def saveSession {α : Type} (key : String) (σ : Agreed S) (rest : Task (Android S) α) :
    Task (Android S) α :=
  .read fun s =>
    let next := update s.sessions key (some σ)
    .write (fun s => { s with sessions := next, unsaved := false }) rest

/-- The loop of `send`, with the pins as this call sees them. -/
def sendLoop (peerUserId text : String) :
    List Bundle → (String → Option Pin) → Bool → Task (Android S) SendEnd
  | [], trust, trustChanged =>
    if trustChanged then .write (fun s => { s with pins := trust }) (.done .sent)
    else .done .sent
  | b :: rest, trust, trustChanged =>
    let key := sessionKey (b.owner peerUserId) b.deviceId
    match verify S trust key b.pin with
    | .changed => .done .identityChanged
    | verdict =>
      .act (fun s => s.relay trust key text b) fun s =>
        match s.sealFor trust key text b with
        | .skipped => sendLoop peerUserId text rest trust trustChanged
        | .failed => .done .failed
        | .sealed _ σ =>
          saveSession key σ <|
            if verdict = .firstUse then
              sendLoop peerUserId text rest (update trust key (some b.pin)) true
            else sendLoop peerUserId text rest trust trustChanged

def send (peerUserId text : String) (bundles : List Bundle) : Task (Android S) SendEnd :=
  -- The identity is read, then the directory is asked, and answers with the bundles.
  .read fun _ => .read fun _ =>
    if bundles.isEmpty then .done .noDevices
    else .read fun s => sendLoop peerUserId text bundles s.pins false

/-- What opening a message draws and notes. -/
def noted (keys : Prekeys S) (m : Inbound S) : Android S :=
  let key := sessionKey m.fromUserId m.fromDeviceId
  match openSecret keys (s.sessions key) m s.draws with
  | none => s
  | some o =>
    { s with
      draws := s.draws + 1
      intruded := s.intruded || Pin.foreign (s.pins key) (some o.session) }

def dropOneTimePreKey {α : Type} (consumed : Option S.Pair) (rest : Task (Android S) α) :
    Task (Android S) α :=
  match consumed with
  | none => rest
  | some _ =>
    .read fun s =>
      let next := s.keys.drop consumed
      .write (fun s => { s with keys := next }) rest

def receive (m : Inbound S) : Task (Android S) (Option String) :=
  .read fun s =>
    let keys := s.keys
    .act (fun s => s.noted keys m) fun s =>
      let key := sessionKey m.fromUserId m.fromDeviceId
      match openSecret keys (s.sessions key) m s.draws with
      | none => .done none
      | some o =>
        saveSession key o.session <| dropOneTimePreKey o.consumed (.done (some o.plaintext))

/-- The store once a pin is saved. -/
def pinned (key : String) (pin : Pin) : Android S :=
  { s with
    pins := update trust key (some pin)
    repinned := s.repinned || Pin.foreign (some pin) (s.sessions key) }

def acceptIdentity (userId deviceId : String) (pin : Pin) : Task (Android S) Unit :=
  .read fun s =>
    let trust := s.pins
    .write (fun s => s.pinned trust (sessionKey userId deviceId) pin) (.done ())

end Android

/-- What the engine is asked to do. -/
inductive AndroidCall (S : Suite) where
  | send (peerUserId text : String) (bundles : List Bundle)
  | receive (m : Inbound S)
  | accept (userId deviceId : String) (pin : Pin)

/-- The calls, as they wait. -/
def AndroidCall.task : AndroidCall S → Task (Android S) Unit
  | .send peerUserId text bundles => (Android.send peerUserId text bundles).bind fun _ => .done ()
  | .receive m => (Android.receive m).bind fun _ => .done ()
  | .accept userId deviceId pin => Android.acceptIdentity userId deviceId pin

namespace Android

variable (keys : Prekeys S)

/-- The store after a schedule. -/
def run (events : List (Event (AndroidCall S))) : Android S :=
  (Pool.after AndroidCall.task id ⟨new keys, []⟩ events).state

/-- Calls do not overlap, and the process does not die with a session unsaved. -/
def Serial (keys : Prekeys S) (events : List (Event (AndroidCall S))) : Prop :=
  Machine.Guarded (Pool.step AndroidCall.task id) (Pool.Serial fun s => s.unsaved = false)
    ⟨new keys, []⟩ events
deriving Decidable

/-! ## What holds of the store -/

variable (s : Android S)

/-- No message and no pin brought in an identity other than the pinned one. -/
def Clean : Prop := s.intruded = false ∧ s.repinned = false
deriving Decidable

/-- The positions of the sessions, and those used. -/
def ledger : Ledger String :=
  ⟨s.draws, positions s.sessions, s.frames.map Frame.position⟩

def Agrees (pins : String → Option Pin) : Prop :=
  ∀ key, Pin.foreign (pins key) (s.sessions key) = false

/-- What holds of the store at any time. -/
structure Consistent (s : Android S) : Prop where
  valid : s.unsaved = false → s.ledger.Valid
  once : (s.frames.map Frame.position).Nodup
  pinned : s.Clean → s.Agrees s.pins
  frames : s.Clean → ∀ f ∈ s.frames, ∀ p, f.pin = some p → S.decode p.identityKey = some f.peer

/-- No session is to be saved. -/
def Idle : Prop := s.unsaved = false

variable {s : Android S}

lemma consistent_new : (new keys).Consistent where
  valid _ := Ledger.valid_empty
  once := List.nodup_nil
  pinned _ _ := rfl
  frames _ := by simp [new]

/-- Pins that extend those of the store, and that the sessions agree with. -/
structure Trusted (s : Android S) (trust : String → Option Pin) : Prop where
  extends_pins : ∀ key p, s.pins key = some p → trust key = some p
  agrees : s.Clean → s.Agrees trust

variable {trust : String → Option Pin} {b : Bundle} {frame : Frame S} {key text : String}
  {σ' : Agreed S} {α : Type}

lemma Trusted.pinned (h : s.Trusted trust) (hclean : s.Clean) : s.Agrees s.pins := by
  intro key
  rw [Pin.foreign_eq_false]
  intro p σ hp hσ
  exact Pin.foreign_eq_false.mp (h.agrees hclean key) p σ (h.extends_pins key p hp) hσ

section Relaying

variable (h : s.sealFor trust key text b = .sealed frame σ')
include h

/-- A message that is sealed for a device whose bundle passed the pin: by which session, and what
becomes of it. -/
lemma sealFor_eq_sealed :
    ∃ σ ephemeral, sealWith key text (trust key) ephemeral σ = some (frame, σ') ∧
      (s.sessions key = some σ ∨
        S.decode b.identityKey = some σ.peer ∧ σ.position = some (s.draws, 0)) := by
  unfold sealFor at h
  split at h
  · next σ hstored => exact ⟨σ, none, Sealing.eq_some_of_ofSeal h, .inl hstored⟩
  split at h
  · cases h
  · cases h
  · next σ ephemeral hstart =>
    exact ⟨σ, some ephemeral, Sealing.eq_some_of_ofSeal h,
      .inr (startSession_eq_session hstart)⟩

lemma relay_of_sealed : s.relay trust key text b =
      { s with
        draws := s.draws + 1
        frames := s.frames ++ [frame]
        unsaved := true
        repinned := s.repinned ||
          decide (trust key = none) && Pin.foreign (some b.pin) (some σ') } := by
  simp only [relay, h]

lemma clean_relay (hclean : (s.relay trust key text b).Clean) : s.Clean := by
  rw [relay_of_sealed h] at hclean
  exact ⟨hclean.1, (Bool.or_eq_false_iff.mp hclean.2).1⟩

/-- The positions once the message is relayed and its session saved. -/
lemma Consistent.valid_relay (hs : s.Consistent) (hidle : s.Idle) :
    (⟨s.draws + 1, update (positions s.sessions) key σ'.position,
      (s.frames ++ [frame]).map Frame.position⟩ : Ledger String).Valid := by
  rcases sealFor_eq_sealed h with ⟨σ, _, hseal, hσ⟩
  rw [List.map_append, List.map_singleton]
  refine valid_sealWith (hs.valid hidle) ?_ hseal
  rcases hσ with hstored | ⟨-, hnew⟩
  · left
    simp [positions, hstored]
  · exact .inr hnew

section

variable (ht : s.Trusted trust) (hverd : verify S trust key b.pin ≠ .changed)
include ht hverd

/-- Whichever way the session came about, it agrees with the pin the bundle passed. -/
lemma Trusted.sealFor (hclean : s.Clean) {p : Pin} (hp : trust key = some p) :
    S.decode p.identityKey = some frame.peer ∧ S.decode p.identityKey = some σ'.peer := by
  rcases sealFor_eq_sealed h with ⟨σ, _, hseal, hσ⟩
  rcases sealWith_eq_some hseal with ⟨-, hpeer, -, hpeer', -, -⟩
  rw [hpeer, hpeer', and_self]
  exact agrees_of_passed hp hverd (ht.agrees hclean key) (hσ.imp_right And.left)

lemma Consistent.relay (hs : s.Consistent) (hidle : s.Idle) :
    (s.relay trust key text b).Consistent := by
  have hclean := clean_relay h
  rw [relay_of_sealed h] at hclean ⊢
  refine ⟨(fun hfalse => nomatch hfalse), (hs.valid_relay h hidle).once,
    fun hc => hs.pinned (hclean hc), ?_⟩
  intro hc f hf p hp
  rcases List.mem_append.mp hf with hold | hnew
  · exact hs.frames (hclean hc) f hold p hp
  rcases sealFor_eq_sealed h with ⟨σ, _, hseal, -⟩
  rw [List.mem_singleton.mp hnew] at hp ⊢
  rw [(sealWith_eq_some hseal).2.2.1] at hp
  exact (ht.sealFor h hverd (hclean hc) hp).1

/-- The pins of the call once the session is saved: also the one that was just set. -/
lemma Trusted.relay :
    ((s.relay trust key text b).saved key σ').Trusted
      (if verify S trust key b.pin = .firstUse then update trust key (some b.pin) else trust) := by
  have hclean := clean_relay h
  rw [relay_of_sealed h] at hclean ⊢
  constructor
  · intro key' p hp
    have hold := ht.extends_pins key' p hp
    split
    · next hfirst =>
      have hne : key' ≠ key := by
        rintro rfl
        rw [verify_firstUse.mp hfirst] at hold
        cases hold
      rw [Function.update_of_ne hne]
      exact hold
    · exact hold
  · intro hc
    have hnew : Pin.foreign (trust key) (some σ') = false := by
      rw [Pin.foreign_eq_false]
      intro p τ hp hτ
      cases hτ
      exact (ht.sealFor h hverd (hclean hc) hp).2
    have hold := foreign_update_session (ht.agrees (hclean hc)) hnew
    split
    · next hfirst =>
      have hrepin := (Bool.or_eq_false_iff.mp hc.2).2
      rw [verify_firstUse.mp hfirst, decide_eq_true rfl, Bool.true_and] at hrepin
      refine foreign_update_pin hold ?_
      rw [Function.update_self]
      exact hrepin
    · exact hold

lemma Consistent.saved_relay (hs : s.Consistent) (hidle : s.Idle) :
    ((s.relay trust key text b).saved key σ').Consistent := by
  refine ⟨?_, (hs.relay h ht hverd hidle).once, (ht.relay h hverd).pinned,
    (hs.relay h ht hverd hidle).frames⟩
  intro _
  have hval := hs.valid_relay h hidle
  rw [relay_of_sealed h, ledger]
  simp only [saved]
  rw [positions_update]
  exact hval

end

end Relaying

lemma relay_of_not_sealed (h : ∀ frame σ, s.sealFor trust key text b ≠ .sealed frame σ) :
    s.relay trust key text b = s := by
  unfold relay
  split
  · next frame σ heq => exact absurd heq (h frame σ)
  · rfl
  · rfl

lemma ensures_saveSession {post : α → Android S → Prop} {σ : Agreed S} {rest : Task (Android S) α}
    (hs : s.Consistent) (hsaved : (s.saved key σ).Consistent)
    (hrest : Ensures Consistent post rest (s.saved key σ)) :
    Ensures Consistent post (saveSession key σ rest) s :=
  .read hs (.write hsaved hrest)

/-- The loop keeps the store consistent, whatever the bundles. -/
lemma ensures_sendLoop (peerUserId text : String) (bundles : List Bundle) (trustChanged : Bool)
    (hs : s.Consistent) (hidle : s.Idle) (ht : s.Trusted trust) :
    Ensures Consistent (fun _ => Idle) (sendLoop peerUserId text bundles trust trustChanged) s := by
  induction bundles generalizing s trust trustChanged with
  | nil =>
    unfold sendLoop
    split
    · exact .write ⟨hs.valid, hs.once, ht.agrees, hs.frames⟩ hidle
    · exact hidle
  | cons b rest ih =>
    unfold sendLoop
    dsimp only
    generalize sessionKey (b.owner peerUserId) b.deviceId = key
    cases hverd : verify S trust key b.pin
    case changed => exact hidle
    case known | firstUse =>
      have hne : verify S trust key b.pin ≠ .changed := by simp [hverd]
      cases hseal : s.sealFor trust key text b with
      | skipped =>
        have hsame := relay_of_not_sealed (s := s) fun frame σ => by rw [hseal]; simp
        simp only [Ensures, hsame, hseal]
        exact ⟨hs, ih trustChanged hs hidle ht⟩
      | failed =>
        have hsame := relay_of_not_sealed (s := s) fun frame σ => by rw [hseal]; simp
        simp only [Ensures, hsame, hseal]
        exact ⟨hs, hidle⟩
      | sealed =>
        refine ⟨hs.relay hseal ht hne hidle, ?_⟩
        simp only [hseal]
        have hsaved := hs.saved_relay hseal ht hne hidle
        have htrust := ht.relay hseal hne
        rw [hverd] at htrust
        refine ensures_saveSession (hs.relay hseal ht hne hidle) hsaved ?_
        exact ih _ hsaved rfl htrust

lemma ensures_send (peerUserId text : String) (bundles : List Bundle) (hs : s.Consistent)
    (hidle : s.Idle) : Ensures Consistent (fun _ => Idle) (send peerUserId text bundles) s := by
  refine .read hs (.read hs ?_)
  split
  · exact hidle
  · exact .read hs (ensures_sendLoop peerUserId text bundles false hs hidle
      ⟨fun _ _ => id, hs.pinned⟩)

section Receiving

variable {keys : Prekeys S} {m : Inbound S} {o : Opened S}
  (h : openSecret keys (s.sessions (sessionKey m.fromUserId m.fromDeviceId)) m s.draws = some o)
include h

lemma noted_of_opened :
    s.noted keys m =
      { s with
        draws := s.draws + 1
        intruded := s.intruded ||
          Pin.foreign (s.pins (sessionKey m.fromUserId m.fromDeviceId)) (some o.session) } := by
  simp only [noted, h]

lemma Consistent.noted (hs : s.Consistent) : (s.noted keys m).Consistent := by
  rw [noted_of_opened h]
  refine ⟨fun hidle => (hs.valid hidle).draw, hs.once, ?_, ?_⟩
  · rintro ⟨hintr, hrepin⟩
    exact hs.pinned ⟨(Bool.or_eq_false_iff.mp hintr).1, hrepin⟩
  · rintro ⟨hintr, hrepin⟩
    exact hs.frames ⟨(Bool.or_eq_false_iff.mp hintr).1, hrepin⟩

lemma Consistent.saved_noted (hs : s.Consistent) (hidle : s.Idle) :
    ((s.noted keys m).saved (sessionKey m.fromUserId m.fromDeviceId) o.session).Consistent := by
  have hnoted := hs.noted h
  rw [noted_of_opened h] at hnoted ⊢
  refine ⟨?_, hs.once, ?_, hnoted.frames⟩
  · intro _
    rw [ledger]
    simp only [saved]
    rw [positions_update]
    exact valid_openSecret (hs.valid hidle) rfl h
  · rintro ⟨hintr, hrepin⟩
    rcases Bool.or_eq_false_iff.mp hintr with ⟨hpre, hfor⟩
    exact foreign_update_session (hs.pinned ⟨hpre, hrepin⟩) hfor

end Receiving

lemma ensures_dropOneTimePreKey (consumed : Option S.Pair) {a : α} (hs : s.Consistent)
    (hidle : s.Idle) :
    Ensures Consistent (fun _ => Idle) (dropOneTimePreKey consumed (.done a)) s := by
  cases consumed with
  | none => exact hidle
  | some => exact .read hs (.write { hs with } hidle)

lemma ensures_receive (m : Inbound S) (hs : s.Consistent) (hidle : s.Idle) :
    Ensures Consistent (fun _ => Idle) (receive m) s := by
  refine .read hs ?_
  cases hopen : openSecret s.keys (s.sessions (sessionKey m.fromUserId m.fromDeviceId)) m
      s.draws with
  | none =>
    simp only [Ensures, noted, hopen]
    exact ⟨hs, hidle⟩
  | some o =>
    refine ⟨hs.noted hopen, ?_⟩
    simp only [hopen]
    have hsaved := hs.saved_noted hopen hidle
    exact ensures_saveSession (hs.noted hopen) hsaved
      (ensures_dropOneTimePreKey o.consumed hsaved rfl)

lemma ensures_acceptIdentity (userId deviceId : String) (pin : Pin) (hs : s.Consistent)
    (hidle : s.Idle) :
    Ensures Consistent (fun _ => Idle) (acceptIdentity userId deviceId pin) s := by
  refine .read hs (.write ⟨hs.valid, hs.once, ?_, ?_⟩ hidle)
  · rintro ⟨hintr, hrepin⟩
    rcases Bool.or_eq_false_iff.mp hrepin with ⟨hpre, hfor⟩
    exact foreign_update_pin (hs.pinned ⟨hintr, hpre⟩) hfor
  · rintro ⟨hintr, hrepin⟩
    exact hs.frames ⟨hintr, (Bool.or_eq_false_iff.mp hrepin).1⟩

lemma ensures_task (call : AndroidCall S) (s : Android S) (hs : s.Consistent)
    (hidle : s.Idle) : Ensures Consistent (fun _ => Idle) call.task s := by
  cases call with
  | send => exact (ensures_send _ _ _ hs hidle).bind fun _ _ => id
  | receive m => exact (ensures_receive m hs hidle).bind fun _ _ => id
  | accept => exact ensures_acceptIdentity _ _ _ hs hidle

/-- What holds after every schedule in which calls do not overlap and the process does not die
with a session unsaved. -/
theorem consistent_run {events : List (Event (AndroidCall S))}
    (h : Serial keys events) : (run keys events).Consistent :=
  serial_final ensures_task (fun _ hs hidle => ⟨hs, hidle⟩) (consistent_new keys) rfl h

end Android
end SyncApp.SecretChats
