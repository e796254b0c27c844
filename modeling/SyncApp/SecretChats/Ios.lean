import Mathlib.Data.List.AList
import SyncApp.Foundations.JoinedKey
import SyncApp.SecretChats.Model

/-!
# Secret chats on iOS

`SecretChatService`, an actor: a call gives way wherever it waits.  A session in memory is a shared
object; `deserialize` makes a new one of the row on disk.  A session is written before its message
is sent, and pins at the end.  Accounts have neither separator of joined names.

Main results:

- `Ios.consistent_run`: what holds after calls that do not overlap, wherever the process stops.
-/

namespace SyncApp.SecretChats

open Foundations Foundations.Interleaving List
open Function (update update_of_ne update_self)
open Pin (foreign foreign_eq_false)

/-- The identifier of an account. -/
structure UserID extends KeyPart where
  noColon : ':' ∉ text.toList
deriving DecidableEq

structure Peer where
  user : UserID
  device : String
deriving DecidableEq

lemma Peer.eq_of_parts {p q : Peer} (huser : p.user.text = q.user.text)
    (hdev : p.device = q.device) : p = q := by
  rcases p with ⟨⟨⟨_, _⟩, _⟩, _⟩
  rcases q with ⟨⟨⟨_, _⟩, _⟩, _⟩
  cases huser
  cases hdev
  rfl

/-- `sessionKey` of the service. -/
def Peer.key (p : Peer) : String := joinKey p.user.text p.device

/-- `key` of the pin store. -/
def Peer.pinKey (p : Peer) : String := sessionKey p.user.text p.device

lemma Peer.key_injective : Function.Injective Peer.key := by
  intro p q h
  rcases joinKey_inj.mp h with ⟨huser, hdev⟩
  exact Peer.eq_of_parts (congrArg KeyPart.text huser) hdev

lemma Peer.pinKey_injective : Function.Injective Peer.pinKey := by
  intro p q h
  have hlist := congrArg String.toList h
  simp only [Peer.pinKey, sessionKey, String.toList_append, append_assoc] at hlist
  rcases append_cons_inj p.user.noColon q.user.noColon hlist with ⟨huser, hdev⟩
  exact Peer.eq_of_parts (String.toList_inj.mp huser) (String.toList_inj.mp hdev)

variable (S : Suite)

/-- The service, its rows and its keychain, the messages it sealed and those that left.  The last
two fields are as on the web. -/
structure Ios where
  deviceID : String
  /-- `sessions`: the object in memory for each device. -/
  live : String → Option Nat
  heap : Nat → Option (Agreed S)
  refs : Nat
  pendingBootstrap : String → Option String
  trust : Option (String → Option Pin)
  disk : AList fun _ : Peer => Agreed S
  keychain : String → Option Pin
  keys : Prekeys S
  draws : Nat
  sealed : List (Frame S)
  frames : List (Frame S)
  intruded : Bool
  repinned : Bool

variable {S}

namespace Ios

def new (deviceID : String) (keys : Prekeys S) : Ios S where
  deviceID := deviceID
  live := fun _ => none
  heap := fun _ => none
  refs := 0
  pendingBootstrap := fun _ => none
  trust := none
  disk := ∅
  keychain := fun _ => none
  keys := keys
  draws := 0
  sealed := []
  frames := []
  intruded := false
  repinned := false

variable (s : Ios S)

/-- The pins as `trustStore` finds them. -/
def pins : String → Option Pin := s.trust.getD s.keychain

/-- `trustStore`. -/
def loadTrust : Ios S := { s with trust := some s.pins }

def persistTrust : Ios S := { s with keychain := s.pins }

variable (peer : Peer)

/-- `forgetSecretSession`. -/
def forget : Ios S := { s with disk := s.disk.erase peer }

/-- Drop a session from memory. -/
def unload : Ios S :=
  { s with live := update s.live peer.key none }

/-- An object is the session in memory for a device. -/
def adopt (r : Nat) (σ : Agreed S) : Ios S :=
  { s with
    heap := update s.heap r (some σ)
    live := update s.live peer.key (some r) }

/-- `saveSecretSession`. -/
def saveSession (σ : Agreed S) : Ios S :=
  { s with disk := s.disk.insert peer σ }

/-- `session(for:)`, from disk on: the row, or a new session. -/
def loadSession (b : Bundle) : Option Nat × Ios S :=
  match s.disk.lookup peer with
  | some σ => (some s.refs, { s with refs := s.refs + 1 }.adopt peer s.refs σ)
  | none =>
    match startSession S b (some (b.oneTimeKey S)) s.draws with
    | .session σ ephemeral =>
      (some s.refs,
        { s with
          refs := s.refs + 1
          draws := s.draws + 1
          pendingBootstrap :=
            update s.pendingBootstrap peer.key (some ephemeral) }.adopt
          peer s.refs σ)
    | .malformed => (none, s)
    | .refused => (none, s)

/-- `session(for:)`. -/
def session (b : Bundle) : Task (Ios S) (Option Nat) :=
  .read fun s =>
    match s.live peer.key with
    | some r => .done (some r)
    | none => .act (fun s => (s.loadSession peer b).2) fun s => .done (s.loadSession peer b).1

/-- Seal a message with an object. -/
def sealOn (text : String) (r : Nat) : Option (Frame S × Agreed S) :=
  match s.heap r with
  | none => none
  | some σ => sealWith peer.key text (s.pins peer.pinKey) (s.pendingBootstrap peer.key) σ

/-- The object after it has sealed a message. -/
def encrypt (text : String) (b : Bundle) (r : Nat) : Ios S :=
  match s.sealOn peer text r with
  | none => s
  | some (frame, σ) =>
    { s with
      heap := update s.heap r (some σ)
      sealed := s.sealed ++ [frame]
      repinned := s.repinned ||
        decide (s.pins peer.pinKey = none) && foreign (some b.pin) (some σ) }

/-- Pin the keys of a bundle on first use, and send the message. -/
def transmit (b : Bundle) (frame : Frame S) : Ios S :=
  { s with
    trust :=
      if verify S s.pins peer.pinKey b.pin = .firstUse then
        some (update s.pins peer.pinKey (some b.pin))
      else s.trust
    frames := s.frames ++ [frame] }

variable (user : UserID)

/-- One bundle of a message: whether it was the first use of its keys.  An error only counts as a
failure for this device. -/
def sendOne (text : String) (b : Bundle) : Task (Ios S) Bool :=
  let peer : Peer := ⟨user, b.deviceId⟩
  (session peer b).bind fun
    | none => .done false
    | some r =>
      .act (fun s => s.encrypt peer text b r) fun s =>
        match s.sealOn peer text r with
        | none => .done false
        | some (frame, σ) =>
          .write (fun s => s.saveSession peer σ) <|
            .act (fun s => s.transmit peer b frame) fun s =>
              .done (decide (verify S s.pins peer.pinKey b.pin = .firstUse))

/-- The loop over the bundles; this device is skipped. -/
def sendLoop (own : String) (user : UserID) (text : String) :
    List Bundle → Bool → Task (Ios S) SendEnd
  | [], pinned => if pinned then .write persistTrust (.done .sent) else .done .sent
  | b :: rest, pinned =>
    if b.deviceId = own then sendLoop own user text rest pinned
    else
      (sendOne user text b).bind fun first =>
        sendLoop own user text rest (pinned || first)

/-- Forget the sessions with devices that have disappeared. -/
def forgetAll {α : Type} : List Peer → Task (Ios S) α → Task (Ios S) α
  | [], next => next
  | peer :: rest, next =>
    .write (fun s => s.forget peer) <| .write (fun s => s.unload peer) <| forgetAll rest next

/-- Every device's bundle is compared with its pin. -/
def passes (bundles : List Bundle) : Bool :=
  bundles.all fun b =>
    decide (b.deviceId = s.deviceID) ||
      decide (verify S s.pins (Peer.pinKey ⟨user, b.deviceId⟩) b.pin ≠ .changed)

def send (text : String) (bundles : List Bundle) : Task (Ios S) SendEnd :=
  .read fun _ =>
    if bundles.isEmpty then .done .noDevices
    else
      .read fun s =>
        let stale := s.disk.keys.filter fun peer =>
          peer.user = user ∧ peer.device ∉ bundles.map Bundle.deviceId
        forgetAll stale <|
          .act loadTrust fun s =>
            if s.passes user bundles then sendLoop s.deviceID user text bundles false
            else .done .identityChanged

/-- `restoredSession`: a new object of the row, which memory does not know. -/
def restore : Ios S :=
  { s with heap := update s.heap s.refs (s.disk.lookup peer), refs := s.refs + 1 }

variable (m : Inbound S) (existing : Option Nat)

/-- Whether an object opens a message. -/
def opensExisting : Bool :=
  match m.header, m.ciphertext with
  | some header, some ciphertext =>
    ((existing.bind s.heap).bind fun σ => openExisting σ header ciphertext s.draws).isSome
  | _, _ => false

/-- `inboundSession`: the object is advanced in place, or a responder's session takes its
place in memory. -/
def inbound : Ios S :=
  match openSecret s.keys (existing.bind s.heap) m s.draws with
  | none => s
  | some o =>
    { s with
      refs := s.refs + 1
      draws := s.draws + 1
      pendingBootstrap := update s.pendingBootstrap peer.key none
      intruded := s.intruded || foreign (s.pins peer.pinKey) (some o.session) }.adopt peer
      (if s.opensExisting m existing then existing.getD s.refs else s.refs) o.session

/-- `receive`, once it has an object or none. -/
def receiveWith : Task (Ios S) (Option String) :=
  .act (fun s => s.inbound peer m existing) fun s =>
    match openSecret s.keys (existing.bind s.heap) m s.draws with
    | none => .done none
    | some o =>
      .write (fun s => s.saveSession peer o.session) <|
        .write (fun s => { s with keys := s.keys.drop o.consumed }) (.done (some o.plaintext))

def receive : Task (Ios S) (Option String) :=
  .read fun s =>
    match s.live peer.key with
    | some r => receiveWith peer m (some r)
    | none => .act (fun s => s.restore peer) fun s => receiveWith peer m (some s.refs)

def pin (s : Ios S) (peer : Peer) (pin : Pin) : Ios S :=
  let trust := update s.pins peer.pinKey (some pin)
  { s with
    trust := some trust
    keychain := trust
    repinned := s.repinned || foreign (some pin) (s.disk.lookup peer) }

/-- `acceptIdentity`: accepting a changed key drops the session. -/
def acceptIdentity (pin : Pin) : Task (Ios S) Unit :=
  .act loadTrust fun s =>
    if verify S s.pins peer.pinKey pin = .changed then
      .write (fun s => s.forget peer) <|
        .write
          (fun s =>
            { s.unload peer with
              pendingBootstrap := update s.pendingBootstrap peer.key none }.pin peer pin)
          (.done ())
    else .write (fun s => s.pin peer pin) (.done ())

/-- The process starts again from what it had stored. -/
def restart : Ios S :=
  { s with
    live := fun _ => none
    heap := fun _ => none
    pendingBootstrap := fun _ => none
    trust := none }

end Ios

/-- What the service is asked to do. -/
inductive IosCall (S : Suite) where
  | send (user : UserID) (text : String) (bundles : List Bundle)
  | receive (peer : Peer) (m : Inbound S)
  | accept (peer : Peer) (pin : Pin)

/-- The calls, as they wait. -/
def IosCall.task : IosCall S → Task (Ios S) Unit
  | .send user text bundles => (Ios.send user text bundles).bind fun _ => .done ()
  | .receive peer m => (Ios.receive peer m).bind fun _ => .done ()
  | .accept peer pin => Ios.acceptIdentity peer pin

namespace Ios

variable (deviceID : String) (keys : Prekeys S)

/-- The service after a schedule. -/
def run (events : List (Event (IosCall S))) : Ios S :=
  (Pool.after IosCall.task restart ⟨new deviceID keys, []⟩ events).state

/-- Calls do not overlap; the process may die anywhere. -/
def Serial (deviceID : String) (keys : Prekeys S) (events : List (Event (IosCall S))) : Prop :=
  Machine.Guarded (Pool.step IosCall.task restart) (Pool.Serial fun _ => True)
    ⟨new deviceID keys, []⟩ events
deriving Decidable

/-- No message and no pin brought in an identity other than the pinned one. -/
def Clean (s : Ios S) : Prop := s.intruded = false ∧ s.repinned = false
deriving Decidable

def rows (s : Ios S) (peer : Peer) : Option (Agreed S) := s.disk.lookup peer

/-- The positions of the rows, and those that left the device. -/
def ledger (s : Ios S) : Ledger Peer := ⟨s.draws, positions s.rows, s.frames.map Frame.position⟩

/-- What holds at any time, and survives the end of the process. -/
structure Consistent (s : Ios S) : Prop where
  valid : s.ledger.Valid
  kept : ∀ key p, s.keychain key = some p → s.pins key = some p
  pinned : s.Clean → ∀ peer : Peer, foreign (s.pins peer.pinKey) (s.rows peer) = false
  agreed : s.Clean → ∀ f ∈ s.sealed, ∀ p, f.pin = some p → S.decode p.identityKey = some f.peer

/-- The sessions in memory are those on disk, but for one device at most, and no two devices share
an object. -/
structure Synced (s : Ios S) (but : Option Peer) : Prop where
  same : ∀ (peer : Peer) r, some peer ≠ but → s.live peer.key = some r →
    ∃ σ, s.heap r = some σ ∧ s.rows peer = some σ
  apart : ∀ (peer peer' : Peer) r, s.live peer.key = some r → s.live peer'.key = some r →
    peer = peer'
  old : ∀ (peer : Peer) r, s.live peer.key = some r → r < s.refs

variable {s : Ios S} {peer : Peer}

lemma consistent_new : (new deviceID keys).Consistent where
  valid := Ledger.valid_empty
  kept _ _ h := nomatch h
  pinned _ _ := rfl
  agreed _ := by simp [new]

lemma synced_of_unloaded (h : ∀ key, s.live key = none) (but : Option Peer) : s.Synced but where
  same peer r _ hr := by simp [h] at hr
  apart peer _ r hr := by simp [h] at hr
  old peer r hr := by simp [h] at hr

lemma Synced.of_none (h : s.Synced none) (but : Option Peer) : s.Synced but :=
  ⟨fun peer r _ => h.same peer r (by simp), h.apart, h.old⟩

lemma rows_saveSession (s : Ios S) (peer : Peer) (σ : Agreed S) :
    (s.saveSession peer σ).rows = update s.rows peer (some σ) := by
  funext peer'
  unfold rows saveSession
  rcases eq_or_ne peer' peer with rfl | hne
  · rw [update_self, AList.lookup_insert]
  · rw [update_of_ne hne, AList.lookup_insert_ne hne]

lemma rows_forget (s : Ios S) (peer : Peer) : (s.forget peer).rows = update s.rows peer none := by
  funext peer'
  unfold rows forget
  rcases eq_or_ne peer' peer with rfl | hne
  · rw [update_self, AList.lookup_erase]
  · rw [update_of_ne hne, AList.lookup_erase_ne hne]

variable {live : String → Option Nat} {but : Option Peer} {t : Ios S} {r : Nat} {σ : Agreed S}
  {b : Bundle}

/-- Sessions that were made but are in nobody's memory do not count. -/
lemma Synced.grown (h : s.Synced but) (hlive : t.live = s.live) (hheap : t.heap = s.heap)
    (hrows : t.rows = s.rows) (hrefs : s.refs ≤ t.refs) : t.Synced but := by
  refine ⟨?_, ?_, ?_⟩
  · rw [hlive, hheap, hrows]
    exact h.same
  · rw [hlive]
    exact h.apart
  · intro q r hq
    rw [hlive] at hq
    exact (h.old q r hq).trans_le hrefs

/-- An object that no other device has becomes the session of a device. -/
lemma Synced.adopt (h : s.Synced but) (hbut : ∀ q, but = some q → q = peer) (hr : r < s.refs)
    (hother : ∀ q, q ≠ peer → s.live q.key ≠ some r) (σ : Agreed S) :
    (s.adopt peer r σ).Synced (some peer) := by
  have hlive : ∀ q r', (s.adopt peer r σ).live q.key = some r' →
      q = peer ∧ r' = r ∨ q ≠ peer ∧ r' ≠ r ∧ s.live q.key = some r' := by
    intro q r' hq
    rcases update_cases hq with ⟨hkey, hr'⟩ | ⟨hkey, hold⟩
    · exact .inl ⟨Peer.key_injective hkey, (Option.some.inj hr').symm⟩
    · have hne : q ≠ peer := fun heq => hkey (congrArg Peer.key heq)
      exact .inr ⟨hne, fun heq => hother q hne (heq ▸ hold), hold⟩
  refine ⟨?_, ?_, ?_⟩
  · intro q r' hnot hq
    rcases hlive q r' hq with ⟨rfl, -⟩ | ⟨hne, hne', hold⟩
    · exact absurd rfl hnot
    · rcases h.same q r' (fun heq => hne (hbut q heq.symm)) hold with ⟨τ, hheap, hrow⟩
      exact ⟨τ, (update_of_ne hne' ..).trans hheap, hrow⟩
  · intro q q' r' hq hq'
    rcases hlive q r' hq with ⟨rfl, rfl⟩ | ⟨-, hne, hold⟩
    · rcases hlive q' r' hq' with ⟨rfl, -⟩ | ⟨-, hne, -⟩
      · rfl
      · exact absurd rfl hne
    · rcases hlive q' r' hq' with ⟨-, heq⟩ | ⟨-, -, hold'⟩
      · exact absurd heq hne
      · exact h.apart q q' r' hold hold'
  · intro q r' hq
    rcases hlive q r' hq with ⟨-, rfl⟩ | ⟨-, -, hold⟩
    · exact hr
    · exact h.old q r' hold

lemma Synced.unload (h : s.Synced but) (hbut : ∀ q, but = some q → q = peer) :
    (s.unload peer).Synced none := by
  have hlive : ∀ q r, (s.unload peer).live q.key = some r → q ≠ peer ∧ s.live q.key = some r := by
    intro q r hq
    rcases update_cases hq with ⟨-, hr⟩ | ⟨hkey, hold⟩
    · cases hr
    · exact ⟨fun heq => hkey (congrArg Peer.key heq), hold⟩
  refine ⟨?_, ?_, ?_⟩
  · intro q r _ hq
    rcases hlive q r hq with ⟨hne, hold⟩
    exact h.same q r (fun heq => hne (hbut q heq.symm)) hold
  · intro q q' r hq hq'
    exact h.apart q q' r (hlive q r hq).2 (hlive q' r hq').2
  · intro q r hq
    exact h.old q r (hlive q r hq).2

lemma Synced.forget (h : s.Synced none) (peer : Peer) : (s.forget peer).Synced (some peer) := by
  refine ⟨?_, h.apart, h.old⟩
  intro q r hne hq
  rcases h.same q r (by simp) hq with ⟨σ, hheap, hrow⟩
  refine ⟨σ, hheap, ?_⟩
  rw [rows_forget, update_of_ne fun heq => hne (congrArg some heq)]
  exact hrow

lemma Synced.saveSession (h : s.Synced (some peer))
    (hlive : ∀ r, s.live peer.key = some r → s.heap r = some σ) :
    (s.saveSession peer σ).Synced none := by
  refine ⟨?_, h.apart, h.old⟩
  intro q r _ hq
  rw [rows_saveSession]
  rcases eq_or_ne q peer with rfl | hne
  · rw [update_self]
    exact ⟨σ, hlive r hq, rfl⟩
  · rw [update_of_ne hne]
    exact h.same q r (fun heq => hne (Option.some.inj heq)) hq

lemma Consistent.forget (h : s.Consistent) (peer : Peer) : (s.forget peer).Consistent := by
  refine ⟨?_, h.kept, ?_, h.agreed⟩
  · rw [ledger, rows_forget, positions_update]
    exact h.valid.place fun c n hplace => nomatch hplace
  · intro hclean
    rw [rows_forget]
    refine foreign_update_session (h.pinned hclean) ?_
    rw [foreign_eq_false]
    intro p τ _ hτ
    cases hτ

lemma Consistent.loadTrust (h : s.Consistent) : s.loadTrust.Consistent :=
  { h with }

lemma Consistent.persistTrust (h : s.Consistent) : s.persistTrust.Consistent := by
  have hpins : s.persistTrust.pins = s.pins := by
    unfold Ios.persistTrust Ios.pins
    cases s.trust with
    | none | some => rfl
  refine ⟨h.valid, fun key p hp => ?_, ?_, h.agreed⟩
  · rw [hpins]
    exact hp
  · rw [hpins]
    exact h.pinned

lemma Consistent.saveSession (h : s.Consistent) (hheld : σ.Held s.ledger peer)
    (hagrees : s.Clean → foreign (s.pins peer.pinKey) (some σ) = false) :
    (s.saveSession peer σ).Consistent := by
  refine ⟨?_, h.kept, ?_, h.agreed⟩
  · rw [ledger, rows_saveSession, positions_update]
    exact h.valid.place hheld
  · intro hclean
    rw [rows_saveSession]
    exact foreign_update_session (h.pinned hclean) (hagrees hclean)

/-! ### Sealing -/

/-- A session is in memory, may be sealed with, and agrees with the pin; if it is not on disk yet,
it can seal. -/
structure Ready (s : Ios S) (peer : Peer) (r : Nat) (σ : Agreed S) : Prop where
  live : s.live peer.key = some r
  heap : s.heap r = some σ
  held : σ.Held s.ledger peer
  agrees : s.Clean → ∀ p, s.pins peer.pinKey = some p → S.decode p.identityKey = some σ.peer
  others : s.Synced (some peer)
  row : s.rows peer = some σ ∨ σ.position ≠ none

lemma agrees_of_row (h : s.Consistent) (hrow : s.rows peer = some σ) (hclean : s.Clean) (p : Pin)
    (hp : s.pins peer.pinKey = some p) : S.decode p.identityKey = some σ.peer := by
  have hpinned := h.pinned hclean peer
  rw [hrow] at hpinned
  exact foreign_eq_false.mp hpinned p σ hp rfl

lemma held_of_row (h : s.Consistent) (hrow : s.rows peer = some σ) : σ.Held s.ledger peer := by
  refine held_of_current h.valid ?_
  simp [ledger, positions, hrow]

lemma Synced.ready (h : s.Synced none) (hs : s.Consistent) (hlive : s.live peer.key = some r) :
    ∃ σ, s.Ready peer r σ := by
  rcases h.same peer r (by simp) hlive with ⟨σ, hheap, hrow⟩
  exact ⟨σ, hlive, hheap, held_of_row hs hrow, agrees_of_row hs hrow, h.of_none _, .inl hrow⟩

/-- What a call to `session(for:)` leaves. -/
structure Loads (s t : Ios S) : Prop where
  consistent : t.Consistent
  pins : t.pins = s.pins
  grows : ∀ key, (s.live key).isSome = true → (t.live key).isSome = true

lemma isSome_update (key key' : String) (r : Nat) (h : (live key').isSome = true) :
    (update live key (some r) key').isSome = true := by
  rcases eq_or_ne key' key with rfl | hne
  · rw [update_self]
    rfl
  · rw [update_of_ne hne]
    exact h

lemma Synced.refs_unused (h : s.Synced none) (q : Peer) : s.live q.key ≠ some s.refs :=
  fun heq => lt_irrefl _ (h.old q s.refs heq)

lemma loadSession_ready (hs : s.Consistent) (hsync : s.Synced none)
    (hpass : verify S s.pins peer.pinKey b.pin ≠ .changed) :
    s.Loads (s.loadSession peer b).2 ∧
      match (s.loadSession peer b).1 with
      | none => (s.loadSession peer b).2 = s
      | some r => ∃ σ, (s.loadSession peer b).2.Ready peer r σ := by
  unfold loadSession
  split
  · next σ hrow =>
    refine ⟨⟨{ hs with }, rfl, fun key => isSome_update _ key _⟩,
      σ, ?_⟩
    have hheld := held_of_row hs hrow
    have hagrees := agrees_of_row hs hrow
    refine ⟨update_self .., update_self .., hheld, hagrees, ?_, .inl hrow⟩
    apply Synced.adopt
    · exact hsync.grown rfl rfl rfl (Nat.le_succ _)
    · simp
    · exact Nat.lt_succ_self _
    · exact fun q _ => hsync.refs_unused q
  · next hrow =>
    split
    · next σ ephemeral hstart =>
      rcases startSession_eq_session hstart with ⟨hpeer, hpos⟩
      refine ⟨⟨⟨hs.valid.draw, hs.kept, hs.pinned, hs.agreed⟩, rfl,
        fun key => isSome_update _ key _⟩, σ, ?_⟩
      refine ⟨update_self .., update_self ..,
        held_of_new hs.valid peer hpos, ?_, ?_, .inr (by simp [hpos])⟩
      · intro hclean p hp
        exact agrees_of_passed hp hpass (hs.pinned hclean peer) (.inr hpeer)
      · apply Synced.adopt
        · exact hsync.grown rfl rfl rfl (Nat.le_succ _)
        · simp
        · exact Nat.lt_succ_self _
        · exact fun q _ => hsync.refs_unused q
    · exact ⟨⟨hs, rfl, fun _ => id⟩, rfl⟩
    · exact ⟨⟨hs, rfl, fun _ => id⟩, rfl⟩

lemma ensures_session (hs : s.Consistent) (hsync : s.Synced none)
    (hpass : verify S s.pins peer.pinKey b.pin ≠ .changed ∨ (s.live peer.key).isSome = true) :
    Ensures Consistent
      (fun r t => s.Loads t ∧
        match r with
        | none => t = s
        | some r => ∃ σ, t.Ready peer r σ)
      (session peer b) s := by
  refine .read hs ?_
  cases hlive : s.live peer.key with
  | some => exact ⟨⟨hs, rfl, fun _ => id⟩, hsync.ready hs hlive⟩
  | none =>
    have hpass : verify S s.pins peer.pinKey b.pin ≠ .changed := by
      rcases hpass with hpass | hsome
      · exact hpass
      · rw [hlive] at hsome
        cases hsome
    have hload := loadSession_ready hs hsync hpass
    exact ⟨hload.1.consistent, hload⟩

/-- What a message to one device leaves: memory and disk agree, and pins changed only for a device
whose session is in memory. -/
structure Sends (s t : Ios S) : Prop where
  consistent : t.Consistent
  synced : t.Synced none
  pins : ∀ q : Peer, t.pins q.pinKey = s.pins q.pinKey ∨ (t.live q.key).isSome = true
  grows : ∀ key, (s.live key).isSome = true → (t.live key).isSome = true

section Sealing

variable {r : Nat} {σ σ' : Agreed S} {text : String} {b : Bundle} {frame : Frame S}

/-- A session that cannot seal is on disk. -/
lemma Ready.synced_of_failed (h : s.Ready peer r σ) (hseal : s.sealOn peer text r = none) :
    s.Synced none := by
  have hrow : s.rows peer = some σ := by
    refine h.row.resolve_right ?_
    intro hpos
    have hsome := S.encrypt_isSome text hpos
    simp only [Ios.sealOn, h.heap, sealWith] at hseal
    split at hseal
    · next hnone =>
      rw [hnone] at hsome
      cases hsome
    · cases hseal
  refine ⟨?_, h.others.apart, h.others.old⟩
  intro q r' _ hq
  rcases eq_or_ne q peer with rfl | hne
  · cases h.live.symm.trans hq
    exact ⟨σ, h.heap, hrow⟩
  · exact h.others.same q r' (fun heq => hne (Option.some.inj heq)) hq

lemma pins_transmit (s : Ios S) (peer : Peer) (b : Bundle) (frame : Frame S) :
    (s.transmit peer b frame).pins =
      if s.pins peer.pinKey = none then update s.pins peer.pinKey (some b.pin)
      else s.pins := by
  unfold transmit
  simp only [verify_firstUse]
  split
  · rfl
  · rfl

variable (hseal : s.sealOn peer text r = some (frame, σ'))
include hseal

lemma encrypt_of_sealOn : s.encrypt peer text b r =
      { s with
        heap := update s.heap r (some σ')
        sealed := s.sealed ++ [frame]
        repinned := s.repinned ||
          decide (s.pins peer.pinKey = none) && foreign (some b.pin) (some σ') } := by
  simp only [encrypt, hseal]

lemma clean_encrypt (hclean : (s.encrypt peer text b r).Clean) : s.Clean := by
  rw [encrypt_of_sealOn hseal] at hclean
  exact ⟨hclean.1, (Bool.or_eq_false_iff.mp hclean.2).1⟩

variable (h : s.Ready peer r σ)
include h

lemma Ready.sealOn : frame.peer = σ.peer ∧ frame.pin = s.pins peer.pinKey ∧ σ'.peer = σ.peer ∧
      σ.position = some frame.position ∧
      σ'.position = some (frame.position.1, frame.position.2 + 1) := by
  simp only [Ios.sealOn, h.heap] at hseal
  exact (sealWith_eq_some hseal).2

lemma Ready.encrypt (hs : s.Consistent) : (s.encrypt peer text b r).Consistent := by
  rcases h.sealOn hseal with ⟨hpeer, hpin, -, -, -⟩
  have hpre := clean_encrypt (b := b) hseal
  rw [encrypt_of_sealOn hseal] at hpre ⊢
  refine ⟨hs.valid, hs.kept, fun hclean => hs.pinned (hpre hclean), ?_⟩
  intro hclean f hf p hp
  rcases mem_append.mp hf with hold | hnew
  · exact hs.agreed (hpre hclean) f hold p hp
  rw [mem_singleton.mp hnew] at hp ⊢
  rw [hpeer]
  exact h.agrees (hpre hclean) p (hpin ▸ hp)

lemma Ready.synced_encrypt : (s.encrypt peer text b r).Synced (some peer) := by
  rw [encrypt_of_sealOn hseal]
  refine ⟨?_, h.others.apart, h.others.old⟩
  intro q r' hne hq
  rcases h.others.same q r' hne hq with ⟨τ, hheap, hrow⟩
  have hne' : r' ≠ r := by
    rintro rfl
    exact hne (congrArg some (h.others.apart q peer r' hq h.live))
  exact ⟨τ, (update_of_ne hne' ..).trans hheap, hrow⟩

lemma Ready.saveSession (hs : s.Consistent) :
    ((s.encrypt peer text b r).saveSession peer σ').Consistent ∧
      ((s.encrypt peer text b r).saveSession peer σ').Synced none := by
  rcases h.sealOn hseal with ⟨-, -, hpeer', hpos, hpos'⟩
  have hcons := h.encrypt (b := b) hseal hs
  have hsync := h.synced_encrypt (b := b) hseal
  have hpre := clean_encrypt (b := b) hseal
  rw [encrypt_of_sealOn hseal] at hcons hsync hpre ⊢
  constructor
  · refine hcons.saveSession ?_ ?_
    · intro c n hplace
      rw [hpos'] at hplace
      cases hplace
      exact (h.held _ _ hpos).mono (Nat.le_succ _)
    · intro hclean
      rw [foreign_eq_false]
      intro p τ hp hτ
      cases hτ
      rw [hpeer']
      exact h.agrees (hpre hclean) p hp
  · refine hsync.saveSession ?_
    intro r' hr'
    cases h.live.symm.trans hr'
    exact update_self ..

/-- The message leaves only after its position has been passed on disk. -/
lemma Ready.transmit (hs : s.Consistent) :
    s.Sends (((s.encrypt peer text b r).saveSession peer σ').transmit peer b frame) := by
  rcases h.sealOn hseal with ⟨-, -, -, hpos, hpos'⟩
  rcases h.saveSession (b := b) hseal hs with ⟨hsaved, hsync⟩
  have hval := hsaved.valid
  rw [encrypt_of_sealOn hseal] at hsaved hsync hval ⊢
  simp only [ledger, rows_saveSession, positions_update, Option.bind_some, hpos'] at hval
  refine ⟨⟨?_, ?_, ?_, hsaved.agreed⟩, { hsync with }, ?_, fun _ => id⟩
  · have hused := hval.use_behind (h.held _ _ hpos)
    simp only [ledger, Ios.transmit, map_append, map_cons, map_nil]
    change Ledger.Valid ⟨s.draws, positions (Ios.rows (Ios.saveSession _ peer σ')), _⟩
    rw [rows_saveSession, positions_update, Option.bind_some, hpos']
    exact hused
  · intro key p hp
    have hkept := hsaved.kept key p hp
    rw [pins_transmit]
    split
    · next hnone =>
      refine (update_of_ne ?_ ..).trans hkept
      rintro rfl
      cases hnone.symm.trans hkept
    · exact hkept
  · intro hclean q
    rw [pins_transmit]
    split
    · next hnone =>
      have hflag := (Bool.or_eq_false_iff.mp hclean.2).2
      rw [decide_eq_true (p := s.pins peer.pinKey = none) hnone, Bool.true_and] at hflag
      rw [Function.update_apply_of_injective _ Peer.pinKey_injective]
      refine foreign_update_pin (hsaved.pinned hclean) ?_ q
      rw [rows_saveSession, update_self]
      exact hflag
    · exact hsaved.pinned hclean q
  · intro q
    rw [pins_transmit]
    split
    · rcases eq_or_ne q peer with rfl | hne
      · right
        exact Option.isSome_iff_exists.mpr ⟨r, h.live⟩
      · left
        exact update_of_ne (Peer.pinKey_injective.ne hne) ..
    · exact .inl rfl

end Sealing

lemma Sends.refl (hs : s.Consistent) (hsync : s.Synced none) : s.Sends s :=
  ⟨hs, hsync, fun _ => .inl rfl, fun _ => id⟩

lemma Loads.sends {u : Ios S} (h : s.Loads t) (hu : t.Sends u) : s.Sends u where
  consistent := hu.consistent
  synced := hu.synced
  pins q := by
    rw [← h.pins]
    exact hu.pins q
  grows key hkey := hu.grows key (h.grows key hkey)

lemma ensures_sendOne (hs : s.Consistent) (hsync : s.Synced none) (user : UserID)
    (text : String) (b : Bundle)
    (hpass : verify S s.pins (Peer.pinKey ⟨user, b.deviceId⟩) b.pin ≠ .changed ∨
      (s.live (Peer.key ⟨user, b.deviceId⟩)).isSome = true) :
    Ensures Consistent (fun _ t => s.Sends t) (sendOne user text b) s := by
  refine (ensures_session hs hsync hpass).bind ?_
  rintro (_ | r) t ⟨hload, hr⟩
  · cases hr
    exact Sends.refl hs hsync
  · rcases hr with ⟨σ, hready⟩
    cases hseal : t.sealOn ⟨user, b.deviceId⟩ text r with
    | none =>
      have hsame : t.encrypt ⟨user, b.deviceId⟩ text b r = t := by
        simp only [encrypt, hseal]
      simp only [Ensures, hseal, hsame]
      exact ⟨hload.consistent, hload.sends (.refl hload.consistent (hready.synced_of_failed hseal))⟩
    | some =>
      simp only [Ensures, hseal]
      have hsent := hready.transmit (b := b) hseal hload.consistent
      exact ⟨hready.encrypt hseal hload.consistent,
        (hready.saveSession hseal hload.consistent).1, hsent.consistent, hload.sends hsent⟩

/-- Every device that is written to has passed, or has a session in memory. -/
def Passes (s : Ios S) (own : String) (user : UserID) (bundles : List Bundle) : Prop :=
  ∀ b ∈ bundles, b.deviceId ≠ own →
    verify S s.pins (Peer.pinKey ⟨user, b.deviceId⟩) b.pin ≠ .changed ∨
      (s.live (Peer.key ⟨user, b.deviceId⟩)).isSome = true

variable {own : String} {user : UserID} {bundles : List Bundle}

lemma Passes.sends (h : s.Passes own user bundles) (hsends : s.Sends t) :
    t.Passes own user bundles := by
  intro b hb hother
  rcases hsends.pins ⟨user, b.deviceId⟩ with hpins | hlive
  · rcases h b hb hother with hpass | hlive
    · left
      rwa [verify, hpins]
    · exact .inr (hsends.grows _ hlive)
  · exact .inr hlive

lemma passes_of_eq_true (h : s.passes user bundles = true) :
    s.Passes s.deviceID user bundles := by
  intro b hb hother
  have hall := all_eq_true.mp h b hb
  rw [Bool.or_eq_true, decide_eq_true_eq, decide_eq_true_eq] at hall
  exact .inl (hall.resolve_left hother)

lemma ensures_sendLoop (own : String) (user : UserID) (text : String) (bundles : List Bundle)
    (pinned : Bool) (hs : s.Consistent) (hsync : s.Synced none)
    (hpasses : s.Passes own user bundles) :
    Ensures Consistent (fun _ t => t.Synced none) (sendLoop own user text bundles pinned) s := by
  induction bundles generalizing s pinned with
  | nil =>
    unfold sendLoop
    split
    · exact .write hs.persistTrust { hsync with }
    · exact hsync
  | cons b rest ih =>
    have hrest : s.Passes own user rest := fun b' hb' => hpasses b' (mem_cons_of_mem b hb')
    unfold sendLoop
    split
    · exact ih pinned hs hsync hrest
    · next hother =>
      refine (ensures_sendOne hs hsync user text b
        (hpasses b (mem_cons_self ..) hother)).bind ?_
      intro first t hsends
      exact ih _ hsends.consistent hsends.synced (hrest.sends hsends)

lemma ensures_forgetAll {α : Type} {post : α → Ios S → Prop} {next : Task (Ios S) α}
    (hnext : ∀ t : Ios S, t.Consistent → t.Synced none → Ensures Consistent post next t)
    (peers : List Peer) (hs : s.Consistent) (hsync : s.Synced none) :
    Ensures Consistent post (forgetAll peers next) s := by
  induction peers generalizing s with
  | nil => exact hnext s hs hsync
  | cons peer rest ih =>
    have hforgot := hs.forget peer
    have hunloaded : ((s.forget peer).unload peer).Consistent :=
      { hforgot with }
    refine .write hforgot (.write hunloaded (ih hunloaded ?_))
    exact (hsync.forget peer).unload fun q hq => (Option.some.inj hq).symm

section

variable (hs : s.Consistent) (hsync : s.Synced none)
include hs hsync

lemma ensures_send (user : UserID) (text : String) (bundles : List Bundle) :
    Ensures Consistent (fun _ t => t.Synced none) (send user text bundles) s := by
  refine .read hs ?_
  split
  · exact hsync
  refine .read hs (ensures_forgetAll ?_ _ hs hsync)
  intro t ht htsynced
  have hloaded : t.loadTrust.Synced none := { htsynced with }
  refine ⟨ht.loadTrust, ?_⟩
  dsimp only
  split
  · next hpasses =>
    exact ensures_sendLoop _ user text bundles false ht.loadTrust hloaded
      (passes_of_eq_true hpasses)
  · exact hloaded

/-! ### Receiving -/

/-- The object that is tried is the device's row. -/
lemma ensures_receiveWith (hr : r < s.refs)
    (hother : ∀ q : Peer, q ≠ peer → s.live q.key ≠ some r) (hheap : s.heap r = s.rows peer)
    (m : Inbound S) :
    Ensures Consistent (fun _ t => t.Synced none) (receiveWith peer m (some r)) s := by
  cases hopen : openSecret s.keys ((some r).bind s.heap) m s.draws with
  | none =>
    simp only [receiveWith, Ensures, inbound, hopen]
    exact ⟨hs, hsync⟩
  | some o =>
    have hclean : (s.inbound peer m (some r)).Clean →
        s.Clean ∧ foreign (s.pins peer.pinKey) (some o.session) = false := by
      intro hclean
      simp only [inbound, hopen] at hclean
      rcases Bool.or_eq_false_iff.mp hclean.1 with ⟨hintr, hfor⟩
      exact ⟨⟨hintr, hclean.2⟩, hfor⟩
    have hin : (s.inbound peer m (some r)).Consistent := by
      simp only [inbound, hopen] at hclean ⊢
      exact ⟨hs.valid.draw, hs.kept, fun h => hs.pinned (hclean h).1,
        fun h => hs.agreed (hclean h).1⟩
    have hsaved : ((s.inbound peer m (some r)).saveSession peer o.session).Consistent := by
      refine hin.saveSession ?_ fun h => ?_
      · simp only [inbound, hopen]
        have hpos : s.ledger.current peer = ((some r).bind s.heap).bind Agreed.position := by
          simp only [ledger, positions, Option.bind_some, hheap]
        exact held_openSecret hs.valid hpos hopen
      · have hfor := (hclean h).2
        simp only [inbound, hopen]
        exact hfor
    have hadopted : ((s.inbound peer m (some r)).saveSession peer o.session).Synced none := by
      simp only [inbound, hopen]
      apply Synced.saveSession
      · apply Synced.adopt
        · exact hsync.grown rfl rfl rfl (Nat.le_succ _)
        · simp
        · split
          · exact Nat.lt_succ_of_lt hr
          · exact Nat.lt_succ_self _
        · intro q hne
          split
          · exact hother q hne
          · exact hsync.refs_unused q
      · intro r' hr'
        cases (update_self ..).symm.trans hr'
        exact update_self ..
    simp only [receiveWith, Ensures, hopen]
    exact ⟨hin, hsaved, { hsaved with },
      hadopted.same, hadopted.apart, hadopted.old⟩

lemma ensures_receive (peer : Peer) (m : Inbound S) :
    Ensures Consistent (fun _ t => t.Synced none) (receive peer m) s := by
  refine .read hs ?_
  cases hlive : s.live peer.key with
  | some r =>
    rcases hsync.same peer r (by simp) hlive with ⟨σ, hheap, hrow⟩
    refine ensures_receiveWith hs hsync (hsync.old peer r hlive) ?_ (hheap.trans hrow.symm) m
    intro q hne hq
    exact hne (hsync.apart q peer r hq hlive)
  | none =>
    have hrestored : (s.restore peer).Consistent := { hs with }
    refine ⟨hrestored, ensures_receiveWith hrestored ?_ (Nat.lt_succ_self _)
      (fun q _ => hsync.refs_unused q) (update_self ..) m⟩
    refine ⟨?_, hsync.apart, fun q r hq => Nat.lt_succ_of_lt (hsync.old q r hq)⟩
    intro q r hne hq
    rcases hsync.same q r hne hq with ⟨σ, hheap, hrow⟩
    exact ⟨σ, (update_of_ne (Nat.ne_of_lt (hsync.old q r hq)) ..).trans hheap, hrow⟩

end

lemma Consistent.pin (h : s.Consistent) (peer : Peer) (p : Pin) : (s.pin peer p).Consistent := by
  have hclean : (s.pin peer p).Clean → s.Clean ∧ foreign (some p) (s.rows peer) = false := by
    intro hclean
    rcases Bool.or_eq_false_iff.mp hclean.2 with ⟨hrepin, hfor⟩
    exact ⟨⟨hclean.1, hrepin⟩, hfor⟩
  refine ⟨h.valid, fun _ _ => id, ?_, fun hc => h.agreed (hclean hc).1⟩
  intro hc q
  change foreign (update s.pins peer.pinKey (some p) q.pinKey) (s.rows q) = false
  rw [Function.update_apply_of_injective s.pins Peer.pinKey_injective]
  exact foreign_update_pin (h.pinned (hclean hc).1) (hclean hc).2 q

lemma ensures_acceptIdentity (hs : s.Consistent) (hsync : s.Synced none) (peer : Peer)
    (p : Pin) : Ensures Consistent (fun _ t => t.Synced none) (acceptIdentity peer p) s := by
  have hloaded : s.loadTrust.Synced none := { hsync with }
  refine ⟨hs.loadTrust, ?_⟩
  dsimp only
  split
  · have hforgot := hs.loadTrust.forget peer
    have hunloaded : Consistent { (s.loadTrust.forget peer).unload peer with
        pendingBootstrap := update s.pendingBootstrap peer.key none } :=
      { hforgot with }
    have hgone : ((s.loadTrust.forget peer).unload peer).Synced none :=
      (hloaded.forget peer).unload fun q hq => (Option.some.inj hq).symm
    exact .write hforgot (.write (hunloaded.pin peer p) { hgone with })
  · exact .write (hs.loadTrust.pin peer p) { hloaded with }

lemma Consistent.restart (h : s.Consistent) : s.restart.Consistent := by
  refine ⟨h.valid, fun _ _ => id, ?_, h.agreed⟩
  intro hclean q
  rw [foreign_eq_false]
  intro p τ hp hτ
  exact foreign_eq_false.mp (h.pinned hclean q) p τ (h.kept _ p hp) hτ

lemma ensures_task (call : IosCall S) (s : Ios S) (hs : s.Consistent) (hsync : s.Synced none) :
    Ensures Consistent (fun _ t => t.Synced none) call.task s := by
  cases call with
  | send => exact (ensures_send hs hsync ..).bind fun _ _ => id
  | receive peer m => exact (ensures_receive hs hsync peer m).bind fun _ _ => id
  | accept peer p => exact ensures_acceptIdentity hs hsync peer p

/-- If calls do not overlap, wherever the process dies, what left is under positions used once,
and pins are kept to. -/
theorem consistent_run {events : List (Event (IosCall S))} (h : Serial deviceID keys events) :
    (run deviceID keys events).Consistent := by
  refine serial_final ensures_task ?_ (consistent_new deviceID keys)
    (synced_of_unloaded (fun _ => rfl) none) h
  intro s hs _
  exact ⟨hs.restart, synced_of_unloaded (fun _ => rfl) none⟩

end Ios
end SyncApp.SecretChats
