import SyncApp.Foundations.Interleaving
import SyncApp.Foundations.Ledger

/-!
# Secret chats on a client: what the three clients share

The functions in which the clients agree: a bundle is checked against the pin of its device, a
session is taken from the store or agreed by X3DH, and a message is sealed.  A sending position is
the draw its chain began with and the number of messages sealed.

Main results:

- `agrees_of_passed`: a bundle that passes has the pinned identity.
- `sealWith_eq_some`, `startSession_eq_session`: what sealing and a new session give.
-/

namespace SyncApp.SecretChats

open Foundations
open Function (update update_of_ne update_self)

/-- The ciphers, the key agreement and the ratchet of a client, for the identity key of the
device it runs on.  A `draw` stands for the fresh keys of one use of the key source. -/
structure Suite where
  /-- Public keys and signatures. -/
  Key : Type
  /-- Key pairs of this device. -/
  Pair : Type
  Secret : Type
  Session : Type
  Header : Type
  Cipher : Type
  [decEq : DecidableEq Key]
  /-- Base64. -/
  decode : String → Option Key
  /-- The public key of a pair, in base64. -/
  pub : Pair → String
  /-- `x3dhInitiator`, with the ephemeral public key to send; fails on a bad signature. -/
  x3dhInitiator (identityKey signingKey signedPreKey signedPreKeySig : Key)
    (oneTimePreKey : Option Key) (draw : Nat) : Option (Secret × String)
  x3dhResponder (signedPreKey : Pair) (oneTimePreKey : Option Pair)
    (initiatorIdentity initiatorEphemeral : Key) : Option Secret
  initiator (sharedSecret : Secret) (theirSignedPreKey : Key) (draw : Nat) : Option Session
  responder (sharedSecret : Secret) (signedPreKey : Pair) : Session
  /-- `RatchetSession.encrypt`; fails if the session has no sending chain. -/
  encrypt (session : Session) (plaintext : String) : Option ((Header × Cipher) × Session)
  decrypt (session : Session) (draw : Nat) (header : Header) (ciphertext : Cipher) :
    Option (String × Session)
  /-- The position the next message is sealed at. -/
  position : Session → Option (Nat × Nat)
  initiator_position : ∀ {secret key draw session}, initiator secret key draw = some session →
    position session = some (draw, 0)
  responder_position : ∀ secret pair, position (responder secret pair) = none
  encrypt_isSome : ∀ {session} (text : String), position session ≠ none →
    (encrypt session text).isSome
  encrypt_position : ∀ {session text out session'}, encrypt session text = some (out, session') →
    ∃ c n, position session = some (c, n) ∧ position session' = some (c, n + 1)
  decrypt_position : ∀ {session draw header cipher text session'},
    decrypt session draw header cipher = some (text, session') →
    position session' = position session ∨ position session' = some (draw, 0)

attribute [instance] Suite.decEq

variable (S : Suite)

/-- A session, and the identity key it was agreed with. -/
structure Agreed where
  session : S.Session
  peer : S.Key

/-- The position a session seals its next message at. -/
def Agreed.position {S : Suite} (σ : Agreed S) : Option (Nat × Nat) := S.position σ.session

structure Prekeys where
  signedPreKey : S.Pair
  previousSignedPreKey : Option S.Pair
  oneTimePreKeys : List S.Pair

/-- `dropOneTimePreKey`. -/
def Prekeys.drop {S : Suite} (keys : Prekeys S) (consumed : Option S.Pair) : Prekeys S :=
  match consumed with
  | none => keys
  | some pair =>
    { keys with oneTimePreKeys := keys.oneTimePreKeys.filter fun k => S.pub k ≠ S.pub pair }

/-- `KeyBundle`: what the directory says of a device. -/
structure Bundle where
  userId : String
  deviceId : String
  identityKey : String
  signingKey : String
  signedPrekey : String
  signedPrekeySig : String
  oneTimePrekey : String

/-- `PinnedIdentity`. -/
structure Pin where
  identityKey : String
  signingKey : String
deriving DecidableEq

variable (b : Bundle)

/-- The keys of a bundle, as they are pinned. -/
def Bundle.pin : Pin := ⟨b.identityKey, b.signingKey⟩

/-- `sessionKey` and `pinKey`: the name of a device. -/
def sessionKey (userId deviceId : String) : String := userId ++ ":" ++ deviceId

/-- The account a bundle is for: the one it names, or the one it was asked for. -/
def Bundle.owner (peerUserId : String) : String :=
  if b.userId = "" then peerUserId else b.userId

/-- `TrustVerdict`. -/
inductive Verdict where
  | firstUse
  | known
  | changed
deriving DecidableEq

/-- `equalKeys`: what does not decode matches nothing. -/
def equalKeys (a b : String) : Bool :=
  match S.decode a, S.decode b with
  | some left, some right => left = right
  | _, _ => false

def verify (pins : String → Option Pin) (key : String) (pin : Pin) : Verdict :=
  match pins key with
  | none => .firstUse
  | some pinned =>
    if equalKeys S pinned.identityKey pin.identityKey ∧
      equalKeys S pinned.signingKey pin.signingKey then .known
    else .changed

/-- A session was not agreed with the identity key of a pin. -/
def Pin.foreign {S : Suite} (pin : Option Pin) (σ : Option (Agreed S)) : Bool :=
  match pin, σ with
  | some p, some σ => S.decode p.identityKey ≠ some σ.peer
  | _, _ => false

/-- How an attempt to agree on a session ends. -/
inductive Started where
  | session (σ : Agreed S) (ephemeral : String)
  /-- A key of the bundle does not decode. -/
  | malformed
  /-- The signature does not hold, or an agreement fails. -/
  | refused

/-- Agree on a session with the device of a bundle; the one-time prekey as the client reads it. -/
def startSession (oneTimePreKey : Option (Option S.Key)) (draw : Nat) : Started S :=
  match S.decode b.identityKey, S.decode b.signingKey, S.decode b.signedPrekey,
      S.decode b.signedPrekeySig, oneTimePreKey with
  | some ik, some sk, some spk, some sig, some otk =>
    match S.x3dhInitiator ik sk spk sig otk draw with
    | none => .refused
    | some (secret, ephemeral) =>
      match S.initiator secret spk draw with
      | none => .refused
      | some session => .session ⟨session, ik⟩ ephemeral
  | _, _, _, _, _ => .malformed

/-- The one-time prekey of a bundle as the phones read it: one that does not decode counts as
none. -/
def Bundle.oneTimeKey : Option S.Key :=
  if b.oneTimePrekey = "" then none else S.decode b.oneTimePrekey

/-- `SecretMsg`, as far as it parses. -/
@[ext]
structure Inbound where
  fromUserId : String
  fromDeviceId : String
  ik : Option String
  ek : Option String
  header : Option S.Header
  ciphertext : Option S.Cipher

/-- A message that was opened: the session after it, and the one-time prekey it took. -/
structure Opened where
  plaintext : String
  session : Agreed S
  consumed : Option S.Pair

variable {S}

/-- Open a message with the session there is. -/
def openExisting (σ : Agreed S) (header : S.Header) (ciphertext : S.Cipher) (draw : Nat) :
    Option (Opened S) :=
  match S.decrypt σ.session draw header ciphertext with
  | none => none
  | some (text, session) => some ⟨text, ⟨session, σ.peer⟩, none⟩

variable (keys : Prekeys S)

/-- The prekeys a first message may have used, in the order they are tried. -/
def Prekeys.candidates : List (S.Pair × Option S.Pair) :=
  (keys.signedPreKey :: keys.previousSignedPreKey.toList).flatMap fun signedPreKey =>
    (keys.oneTimePreKeys.map some ++ [none]).map fun oneTime => (signedPreKey, oneTime)

/-- Open a first message with one choice of prekeys. -/
def openCandidate (ik ek : S.Key) (header : S.Header) (ciphertext : S.Cipher) (draw : Nat)
    (candidate : S.Pair × Option S.Pair) : Option (Opened S) :=
  match S.x3dhResponder candidate.1 candidate.2 ik ek with
  | none => none
  | some secret =>
    match S.decrypt (S.responder secret candidate.1) draw header ciphertext with
    | none => none
    | some (text, session) => some ⟨text, ⟨session, ik⟩, candidate.2⟩

/-- `openAsResponder`: the cipher tells which prekeys were used. -/
def openAsResponder (ik ek : S.Key) (header : S.Header)
    (ciphertext : S.Cipher) (draw : Nat) : Option (Opened S) :=
  keys.candidates.findSome? (openCandidate ik ek header ciphertext draw)

/-- Open a first message, if the envelope carries the bootstrap. -/
def openFirst (m : Inbound S) (header : S.Header) (ciphertext : S.Cipher)
    (draw : Nat) : Option (Opened S) :=
  match m.ik.bind S.decode, m.ek.bind S.decode with
  | some ik, some ek => openAsResponder keys ik ek header ciphertext draw
  | _, _ => none

/-- `openSecretMessage`: the session there is, if it opens the message; else a new one. -/
def openSecret (existing : Option (Agreed S)) (m : Inbound S) (draw : Nat) : Option (Opened S) :=
  match m.header, m.ciphertext with
  | some header, some ciphertext =>
    match existing.bind fun σ => openExisting σ header ciphertext draw with
    | some opened => some opened
    | none => openFirst keys m header ciphertext draw
  | _, _ => none

variable (S)

/-- A sealed message: where it goes, what it carries, and under which session and pin. -/
structure Frame where
  key : String
  bootstrap : Option String
  header : S.Header
  ciphertext : S.Cipher
  plaintext : String
  position : Nat × Nat
  peer : S.Key
  pin : Option Pin

variable {S}

/-- Seal a message with a session: the frame, and the session after it. -/
def sealWith (key text : String) (pin : Option Pin) (bootstrap : Option String) (σ : Agreed S) :
    Option (Frame S × Agreed S) :=
  match S.encrypt σ.session text with
  | none => none
  | some ((header, ciphertext), session) =>
    some (⟨key, bootstrap, header, ciphertext, text, σ.position.getD (0, 0), σ.peer, pin⟩,
      ⟨session, σ.peer⟩)

/-- How a call that sends a message ends on the phones. -/
inductive SendEnd where
  | sent
  /-- `NoSecretDevicesException`, `peerHasNoDevices`. -/
  | noDevices
  /-- `IdentityChangedException`, `identityChanged`. -/
  | identityChanged
  | failed

/-! ## What they do to identities and positions -/

variable {pin : Option Pin} {key text : String} {p : Pin} {pins : String → Option Pin} {b : Bundle}
  {σ σ' : Agreed S} {ciphertext : S.Cipher} {header : S.Header} {o : Opened S}
  {existing : Option (Agreed S)} {keys : Prekeys S} {m : Inbound S} {bootstrap : Option String}
  {frame : Frame S}

lemma Pin.foreign_eq_false {σ : Option (Agreed S)} : Pin.foreign pin σ = false ↔
      ∀ p τ, pin = some p → σ = some τ → S.decode p.identityKey = some τ.peer := by
  unfold Pin.foreign
  cases pin with
  | none => simp
  | some =>
    cases σ with
    | none | some => simp

lemma verify_known {pin : Pin} (hpin : pins key = some p) (h : verify S pins key pin ≠ .changed) :
    ∃ k, S.decode p.identityKey = some k ∧ S.decode pin.identityKey = some k := by
  have hequal : equalKeys S p.identityKey pin.identityKey = true := by
    by_contra hne
    refine h ?_
    simp [verify, hpin, hne]
  unfold equalKeys at hequal
  split at hequal
  · next left right hleft hright =>
    refine ⟨left, hleft, ?_⟩
    rw [hright, of_decide_eq_true hequal]
  · cases hequal

lemma verify_firstUse {pin : Pin} : verify S pins key pin = .firstUse ↔ pins key = none := by
  unfold verify
  cases pins key with
  | none => simp
  | some =>
    simp only [reduceCtorEq, iff_false]
    split
    · simp
    · simp

/-- However the session for a bundle that passes the pin came about, it was agreed with the pinned
identity. -/
theorem agrees_of_passed {stored : Option (Agreed S)} (hpin : pins key = some p)
    (hpass : verify S pins key b.pin ≠ .changed) (hstored : Pin.foreign (pins key) stored = false)
    (hσ : stored = some σ ∨ S.decode b.identityKey = some σ.peer) :
    S.decode p.identityKey = some σ.peer := by
  rcases hσ with hold | hnew
  · exact Pin.foreign_eq_false.mp hstored p σ hpin hold
  rcases verify_known hpin hpass with ⟨k, hk, hk'⟩
  rw [hk, ← hk']
  exact hnew

theorem startSession_eq_session {otk : Option (Option S.Key)} {draw : Nat} {ephemeral : String}
    (h : startSession S b otk draw = .session σ ephemeral) :
    S.decode b.identityKey = some σ.peer ∧ σ.position = some (draw, 0) := by
  unfold startSession at h
  split at h
  · next hik _ _ _ =>
    split at h
    · cases h
    split at h
    · cases h
    · next hinit =>
      cases h
      exact ⟨hik, S.initiator_position hinit⟩
  · cases h

lemma openExisting_eq_some {draw : Nat} (h : openExisting σ header ciphertext draw = some o) :
    o.session.peer = σ.peer ∧
      (o.session.position = σ.position ∨ o.session.position = some (draw, 0)) := by
  unfold openExisting at h
  split at h
  · cases h
  · next hdec =>
    cases h
    exact ⟨rfl, S.decrypt_position hdec⟩

lemma openCandidate_position {draw : Nat} {ik ek : S.Key} {candidate : S.Pair × Option S.Pair}
    (h : openCandidate ik ek header ciphertext draw candidate = some o) :
    o.session.position = none ∨ o.session.position = some (draw, 0) := by
  unfold openCandidate at h
  split at h
  · cases h
  split at h
  · cases h
  · next hdec =>
    cases h
    rcases S.decrypt_position hdec with hsame | hnew
    · left
      exact hsame.trans (S.responder_position ..)
    · exact .inr hnew

/-- Where the session of an opened message stands: the one there was, or a new one. -/
lemma openSecret_position {draw : Nat} (h : openSecret keys existing m draw = some o) :
    (∃ σ, existing = some σ ∧ o.session.peer = σ.peer ∧ o.session.position = σ.position) ∨
      o.session.position = none ∨ o.session.position = some (draw, 0) := by
  unfold openSecret at h
  split at h
  · next header ciphertext _ _ =>
    split at h
    · next opened hopened =>
      cases h
      rcases Option.bind_eq_some_iff.mp hopened with ⟨σ, hσ, hopen⟩
      rcases openExisting_eq_some hopen with ⟨hpeer, hsame | hnew⟩
      · exact .inl ⟨σ, hσ, hpeer, hsame⟩
      · exact .inr (.inr hnew)
    · unfold openFirst at h
      split at h
      · rcases List.exists_of_findSome?_eq_some h with ⟨_, -, hcand⟩
        exact .inr (openCandidate_position hcand)
      · cases h
  · cases h

theorem sealWith_eq_some (h : sealWith key text pin bootstrap σ = some (frame, σ')) :
    frame.key = key ∧ frame.peer = σ.peer ∧ frame.pin = pin ∧ σ'.peer = σ.peer ∧
      σ.position = some frame.position ∧
      σ'.position = some (frame.position.1, frame.position.2 + 1) := by
  unfold sealWith at h
  split at h
  · cases h
  · next henc =>
    cases h
    rcases S.encrypt_position henc with ⟨c, n, hpre, hafter⟩
    have hσ : σ.position = some (c, n) := hpre
    refine ⟨rfl, rfl, rfl, rfl, ?_, ?_⟩
    · rw [hσ, Option.getD_some]
    · rw [hσ, Option.getD_some]
      exact hafter

section Pins

variable {D : Type} [DecidableEq D] {pins : D → Option Pin} {sessions : D → Option (Agreed S)}

variable {d : D}

variable (h : ∀ d, Pin.foreign (pins d) (sessions d) = false)
include h

lemma foreign_update_pin {pin : Option Pin} (hpin : Pin.foreign pin (sessions d) = false)
    (d' : D) : Pin.foreign (update pins d pin d') (sessions d') = false := by
  rcases eq_or_ne d' d with rfl | hne
  · rw [update_self]
    exact hpin
  · rw [update_of_ne hne]
    exact h d'

lemma foreign_update_session {σ : Option (Agreed S)} (hσ : Pin.foreign (pins d) σ = false)
    (d' : D) : Pin.foreign (pins d') (update sessions d σ d') = false := by
  rcases eq_or_ne d' d with rfl | hne
  · rw [update_self]
    exact hσ
  · rw [update_of_ne hne]
    exact h d'

end Pins

variable {D : Type} (sessions : D → Option (Agreed S))

/-- Where the sessions of a store stand. -/
def positions (d : D) : Option (Nat × Nat) :=
  (sessions d).bind Agreed.position

variable [DecidableEq D]

lemma positions_update (d : D) (σ : Option (Agreed S)) :
    positions (update sessions d σ) = update (positions sessions) d (σ.bind Agreed.position) := by
  funext d'
  rcases eq_or_ne d' d with rfl | hne
  · simp [positions]
  · simp [positions, update_of_ne hne]

variable {drawn : Nat} {current : D → Option (Nat × Nat)} {used : List (Nat × Nat)} {d : D}

/-- A device may seal with a session: nobody else is on its chain, and nothing from its position
on was used. -/
def Agreed.Held (σ : Agreed S) (L : Ledger D) (d : D) : Prop :=
  ∀ c n, σ.position = some (c, n) → L.Holds d c n

omit [DecidableEq D] in
lemma held_of_current {L : Ledger D} (h : L.Valid) (hσ : L.current d = σ.position) :
    σ.Held L d := by
  intro c n hpos
  exact h.holds (hσ.trans hpos)

omit [DecidableEq D] in
lemma held_of_new (h : Ledger.Valid ⟨drawn, current, used⟩) (d : D)
    (hσ : σ.position = some (drawn, 0)) : σ.Held ⟨drawn + 1, current, used⟩ d := by
  intro c n hpos
  rw [hσ] at hpos
  cases hpos
  exact h.holds_draw d

omit [DecidableEq D] in
lemma Agreed.Held.draw (h : σ.Held ⟨drawn, current, used⟩ d) :
    σ.Held ⟨drawn + 1, current, used⟩ d :=
  fun c n hpos => (h c n hpos).draw

variable (h : Ledger.Valid ⟨drawn, current, used⟩)
include h

/-- Sealing with the session a device has, or with one that was just agreed, uses a new
position. -/
lemma valid_sealWith (hσ : current d = σ.position ∨ σ.position = some (drawn, 0))
    (hseal : sealWith key text pin bootstrap σ = some (frame, σ')) :
    Ledger.Valid ⟨drawn + 1, update current d σ'.position, used ++ [frame.position]⟩ := by
  rcases sealWith_eq_some hseal with ⟨-, -, -, -, hpre, hafter⟩
  rw [hafter]
  apply h.draw.advance
  rcases hσ with hstored | hnew
  · exact (held_of_current h hstored).draw _ _ hpre
  · exact held_of_new h d hnew _ _ hpre

omit [DecidableEq D] in
/-- The session of an opened message stands where the device's session stood, or on a new
chain. -/
lemma held_openSecret (hex : current d = existing.bind Agreed.position)
    (hopen : openSecret keys existing m drawn = some o) :
    o.session.Held ⟨drawn + 1, current, used⟩ d := by
  rcases openSecret_position hopen with ⟨σ, hσ, -, hsame⟩ | hnone | hnew
  · apply Agreed.Held.draw
    refine held_of_current h ?_
    change current d = _
    rw [hex, hσ, Option.bind_some, hsame]
  · intro c n hpos
    rw [hnone] at hpos
    cases hpos
  · exact held_of_new h d hnew

lemma valid_openSecret (hex : current d = existing.bind Agreed.position)
    (hopen : openSecret keys existing m drawn = some o) :
    Ledger.Valid ⟨drawn + 1, update current d o.session.position, used⟩ :=
  h.draw.place (held_openSecret h hex hopen)

end SyncApp.SecretChats
