import SyncApp.Foundations.EvictingMap
import SyncApp.Ratchet.Primitives

/-!
# The web client's ratchet session

`RatchetSession` of `client/src/shared/lib/e2e/ratchet.ts` as a value.  Counters are JavaScript
numbers, skipped keys are named by text, and the trial copy of `decrypt` is made by serializing.

Main results:

- `RatchetSession.deserialize_serialize`: a session without empty keys is read back.
-/

namespace SyncApp.Ratchet
namespace Web

open Foundations

/-- Strings, as lists of characters. -/
abbrev Text := List Char

def toBase64 (bytes : Bytes) : Text := Base64.encode bytes

/-- `fromBase64`; {lean}`none` where `atob` throws. -/
def fromBase64 (value : Text) : Option Bytes :=
  if value = [] then some [] else Base64.decode value

/-- The `++` operator on a counter.  A number past `2 ^ 53` has no exact
successor and stays where it is. -/
def increment (n : Nat) : Nat := if n < 2 ^ 53 then n + 1 else n

/-- `MAX_SKIP`. -/
def maxSkip : Nat := 1000

/-- `MAX_SKIPPED_KEYS`. -/
def maxSkippedKeys : Nat := 2 * maxSkip

/-- What a session call can throw. -/
inductive RatchetError where
  /-- "e2e: no sending chain". -/
  | noSendingChain
  /-- `DecryptError`: "e2e: decryption failed". -/
  | decrypt
  /-- "e2e: too many skipped messages". -/
  | tooManySkipped
  /-- X25519 refused the remote key. -/
  | sharedSecret
  /-- The key source threw. -/
  | keySource
  /-- `atob` refused a text. -/
  | base64

/-- `RatchetHeader`.  `known` is the header's entry in the
`headerBytes` map, if it has one. -/
structure RatchetHeader where
  dh : Bytes
  pn : Nat
  n : Nat
  known : Option Bytes
deriving DecidableEq

/-- `marshalHeader`: the known bytes, else the JSON text of the fields. -/
def marshalHeader (header : RatchetHeader) : Bytes :=
  match header.known with
  | some known => known
  | none =>
    ascii ("\x7b\"dh\":\"".toList ++ toBase64 header.dh ++ "\",\"pn\":".toList ++
      Nat.toDigits 10 header.pn ++ ",\"n\":".toList ++ Nat.toDigits 10 header.n ++ "\x7d".toList)

variable (P : Primitives)

/-- `kdfRootKey`: the next root key and a chain key. -/
def kdfRootKey (rootKey dhOut : Bytes) : Bytes × Bytes :=
  let out := P.hkdf dhOut rootKey (ascii "SyncApp-Ratchet-RK".toList) 64
  (out.take 32, out.drop 32)

/-- `kdfChainKey`: the next chain key and a message key. -/
def kdfChainKey (chainKey : Bytes) : Bytes × Bytes :=
  let nextChainKey := P.hmac chainKey [0x02]
  let messageKey := P.hmac chainKey [0x01]
  (nextChainKey, messageKey)

/-- `aeadFor`: the cipher key and nonce of a message key. -/
def aeadFor (messageKey : Bytes) : Bytes × Bytes :=
  let buf := P.hkdf messageKey [] (ascii "SyncApp-Ratchet-Msg".toList) (32 + 12)
  (buf.take 32, buf.drop 32)

/-- The source's `seal`. -/
def sealMessage (messageKey ad plaintext : Bytes) : Bytes :=
  P.chachaSeal (aeadFor P messageKey).1 (aeadFor P messageKey).2 ad plaintext

/-- The source's `open`; {lean}`none` where it throws. -/
def openMessage (messageKey ad ciphertext : Bytes) : Option Bytes :=
  P.chachaOpen (aeadFor P messageKey).1 (aeadFor P messageKey).2 ad ciphertext

/-- `diffieHellman`.  The library refuses a public key that is not 32 octets
long, and one of low order. -/
def diffieHellman (privateKey publicKey : Bytes) : Except RatchetError Bytes :=
  if publicKey.length = 32 then
    match P.x25519 privateKey publicKey with
    | none => .error .sharedSecret
    | some secret => .ok secret
  else .error .sharedSecret

/-- `skippedKey`: the name under which a skipped key is stored. -/
def skippedKey (dhPublic : Bytes) (n : Nat) : Text :=
  toBase64 dhPublic ++ "|".toList ++ Nat.toDigits 10 n

/-- `RatchetSession`, without its key source.  `skipped` holds the
source's map and its `skippedOrder` together. -/
structure RatchetSession where
  dhs : KeyPair
  dhr : Option Bytes
  rootKey : Bytes
  sendingChainKey : Option Bytes
  receivingChainKey : Option Bytes
  sent : Nat
  received : Nat
  previousSent : Nat
  skipped : EvictingMap Text Bytes

/-- `SerializedSession`, as `serialize` writes it. -/
structure SerializedSession where
  dhsPrivate : Text
  dhsPublic : Text
  dhr : Option Text
  rootKey : Text
  sendingChainKey : Option Text
  receivingChainKey : Option Text
  sent : Nat
  received : Nat
  previousSent : Nat
  skipped : List (Text × Text)
  skippedOrder : List Text

namespace RatchetSession

variable (P : Primitives)

/-- `RatchetSession.initiator`: one ratchet step runs immediately. -/
def initiator (sharedSecret theirSignedPreKey : Bytes)
    (keySource : Option KeyPair) : Except RatchetError RatchetSession :=
  match keySource with
  | none => .error .keySource
  | some dhs => do
      let dhOut ← diffieHellman P dhs.priv theirSignedPreKey
      let out := kdfRootKey P sharedSecret dhOut
      pure { dhs := dhs, dhr := some theirSignedPreKey, rootKey := out.1,
             sendingChainKey := some out.2, receivingChainKey := none, sent := 0, received := 0,
             previousSent := 0, skipped := .empty }

/-- `RatchetSession.responder`: no chain until the first message arrives. -/
def responder (sharedSecret : Bytes) (signedPreKey : KeyPair) : RatchetSession where
  dhs := signedPreKey
  dhr := none
  rootKey := sharedSecret
  sendingChainKey := none
  receivingChainKey := none
  sent := 0
  received := 0
  previousSent := 0
  skipped := .empty

variable (s : RatchetSession)

def serialize : SerializedSession where
  dhsPrivate := toBase64 s.dhs.priv
  dhsPublic := toBase64 s.dhs.pub
  dhr := s.dhr.map toBase64
  rootKey := toBase64 s.rootKey
  sendingChainKey := s.sendingChainKey.map toBase64
  receivingChainKey := s.receivingChainKey.map toBase64
  sent := s.sent
  received := s.received
  previousSent := s.previousSent
  skipped := s.skipped.live.entries.map fun entry => (entry.1, toBase64 entry.2)
  skippedOrder := s.skipped.order

/-- A nullable field read back: an absent or empty text is `null`. -/
def readKey (text : Option Text) : Option (Option Bytes) :=
  match text with
  | none => some none
  | some [] => some none
  | some value => (fromBase64 value).map some

/-- The entries of a serialized map read back, the first entry last. -/
def readEntries : List (Text × Text) → Option (AList fun _ : Text => Bytes)
  | [] => some ∅
  | (key, value) :: rest => do
      let tail ← readEntries rest
      let bytes ← fromBase64 value
      pure (tail.insert key bytes)

/-- `deserialize`; {lean}`none` where `atob` throws. -/
def deserialize (state : SerializedSession) : Option RatchetSession := do
  let priv ← fromBase64 state.dhsPrivate
  let pub ← fromBase64 state.dhsPublic
  let dhr ← readKey state.dhr
  let rootKey ← fromBase64 state.rootKey
  let sendingChainKey ← readKey state.sendingChainKey
  let receivingChainKey ← readKey state.receivingChainKey
  let live ← readEntries state.skipped
  pure { dhs := ⟨priv, pub⟩, dhr, rootKey, sendingChainKey, receivingChainKey,
         sent := state.sent, received := state.received, previousSent := state.previousSent,
         skipped := ⟨live, state.skippedOrder⟩ }

/-- `storeSkipped`: record a message key, evicting the oldest past the bound. -/
def storeSkipped (key : Text) (messageKey : Bytes) : RatchetSession :=
  { s with skipped := s.skipped.store maxSkippedKeys key messageKey }

variable (header : RatchetHeader)

/-- `trySkipped`: a stored key is consumed only once its message opens. -/
def trySkipped (ciphertext : Bytes) : Option (Bytes × RatchetSession) :=
  let key := skippedKey header.dh header.n
  match s.skipped.lookup key with
  | none => none
  | some messageKey =>
    match openMessage P messageKey (marshalHeader header) ciphertext with
    | none => none
    | some plaintext => some (plaintext, { s with skipped := s.skipped.consume key })

/-- `sameDhr`: equal lengths and equal octets. -/
def sameDhr (dhPublic : Bytes) : Bool := s.dhr = some dhPublic

/-! ## Ratchet steps -/

/-- One round of the skip loop: store the key at the current position. -/
def skipOne : RatchetSession :=
  let out := kdfChainKey P (s.receivingChainKey.getD [])
  let s := { s with receivingChainKey := some out.1 }
  let s := s.storeSkipped (skippedKey (s.dhr.getD []) s.received) out.2
  { s with received := increment s.received }

/-- The loop of `skipMessageKeys`, with a bound on its number of rounds. -/
def skipLoop (P : Primitives) (upTo : Nat) : Nat → RatchetSession → RatchetSession
  | 0, s => s
  | fuel + 1, s => if s.received < upTo then skipLoop P upTo fuel (s.skipOne P) else s

/-- `skipMessageKeys`: the gap is a difference of numbers, so it is negative
when `upTo` lies behind the chain. -/
def skipMessageKeys (upTo : Nat) : Except RatchetError RatchetSession :=
  if s.receivingChainKey = none ∨ s.dhr = none then .ok s
  else if (maxSkip : Int) < (upTo : Int) - s.received then .error .tooManySkipped
  else .ok (s.skipLoop P upTo (upTo - s.received))

/-- First half of `dhRatchet`: adopt the peer's key and derive the receiving
chain. -/
def ratchetReceive : Except RatchetError RatchetSession := do
  let s := { s with previousSent := s.sent, sent := 0, received := 0, dhr := some header.dh }
  let dhOut ← diffieHellman P s.dhs.priv header.dh
  let out := kdfRootKey P s.rootKey dhOut
  pure { s with rootKey := out.1, receivingChainKey := some out.2 }

variable (keySource : Option KeyPair)

/-- Second half of `dhRatchet`: draw a key pair and derive the sending
chain. -/
def ratchetSend : Except RatchetError RatchetSession :=
  match keySource with
  | none => .error .keySource
  | some dhs => do
      let s := { s with dhs := dhs }
      let dhOut ← diffieHellman P s.dhs.priv (s.dhr.getD [])
      let out := kdfRootKey P s.rootKey dhOut
      pure { s with rootKey := out.1, sendingChainKey := some out.2 }

variable (header : RatchetHeader)

/-- `dhRatchet`: advance to the peer's new ratchet key. -/
def dhRatchet : Except RatchetError RatchetSession := do
  let s ← s.ratchetReceive P header
  s.ratchetSend P keySource

/-- The part of `advance` before the message key is derived. -/
def catchUp : Except RatchetError RatchetSession := do
  let s ← if s.sameDhr header.dh then pure s else do
    let s ← s.skipMessageKeys P header.pn
    s.dhRatchet P keySource header
  s.skipMessageKeys P header.n

variable (ciphertext : Bytes)

/-- The next key of the receiving chain opens a frame, or the frame is refused. -/
def openNext : Except RatchetError (Bytes × RatchetSession) :=
  match s.receivingChainKey with
  | none => .error .decrypt
  | some chainKey =>
    let out := kdfChainKey P chainKey
    match openMessage P out.2 (marshalHeader header) ciphertext with
    | none => .error .decrypt
    | some plaintext =>
      .ok (plaintext, { s with
        receivingChainKey := some out.1, received := increment s.received })

/-- `advance`: the ratchet and skip path, run on a copy by `decrypt`. -/
def advance : Except RatchetError (Bytes × RatchetSession) := do
  let s ← s.catchUp P keySource header
  s.openNext P header ciphertext

/-- `adopt`: take over a successful trial's state. -/
def adopt (_s trial : RatchetSession) : RatchetSession where
  dhs := trial.dhs
  dhr := trial.dhr
  rootKey := trial.rootKey
  sendingChainKey := trial.sendingChainKey
  receivingChainKey := trial.receivingChainKey
  sent := trial.sent
  received := trial.received
  previousSent := trial.previousSent
  skipped := trial.skipped

/-- `encrypt` refuses while there is no sending chain. -/
def encrypt (plaintext : Bytes) : Except RatchetError ((RatchetHeader × Bytes) × RatchetSession) :=
  match s.sendingChainKey with
  | none => .error .noSendingChain
  | some chainKey =>
    let out := kdfChainKey P chainKey
    let header : RatchetHeader :=
      { dh := s.dhs.pub, pn := s.previousSent, n := s.sent, known := none }
    let ad := marshalHeader header
    .ok (({ header with known := some ad }, sealMessage P out.2 ad plaintext),
      { s with sendingChainKey := some out.1, sent := increment s.sent })

/-- `decrypt`: a stored key, else the next key of the current chain, else the
ratchet and skip path on a copy that is adopted only on success. -/
def decrypt : Except RatchetError Bytes × RatchetSession :=
  match s.trySkipped P header ciphertext with
  | some (plaintext, s') => (.ok plaintext, s')
  | none =>
    if s.receivingChainKey ≠ none ∧ s.sameDhr header.dh = true ∧ header.n = s.received then
      match s.openNext P header ciphertext with
      | .error e => (.error e, s)
      | .ok (plaintext, s') => (.ok plaintext, s')
    else
      match deserialize s.serialize with
      | none => (.error .base64, s)
      | some trial =>
        match trial.advance P keySource header ciphertext with
        | .error e => (.error e, s)
        | .ok (plaintext, trial) => (.ok plaintext, s.adopt trial)

/-- Whether a call to `decrypt` asks the key source for a key: the ratchet
path is taken and reaches the second half of `dhRatchet`. -/
def drawsKey : Bool :=
  (s.trySkipped P header ciphertext).isNone && !s.sameDhr header.dh &&
    (s.skipMessageKeys P header.pn >>= fun s => s.ratchetReceive P header).isOk

end RatchetSession

lemma skippedKey_injective : Function.Injective fun p : Bytes × Nat => skippedKey p.1 p.2 := by
  intro p q h
  have htext : Base64.encode p.1 ++ '|' :: Nat.toDigits 10 p.2 =
      Base64.encode q.1 ++ '|' :: Nat.toDigits 10 q.2 := by
    simpa [skippedKey, toBase64] using h
  rcases append_cons_inj (Base64.pipe_notMem_encode _) (Base64.pipe_notMem_encode _) htext with
    ⟨hdh, hn⟩
  have hnumber := congrArg (fun digits => Nat.ofDigitChars 10 digits 0) hn
  simp only [Nat.ofDigitChars_ten_toDigits] at hnumber
  exact Prod.ext (Base64.encode_injective hdh) hnumber

lemma fromBase64_toBase64 (bytes : Bytes) : fromBase64 (toBase64 bytes) = some bytes := by
  unfold fromBase64 toBase64
  split
  · next hemp =>
    rw [← Base64.decode_encode bytes, hemp]
    rfl
  · exact Base64.decode_encode bytes

namespace RatchetSession

lemma readKey_map {key : Option Bytes} (h : key ≠ some []) :
    readKey (key.map toBase64) = some key := by
  cases key with
  | none => rfl
  | some bytes =>
    have hne : toBase64 bytes ≠ [] := by
      intro hemp
      have hback := fromBase64_toBase64 bytes
      rw [hemp] at hback
      exact h (hback.symm.trans rfl)
    cases htext : toBase64 bytes with
    | nil => exact absurd htext hne
    | cons =>
      simp only [Option.map_some, readKey, htext]
      rw [← htext, fromBase64_toBase64]
      rfl

lemma readEntries_entries (live : AList fun _ : Text => Bytes) :
    readEntries (live.entries.map fun entry => (entry.1, toBase64 entry.2)) = some live := by
  cases live with
  | mk entries hnodup =>
    induction entries with
    | nil => rfl
    | cons entry rest ih =>
      have hrest := (List.nodupKeys_cons.mp hnodup).2
      have hnew := (List.nodupKeys_cons.mp hnodup).1
      simp only [List.map_cons, readEntries, ih hrest, fromBase64_toBase64, Option.bind_eq_bind,
        Option.bind_some, Option.pure_def, Option.some.injEq]
      apply AList.ext
      exact congrArg AList.entries (AList.insert_of_notMem hnew)

/-- The trial copy is the session itself: every key it holds has 32 octets, so no
nullable field reads back as `null`. -/
theorem deserialize_serialize {s : RatchetSession} (hdhr : s.dhr ≠ some [])
    (hsend : s.sendingChainKey ≠ some []) (hrecv : s.receivingChainKey ≠ some []) :
    deserialize s.serialize = some s := by
  simp only [deserialize, serialize, fromBase64_toBase64, readKey_map hdhr, readKey_map hsend,
    readKey_map hrecv, readEntries_entries, Option.bind_eq_bind, Option.bind_some,
    Option.pure_def]

end RatchetSession

end Web
end SyncApp.Ratchet
