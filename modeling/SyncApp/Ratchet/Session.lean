import SyncApp.Foundations.EvictingMap
import SyncApp.Foundations.Machine
import SyncApp.Ratchet.Primitives

/-!
# The Double Ratchet session

`Session` of `pkg/e2e/ratchet.go` as a value.  A call that may need a ratchet key takes what
`keys()` would return; `Session.drawsKey` says whether it is asked.

Main results:

- `Session.decrypt_cases`: the ways in which a frame opens.
- `Session.skipMessageKeys_eq_ok`: what skipping leaves.
-/

namespace SyncApp.Ratchet

open Foundations

/-- Bound on the keys derived for missing messages in one skip. -/
def maxSkip : Nat := 1000

/-- Bound on the skipped message keys a session retains. -/
def maxSkippedKeys : Nat := 2 * maxSkip

/-- The errors a session call can return. -/
inductive SessionError where
  /-- `ErrDecrypt`: "e2e: decryption failed". -/
  | decrypt
  /-- "e2e: too many skipped messages". -/
  | tooManySkipped
  /-- The header's ratchet key is not 32 octets long. -/
  | invalidPublicKey
  /-- X25519 refused the remote key. -/
  | lowOrderPoint
  /-- The key source failed. -/
  | keySource
deriving DecidableEq

/-- One Double Ratchet session.  A nil byte slice or public key is `none`;
`skipped` holds the source's map and its `skippedOrder` together. -/
structure Session where
  dhs : KeyPair
  dhr : Option Bytes
  rk : Bytes
  cks : Option Bytes
  ckr : Option Bytes
  ns : UInt32
  nr : UInt32
  pn : UInt32
  skipped : EvictingMap Bytes Bytes

/-- `newInitiatorSession`: the initial ratchet gives Alice a sending chain. -/
def newInitiatorSession (P : Primitives) (sk theirSignedPreKey : Bytes)
    (keys : Option KeyPair) : Except SessionError Session :=
  match publicKeyFromBytes theirSignedPreKey with
  | none => .error .invalidPublicKey
  | some dhr =>
    match keys with
    | none => .error .keySource
    | some dhs =>
      match P.x25519 dhs.priv dhr with
      | none => .error .lowOrderPoint
      | some dhOut =>
        let out := kdfRK P sk dhOut
        .ok { dhs := dhs, dhr := some dhr, rk := out.1, cks := some out.2, ckr := none,
              ns := 0, nr := 0, pn := 0, skipped := .empty }

/-- `newResponderSession`: Bob has no chain until he receives. -/
def newResponderSession (sk : Bytes) (signedPreKey : KeyPair) : Session where
  dhs := signedPreKey
  dhr := none
  rk := sk
  cks := none
  ckr := none
  ns := 0
  nr := 0
  pn := 0
  skipped := .empty

/-- Big-endian octets of a 32-bit counter. -/
def putUint32 (n : UInt32) : Bytes :=
  [(n >>> 24).toUInt8, (n >>> 16).toUInt8, (n >>> 8).toUInt8, n.toUInt8]

/-- `skKey`: the name under which a skipped key is stored. -/
def skKey (dhPub : Bytes) (n : UInt32) : Bytes := dhPub ++ [0x7c] ++ putUint32 n

namespace Session

/-- `storeSkipped`: record a message key, evicting the oldest past the bound. -/
def storeSkipped (s : Session) (key msgKey : Bytes) : Session :=
  { s with skipped := s.skipped.store maxSkippedKeys key msgKey }

variable (P : Primitives) (s : Session)

/-- `trySkipped`: a stored key is consumed only once its message opens. -/
def trySkipped (hdr : Header) (ct : Bytes) : Option (Bytes × Session) :=
  match s.skipped.lookup (skKey hdr.dh hdr.n) with
  | none => none
  | some key =>
    match aeadOpen P key hdr.bytes ct with
    | none => none
    | some pt => some (pt, { s with skipped := s.skipped.consume (skKey hdr.dh hdr.n) })

/-- `sameDHr`: whether a ratchet key is the peer's current one. -/
def sameDHr (dhPub : Bytes) : Bool := s.dhr = some dhPub

/-! ## Ratchet steps -/

/-- One round of the skip loop: store the key at the current position. -/
def skipOne : Session :=
  let out := kdfCK P (s.ckr.getD [])
  let s := { s with ckr := some out.1 }
  let s := s.storeSkipped (skKey (s.dhr.getD []) s.nr) out.2
  { s with nr := s.nr + 1 }

/-- The loop of `skipMessageKeys`, with a bound on its number of rounds. -/
def skipLoop (P : Primitives) (upTo : UInt32) : Nat → Session → Session
  | 0, s => s
  | fuel + 1, s => if s.nr < upTo then skipLoop P upTo fuel (s.skipOne P) else s

/-- `skipMessageKeys`: derive and store the keys of the current receiving
chain before position `upTo`.  The gap is computed in 32-bit arithmetic. -/
def skipMessageKeys (upTo : UInt32) : Except SessionError Session :=
  if s.ckr = none then .ok s
  else if maxSkip < (upTo - s.nr).toNat then .error .tooManySkipped
  else .ok (s.skipLoop P upTo (upTo.toNat - s.nr.toNat))

/-- First half of `dhRatchet`: adopt the peer's key and derive the receiving
chain. -/
def ratchetReceive (hdr : Header) : Except SessionError Session :=
  match publicKeyFromBytes hdr.dh with
  | none => .error .invalidPublicKey
  | some newDHr =>
    let s := { s with pn := s.ns, ns := 0, nr := 0, dhr := some newDHr }
    match P.x25519 s.dhs.priv newDHr with
    | none => .error .lowOrderPoint
    | some dhOut =>
      let out := kdfRK P s.rk dhOut
      .ok { s with rk := out.1, ckr := some out.2 }

variable (keys : Option KeyPair)

/-- Second half of `dhRatchet`: draw a key pair and derive the sending
chain. -/
def ratchetSend : Except SessionError Session :=
  match keys with
  | none => .error .keySource
  | some dhs =>
    let s := { s with dhs := dhs }
    match P.x25519 s.dhs.priv (s.dhr.getD []) with
    | none => .error .lowOrderPoint
    | some dhOut =>
      let out := kdfRK P s.rk dhOut
      .ok { s with rk := out.1, cks := some out.2 }

variable (hdr : Header)

/-- `dhRatchet`: advance to the peer's new ratchet key. -/
def dhRatchet : Except SessionError Session := do
  let s ← s.ratchetReceive P hdr
  s.ratchetSend P keys

/-- The part of `advance` before the message key is derived. -/
def catchUp : Except SessionError Session := do
  let s ← if s.sameDHr hdr.dh then pure s else do
    let s ← s.skipMessageKeys P hdr.pn
    s.dhRatchet P keys hdr
  s.skipMessageKeys P hdr.n

/-- `advance`: the ratchet and skip path, run on a copy by `Decrypt`. -/
def advance (ct : Bytes) : Except SessionError (Bytes × Session) := do
  let s ← s.catchUp P keys hdr
  match s.ckr with
  | none => .error .decrypt
  | some ckr =>
    let out := kdfCK P ckr
    match aeadOpen P out.2 hdr.bytes ct with
    | none => .error .decrypt
    | some pt => .ok (pt, { s with ckr := some out.1, nr := s.nr + 1 })

/-- The message key the next `Encrypt` seals under. -/
def sendingKey : Bytes := (kdfCK P (s.cks.getD [])).2

/-- `Encrypt`.  HMAC takes the nil key of a session without a sending chain
for the empty key. -/
def encrypt (plaintext : Bytes) : (Header × Bytes) × Session :=
  let out := kdfCK P (s.cks.getD [])
  let hdr : Header := { dh := s.dhs.pub, pn := s.pn, n := s.ns, raw := none }
  let ad := hdr.bytes
  (({ hdr with raw := some ad }, aeadSeal P out.2 ad plaintext),
    { s with cks := some out.1, ns := s.ns + 1 })

/-- `Decrypt`: a stored key, else the next key of the current chain, else
the ratchet and skip path on a copy that is adopted only on success. -/
def decrypt (P : Primitives) (s : Session) (keys : Option KeyPair) (hdr : Header)
    (ct : Bytes) : Except SessionError Bytes × Session :=
  match s.trySkipped P hdr ct with
  | some (pt, s') => (.ok pt, s')
  | none =>
    if s.ckr ≠ none ∧ s.sameDHr hdr.dh = true ∧ hdr.n = s.nr then
      let out := kdfCK P (s.ckr.getD [])
      match aeadOpen P out.2 hdr.bytes ct with
      | none => (.error .decrypt, s)
      | some pt => (.ok pt, { s with ckr := some out.1, nr := s.nr + 1 })
    else
      match s.advance P keys hdr ct with
      | .error e => (.error e, s)
      | .ok (pt, trial) => (.ok pt, trial)

/-- Whether a call to `Decrypt` asks the key source for a key. -/
def drawsKey (ct : Bytes) : Bool :=
  (s.trySkipped P hdr ct).isNone && !s.sameDHr hdr.dh &&
    (s.skipMessageKeys P hdr.pn >>= fun s => s.ratchetReceive P hdr).isOk

end Session

lemma putUint32_injective : Function.Injective putUint32 := by
  intro a b h
  simp only [putUint32, List.cons.injEq, and_true] at h
  rcases h with ⟨h3, h2, h1, h0⟩
  replace h3 := congrArg UInt8.toNat h3
  replace h2 := congrArg UInt8.toNat h2
  replace h1 := congrArg UInt8.toNat h1
  replace h0 := congrArg UInt8.toNat h0
  simp [Nat.shiftRight_eq_div_pow] at h3 h2 h1 h0
  have ha := a.toNat_lt
  have hb := b.toNat_lt
  apply UInt32.toNat_inj.mp
  omega

lemma skKey_injective : Function.Injective fun p : Bytes × UInt32 => skKey p.1 p.2 := by
  rintro ⟨d, n⟩ ⟨d', _⟩ h
  simp only [skKey] at h
  rcases List.append_inj' h rfl with ⟨hdh, hn⟩
  have hd : d = d' := List.append_cancel_right hdh
  rw [hd, putUint32_injective hn]

lemma skKey_inj {d d' : Bytes} {n n' : UInt32} : skKey d n = skKey d' n' ↔ d = d' ∧ n = n' := by
  rw [← Prod.mk.injEq]
  exact skKey_injective.eq_iff (a := (d, n)) (b := (d', n'))

namespace Session

/-- The session after `k` rounds of the skip loop. -/
def skipBy (P : Primitives) (k : Nat) (s : Session) : Session := (skipOne P)^[k] s

variable (P : Primitives)

@[simp]
lemma skipBy_zero (s : Session) : s.skipBy P 0 = s :=
  rfl

lemma skipBy_succ (k : Nat) (s : Session) : s.skipBy P (k + 1) = (s.skipBy P k).skipOne P :=
  Function.iterate_succ_apply' _ _ _

lemma skipLoop_eq_skipBy (upTo : UInt32) (fuel : Nat) (s : Session)
    (hfuel : fuel = upTo.toNat - s.nr.toNat) : s.skipLoop P upTo fuel = s.skipBy P fuel := by
  induction fuel generalizing s with
  | zero => rfl
  | succ fuel ih =>
    have hlt : s.nr < upTo := by
      rw [UInt32.lt_iff_toNat_lt]
      omega
    have hnext : (s.skipOne P).nr.toNat = s.nr.toNat + 1 := by
      have hbound := upTo.toNat_lt
      simp only [skipOne, storeSkipped, UInt32.toNat_add]
      rw [Nat.mod_eq_of_lt]
      · rfl
      · simp
        omega
    rw [skipLoop, if_pos hlt, ih _ (by omega), skipBy, skipBy, Function.iterate_succ_apply]

/-- Skipping leaves everything but the receiving chain and the store alone. -/
lemma skipBy_fixed (k : Nat) (s : Session) :
    (s.skipBy P k).dhs = s.dhs ∧ (s.skipBy P k).dhr = s.dhr ∧ (s.skipBy P k).rk = s.rk ∧
      (s.skipBy P k).cks = s.cks ∧ (s.skipBy P k).ns = s.ns ∧ (s.skipBy P k).pn = s.pn := by
  induction k with
  | zero => simp
  | succ k ih =>
    rw [skipBy_succ]
    simpa [skipOne, storeSkipped] using ih

variable {P : Primitives} {ck ct pt : Bytes} {s t s' : Session} {hdr : Header}
  {keys : Option KeyPair}

lemma skipBy_ckr (h : s.ckr = some ck) (k : Nat) :
    (s.skipBy P k).ckr = some (KeyChain.advance (kdfCK P) k ck) := by
  induction k with
  | zero => simpa using h
  | succ k ih =>
    rw [skipBy_succ, KeyChain.advance_succ]
    simp [skipOne, storeSkipped, ih]

lemma skipBy_nr (P : Primitives) (k : Nat) (s : Session) :
    (s.skipBy P k).nr = s.nr + UInt32.ofNat k := by
  induction k with
  | zero => simp
  | succ k ih =>
    rw [skipBy_succ]
    simp only [skipOne, storeSkipped, ih]
    rw [UInt32.add_assoc, ← UInt32.ofNat_one, ← UInt32.ofNat_add]

lemma skipBy_succ_skipped (h : s.ckr = some ck) (k : Nat) : (s.skipBy P (k + 1)).skipped =
      (s.skipBy P k).skipped.store maxSkippedKeys
        (skKey (s.dhr.getD []) (s.nr + UInt32.ofNat k)) (KeyChain.keyAt (kdfCK P) ck k) := by
  rw [skipBy_succ]
  simp [skipOne, storeSkipped, skipBy_ckr h, skipBy_nr, (skipBy_fixed P k s).2.1, KeyChain.keyAt]

/-! ## Inversion of the fallible steps -/

/-- Number of keys `skipMessageKeys` derives when it succeeds. -/
def skipCount (s : Session) (upTo : UInt32) : Nat :=
  if s.ckr = none then 0 else upTo.toNat - s.nr.toNat

lemma skipMessageKeys_eq (P : Primitives) (s : Session) (upTo : UInt32) :
    s.skipMessageKeys P upTo =
      if s.ckr ≠ none ∧ maxSkip < (upTo - s.nr).toNat then .error .tooManySkipped
      else .ok (s.skipBy P (s.skipCount upTo)) := by
  unfold skipMessageKeys skipCount
  by_cases hckr : s.ckr = none
  · simp [hckr]
  simp only [hckr, ne_eq, not_false_eq_true, true_and, if_false]
  rw [skipLoop_eq_skipBy P upTo _ s rfl]

theorem skipMessageKeys_eq_ok {upTo : UInt32} (h : s.skipMessageKeys P upTo = .ok t) :
    (s.ckr ≠ none → (upTo - s.nr).toNat ≤ maxSkip) ∧ t = s.skipBy P (s.skipCount upTo) := by
  rw [skipMessageKeys_eq] at h
  split at h
  · contradiction
  rename_i hgap
  refine ⟨fun hckr => ?_, (Except.ok.inj h).symm⟩
  by_contra hmany
  exact hgap ⟨hckr, Nat.lt_of_not_le hmany⟩

lemma ratchetReceive_eq_ok (h : s.ratchetReceive P hdr = .ok t) :
    hdr.dh.length = 32 ∧ ∃ dhOut, P.x25519 s.dhs.priv hdr.dh = some dhOut ∧
      t = { s with pn := s.ns, ns := 0, nr := 0, dhr := some hdr.dh,
                   rk := (kdfRK P s.rk dhOut).1, ckr := some (kdfRK P s.rk dhOut).2 } := by
  unfold ratchetReceive publicKeyFromBytes at h
  by_cases hlen : hdr.dh.length = 32
  · simp only [hlen, if_true] at h
    cases hdh : P.x25519 s.dhs.priv hdr.dh with
    | none => simp [hdh] at h
    | some dhOut =>
      simp only [hdh, Except.ok.injEq] at h
      exact ⟨hlen, dhOut, rfl, h.symm⟩
  · simp [hlen] at h

lemma ratchetSend_eq_ok (h : s.ratchetSend P keys = .ok t) :
    ∃ dhs dhOut, keys = some dhs ∧ P.x25519 dhs.priv (s.dhr.getD []) = some dhOut ∧
      t = { s with dhs := dhs, rk := (kdfRK P s.rk dhOut).1,
                   cks := some (kdfRK P s.rk dhOut).2 } := by
  unfold ratchetSend at h
  cases keys with
  | none => simp at h
  | some dhs =>
    cases hdh : P.x25519 dhs.priv (s.dhr.getD []) with
    | none => simp [hdh] at h
    | some dhOut =>
      simp only [hdh, Except.ok.injEq] at h
      exact ⟨dhs, dhOut, rfl, hdh, h.symm⟩

/-- The two ways a session can catch up with a header: within the peer's current
chain, or through a DH ratchet. -/
inductive CaughtUp (P : Primitives) (s : Session) (keys : Option KeyPair) (hdr : Header) :
    Session → Prop where
  | same {t : Session} (hsame : s.sameDHr hdr.dh = true)
      (hskip : s.skipMessageKeys P hdr.n = .ok t) : CaughtUp P s keys hdr t
  | ratchet {s₁ s₂ s₃ t : Session} (hnew : s.sameDHr hdr.dh = false)
      (hold : s.skipMessageKeys P hdr.pn = .ok s₁)
      (hrecv : s₁.ratchetReceive P hdr = .ok s₂)
      (hsend : s₂.ratchetSend P keys = .ok s₃)
      (hskip : s₃.skipMessageKeys P hdr.n = .ok t) : CaughtUp P s keys hdr t

lemma catchUp_eq_ok (h : s.catchUp P keys hdr = .ok t) : CaughtUp P s keys hdr t := by
  unfold catchUp dhRatchet at h
  cases hsame : s.sameDHr hdr.dh with
  | true =>
    simp only [hsame, if_true, pure_bind] at h
    exact .same hsame h
  | false =>
    simp only [hsame, Bool.false_eq_true, if_false, Machine.bind_eq_ok] at h
    rcases h with ⟨_, hold, _, ⟨_, hrecv, hsend⟩, h⟩
    exact .ratchet hsame hold hrecv hsend h

/-- The ways a call to `Decrypt` can end, with the state it leaves. -/
inductive DecryptOutcome (P : Primitives) (s : Session) (keys : Option KeyPair)
    (hdr : Header) (ct : Bytes) : Except SessionError Bytes × Session → Prop where
  /-- The frame was refused. -/
  | refused (e : SessionError) : DecryptOutcome P s keys hdr ct (.error e, s)
  /-- A stored key opened it. -/
  | stored {key pt : Bytes} (hlook : s.skipped.lookup (skKey hdr.dh hdr.n) = some key)
      (hopen : aeadOpen P key hdr.bytes ct = some pt) :
      DecryptOutcome P s keys hdr ct
        (.ok pt, { s with skipped := s.skipped.consume (skKey hdr.dh hdr.n) })
  /-- The next key of the current receiving chain opened it. -/
  | next {ck pt : Bytes} (hckr : s.ckr = some ck) (hsame : s.sameDHr hdr.dh = true)
      (hn : hdr.n = s.nr) (hopen : aeadOpen P (kdfCK P ck).2 hdr.bytes ct = some pt) :
      DecryptOutcome P s keys hdr ct (.ok pt, { s with ckr := some (kdfCK P ck).1, nr := s.nr + 1 })
  /-- The session caught up with the header and the key reached there opened it. -/
  | caughtUp {t : Session} {ck pt : Bytes} (hcatch : CaughtUp P s keys hdr t)
      (hckr : t.ckr = some ck) (hopen : aeadOpen P (kdfCK P ck).2 hdr.bytes ct = some pt) :
      DecryptOutcome P s keys hdr ct (.ok pt, { t with ckr := some (kdfCK P ck).1, nr := t.nr + 1 })

lemma trySkipped_eq_some (h : s.trySkipped P hdr ct = some (pt, s')) :
    ∃ key, s.skipped.lookup (skKey hdr.dh hdr.n) = some key ∧
      aeadOpen P key hdr.bytes ct = some pt ∧
      s' = { s with skipped := s.skipped.consume (skKey hdr.dh hdr.n) } := by
  unfold trySkipped at h
  split at h
  · cases h
  · next key hlook =>
    split at h
    · cases h
    · next hopen =>
      cases h
      exact ⟨key, hlook, hopen, rfl⟩

lemma advance_eq_ok (h : s.advance P keys hdr ct = .ok (pt, s')) :
    ∃ t ck, s.catchUp P keys hdr = .ok t ∧ t.ckr = some ck ∧
      aeadOpen P (kdfCK P ck).2 hdr.bytes ct = some pt ∧
      s' = { t with ckr := some (kdfCK P ck).1, nr := t.nr + 1 } := by
  unfold advance at h
  rcases Machine.bind_eq_ok.mp h with ⟨t, hcatch, h⟩
  split at h
  · cases h
  · next ck hckr =>
    dsimp only at h
    split at h
    · cases h
    · next hopen =>
      cases h
      exact ⟨t, ck, hcatch, hckr, hopen, rfl⟩

theorem decrypt_cases (P : Primitives) (s : Session) (keys : Option KeyPair)
    (hdr : Header) (ct : Bytes) : DecryptOutcome P s keys hdr ct (s.decrypt P keys hdr ct) := by
  unfold decrypt
  cases hstored : s.trySkipped P hdr ct with
  | some result =>
    rcases result with ⟨pt, s'⟩
    rcases trySkipped_eq_some hstored with ⟨_, hlook, hopen, rfl⟩
    exact .stored hlook hopen
  | none =>
    by_cases hnext : s.ckr ≠ none ∧ s.sameDHr hdr.dh = true ∧ hdr.n = s.nr
    · simp only [if_pos hnext]
      rcases hnext with ⟨hckr, hsame, hn⟩
      rcases Option.ne_none_iff_exists'.mp hckr with ⟨ck, hck⟩
      simp only [hck, Option.getD_some]
      cases hopen : aeadOpen P (kdfCK P ck).2 hdr.bytes ct with
      | none => exact .refused _
      | some => exact .next hck hsame hn hopen
    · simp only [if_neg hnext]
      cases hadv : s.advance P keys hdr ct with
      | error e => exact .refused e
      | ok result =>
        rcases result with ⟨_, _⟩
        rcases advance_eq_ok hadv with ⟨t, _, hcatch, hckr, hopen, rfl⟩
        exact .caughtUp (catchUp_eq_ok hcatch) hckr hopen

lemma decrypt_of_error {e : SessionError} (h : (s.decrypt P keys hdr ct).1 = .error e) :
    (s.decrypt P keys hdr ct).2 = s := by
  have hcases := decrypt_cases P s keys hdr ct
  generalize s.decrypt P keys hdr ct = r at hcases h ⊢
  cases hcases with
  | refused => rfl
  | stored | next | caughtUp => cases h

end Session
end SyncApp.Ratchet
