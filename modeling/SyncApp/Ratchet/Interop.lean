import SyncApp.Ratchet.Opening
import SyncApp.Ratchet.Sample
import SyncApp.Ratchet.TypeScript

/-!
# The Go and the TypeScript session side by side

The Go and the TypeScript session, given the same requests and key pairs.  `Mirrors` relates them.
`Compatible` requests are an `encrypt` with a sending chain and counters below `2 ^ 32`, and a
`decrypt` whose header does not lie behind the receiving chain, where Go's 32-bit gap wraps around.

Main results:

- `agree_iff_compatible`: they act alike on exactly these.
- `interchangeable`: so they do on runs of them.
-/

namespace SyncApp.Ratchet

open Foundations Machine Web
open RatchetSession (deserialize dhRatchet skipLoop storeSkipped)
open Option (getD_some ne_none_iff_exists' some_ne_none)

/-! ## Requests and outcomes -/

inductive Request where
  | encrypt (plaintext : Bytes)
  | decrypt (hdr : Header) (ct : Bytes)

/-- What a request gives: a frame, a plaintext, or a refusal. -/
inductive Outcome where
  | sealed (header : RatchetHeader) (ct : Bytes)
  | opened (plaintext : Bytes)
  | refused
deriving DecidableEq

/-- A Go header as the TypeScript client sees it. -/
def Header.toWeb (hdr : Header) : RatchetHeader where
  dh := hdr.dh
  pn := hdr.pn.toNat
  n := hdr.n.toNat
  known := hdr.raw

/-- The outcome of a `decrypt`. -/
def Outcome.ofResult {E : Type} : Except E Bytes → Outcome
  | .error _ => .refused
  | .ok plaintext => .opened plaintext

/-- A session and the number of key pairs it has drawn so far. -/
structure Driven (S : Type) where
  session : S
  draws : Nat

variable (P : Primitives) (keys : Nat → Option KeyPair)

def goStep (d : Driven Session) : Request → Outcome × Driven Session
  | .encrypt plaintext =>
    let out := d.session.encrypt P plaintext
    (.sealed out.1.1.toWeb out.1.2, ⟨out.2, d.draws⟩)
  | .decrypt hdr ct =>
    let out := d.session.decrypt P (keys d.draws) hdr ct
    (.ofResult out.1, ⟨out.2, d.draws + (d.session.drawsKey P hdr ct).toNat⟩)

variable (d : Driven RatchetSession)

def webStep : Request → Outcome × Driven RatchetSession
  | .encrypt plaintext =>
    match d.session.encrypt P plaintext with
    | .error _ => (.refused, d)
    | .ok (frame, s) => (.sealed frame.1 frame.2, ⟨s, d.draws⟩)
  | .decrypt hdr ct =>
    let out := d.session.decrypt P (keys d.draws) hdr.toWeb ct
    (.ofResult out.1, ⟨out.2, d.draws + (d.session.drawsKey P hdr.toWeb ct).toNat⟩)

/-- The two ways to start a session. -/
inductive Role where
  | initiator (theirSignedPreKey : Bytes)
  | responder (signedPreKey : KeyPair)

variable (sk : Bytes) (keys : Nat → Option KeyPair)

/-- The Go session at its start, if it can be created. -/
def goStart : Role → Option (Driven Session)
  | .initiator spk => (newInitiatorSession P sk spk (keys 0)).toOption.map (⟨·, 1⟩)
  | .responder signedPreKey => some ⟨newResponderSession sk signedPreKey, 0⟩

/-- The TypeScript session at its start, if it can be created. -/
def webStart : Role → Option (Driven RatchetSession)
  | .initiator spk => (RatchetSession.initiator P sk spk (keys 0)).toOption.map (⟨·, 1⟩)
  | .responder signedPreKey => some ⟨RatchetSession.responder sk signedPreKey, 0⟩

variable (role : Role) (requests : List Request)

/-- The outcomes of a run of the Go session; {lean}`none` if it cannot be created. -/
def goRun : Option (List Outcome) :=
  (goStart P sk keys role).map fun d => outputs (goStep P keys) d requests

/-- The outcomes of a run of the TypeScript session. -/
def webRun : Option (List Outcome) :=
  (webStart P sk keys role).map fun d => outputs (webStep P keys) d requests

/-- A position that lies behind a chain, by so little that the 32-bit gap between
the two exceeds the skip limit. -/
def Behind (received upTo : Nat) : Prop :=
  upTo < received ∧ received - upTo < 2 ^ 32 - Ratchet.maxSkip
deriving Decidable

/-- A frame that no stored key opens and whose header lies behind the receiving chain, and that is
not refused anyway: by the next key, or with its ratchet key. -/
def Web.RatchetSession.LateFrame (t : RatchetSession) (header : RatchetHeader) (ct : Bytes) :
    Prop :=
  t.receivingChainKey ≠ none ∧
    if t.sameDhr header.dh then
      Behind t.received header.n ∧ (t.openNext P header ct).isOk
    else
      Behind t.received header.pn ∧ (diffieHellman P t.dhs.priv header.dh).isOk
deriving Decidable

/-- The requests both sessions answer alike. -/
def Web.RatchetSession.Compatible (t : RatchetSession) : Request → Prop
  | .encrypt _ => t.sendingChainKey ≠ none ∧ t.sent < 2 ^ 32 ∧ t.previousSent < 2 ^ 32
  | .decrypt hdr ct =>
    (t.trySkipped P hdr.toWeb ct).isNone →
      t.received < 2 ^ 32 ∧ ¬ t.LateFrame P hdr.toWeb ct

instance (P : Primitives) (t : RatchetSession) (r : Request) : Decidable (t.Compatible P r) := by
  unfold RatchetSession.Compatible
  split <;> infer_instance

/-- A 32-bit counter shows a number that has not passed `2 ^ 32`. -/
def Shows (n : UInt32) (k : Nat) : Prop := k ≤ 2 ^ 32 ∧ n = UInt32.ofNat k

lemma increment_of_lt {k : Nat} (hk : k < 2 ^ 32) : increment k = k + 1 := by
  unfold increment
  rw [if_pos (by omega)]

namespace Shows

variable {n : UInt32} {k : Nat}

lemma zero : Shows 0 0 :=
  ⟨Nat.zero_le _, rfl⟩

lemma toNat (h : Shows n k) (hk : k < 2 ^ 32) : n.toNat = k := by
  rw [h.2]
  exact toNat_ofNat hk

lemma succ (h : Shows n k) (hk : k < 2 ^ 32) : Shows (n + 1) (increment k) := by
  rw [increment_of_lt hk]
  constructor
  · omega
  · rw [h.2, UInt32.ofNat_add]
    rfl

end Shows

/-- The name of a position in the Go store. -/
def goName (p : Bytes × UInt32) : Bytes := skKey p.1 p.2

/-- The name of a position in the TypeScript store. -/
def webName (p : Bytes × UInt32) : Text := skippedKey p.1 p.2.toNat

lemma webName_injective : Function.Injective webName := by
  intro p q h
  have hpair : (p.1, p.2.toNat) = (q.1, q.2.toNat) := skippedKey_injective h
  rw [Prod.mk.injEq] at hpair
  exact Prod.ext hpair.1 (UInt32.toNat_inj.mp hpair.2)

/-- A Go session and a TypeScript session in corresponding states.  The sizes keep
the trial copy of the TypeScript session faithful. -/
structure Mirrors (s : Session) (t : RatchetSession) : Prop where
  dhs : t.dhs = s.dhs
  dhr : t.dhr = s.dhr
  rootKey : t.rootKey = s.rk
  sendingChainKey : t.sendingChainKey = s.cks
  receivingChainKey : t.receivingChainKey = s.ckr
  sent : Shows s.ns t.sent
  received : Shows s.nr t.received
  previousSent : Shows s.pn t.previousSent
  skipped : EvictingMap.SameBindings goName webName s.skipped t.skipped
  dhr_size : ∀ key, s.dhr = some key → key.length = 32
  cks_size : ∀ key, s.cks = some key → key.length = 32
  ckr_size : ∀ key, s.ckr = some key → key.length = 32
  chained : s.ckr ≠ none → s.dhr ≠ none

/-- Related sessions whose receiving chain is not full. -/
structure InStep (s : Session) (t : RatchetSession) : Prop extends Mirrors s t where
  received_lt : t.received < 2 ^ 32

section Steps

variable {P : Primitives} {s : Session} {t : RatchetSession} {keys : Option KeyPair}
variable {hdr : Header} {ct : Bytes}

lemma sized {key : Bytes} (h : key.length = 32) (k : Bytes) (hk : some key = some k) :
    k.length = 32 :=
  Option.some.inj hk ▸ h

lemma toWeb_dh (hdr : Header) : hdr.toWeb.dh = hdr.dh :=
  rfl

lemma marshalHeader_toWeb (hdr : Header) : marshalHeader hdr.toWeb = hdr.bytes := by
  unfold marshalHeader Header.toWeb Header.bytes
  cases hdr.raw with
  | none | some => rfl

lemma Mirrors.sameDhr (h : Mirrors s t) (dh : Bytes) : t.sameDhr dh = s.sameDHr dh := by
  unfold RatchetSession.sameDhr Session.sameDHr
  rw [h.dhr]

lemma Mirrors.trial (h : Mirrors s t) : deserialize t.serialize = some t := by
  have hne : ∀ {key : Option Bytes}, (∀ k, key = some k → k.length = 32) → key ≠ some [] := by
    intro key hsize hemp
    exact absurd (hsize [] hemp) (by decide)
  apply RatchetSession.deserialize_serialize
  · rw [h.dhr]
    exact hne h.dhr_size
  · rw [h.sendingChainKey]
    exact hne h.cks_size
  · rw [h.receivingChainKey]
    exact hne h.ckr_size

/-! ## Skipping -/

lemma InStep.skipOne (h : InStep s t) (hckr : s.ckr ≠ none) :
    Mirrors (s.skipOne P) (t.skipOne P) := by
  rcases ne_none_iff_exists'.mp (h.chained hckr) with ⟨dh, hdh⟩
  have hname : webName (dh, s.nr) = skippedKey dh t.received := by
    unfold webName
    rw [h.received.toNat h.received_lt]
  have hstored := h.skipped.store skKey_injective webName_injective Ratchet.maxSkippedKeys
    (dh, s.nr) (kdfCK P (s.ckr.getD [])).2
  rw [hname] at hstored
  simp only [Session.skipOne, Session.storeSkipped, RatchetSession.skipOne,
    storeSkipped, h.dhr, hdh, h.receivingChainKey, getD_some]
  exact { h.toMirrors with
    dhr := rfl
    receivingChainKey := rfl
    received := h.received.succ h.received_lt
    skipped := hstored
    dhr_size := by rw [← hdh]; exact h.dhr_size
    ckr_size := sized (kdfCK_fst_length P _)
    chained := fun _ => some_ne_none _ }

lemma InStep.skipLoop (upTo : UInt32) (fuel : Nat) (h : InStep s t) (hckr : s.ckr ≠ none) :
    InStep (s.skipLoop P upTo fuel) (t.skipLoop P upTo.toNat fuel) := by
  induction fuel generalizing s t with
  | zero => exact h
  | succ fuel ih =>
    have hcond : s.nr < upTo ↔ t.received < upTo.toNat := by
      rw [UInt32.lt_iff_toNat_lt, h.received.toNat h.received_lt]
    simp only [Session.skipLoop, skipLoop, hcond]
    split
    · next hlt =>
      have hbound := upTo.toNat_lt
      refine ih ⟨h.skipOne hckr, ?_⟩ (some_ne_none _)
      simp only [RatchetSession.skipOne, storeSkipped,
        increment_of_lt h.received_lt]
      omega
    · exact h

lemma InStep.skipMessageKeys (h : InStep s t) (upTo : UInt32)
    (hahead : s.ckr ≠ none → ¬ Behind t.received upTo.toNat) :
    Agree InStep (s.skipMessageKeys P upTo) (t.skipMessageKeys P upTo.toNat) := by
  unfold Session.skipMessageKeys RatchetSession.skipMessageKeys
  rw [h.receivingChainKey, h.dhr]
  by_cases hckr : s.ckr = none
  · rw [if_pos hckr, if_pos (Or.inl hckr)]
    exact .ok h
  rw [if_neg hckr, if_neg (not_or.mpr ⟨hckr, h.chained hckr⟩)]
  have hnr := h.received.toNat h.received_lt
  have hbehind := hahead hckr
  have hlt := h.received_lt
  have hbound := upTo.toNat_lt
  have hgap : Ratchet.maxSkip < (upTo - s.nr).toNat ↔
      ((Web.maxSkip : Nat) : Int) < (upTo.toNat : Int) - t.received := by
    rw [UInt32.toNat_sub, hnr]
    unfold Behind at hbehind
    unfold Ratchet.maxSkip at hbehind ⊢
    unfold Web.maxSkip
    omega
  by_cases hmany : Ratchet.maxSkip < (upTo - s.nr).toNat
  · rw [if_pos hmany, if_pos (hgap.mp hmany)]
    exact .error _ _
  · rw [if_neg hmany, if_neg (mt hgap.mpr hmany), hnr]
    exact .ok (h.skipLoop upTo _ hckr)

/-- A skip to a position behind the chain: the Go session refuses it, the
TypeScript session takes it for no skip at all. -/
lemma InStep.skipMessageKeys_behind (h : InStep s t) {upTo : UInt32} (hckr : s.ckr ≠ none)
    (hbehind : Behind t.received upTo.toNat) : s.skipMessageKeys P upTo = .error .tooManySkipped ∧
      t.skipMessageKeys P upTo.toNat = .ok t := by
  have hnr := h.received.toNat h.received_lt
  have hlt := h.received_lt
  unfold Behind at hbehind
  constructor
  · unfold Session.skipMessageKeys
    rw [if_neg hckr, if_pos]
    rw [UInt32.toNat_sub, hnr]
    omega
  · unfold RatchetSession.skipMessageKeys
    have hzero : upTo.toNat - t.received = 0 := by omega
    split
    · rfl
    · rw [if_neg (by omega), hzero]
      rfl

lemma Mirrors.ratchetReceive (h : Mirrors s t) (hdr : Header) :
    Agree (fun s' t' => InStep s' t' ∧ s'.dhr = some hdr.dh ∧ t'.received = 0)
      (s.ratchetReceive P hdr) (t.ratchetReceive P hdr.toWeb) := by
  unfold Session.ratchetReceive RatchetSession.ratchetReceive diffieHellman publicKeyFromBytes
  simp only [Header.toWeb, h.dhs, h.rootKey]
  by_cases hlen : hdr.dh.length = 32
  · simp only [hlen, if_true]
    cases P.x25519 s.dhs.priv hdr.dh with
    | none => exact .error _ _
    | some =>
      exact .ok ⟨{ h with
        dhs := rfl
        dhr := rfl
        rootKey := rfl
        receivingChainKey := rfl
        sent := Shows.zero
        received := Shows.zero
        previousSent := h.sent
        dhr_size := sized hlen
        ckr_size := sized (kdfRK_snd_length P _ _)
        chained := fun _ => some_ne_none _
        received_lt := Nat.two_pow_pos 32 }, rfl, rfl⟩
  · simp only [hlen, if_false]
    exact .error _ _

lemma InStep.ratchetSend (h : InStep s t) {dh : Bytes} (hdh : s.dhr = some dh)
    (keys : Option KeyPair) : Agree (fun s' t' => InStep s' t' ∧ t'.received = t.received)
      (s.ratchetSend P keys) (t.ratchetSend P keys) := by
  unfold Session.ratchetSend RatchetSession.ratchetSend diffieHellman
  cases keys with
  | none => exact .error _ _
  | some kp =>
    simp only [h.dhr, hdh, getD_some, h.dhr_size dh hdh, if_true, h.rootKey]
    cases P.x25519 kp.priv dh with
    | none => exact .error _ _
    | some =>
      exact .ok ⟨{ h with
        dhs := rfl
        dhr := rfl
        rootKey := rfl
        sendingChainKey := rfl
        dhr_size := by rw [← hdh]; exact h.dhr_size
        cks_size := sized (kdfRK_snd_length P _ _)
        chained := fun _ => some_ne_none _ }, rfl⟩

lemma Mirrors.dhRatchet (h : Mirrors s t) (keys : Option KeyPair) (hdr : Header) :
    Agree (fun s' t' => InStep s' t' ∧ t'.received = 0) (s.dhRatchet P keys hdr)
      (t.dhRatchet P keys hdr.toWeb) := by
  apply (h.ratchetReceive hdr).bind
  rintro s' t' ⟨hst, hdh, hzero⟩
  apply (hst.ratchetSend hdh keys).mono
  rintro s'' t'' ⟨hst', hsame⟩
  exact ⟨hst', hsame.trans hzero⟩

/-! ## Opening -/

/-- Equal plaintexts and related sessions. -/
def SameOpening (a : Bytes × Session) (b : Bytes × RatchetSession) : Prop :=
  a.1 = b.1 ∧ Mirrors a.2 b.2

lemma Mirrors.trySkipped (h : Mirrors s t) (P : Primitives) (hdr : Header) (ct : Bytes) :
    (s.trySkipped P hdr ct = none ∧ t.trySkipped P hdr.toWeb ct = none) ∨
      ∃ a b, s.trySkipped P hdr ct = some a ∧ t.trySkipped P hdr.toWeb ct = some b ∧
        SameOpening a b := by
  have hlook : s.skipped.lookup (skKey hdr.dh hdr.n) =
      t.skipped.lookup (skippedKey hdr.dh hdr.n.toNat) := h.skipped.lookup (hdr.dh, hdr.n)
  unfold Session.trySkipped RatchetSession.trySkipped
  rw [marshalHeader_toWeb]
  simp only [Header.toWeb, hlook]
  cases t.skipped.lookup (skippedKey hdr.dh hdr.n.toNat) with
  | none => exact Or.inl ⟨rfl, rfl⟩
  | some key =>
    have hsame : openMessage P key hdr.bytes ct = aeadOpen P key hdr.bytes ct := rfl
    simp only [hsame]
    cases aeadOpen P key hdr.bytes ct with
    | none => exact Or.inl ⟨rfl, rfl⟩
    | some =>
      exact Or.inr ⟨_, _, rfl, rfl, rfl, { h with
        skipped := h.skipped.consume skKey_injective webName_injective (hdr.dh, hdr.n) }⟩

/-- The next key of the receiving chain opens the same frames on both sides. -/
lemma InStep.openNext (h : InStep s t) {ck : Bytes} (hckr : s.ckr = some ck) (hdr : Header)
    (ct : Bytes) : (aeadOpen P (kdfCK P ck).2 hdr.bytes ct = none ∧
      t.openNext P hdr.toWeb ct = .error .decrypt) ∨
    ∃ pt t', aeadOpen P (kdfCK P ck).2 hdr.bytes ct = some pt ∧
      t.openNext P hdr.toWeb ct = .ok (pt, t') ∧
        Mirrors { s with ckr := some (kdfCK P ck).1, nr := s.nr + 1 } t' := by
  have hsame : openMessage P (kdfChainKey P ck).2 (marshalHeader hdr.toWeb) ct =
      aeadOpen P (kdfCK P ck).2 hdr.bytes ct := by
    rw [marshalHeader_toWeb]
    rfl
  unfold RatchetSession.openNext
  simp only [h.receivingChainKey, hckr, hsame]
  cases aeadOpen P (kdfCK P ck).2 hdr.bytes ct with
  | none => exact Or.inl ⟨rfl, rfl⟩
  | some pt =>
    refine Or.inr ⟨pt, _, rfl, rfl, { h.toMirrors with
      receivingChainKey := rfl
      received := h.received.succ h.received_lt
      ckr_size := sized (kdfCK_fst_length P _)
      chained := fun _ => h.chained ?_ }⟩
    rw [hckr]
    exact some_ne_none _

def Session.firstSkip (s : Session) (hdr : Header) : UInt32 :=
  if s.sameDHr hdr.dh then hdr.n else hdr.pn

lemma InStep.catchUp (h : InStep s t) (hahead : s.ckr ≠ none →
      ¬ Behind t.received (s.firstSkip hdr).toNat) :
    Agree InStep (s.catchUp P keys hdr) (t.catchUp P keys hdr.toWeb) := by
  unfold Session.catchUp RatchetSession.catchUp
  rw [toWeb_dh, h.sameDhr]
  cases hsame : s.sameDHr hdr.dh with
  | true =>
    simp only [Session.firstSkip, hsame, if_true] at hahead
    exact h.skipMessageKeys _ hahead
  | false =>
    simp only [Session.firstSkip, hsame, Bool.false_eq_true, if_false] at hahead
    apply (h.skipMessageKeys _ hahead).bind
    intro s' t' hst
    apply (hst.dhRatchet keys hdr).bind
    rintro s'' t'' ⟨hst', hzero⟩
    -- The fresh chain is at its start, so no position lies behind it.
    apply hst'.skipMessageKeys
    intro _ hbehind
    exact absurd hbehind.1 (by omega)

section

variable (h : InStep s t) (hckr : s.ckr ≠ none)
include h hckr

/-- The Go session refuses a header that lies behind its chain. -/
lemma InStep.advance_behind (hbehind : Behind t.received (s.firstSkip hdr).toNat) :
    s.advance P keys hdr ct = .error .tooManySkipped := by
  have hskip := (h.skipMessageKeys_behind (P := P) hckr hbehind).1
  have hcatch : s.catchUp P keys hdr = .error .tooManySkipped := by
    unfold Session.catchUp
    unfold Session.firstSkip at hskip
    cases hsame : s.sameDHr hdr.dh with
    | true =>
      simp only [hsame, if_true] at hskip
      simp only [if_true, pure_bind, hskip]
    | false =>
      simp only [hsame, Bool.false_eq_true, if_false] at hskip
      simp only [Bool.false_eq_true, if_false, hskip]
      rfl
  unfold Session.advance
  rw [hcatch]
  rfl

/-- The TypeScript session does not skip for such a header: within the chain it
tries the next key, otherwise it ratchets. -/
lemma InStep.webAdvance_same (hsame : s.sameDHr hdr.dh = true)
    (hbehind : Behind t.received hdr.n.toNat) (keys : Option KeyPair) :
    t.advance P keys hdr.toWeb ct = t.openNext P hdr.toWeb ct := by
  have hskip := (h.skipMessageKeys_behind (P := P) hckr hbehind).2
  have hcatch : t.catchUp P keys hdr.toWeb = .ok t := by
    unfold RatchetSession.catchUp
    rw [toWeb_dh, h.sameDhr, hsame]
    exact hskip
  unfold RatchetSession.advance
  rw [hcatch]
  rfl

lemma InStep.webReceive_behind (hbehind : Behind t.received hdr.pn.toNat) :
    (t.skipMessageKeys P hdr.toWeb.pn >>= fun t => t.ratchetReceive P hdr.toWeb) =
      t.ratchetReceive P hdr.toWeb := by
  rw [show hdr.toWeb.pn = hdr.pn.toNat from rfl,
    (h.skipMessageKeys_behind (P := P) hckr hbehind).2]
  rfl

end

lemma webAdvance_of_error {e : RatchetError} (hnew : t.sameDhr hdr.dh = false)
    (hreceive : (t.skipMessageKeys P hdr.toWeb.pn >>= fun t => t.ratchetReceive P hdr.toWeb) =
      .error e) : t.advance P keys hdr.toWeb ct = .error e := by
  have hcatch : t.catchUp P keys hdr.toWeb = .error e := by
    unfold RatchetSession.catchUp dhRatchet
    rw [toWeb_dh, hnew]
    cases hskip : t.skipMessageKeys P hdr.toWeb.pn with
    | error =>
      rw [hskip] at hreceive
      exact congrArg _ (Except.error.inj hreceive)
    | ok t' =>
      rw [hskip] at hreceive
      have hfail : t'.ratchetReceive P hdr.toWeb = .error e := hreceive
      show (t'.ratchetReceive P hdr.toWeb >>= _) >>= _ = _
      rw [hfail]
      rfl
  unfold RatchetSession.advance
  rw [hcatch]
  rfl

lemma ratchetReceive_isOk (t : RatchetSession) (hdr : Header) :
    (t.ratchetReceive P hdr.toWeb).isOk = (diffieHellman P t.dhs.priv hdr.dh).isOk := by
  simp only [RatchetSession.ratchetReceive, toWeb_dh]
  cases diffieHellman P t.dhs.priv hdr.dh with
  | error | ok => rfl

lemma InStep.advance (h : InStep s t) (keys : Option KeyPair)
    (hlate : ¬ t.LateFrame P hdr.toWeb ct) :
    Agree SameOpening (s.advance P keys hdr ct) (t.advance P keys hdr.toWeb ct) := by
  unfold RatchetSession.LateFrame at hlate
  rw [toWeb_dh, h.sameDhr, h.receivingChainKey] at hlate
  by_cases hbehind : s.ckr ≠ none ∧ Behind t.received (s.firstSkip hdr).toNat
  · rcases hbehind with ⟨hckr, hbehind⟩
    rw [h.advance_behind hckr hbehind]
    cases hsame : s.sameDHr hdr.dh with
    | true =>
      simp only [Session.firstSkip, hsame, if_true] at hbehind hlate
      rw [h.webAdvance_same hckr hsame hbehind keys]
      cases hopen : t.openNext P hdr.toWeb ct with
      | error => exact .error _ _
      | ok => exact absurd ⟨hckr, hbehind, by rw [hopen]; rfl⟩ hlate
    | false =>
      simp only [Session.firstSkip, hsame, Bool.false_eq_true, if_false] at hbehind hlate
      cases hreceive : t.ratchetReceive P hdr.toWeb with
      | error e =>
        rw [webAdvance_of_error (e := e) (by rw [h.sameDhr, hsame])
          (by rw [h.webReceive_behind hckr hbehind, hreceive])]
        exact .error _ _
      | ok =>
        refine absurd ⟨hckr, hbehind, ?_⟩ hlate
        rw [← ratchetReceive_isOk, hreceive]
        rfl
  · apply (h.catchUp fun hckr hb => hbehind ⟨hckr, hb⟩).bind
    intro s' t' hst
    cases hckr : s'.ckr with
    | none =>
      unfold RatchetSession.openNext
      rw [hst.receivingChainKey, hckr]
      exact .error _ _
    | some =>
      rcases hst.openNext (P := P) hckr hdr ct with ⟨hgo, hweb⟩ | ⟨_, _, hgo, hweb, hst'⟩
      · simp only [hgo, hweb]
        exact .error _ _
      · simp only [hgo, hweb]
        exact .ok ⟨rfl, hst'⟩

lemma Mirrors.encrypt (h : Mirrors s t) {ck : Bytes} (hcks : s.cks = some ck)
    (hsent : t.sent < 2 ^ 32) (hprev : t.previousSent < 2 ^ 32) (plaintext : Bytes) :
    ∃ t', t.encrypt P plaintext = .ok (((s.encrypt P plaintext).1.1.toWeb,
      (s.encrypt P plaintext).1.2), t') ∧ Mirrors (s.encrypt P plaintext).2 t' := by
  have hhdr : ∀ raw, ({ dh := t.dhs.pub, pn := t.previousSent, n := t.sent, known := raw } :
      RatchetHeader) = Header.toWeb { dh := s.dhs.pub, pn := s.pn, n := s.ns, raw := raw } := by
    intro raw
    simp only [Header.toWeb, h.dhs, h.sent.toNat hsent, h.previousSent.toNat hprev]
  unfold RatchetSession.encrypt Session.encrypt
  simp only [h.sendingChainKey, hcks, hhdr, marshalHeader_toWeb, getD_some]
  exact ⟨{ t with sendingChainKey := some (kdfCK P ck).1, sent := increment t.sent }, rfl, { h with
    sendingChainKey := rfl
    sent := h.sent.succ hsent
    cks_size := sized (kdfCK_fst_length P _) }⟩

/-- Both sessions open a frame, with the same plaintext, or both refuse it. -/
def SameDecrypt (a : Except SessionError Bytes × Session)
    (b : Except RatchetError Bytes × RatchetSession) : Prop :=
  Outcome.ofResult a.1 = Outcome.ofResult b.1 ∧ Mirrors a.2 b.2

lemma Mirrors.decrypt (h : Mirrors s t) (keys : Option KeyPair)
    (hcompat : t.Compatible P (.decrypt hdr ct)) :
    SameDecrypt (s.decrypt P keys hdr ct) (t.decrypt P keys hdr.toWeb ct) := by
  unfold Session.decrypt RatchetSession.decrypt
  rcases h.trySkipped P hdr ct with ⟨hgo, hweb⟩ | ⟨a, b, hgo, hweb, hsame⟩
  · rcases hcompat (by rw [hweb]; rfl) with ⟨hrecv, hlate⟩
    have hstep : InStep s t := ⟨h, hrecv⟩
    have hn : hdr.toWeb.n = t.received ↔ hdr.n = s.nr := by
      rw [← h.received.toNat hrecv]
      exact UInt32.toNat_inj
    simp only [hgo, hweb, hn, h.receivingChainKey, toWeb_dh, h.sameDhr]
    by_cases hnext : s.ckr ≠ none ∧ s.sameDHr hdr.dh = true ∧ hdr.n = s.nr
    · rw [if_pos hnext, if_pos hnext]
      rcases ne_none_iff_exists'.mp hnext.1 with ⟨_, hck⟩
      simp only [hck, getD_some]
      rcases hstep.openNext (P := P) hck hdr ct with ⟨hno, hno'⟩ | ⟨_, _, hopen, hopen', hst⟩
      · simp only [hno, hno']
        exact ⟨rfl, h⟩
      · simp only [hopen, hopen']
        exact ⟨rfl, hst⟩
    · rw [if_neg hnext, if_neg hnext]
      simp only [h.trial]
      have hadv := hstep.advance keys hlate
      generalize s.advance P keys hdr ct = goResult at hadv ⊢
      generalize t.advance P keys hdr.toWeb ct = webResult at hadv ⊢
      cases hadv with
      | error => exact ⟨rfl, h⟩
      | ok hopening => exact ⟨congrArg Outcome.opened hopening.1, hopening.2⟩
  · simp only [hgo, hweb]
    exact ⟨congrArg Outcome.opened hsame.1, hsame.2⟩

lemma Mirrors.drawsKey (h : Mirrors s t) (hcompat : t.Compatible P (.decrypt hdr ct)) :
    s.drawsKey P hdr ct = t.drawsKey P hdr.toWeb ct := by
  unfold Session.drawsKey RatchetSession.drawsKey
  rw [toWeb_dh, h.sameDhr]
  rcases h.trySkipped P hdr ct with ⟨hgo, hweb⟩ | ⟨a, b, hgo, hweb, -⟩
  · rcases hcompat (by rw [hweb]; rfl) with ⟨hrecv, hlate⟩
    have hstep : InStep s t := ⟨h, hrecv⟩
    rw [hgo, hweb]
    cases hsame : s.sameDHr hdr.dh with
    | true => rfl
    | false =>
      by_cases hbehind : s.ckr ≠ none ∧ Behind t.received hdr.pn.toNat
      · rcases hbehind with ⟨hckr, hbehind⟩
        rw [hstep.webReceive_behind hckr hbehind, ratchetReceive_isOk,
          (hstep.skipMessageKeys_behind (P := P) hckr hbehind).1]
        unfold RatchetSession.LateFrame at hlate
        rw [toWeb_dh, h.sameDhr, hsame, h.receivingChainKey] at hlate
        cases hdh : (diffieHellman P t.dhs.priv hdr.dh).isOk with
        | false => rfl
        | true => exact absurd ⟨hckr, hbehind, hdh⟩ hlate
      · have hagree := (hstep.skipMessageKeys (P := P) hdr.pn
          fun hckr hb => hbehind ⟨hckr, hb⟩).bind
            fun s' t' hst => hst.ratchetReceive (P := P) hdr
        rw [hagree.isOk_eq]
        rfl
  · rw [hgo, hweb]
    rfl

end Steps

/-- Driven sessions in corresponding states. -/
def Together (e : Driven Session) : Prop :=
  Mirrors e.session d.session ∧ e.draws = d.draws

/-- One compatible request has the same outcome on both sides and leaves them in
corresponding states. -/
lemma Together.step {P : Primitives} {d : Driven RatchetSession} {e : Driven Session}
    (h : Together d e) (keys : Nat → Option KeyPair) {r : Request} (hr : d.session.Compatible P r) :
    (webStep P keys d r).1 = (goStep P keys e r).1 ∧
      Together (webStep P keys d r).2 (goStep P keys e r).2 := by
  rcases h with ⟨hmir, hdraws⟩
  cases r with
  | encrypt plaintext =>
    rcases hr with ⟨hchain, hsent, hprev⟩
    rw [hmir.sendingChainKey] at hchain
    rcases ne_none_iff_exists'.mp hchain with ⟨_, hck⟩
    rcases hmir.encrypt (P := P) hck hsent hprev plaintext with ⟨_, hweb, ht'⟩
    simp only [webStep, goStep, hweb]
    exact ⟨trivial, ht', hdraws⟩
  | decrypt =>
    rcases hmir.decrypt (keys d.draws) hr with ⟨hout, hnext⟩
    simp only [webStep, goStep, hdraws, hmir.drawsKey hr]
    exact ⟨hout.symm, hnext, rfl⟩

/-- Fresh sessions of one role correspond; neither exists without the other. -/
lemma start_together : (webStart P sk keys role = none ∧ goStart P sk keys role = none) ∨
      ∃ d e, webStart P sk keys role = some d ∧ goStart P sk keys role = some e ∧ Together d e := by
  cases role with
  | responder =>
    refine Or.inr ⟨_, _, rfl, rfl, ?_, rfl⟩
    exact {
      dhs := rfl, dhr := rfl, rootKey := rfl, sendingChainKey := rfl, receivingChainKey := rfl
      sent := Shows.zero, received := Shows.zero, previousSent := Shows.zero
      skipped := EvictingMap.SameBindings.empty
      dhr_size := fun _ h => absurd h (some_ne_none _).symm
      cks_size := fun _ h => absurd h (some_ne_none _).symm
      ckr_size := fun _ h => absurd h (some_ne_none _).symm
      chained := fun h => absurd rfl h }
  | initiator spk =>
    unfold webStart goStart newInitiatorSession RatchetSession.initiator diffieHellman
      publicKeyFromBytes
    by_cases hlen : spk.length = 32
    · cases keys 0 with
      | none => simp [hlen, Except.toOption]
      | some dhs =>
        cases hdh : P.x25519 dhs.priv spk with
        | none =>
          left
          simp only [hlen, if_true, hdh]
          exact ⟨rfl, rfl⟩
        | some =>
          right
          simp only [hlen, if_true, hdh]
          refine ⟨_, _, rfl, rfl, ?_, rfl⟩
          exact {
            dhs := rfl, dhr := rfl, rootKey := rfl, sendingChainKey := rfl
            receivingChainKey := rfl
            sent := Shows.zero, received := Shows.zero, previousSent := Shows.zero
            skipped := EvictingMap.SameBindings.empty
            dhr_size := sized hlen
            cks_size := sized (kdfRK_snd_length P _ _)
            ckr_size := fun _ h => absurd h (some_ne_none _).symm
            chained := fun h => absurd rfl h }
    · left
      simp only [hlen, if_false]
      cases keys 0 with
      | none | some => exact ⟨rfl, rfl⟩

/-- A run of the TypeScript session on compatible requests only. -/
def CompatibleRun : Prop :=
  ∀ d, webStart P sk keys role = some d →
    Guarded (webStep P keys) (fun d r => d.session.Compatible P r) d requests

/-- The two sessions, started in either role from one secret and fed the same requests and key
pairs, give the same outcomes as long as every request is compatible. -/
theorem interchangeable {P : Primitives} {sk : Bytes} {keys : Nat → Option KeyPair} {role : Role}
    {requests : List Request} (h : CompatibleRun P sk keys role requests) :
    goRun P sk keys role requests = webRun P sk keys role requests := by
  unfold goRun webRun
  rcases start_together P sk keys role with ⟨hweb, hgo⟩ | ⟨d, e, hweb, hgo, hde⟩
  · rw [hweb, hgo]
    rfl
  · rw [hweb, hgo]
    apply congrArg some
    exact (outputs_eq_of_simulation _ (fun _ _ _ hst hr => hst.step keys hr) hde (h d hweb)).symm

section

open Sample

/-- A responder gets the first two frames in the wrong order and one of them twice,
and answers. -/
def answerRequests : List Request :=
  [.decrypt (frame 1 [4, 5]).1 (frame 1 [4, 5]).2, .decrypt (frame 0 [3]).1 (frame 0 [3]).2,
    .decrypt (frame 0 [3]).1 (frame 0 [3]).2, .encrypt [6]]

theorem interchangeable_answer :
    CompatibleRun primitives secret (fun _ => some replyKey) (.responder preKey) answerRequests ∧
      goRun primitives secret (fun _ => some replyKey) (.responder preKey) answerRequests =
        webRun primitives secret (fun _ => some replyKey) (.responder preKey) answerRequests := by
  have hrun : CompatibleRun primitives secret (fun _ => some replyKey) (.responder preKey)
      answerRequests := by
    intro d hd
    rw [← Option.some.inj hd]
    decide +kernel
  exact ⟨hrun, interchangeable hrun⟩

end

/-! ## Other requests -/

section Late

variable {P : Primitives} {s : Session} {t : RatchetSession} {hdr : Header} {ct : Bytes}

variable (h : InStep s t)
include h

lemma InStep.ne_next (hbehind : Behind t.received hdr.n.toNat) : hdr.n ≠ s.nr := by
  intro hn
  have hnr := h.received.toNat h.received_lt
  have hlt := hbehind.1
  rw [hn, hnr] at hlt
  exact absurd hlt (Nat.lt_irrefl _)

lemma InStep.decrypt_late_go (hckr : s.ckr ≠ none) (hstored : s.trySkipped P hdr ct = none)
    (hsame : s.sameDHr hdr.dh = true) (hbehind : Behind t.received hdr.n.toNat)
    {keys : Option KeyPair} : s.decrypt P keys hdr ct = (.error .tooManySkipped, s) := by
  have hfirst : Behind t.received (s.firstSkip hdr).toNat := by
    unfold Session.firstSkip
    rw [hsame]
    exact hbehind
  unfold Session.decrypt
  simp only [hstored, h.advance_behind hckr hfirst]
  rw [if_neg (fun hnext => h.ne_next hbehind hnext.2.2)]

/-- The TypeScript session opens it when the next key of the chain does. -/
lemma InStep.decrypt_late_web (hckr : s.ckr ≠ none)
    (hstored : (t.trySkipped P hdr.toWeb ct).isNone) (hsame : s.sameDHr hdr.dh = true)
    (hbehind : Behind t.received hdr.n.toNat) (hopen : (t.openNext P hdr.toWeb ct).isOk)
    (keys : Option KeyPair) : ∃ pt t', t.decrypt P keys hdr.toWeb ct = (.ok pt, t') := by
  unfold RatchetSession.decrypt
  simp only [Option.isNone_iff_eq_none.mp hstored, h.trial,
    h.webAdvance_same hckr hsame hbehind keys]
  rw [if_neg (fun hnext => Nat.ne_of_lt hbehind.1 hnext.2.2)]
  cases hres : t.openNext P hdr.toWeb ct with
  | error =>
    rw [hres] at hopen
    exact absurd hopen Bool.false_ne_true
  | ok => exact ⟨_, _, rfl⟩

end Late

/-- On a request that is not compatible the two differ, in the outcome or in
having drawn a key pair. -/
theorem agree_iff_compatible {P : Primitives} {s : Session} {t : RatchetSession} (h : InStep s t)
    (keys : Nat → Option KeyPair) (draws : Nat) (r : Request) :
    ((webStep P keys ⟨t, draws⟩ r).1 = (goStep P keys ⟨s, draws⟩ r).1 ∧
      (webStep P keys ⟨t, draws⟩ r).2.draws = (goStep P keys ⟨s, draws⟩ r).2.draws) ↔
    t.Compatible P r := by
  constructor
  · rintro ⟨hout, hdraws⟩
    cases r with
    | encrypt =>
      unfold webStep goStep RatchetSession.encrypt at hout
      cases hchain : t.sendingChainKey with
      | none => simp [hchain] at hout
      | some =>
        simp only [hchain, Session.encrypt, Header.toWeb, Outcome.sealed.injEq,
          RatchetHeader.mk.injEq] at hout
        rcases hout with ⟨⟨-, hpn, hn, -⟩, -⟩
        refine ⟨by rw [hchain]; exact some_ne_none _, ?_, ?_⟩
        · rw [hn]
          exact s.ns.toNat_lt
        · rw [hpn]
          exact s.pn.toNat_lt
    | decrypt hdr ct =>
      intro hnone
      refine ⟨h.received_lt, ?_⟩
      rintro ⟨hckr, hlate⟩
      rw [h.receivingChainKey] at hckr
      have hstored := h.trySkipped P hdr ct
      rw [Option.isNone_iff_eq_none.mp hnone] at hstored
      simp only [and_true, reduceCtorEq, false_and, and_false, exists_false, or_false] at hstored
      rw [toWeb_dh, h.sameDhr] at hlate
      cases hsame : s.sameDHr hdr.dh with
      | true =>
        -- The TypeScript session opens what the Go session refuses.
        simp only [hsame, if_true] at hlate
        rcases hlate with ⟨hbehind, hopen⟩
        rw [webStep, goStep, h.decrypt_late_go hckr hstored hsame hbehind] at hout
        rcases h.decrypt_late_web hckr hnone hsame hbehind hopen (keys draws) with
          ⟨_, _, hweb⟩
        rw [hweb] at hout
        exact absurd hout (by simp [Outcome.ofResult])
      | false =>
        -- The TypeScript session draws a key pair that the Go session does not.
        simp only [hsame, Bool.false_eq_true, if_false] at hlate
        rcases hlate with ⟨hbehind, hdh⟩
        have hgo : s.drawsKey P hdr ct = false := by
          unfold Session.drawsKey
          rw [(h.skipMessageKeys_behind (P := P) hckr hbehind).1]
          exact Bool.and_false _
        have hweb : t.drawsKey P hdr.toWeb ct = true := by
          unfold RatchetSession.drawsKey
          rw [hnone, toWeb_dh, h.sameDhr, hsame,
            h.webReceive_behind hckr hbehind, ratchetReceive_isOk, hdh]
          rfl
        simp [webStep, goStep, hgo, hweb] at hdraws
  · intro hr
    have htogether : Together ⟨t, draws⟩ ⟨s, draws⟩ := ⟨h.toMirrors, rfl⟩
    rcases htogether.step keys hr with ⟨hout, hnext⟩
    exact ⟨hout, hnext.2.symm⟩

open Sample in
theorem agree_iff_compatible_responder :
    (webStep primitives (fun _ => none) ⟨.responder secret preKey, 0⟩ (.encrypt [])).1 ≠
      (goStep primitives (fun _ => none) ⟨newResponderSession secret preKey, 0⟩
        (.encrypt [])).1 := by
  rcases (start_together primitives secret (fun _ => none) (.responder preKey)).resolve_left nofun
    with ⟨_, _, ⟨⟩, ⟨⟩, hmir, -⟩
  intro hout
  have hagree := (agree_iff_compatible ⟨hmir, by decide⟩ _ 0 _).mp ⟨hout, rfl⟩
  exact absurd hagree (by decide)

open Sample in
/-- A responder that sends before it has received: the Go session seals a frame,
the TypeScript session refuses. -/
theorem responder_sends_first :
    goRun primitives secret (fun _ => some replyKey) (.responder preKey) [.encrypt []] ≠
      webRun primitives secret (fun _ => some replyKey) (.responder preKey) [.encrypt []] := by
  decide +kernel

end SyncApp.Ratchet
