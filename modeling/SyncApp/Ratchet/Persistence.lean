import SyncApp.Ratchet.Sample
import SyncApp.Ratchet.TypeScript

/-!
# Web sessions that are saved and loaded

No key of a web session is ever the empty string, whatever calls were made on it.

Main results:

- `reload_transparent`: `deserialize` gives back what `serialize` was given, after every run.
-/

namespace SyncApp.Ratchet
namespace Web
namespace RatchetSession

open Foundations

variable {P : Primitives} {s s' : RatchetSession} {header : RatchetHeader} {ct pt : Bytes}

/-! ## What a frame does to the sending chain -/

/-- No key that a session holds is the empty string. -/
structure Keyed (s : RatchetSession) : Prop where
  dhr : s.dhr ≠ some []
  sending : s.sendingChainKey ≠ some []
  receiving : s.receivingChainKey ≠ some []

lemma Keyed.trial (h : s.Keyed) : deserialize s.serialize = some s :=
  deserialize_serialize h.dhr h.sending h.receiving

lemma some_ne_nil {b : Bytes} (h : b.length = 32) : some b ≠ some [] := by
  intro heq
  cases heq
  cases h

lemma kdfRootKey_snd_length (P : Primitives) (rootKey dhOut : Bytes) :
    (kdfRootKey P rootKey dhOut).2.length = 32 := by
  simp [kdfRootKey, P.hkdf_length]

lemma kdfChainKey_fst_length (P : Primitives) (chainKey : Bytes) :
    (kdfChainKey P chainKey).1.length = 32 :=
  P.hmac_length _ _

variable {secret : Bytes} {s'' : RatchetSession} {keySource : Option KeyPair}

lemma diffieHellman_length {priv pub : Bytes} (h : diffieHellman P priv pub = .ok secret) :
    pub.length = 32 := by
  unfold diffieHellman at h
  split at h
  · assumption
  · cases h

/-- The sending chain is where it was. -/
structure SameChain (s s' : RatchetSession) : Prop where
  dhs : s'.dhs = s.dhs
  sending : s'.sendingChainKey = s.sendingChainKey
  sent : s'.sent = s.sent

/-- The sending chain is the one that a key pair has just begun. -/
structure NewChain (keySource : Option KeyPair) (s' : RatchetSession) : Prop where
  dhs : keySource = some s'.dhs
  sending : s'.sendingChainKey.isSome = true
  sent : s'.sent = 0

lemma SameChain.trans (h : SameChain s s') (h' : SameChain s' s'') : SameChain s s'' :=
  ⟨h'.dhs.trans h.dhs, h'.sending.trans h.sending, h'.sent.trans h.sent⟩

lemma NewChain.same (h : NewChain keySource s) (hsame : SameChain s s') :
    NewChain keySource s' where
  dhs := by rw [h.dhs, hsame.dhs]
  sending := by rw [hsame.sending, h.sending]
  sent := hsame.sent.trans h.sent

/-- A session after a call that only reads frames. -/
structure Reads (s s' : RatchetSession) : Prop extends SameChain s s' where
  keyed : s'.Keyed

lemma Reads.trans (h : Reads s s') (h' : Reads s' s'') : Reads s s'' :=
  ⟨h.toSameChain.trans h'.toSameChain, h'.keyed⟩

section

variable (h : s.Keyed)
include h

lemma Keyed.reads : Reads s s := ⟨⟨rfl, rfl, rfl⟩, h⟩

lemma Keyed.skipOne (P : Primitives) : Reads s (s.skipOne P) :=
  ⟨⟨rfl, rfl, rfl⟩, h.dhr, h.sending, some_ne_nil (kdfChainKey_fst_length P _)⟩

lemma Keyed.skipLoop (P : Primitives) (upTo fuel : Nat) : Reads s (s.skipLoop P upTo fuel) := by
  induction fuel generalizing s with
  | zero => exact h.reads
  | succ fuel ih =>
    unfold RatchetSession.skipLoop
    split
    · exact (h.skipOne P).trans (ih (h.skipOne P).keyed)
    · exact h.reads

lemma Keyed.skipMessageKeys {upTo : Nat} (hskip : s.skipMessageKeys P upTo = .ok s') :
    Reads s s' := by
  unfold RatchetSession.skipMessageKeys at hskip
  split at hskip
  · cases hskip
    exact h.reads
  split at hskip
  · cases hskip
  cases hskip
  exact h.skipLoop P _ _

lemma Keyed.openNext (hopen : s.openNext P header ct = .ok (pt, s')) : Reads s s' := by
  unfold RatchetSession.openNext at hopen
  split at hopen
  · cases hopen
  dsimp only at hopen
  split at hopen
  · cases hopen
  cases hopen
  exact ⟨⟨rfl, rfl, rfl⟩, h.dhr, h.sending, some_ne_nil (kdfChainKey_fst_length P _)⟩

lemma Keyed.trySkipped (htry : s.trySkipped P header ct = some (pt, s')) : Reads s s' := by
  unfold RatchetSession.trySkipped at htry
  dsimp only at htry
  split at htry
  · cases htry
  split at htry
  · cases htry
  cases htry
  exact ⟨⟨rfl, rfl, rfl⟩, h.dhr, h.sending, h.receiving⟩

lemma Keyed.ratchetReceive (hreceive : s.ratchetReceive P header = .ok s') :
    s'.Keyed ∧ s'.sent = 0 := by
  unfold RatchetSession.ratchetReceive at hreceive
  rcases Machine.bind_eq_ok.mp hreceive with ⟨_, hdh, hout⟩
  cases hout
  exact ⟨⟨some_ne_nil (diffieHellman_length hdh), h.sending,
    some_ne_nil (kdfRootKey_snd_length P _ _)⟩, rfl⟩

lemma Keyed.ratchetSend (hsent : s.sent = 0) (hsend : s.ratchetSend P keySource = .ok s') :
    s'.Keyed ∧ NewChain keySource s' := by
  unfold RatchetSession.ratchetSend at hsend
  split at hsend
  · cases hsend
  · rcases Machine.bind_eq_ok.mp hsend with ⟨_, -, hout⟩
    cases hout
    exact ⟨⟨h.dhr, some_ne_nil (kdfRootKey_snd_length P _ _), h.receiving⟩, rfl, rfl, hsent⟩

/-- Catching up with the same ratchet key skips; a new one begins a sending chain. -/
lemma Keyed.catchUp (hcatch : s.catchUp P keySource header = .ok s') :
    s'.Keyed ∧ (s.sameDhr header.dh = true → SameChain s s') ∧
      (s.sameDhr header.dh = false → NewChain keySource s') := by
  unfold RatchetSession.catchUp at hcatch
  cases hsame : s.sameDhr header.dh with
  | true =>
    simp only [hsame, if_true, pure_bind] at hcatch
    have hreads := h.skipMessageKeys hcatch
    exact ⟨hreads.keyed, fun _ => hreads.toSameChain, nofun⟩
  | false =>
    simp only [hsame, Bool.false_eq_true, if_false, dhRatchet, Machine.bind_eq_ok] at hcatch
    rcases hcatch with ⟨_, hskip, _, ⟨_, hreceive, hsend⟩, hcatch⟩
    rcases (h.skipMessageKeys hskip).keyed.ratchetReceive hreceive with ⟨hrecv, hsent⟩
    rcases hrecv.ratchetSend hsent hsend with ⟨hkeyed, hnew⟩
    have hreads := hkeyed.skipMessageKeys hcatch
    exact ⟨hreads.keyed, nofun, fun _ => hnew.same hreads.toSameChain⟩

end

/-- Whether a frame, if it opens, begins a new sending chain. -/
def startsChain (P : Primitives) (s : RatchetSession) (header : RatchetHeader) (ct : Bytes) :
    Bool :=
  (s.trySkipped P header ct).isNone && !s.sameDhr header.dh

/-- A frame that opens leaves the sending chain alone, or begins a new one. -/
lemma decrypt_sending (h : s.Keyed) (hopen : s.decrypt P keySource header ct = (.ok pt, s')) :
    s'.Keyed ∧ (s.startsChain P header ct = false → SameChain s s') ∧
      (s.startsChain P header ct = true → NewChain keySource s') := by
  unfold decrypt at hopen
  unfold startsChain
  cases htry : s.trySkipped P header ct with
  | some =>
    simp only [htry] at hopen
    cases hopen
    have hreads := h.trySkipped htry
    exact ⟨hreads.keyed, fun _ => hreads.toSameChain, nofun⟩
  | none =>
    simp only [htry] at hopen
    simp only [Option.isNone_none, Bool.true_and, Bool.not_eq_eq_eq_not, Bool.not_true,
      Bool.not_false]
    split at hopen
    · next hnext =>
      split at hopen
      · cases hopen
      · next hopened =>
        cases hopen
        have hreads := h.openNext hopened
        refine ⟨hreads.keyed, fun _ => hreads.toSameChain, fun hfalse => ?_⟩
        rw [hnext.2.1] at hfalse
        cases hfalse
    · simp only [h.trial] at hopen
      split at hopen
      · cases hopen
      · next hadv =>
        cases hopen
        rcases Machine.bind_eq_ok.mp hadv with ⟨_, hcatch, hnext⟩
        rcases h.catchUp hcatch with ⟨hkeyed, hsame, hnew⟩
        have hreads := hkeyed.openNext hnext
        exact ⟨hreads.keyed, fun htrue => (hsame htrue).trans hreads.toSameChain,
          fun hfalse => (hnew hfalse).same hreads.toSameChain⟩

lemma encrypt_ok {out : RatchetHeader × Bytes} (h : s.Keyed)
    (hseal : s.encrypt P pt = .ok (out, s')) :
    s'.Keyed ∧ s.sendingChainKey.isSome = true ∧ s'.sendingChainKey.isSome = true ∧
      s'.dhs = s.dhs ∧ s'.sent = increment s.sent ∧ out.1.dh = s.dhs.pub ∧ out.1.n = s.sent := by
  unfold encrypt at hseal
  split at hseal
  · cases hseal
  · next chainKey hsending =>
    cases hseal
    have hkeyed : Keyed { s with
        sendingChainKey := some (kdfChainKey P chainKey).1
        sent := increment s.sent } :=
      ⟨h.dhr, some_ne_nil (kdfChainKey_fst_length P _), h.receiving⟩
    exact ⟨hkeyed, by rw [hsending]; rfl, rfl, rfl, rfl, rfl, rfl⟩

lemma initiator_ok {key : Bytes} (h : initiator P secret key keySource = .ok s) :
    s.Keyed ∧ NewChain keySource s := by
  unfold initiator at h
  split at h
  · cases h
  rcases Machine.bind_eq_ok.mp h with ⟨_, hdh, hout⟩
  cases hout
  exact ⟨⟨some_ne_nil (diffieHellman_length hdh),
    some_ne_nil (kdfRootKey_snd_length P _ _), by simp⟩, rfl, rfl, rfl⟩

lemma keyed_responder (secret : Bytes) (signedPreKey : KeyPair) :
    (responder secret signedPreKey).Keyed := ⟨nofun, nofun, nofun⟩

lemma decrypt_of_error {e : RatchetError} (h : (s.decrypt P keySource header ct).1 = .error e) :
    (s.decrypt P keySource header ct).2 = s := by
  revert h
  unfold decrypt
  split
  · exact nofun
  split
  · split
    · exact fun _ => rfl
    · exact nofun
  · split
    · exact fun _ => rfl
    split
    · exact fun _ => rfl
    · exact nofun

lemma Keyed.decrypt (h : s.Keyed) (P : Primitives) (keySource : Option KeyPair)
    (header : RatchetHeader) (ct : Bytes) : (s.decrypt P keySource header ct).2.Keyed := by
  cases hout : s.decrypt P keySource header ct with
  | mk result =>
    cases result with
    | error =>
      have hsame := decrypt_of_error (congrArg Prod.fst hout)
      rw [hout] at hsame
      rw [hsame]
      exact h
    | ok => exact (decrypt_sending h hout).1

/-- A session as the client makes one from a shared secret. -/
inductive Created (P : Primitives) : RatchetSession → Prop where
  | initiator {secret theirSignedPreKey : Bytes} {keySource : Option KeyPair} {s : RatchetSession}
      (h : initiator P secret theirSignedPreKey keySource = .ok s) : Created P s
  | responder (secret : Bytes) (signedPreKey : KeyPair) : Created P (responder secret signedPreKey)

inductive Call where
  | encrypt (plaintext : Bytes)
  | decrypt (keySource : Option KeyPair) (header : RatchetHeader) (ciphertext : Bytes)

/-- What a call returns or throws. -/
inductive Reply where
  | sealed (result : Except RatchetError (RatchetHeader × Bytes))
  | opened (result : Except RatchetError Bytes)

/-- One call, with the serialization of the session after it. -/
def call (P : Primitives) (s : RatchetSession) : Call → (Reply × SerializedSession) × RatchetSession
  | .encrypt plaintext =>
    match s.encrypt P plaintext with
    | .error e => ((.sealed (.error e), s.serialize), s)
    | .ok (out, s') => ((.sealed (.ok out), s'.serialize), s')
  | .decrypt keySource header ciphertext =>
    let out := s.decrypt P keySource header ciphertext
    ((.opened out.1, out.2.serialize), out.2)

abbrev after (P : Primitives) (s : RatchetSession) (calls : List Call) : RatchetSession :=
  Machine.final (call P) s calls

/-- What a list of calls returns, throws and leaves to be saved. -/
abbrev replies (P : Primitives) (s : RatchetSession) (calls : List Call) :
    List (Reply × SerializedSession) :=
  Machine.outputs (call P) s calls

lemma Created.keyed (h : Created P s) : s.Keyed := by
  cases h with
  | initiator h => exact (initiator_ok h).1
  | responder => exact keyed_responder ..

lemma Keyed.call (h : s.Keyed) (P : Primitives) (c : Call) : (s.call P c).2.Keyed := by
  cases c with
  | encrypt plaintext =>
    cases hseal : s.encrypt P plaintext with
    | error =>
      simp only [RatchetSession.call, hseal]
      exact h
    | ok =>
      simp only [RatchetSession.call, hseal]
      exact (encrypt_ok h hseal).1
  | decrypt => exact h.decrypt P ..

/-- No key of a session is empty after any calls, failing ones included. -/
lemma keyed_after (h : Created P s) (calls : List Call) : (s.after P calls).Keyed :=
  Machine.invariant_final (call P) (fun _ c hs => hs.call P c) h.keyed calls

end RatchetSession

/-- A session that any calls have led to is loaded as it was saved: every later sequence of calls
returns, throws and saves the same. -/
theorem reload_transparent {P : Primitives} {s₀ : RatchetSession}
    (h : RatchetSession.Created P s₀) (before : List RatchetSession.Call) :
    ∃ loaded, RatchetSession.deserialize (s₀.after P before).serialize = some loaded ∧
      ∀ calls, loaded.replies P calls = (s₀.after P before).replies P calls :=
  ⟨s₀.after P before, (RatchetSession.keyed_after h before).trial, fun _ => rfl⟩

namespace Sample

open Ratchet.Sample

/-- A frame as the other side's web client would read it. -/
def webHeader (n : Nat) : RatchetHeader where
  dh := firstKey.pub
  pn := 0
  n := n
  known := some (frame n []).1.bytes

/-- The responder's calls: a frame that overtook another, a forged one, and an answer. -/
def responderCalls : List RatchetSession.Call :=
  [.decrypt (some replyKey) (webHeader 1) (frame 1 [42]).2, .decrypt none (webHeader 0) [0],
    .encrypt [3]]

/-- After these calls a key is in store for the frame that is still to come, and the session that is
saved and loaded then opens it. -/
theorem reload_transparent_overtaken : ((RatchetSession.responder secret preKey).after primitives
        responderCalls).skipped.order.length = 1 ∧
    ∃ loaded, RatchetSession.deserialize ((RatchetSession.responder secret preKey).after primitives
        responderCalls).serialize = some loaded ∧ ∀ calls, loaded.replies primitives calls =
        ((RatchetSession.responder secret preKey).after primitives
          responderCalls).replies primitives calls :=
  ⟨by decide +kernel, reload_transparent (.responder secret preKey) responderCalls⟩

end Sample
end Web
end SyncApp.Ratchet
