import SyncApp.Ratchet.Sample

/-!
# Which keys a session seals under

`Encrypt` does not check that there is a sending chain, so a responder that has not received seals
under a key derived from nothing; the TypeScript peer refuses.

Main results:

- `encrypt_key_secret_iff`: when the key of a call comes from the shared secret.
-/

namespace SyncApp.Ratchet

open Foundations
open KeyChain (advance advance_succ keyAt)
open Session (call sendingKey skipBy_fixed skipMessageKeys_eq_ok)

/-- Root keys reached from the shared secret by ratchet steps. -/
inductive SecretRoot (P : Primitives) (sk : Bytes) : Bytes → Prop where
  | shared : SecretRoot P sk sk
  | ratchet {rk priv pub dhOut : Bytes} (hrk : SecretRoot P sk rk)
      (hdh : P.x25519 priv pub = some dhOut) : SecretRoot P sk (kdfRK P rk dhOut).1

/-- Chain keys derived from such a root key and a DH output. -/
inductive SecretChain (P : Primitives) (sk : Bytes) : Bytes → Prop where
  | start {rk priv pub dhOut : Bytes} (hrk : SecretRoot P sk rk)
      (hdh : P.x25519 priv pub = some dhOut) : SecretChain P sk (kdfRK P rk dhOut).2
  | step {ck : Bytes} (hck : SecretChain P sk ck) : SecretChain P sk (kdfCK P ck).1

/-- Message keys taken from such a chain. -/
def SecretMessageKey (P : Primitives) (sk key : Bytes) : Prop :=
  ∃ ck, SecretChain P sk ck ∧ key = (kdfCK P ck).2

/-! ## The two kinds of reachable sessions -/

/-- A responder that has opened nothing yet: it has no peer key and no receiving
chain, and whatever it sent came from a chain that starts at the empty key. -/
structure Waiting (P : Primitives) (sk : Bytes) (s : Session) : Prop where
  root : s.rk = sk
  noPeer : s.dhr = none
  noChain : s.ckr = none
  noSkipped : s.skipped = .empty
  sending : ∃ k, s.cks.getD [] = advance (kdfCK P) k []

/-- A session whose root key and sending chain come from the shared secret. -/
structure Established (P : Primitives) (sk : Bytes) (s : Session) : Prop where
  root : SecretRoot P sk s.rk
  peer : s.dhr ≠ none
  sending : ∃ ck, s.cks = some ck ∧ SecretChain P sk ck

variable {P : Primitives} {s : Session} {sk : Bytes}

lemma Created.waiting_or_established (h : Created P sk s) :
    Waiting P sk s ∨ Established P sk s := by
  cases h with
  | initiator hnew =>
    rcases newInitiatorSession_eq_ok hnew with ⟨-, _, _, -, hdh, rfl⟩
    right
    exact ⟨.ratchet .shared hdh, by simp, _, rfl, .start .shared hdh⟩
  | responder =>
    left
    exact ⟨rfl, rfl, rfl, rfl, 0, rfl⟩

/-- Skipping keys and ratcheting keep an established session established. -/
lemma Established.caughtUp {t : Session} {keys : Option KeyPair} {hdr : Header}
    (h : SecretRoot P sk s.rk) (hsame : s.sameDHr hdr.dh = true → Established P sk s)
    (hcatch : Session.CaughtUp P s keys hdr t) : Established P sk t := by
  cases hcatch with
  | same hdh hskip =>
    rcases skipMessageKeys_eq_ok hskip with ⟨-, rfl⟩
    rcases hsame hdh with ⟨hroot, hpeer, hsend⟩
    rcases skipBy_fixed P (s.skipCount hdr.n) s with ⟨-, hdhr, hrk, hcks, -, -⟩
    exact ⟨hrk ▸ hroot, hdhr ▸ hpeer, hcks ▸ hsend⟩
  | @ratchet s₁ s₂ s₃ _ _ hold hreceive hsend hskip =>
    rcases skipMessageKeys_eq_ok hold with ⟨-, rfl⟩
    rcases Session.ratchetReceive_eq_ok hreceive with ⟨-, _, hdh, rfl⟩
    rcases Session.ratchetSend_eq_ok hsend with ⟨_, _, -, hdh', rfl⟩
    rcases skipMessageKeys_eq_ok hskip with ⟨-, rfl⟩
    have hroot : SecretRoot P sk (s.skipBy P (s.skipCount hdr.pn)).rk := by
      rw [(skipBy_fixed P _ s).2.2.1]
      exact h
    have hrecv := SecretRoot.ratchet hroot hdh
    refine ⟨?_, ?_, _, ?_, SecretChain.start hrecv hdh'⟩
    · rw [(skipBy_fixed P _ _).2.2.1]
      exact .ratchet hrecv hdh'
    · rw [(skipBy_fixed P _ _).2.1]
      simp
    · exact (skipBy_fixed P _ _).2.2.2.1

/-- One call keeps a session waiting or makes it established, and an established
session stays so. -/
lemma waiting_or_established_call (s : Session) (c : Call)
    (h : Waiting P sk s ∨ Established P sk s) :
    Waiting P sk (s.call P c).2 ∨ Established P sk (s.call P c).2 := by
  cases c with
  | encrypt =>
    rcases h with hw | he
    · left
      rcases hw.sending with ⟨k, hk⟩
      refine ⟨hw.root, hw.noPeer, hw.noChain, hw.noSkipped, k + 1, ?_⟩
      rw [advance_succ, ← hk]
      rfl
    · right
      rcases he.sending with ⟨ck, hck, hsec⟩
      refine ⟨he.root, he.peer, _, rfl, ?_⟩
      simpa [hck] using SecretChain.step hsec
  | decrypt keys hdr ct =>
    have hcases := Session.decrypt_cases P s keys hdr ct
    simp only [call]
    generalize s.decrypt P keys hdr ct = r at hcases ⊢
    cases hcases with
    | refused => exact h
    | stored hlook =>
      rcases h with hw | he
      · rw [hw.noSkipped, EvictingMap.lookup_empty] at hlook
        contradiction
      · exact Or.inr { he with }
    | next hckr =>
      rcases h with hw | he
      · rw [hw.noChain] at hckr
        contradiction
      · exact Or.inr { he with }
    | @caughtUp t ck pt hcatch hckr hopen =>
      have hroot : SecretRoot P sk s.rk := by
        rcases h with hw | he
        · rw [hw.root]
          exact .shared
        · exact he.root
      have hsame : s.sameDHr hdr.dh = true → Established P sk s := by
        intro hdh
        rcases h with hw | he
        · simp [Session.sameDHr, hw.noPeer] at hdh
        · exact he
      have ht := Established.caughtUp hroot hsame hcatch
      exact Or.inr { ht with }

/-- In every reachable session, `Encrypt` seals under `sendingKey`, which comes from the shared
secret exactly when the session has a peer ratchet key.  The keys of the empty chain key are not by
accident keys of the secret. -/
theorem encrypt_key_secret_iff {P : Primitives} {sk : Bytes} {s₀ : Session} (hnew : Created P sk s₀)
    (hpublic : ∀ k, ¬ SecretMessageKey P sk (keyAt (kdfCK P) [] k))
    (calls : List Call) (plaintext : Bytes) : ((s₀.after P calls).encrypt P plaintext).1.2 =
        aeadSeal P ((s₀.after P calls).sendingKey P)
          ((s₀.after P calls).encrypt P plaintext).1.1.bytes plaintext ∧
      (SecretMessageKey P sk ((s₀.after P calls).sendingKey P) ↔
        (s₀.after P calls).dhr ≠ none) := by
  have hinv : Waiting P sk (s₀.after P calls) ∨ Established P sk (s₀.after P calls) :=
    Machine.invariant_final (call P) waiting_or_established_call hnew.waiting_or_established calls
  refine ⟨rfl, ?_⟩
  rcases hinv with hw | he
  · rcases hw.sending with ⟨k, hk⟩
    constructor
    · intro hsec
      rw [sendingKey, hk] at hsec
      exact absurd hsec (hpublic k)
    · intro hpeer
      exact absurd hw.noPeer hpeer
  · rcases he.sending with ⟨ck, hck, hsec⟩
    constructor
    · intro _
      exact he.peer
    · intro _
      exact ⟨ck, hsec, by simp [sendingKey, hck]⟩

namespace Sample

lemma secretChain_marked {sk ck : Bytes} (h : SecretChain primitives sk ck) :
    ck.getD 31 0 = 1 := by
  induction h with
  | start => simp [kdfRK, primitives, mark, List.getD_eq_getElem?_getD]
  | step hck ih => simpa [kdfCK, primitives, List.getD_eq_getElem?_getD] using ih

lemma empty_chain_unmarked (k : Nat) : (advance (kdfCK primitives) k []).getD 31 0 = 0 := by
  induction k with
  | zero => rfl
  | succ k ih =>
    rw [advance_succ]
    simpa [kdfCK, primitives, List.getD_eq_getElem?_getD] using ih

/-- No key of the empty chain is a key of the secret. -/
lemma empty_chain_not_secret (sk : Bytes) (k : Nat) :
    ¬ SecretMessageKey primitives sk (keyAt (kdfCK primitives) [] k) := by
  rintro ⟨ck, hck, hkey⟩
  have hsec : ((kdfCK primitives ck).2).getD 31 0 = 1 := by
    simpa [kdfCK, primitives, List.getD_eq_getElem?_getD] using secretChain_marked hck
  have hpublic : (keyAt (kdfCK primitives) [] k).getD 31 0 = 0 := by
    simpa [keyAt, kdfCK, primitives, List.getD_eq_getElem?_getD] using empty_chain_unmarked k
  rw [hkey, hsec] at hpublic
  contradiction

end Sample

/-- A fresh responder: the theorem applies, and the session has no peer key. -/
theorem encrypt_key_secret_iff_responder : ¬ SecretMessageKey Sample.primitives Sample.secret
      ((Sample.bob.after Sample.primitives []).sendingKey Sample.primitives) := by
  intro hsec
  have h := encrypt_key_secret_iff (.responder Sample.preKey)
    (Sample.empty_chain_not_secret Sample.secret) [] []
  exact (h.2.mp hsec) rfl

/-- Not every ciphertext of a reachable session is sealed under a key of the
shared secret: a responder's first `Encrypt` is not. -/
theorem responder_first_key_not_secret :
    ¬ ∀ (P : Primitives) (sk : Bytes) (s₀ : Session) (calls : List Call),
      Created P sk s₀ → SecretMessageKey P sk ((s₀.after P calls).sendingKey P) := by
  intro h
  have hsec := h Sample.primitives Sample.secret _ [] (.responder Sample.preKey)
  exact Sample.empty_chain_not_secret Sample.secret 0 hsec

end SyncApp.Ratchet
