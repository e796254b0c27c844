import SyncApp.Ratchet.Session

/-!
# Sequences of session calls

`Encrypt` and `Decrypt` calls with arbitrary arguments.  Those of `Decrypt` include what the key
source would give it, so two runs of the same calls use the same randomness.
-/

namespace SyncApp.Ratchet

open Foundations

inductive Call where
  | encrypt (plaintext : Bytes)
  | decrypt (keys : Option KeyPair) (hdr : Header) (ct : Bytes)

/-- What a call returns. -/
inductive Reply where
  | sealed (hdr : Header) (ct : Bytes)
  | opened (result : Except SessionError Bytes)

def Session.call (P : Primitives) (s : Session) : Call → Reply × Session
  | .encrypt plaintext =>
    let out := s.encrypt P plaintext
    (.sealed out.1.1 out.1.2, out.2)
  | .decrypt keys hdr ct =>
    let out := s.decrypt P keys hdr ct
    (.opened out.1, out.2)

abbrev Session.after (P : Primitives) (s : Session) (calls : List Call) : Session :=
  Machine.final (Session.call P) s calls

/-- A session as one of the two constructors makes it from a shared secret. -/
inductive Created (P : Primitives) (sk : Bytes) : Session → Prop where
  | initiator {theirSignedPreKey : Bytes} {keys : Option KeyPair} {s : Session}
      (h : newInitiatorSession P sk theirSignedPreKey keys = .ok s) : Created P sk s
  | responder (signedPreKey : KeyPair) : Created P sk (newResponderSession sk signedPreKey)

lemma newInitiatorSession_eq_ok {P : Primitives} {sk spk : Bytes}
    {keys : Option KeyPair} {s : Session} (h : newInitiatorSession P sk spk keys = .ok s) :
    spk.length = 32 ∧ ∃ dhs dhOut, keys = some dhs ∧ P.x25519 dhs.priv spk = some dhOut ∧
      s = { dhs := dhs, dhr := some spk, rk := (kdfRK P sk dhOut).1,
            cks := some (kdfRK P sk dhOut).2, ckr := none,
            ns := 0, nr := 0, pn := 0, skipped := .empty } := by
  unfold newInitiatorSession publicKeyFromBytes at h
  by_cases hlen : spk.length = 32
  · cases keys with
    | none => simp [hlen] at h
    | some dhs =>
      cases hdh : P.x25519 dhs.priv spk with
      | none => simp [hlen, hdh] at h
      | some dhOut =>
        simp only [hlen, if_true, hdh, Except.ok.injEq] at h
        exact ⟨hlen, dhs, dhOut, rfl, hdh, h.symm⟩
  · simp [hlen] at h

end SyncApp.Ratchet
