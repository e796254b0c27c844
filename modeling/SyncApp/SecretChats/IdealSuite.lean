import SyncApp.Ratchet.Ideal
import SyncApp.SecretChats.Mailbox
import SyncApp.SecretChats.Symbolic

/-!
# The suite under ideal primitives

The ratchet of the clients over terms, and X3DH as in `SyncApp.SecretChats.Symbolic`.  A session is
bound to the secret it was made from.

Main results:

- `route_openSecret`: which session or prekeys open a message.
-/

namespace SyncApp.SecretChats

open Foundations Ratchet Ratchet.Generic
open Symbolic (Agreement signature fresh)

variable (own : String)

def ephemeralKey (draw : Nat) : String := fresh (own ++ "*") draw

def ratchetPair (draw : Nat) : Ideal.Pair String := ⟨fresh own draw, draw⟩

lemma fresh_injective : Function.Injective (fresh own) := by
  intro i j h
  have hlist := congrArg (fun text => text.toList.length) h
  simpa [fresh] using hlist

/-- Sessions over terms. -/
abbrev Line : Type := Ideal.Line String Agreement

/-- Where the sending chain of a session stands. -/
def Line.position (s : Line) : Option (Nat × Nat) :=
  s.sendingChainKey.map fun _ => (s.dhs.draw, s.sent)

variable {s s' : Line} {text : String} {draw : Nat}

lemma position_encrypt {out : Ideal.Header String × Ideal.Cipher String Agreement}
    (h : s.encrypt text = some (out, s')) :
    ∃ c n, Line.position s = some (c, n) ∧ Line.position s' = some (c, n + 1) := by
  unfold RatchetSession.encrypt at h
  split at h
  · cases h
  · next chain hchain =>
    cases h
    refine ⟨s.dhs.draw, s.sent, ?_, rfl⟩
    unfold Line.position
    rw [hchain]
    rfl

lemma encrypt_isSome (text : String) (h : Line.position s ≠ none) : (s.encrypt text).isSome := by
  unfold RatchetSession.encrypt
  split
  · next hnone =>
    refine absurd ?_ h
    unfold Line.position
    rw [hnone]
    rfl
  · rfl

lemma position_decrypt {own : String} {header : Ideal.Header String}
    {c : Ideal.Cipher String Agreement}
    (h : s.decrypt (ratchetPair own draw) header c = some (text, s')) :
    Line.position s' = Line.position s ∨ Line.position s' = some (draw, 0) := by
  unfold Line.position
  rcases RatchetSession.sending_decrypt h with hreads | hbegins
  · left
    rw [hreads.sending, hreads.dhs, hreads.sent]
  · right
    rcases Option.isSome_iff_exists.mp hbegins.sending with ⟨_, hchain⟩
    rw [hchain, hbegins.dhs, hbegins.sent]
    rfl

/-- The suite of the device with a given identity key. -/
abbrev ideal : Suite where
  Key := String
  Pair := String
  Secret := Agreement
  Session := Line
  Header := Ideal.Header String
  Cipher := Ideal.Cipher String Agreement
  decode text := if text = "" then none else some text
  pub := id
  x3dhInitiator ik sk spk sig otk draw :=
    if sig = signature sk spk then
      some (⟨own, ephemeralKey own draw, ik, spk, otk⟩, ephemeralKey own draw)
    else none
  x3dhResponder spk otk ik ek := some ⟨ik, ek, own, spk, otk⟩
  initiator secret spk draw :=
    RatchetSession.initiator (A := Ideal.terms String Agreement) ⟨secret, []⟩ spk
      (ratchetPair own draw)
  responder secret spk :=
    RatchetSession.responder (A := Ideal.terms String Agreement) ⟨secret, []⟩ ⟨spk, 0⟩
  encrypt := RatchetSession.encrypt
  decrypt s draw := RatchetSession.decrypt s (ratchetPair own draw)
  position := Line.position
  initiator_position h := by
    cases h
    rfl
  responder_position _ _ := rfl
  encrypt_isSome := encrypt_isSome
  encrypt_position := position_encrypt
  decrypt_position := position_decrypt

variable {own : String}

def Agreed.secret (σ : Agreed (ideal own)) : Agreement := Ideal.secret σ.session

/-- A message as it reaches another device. -/
def Posted.reached (p : Posted (ideal own)) (other : String) : Posted (ideal other) :=
  ⟨p.bootstrap, p.header, p.ciphertext⟩

def entry (own signedPrekey oneTimePrekey : String) : Bundle where
  userId := own
  deviceId := "phone"
  identityKey := own
  signingKey := own ++ ".sk"
  signedPrekey := signedPrekey
  signedPrekeySig := signature (own ++ ".sk") signedPrekey
  oneTimePrekey := oneTimePrekey

/-- A device without sessions. -/
def vacant (D : Type) (keys : Prekeys (ideal own)) : Mailbox (ideal own) D :=
  ⟨fun _ => none, keys, fun _ => none⟩

/-- The session of the initiator, before it has sealed anything. -/
def initiatorLine (own : String) (a : Agreement) (draw : Nat) : Line where
  dhs := ratchetPair own draw
  dhr := some a.signedPreKey
  rootKey := ⟨a, [s(fresh own draw, a.signedPreKey)]⟩
  sendingChainKey := some ⟨⟨a, [s(fresh own draw, a.signedPreKey)]⟩, 0⟩
  receivingChainKey := none
  sent := 0
  received := 0
  previousSent := 0
  skipped := .empty

lemma startSession_ideal {b : Bundle} {otk : Option (Option String)} {σ : Agreed (ideal own)}
    {key : String} (h : startSession (ideal own) b otk draw = .session σ key) :
    key = ephemeralKey own draw ∧ ∃ k, otk = some k ∧ σ.session = initiatorLine own
        ⟨own, ephemeralKey own draw, b.identityKey, b.signedPrekey, k⟩ draw := by
  have hdec : ∀ {text value : String}, (ideal own).decode text = some value → value = text := by
    intro text value hvalue
    dsimp only at hvalue
    split at hvalue
    · cases hvalue
    · cases hvalue
      rfl
  unfold startSession at h
  split at h
  · next ik sk spk sig k hik _ hspk _ =>
    have hik' := hdec hik
    have hspk' := hdec hspk
    subst hik' hspk'
    split at h
    · cases h
    · next secret ephemeral hagree =>
      dsimp only at hagree
      split at hagree
      · cases hagree
        cases h
        exact ⟨rfl, k, rfl, rfl⟩
      · cases hagree
  · cases h

lemma sane_initiatorLine (own : String) (a : Agreement) (draw : Nat) :
    Ideal.Sane (initiatorLine own a draw) := by
  have hinit : RatchetSession.initiator (A := Ideal.terms String Agreement) ⟨a, []⟩
      a.signedPreKey (ratchetPair own draw) = some (initiatorLine own a draw) := rfl
  exact (Ideal.sane_initiator hinit).1

/-- A one-time prekey that is tried is one of the pool. -/
lemma mem_of_candidate {S : Suite} {keys : Prekeys S} {spk k : S.Pair}
    (h : (spk, some k) ∈ keys.candidates) : k ∈ keys.oneTimePreKeys := by
  rcases List.mem_flatMap.mp h with ⟨_, -, hpair⟩
  rcases List.mem_map.mp hpair with ⟨_, hotk, heq⟩
  cases heq
  rcases List.mem_append.mp hotk with hpool | hnone
  · rcases List.mem_map.mp hpool with ⟨_, hk', heq⟩
    cases heq
    exact hk'
  · simp at hnone

/-- The session of the responder, before it has opened anything. -/
def responderLine (own spk : String) (otk : Option String) (ik ek : String) : Line :=
  (ideal own).responder ⟨ik, ek, own, spk, otk⟩ spk

/-- How a message was opened: with the session there is, or as a first message. -/
inductive Route (keys : Prekeys (ideal own)) (existing : Option (Agreed (ideal own))) (draw : Nat)
    (header : Ideal.Header String) (c : Ideal.Cipher String Agreement)
    (o : Opened (ideal own)) : Prop where
  | existing (σ : Agreed (ideal own)) (hσ : existing = some σ) (hnone : o.consumed = none)
      (hopens : Ideal.Opens σ.session header c o.plaintext o.session.session)
  | first (spk ik ek : String)
      (hclosed : (existing.bind fun σ => openExisting σ header c draw) = none)
      (hcand : (spk, o.consumed) ∈ keys.candidates)
      (hopens : Ideal.Opens (responderLine own spk o.consumed ik ek) header c o.plaintext
        o.session.session)

theorem route_openSecret {keys : Prekeys (ideal own)} {existing : Option (Agreed (ideal own))}
    {m : Inbound (ideal own)} {o : Opened (ideal own)}
    (hsane : ∀ σ, existing = some σ → Ideal.Sane σ.session)
    (h : openSecret keys existing m draw = some o) :
    ∃ header c, m.header = some header ∧ m.ciphertext = some c ∧
      Route keys existing draw header c o := by
  unfold openSecret at h
  split at h
  · next header c hhdr hciph =>
    refine ⟨header, c, hhdr, hciph, ?_⟩
    split at h
    · next opened hopened =>
      cases h
      rcases Option.bind_eq_some_iff.mp hopened with ⟨σ, hσ, hopen⟩
      unfold openExisting at hopen
      split at hopen
      · cases hopen
      · next text session hdecrypt =>
        cases hopen
        exact .existing σ hσ rfl (.decrypt (hsane σ hσ) hdecrypt)
    · next hclosed =>
      unfold openFirst at h
      split at h
      · next ik ek _ _ =>
        rcases List.exists_of_findSome?_eq_some h with ⟨⟨spk, _⟩, hmem, hcand⟩
        unfold openCandidate at hcand
        dsimp only at hcand
        split at hcand
        · cases hcand
        · next text session hdecrypt =>
          cases hcand
          exact .first spk ik ek hclosed hmem (.decrypt (Ideal.sane_responder _ _) hdecrypt)
      · cases h
  · cases h

end SyncApp.SecretChats
