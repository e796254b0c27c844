import SyncApp.Ratchet.Exchange
import SyncApp.SecretChats.IdealSuite

/-!
# First messages between honest devices

What a mailbox does under ideal primitives when the other device is honest: the first message is
sealed under the secret of the offered keys, and no other choice of prekeys opens it.

Main results:

- `Mailbox.send_first`, `Mailbox.receive_first`: the first message of a session.
- `Mailbox.opened_eq_none`: messages that nothing opens.
-/

namespace SyncApp.SecretChats

open Foundations Ratchet Ratchet.Generic List Function
open Symbolic (Agreement signature fresh)

variable {own : String} {D : Type}

/-- The bundle is one that the directory gives out for a device that holds these prekeys. -/
def Bundle.Offers (b : Bundle) (keys : Prekeys (ideal own)) : Prop :=
  b.identityKey = own ∧ b.identityKey ≠ "" ∧ b.signingKey ≠ "" ∧ b.signedPrekey ≠ "" ∧
    b.signedPrekeySig ≠ "" ∧ b.signedPrekeySig = signature b.signingKey b.signedPrekey ∧
    (b.signedPrekey = keys.signedPreKey ∨ keys.previousSignedPreKey = some b.signedPrekey) ∧
    (b.oneTimePrekey = "" ∨ b.oneTimePrekey ∈ keys.oneTimePreKeys)
deriving Decidable

def Bundle.oneTime (b : Bundle) : Option String :=
  if b.oneTimePrekey = "" then none else some b.oneTimePrekey

/-- The secret of a handshake with the device of a bundle. -/
def agreement (own : String) (b : Bundle) (draw : Nat) : Agreement :=
  ⟨own, ephemeralKey own draw, b.identityKey, b.signedPrekey, b.oneTime⟩

lemma oneTimePreKey_ideal (kind : Kind) (b : Bundle) :
    kind.oneTimePreKey (S := ideal own) b = some b.oneTime := by
  have hdec : b.oneTimeKey (ideal own) = b.oneTime := by
    unfold Bundle.oneTimeKey Bundle.oneTime
    by_cases h : b.oneTimePrekey = ""
    · rw [if_pos h, if_pos h]
    · simp only [h, if_false]
  cases kind with
  | web =>
    by_cases h : b.oneTimePrekey = "" <;>
      simp [Kind.oneTimePreKey, Web.oneTimePreKey, Bundle.oneTime, h]
  | android | ios => exact congrArg some hdec

variable {b : Bundle}

/-- What a bundle offers is among what its device tries. -/
lemma Bundle.Offers.candidate {keys : Prekeys (ideal own)} (h : b.Offers keys) :
    (b.signedPrekey, b.oneTime) ∈ keys.candidates := by
  rcases h with ⟨-, -, -, -, -, -, hsigned, honeTime⟩
  refine mem_flatMap.mpr ⟨b.signedPrekey, ?_, mem_map.mpr ⟨b.oneTime, ?_, rfl⟩⟩
  · rcases hsigned with hcur | hprev
    · exact mem_cons.mpr (.inl hcur)
    · refine mem_cons_of_mem _ ?_
      rw [hprev]
      exact mem_singleton.mpr rfl
  · unfold Bundle.oneTime
    split
    · exact mem_append_right _ (mem_singleton.mpr rfl)
    · next hne =>
      rcases honeTime with hemp | hpool
      · exact absurd hemp hne
      · exact mem_append_left _ (mem_map.mpr ⟨_, hpool, rfl⟩)

lemma Bundle.Offers.startSession {other : String} {keys : Prekeys (ideal other)}
    (h : b.Offers keys) (kind : Kind) (draw : Nat) :
    startSession (ideal own) b (kind.oneTimePreKey b) draw =
      .session ⟨initiatorLine own (agreement own b draw) draw, b.identityKey⟩
        (ephemeralKey own draw) := by
  rcases h with ⟨-, hik, hsk, hspk, hsig, hsigned, -, -⟩
  unfold SecretChats.startSession
  rw [oneTimePreKey_ideal]
  simp only [if_neg hik, if_neg hsk, if_neg hspk, if_neg hsig, if_pos hsigned]
  rfl

lemma waiting_initiatorLine (own : String) (b : Bundle) (draw : Nat) :
    Ideal.Waiting (initiatorLine own (agreement own b draw) draw) (agreement own b draw)
      b.signedPrekey [] :=
  ⟨rfl, rfl, rfl, rfl, rfl, rfl, [], rfl, rfl⟩

/-! ## The session with a device -/

namespace Mailbox

def line (b : Mailbox (ideal own) D) (d : D) : Option Line :=
  (b.sessions d).map Agreed.session

variable {b : Mailbox (ideal own) D} {d : D} {s s' : Line} {bundle : Bundle}
  {text : String} {draw : Nat} {m : Inbound (ideal own)} {σ : Agreed (ideal own)}
  {sealed : Ideal.Header String × Ideal.Cipher String Agreement}

lemma line_eq_some (h : b.line d = some s) : ∃ peer, b.sessions d = some ⟨s, peer⟩ := by
  rcases Option.map_eq_some_iff.mp h with ⟨⟨_, peer⟩, hσ, rfl⟩
  exact ⟨peer, hσ⟩

lemma line_update {sessions : D → Option (Agreed (ideal own))} (hself : sessions d = some σ)
    (keys : Prekeys (ideal own)) (pending : D → Option String) :
    (⟨sessions, keys, pending⟩ : Mailbox (ideal own) D).line d = some σ.session := by
  simp [line, hself]

variable {candidate : String × Option String} {ek ik : String} {o : Opened (ideal own)}

/-- The prekeys open a first message only if they give its secret. -/
lemma openCandidate_secret
    (h : openCandidate (S := ideal own) ik ek sealed.1 sealed.2 draw candidate = some o) :
    sealed.2.key.root.secret = ⟨ik, ek, own, candidate.1, candidate.2⟩ := by
  unfold openCandidate at h
  dsimp only at h
  split at h
  · cases h
  · next hdecrypt => exact (Ideal.Opens.decrypt (Ideal.sane_responder _ _) hdecrypt).own

section

variable (hhdr : m.header = some sealed.1) (hciph : m.ciphertext = some sealed.2)
  (hclosed : ∀ s, b.line d = some s → s.decrypt (ratchetPair own draw) sealed.1 sealed.2 = none)
include hhdr hciph hclosed

/-- A session that does not open the message is no session. -/
lemma openSecret_of_closed : b.opened d m draw = openFirst b.keys m sealed.1 sealed.2 draw := by
  have hex : ((b.sessions d).bind fun σ => openExisting σ sealed.1 sealed.2 draw) = none := by
    cases hσ : b.sessions d with
    | none => rfl
    | some σ =>
      have hline : b.line d = some σ.session := by
        unfold line
        rw [hσ]
        rfl
      rw [Option.bind_some]
      unfold openExisting
      simp only [hclosed σ.session hline]
  unfold opened openSecret
  rw [hhdr, hciph]
  dsimp only
  rw [hex]

/-- A message that neither the session nor any choice of prekeys opens. -/
theorem opened_eq_none
    (hother : ∀ ik ek, m.ik = some ik → m.ek = some ek → ∀ candidate ∈ b.keys.candidates,
      sealed.2.key.root.secret ≠ ⟨ik, ek, own, candidate.1, candidate.2⟩) :
    b.opened d m draw = none := by
  rw [openSecret_of_closed hhdr hciph hclosed]
  have hdec : ∀ {text : Option String} {key : String},
      text.bind (ideal own).decode = some key → text = some key := by
    intro text key hkey
    rcases Option.bind_eq_some_iff.mp hkey with ⟨_, rfl, hvalue⟩
    dsimp only at hvalue
    split at hvalue
    · cases hvalue
    · exact hvalue
  unfold openFirst
  split
  · next ik ek hik hek =>
    unfold openAsResponder
    rw [findSome?_eq_none_iff]
    intro candidate hcand
    cases hopen : openCandidate (S := ideal own) ik ek sealed.1 sealed.2 draw candidate with
    | none => rfl
    | some =>
      exact absurd (openCandidate_secret hopen)
        (hother ik ek (hdec hik) (hdec hek) candidate hcand)
  · rfl

end

variable [DecidableEq D]

lemma send_stored (hline : b.line d = some s) (hseal : s.encrypt text = some (sealed, s'))
    (kind : Kind) (bundle : Bundle) (draw : Nat) :
    ∃ posted box, b.send kind d bundle text draw = some (posted, box) ∧
      (posted.header, posted.ciphertext) = sealed ∧ box.line d = some s' ∧ box.keys = b.keys ∧
      posted.bootstrap = b.bootstrap kind d none ∧ box.pending = b.pending := by
  rcases line_eq_some hline with ⟨peer, hσ⟩
  have hsess : b.sessionFor kind d bundle draw = some (⟨s, peer⟩, none) := by
    unfold sessionFor
    rw [hσ]
  refine ⟨_, _, send_of_sealed hsess hseal, rfl,
    line_update (σ := ⟨s', peer⟩) (update_self ..) .., rfl, rfl, ?_⟩
  cases kind with
  | web | android | ios => rfl

/-- The first message to an honest device: it carries the ephemeral key of the handshake. -/
theorem send_first {other : String} {keys : Prekeys (ideal other)} (hnone : b.line d = none)
    (hoffers : bundle.Offers keys)
    (hseal : (initiatorLine own (agreement own bundle draw) draw).encrypt text =
      some (sealed, s')) (kind : Kind) :
    ∃ posted box, b.send kind d bundle text draw = some (posted, box) ∧
      (posted.header, posted.ciphertext) = sealed ∧ box.line d = some s' ∧ box.keys = b.keys ∧
      posted.bootstrap = some (ephemeralKey own draw) ∧
      box.pending = b.owes kind d (some (ephemeralKey own draw)) := by
  have hsess : b.sessionFor kind d bundle draw =
      some (⟨initiatorLine own (agreement own bundle draw) draw, bundle.identityKey⟩,
        some (ephemeralKey own draw)) := by
    unfold sessionFor
    rw [Option.map_eq_none_iff.mp hnone]
    rw [hoffers.startSession]
  refine ⟨_, _, send_of_sealed hsess hseal, rfl,
    line_update (σ := ⟨s', bundle.identityKey⟩) (update_self ..) .., rfl, ?_, rfl⟩
  cases kind with
  | web | android => rfl
  | ios => exact update_self ..

lemma line_receive (h : b.opened d m draw = some o) :
    (b.receive d m draw).line d = some o.session.session := by
  rw [receive_of_some h]
  exact line_update (update_self ..) ..

lemma receive_stored (hline : b.line d = some s) (hhdr : m.header = some sealed.1)
    (hciph : m.ciphertext = some sealed.2)
    (hopen : s.decrypt (ratchetPair own draw) sealed.1 sealed.2 = some (text, s')) :
    ∃ o, b.opened d m draw = some o ∧ o.plaintext = text ∧
      (b.receive d m draw).line d = some s' ∧ o.consumed = none := by
  rcases line_eq_some hline with ⟨peer, hσ⟩
  have hopened : b.opened d m draw = some ⟨text, ⟨s', peer⟩, none⟩ := by
    unfold opened openSecret
    rw [hhdr, hciph, hσ]
    dsimp only [Option.bind_some]
    unfold openExisting
    simp only [hopen]
  exact ⟨_, hopened, rfl, line_receive hopened, rfl⟩

/-- A first message under a secret that this device's prekeys give: it is opened with these and no
others, whether or not there was a session that does not open it. -/
theorem receive_first (hclosed : ∀ s, b.line d = some s →
      s.decrypt (ratchetPair own draw) sealed.1 sealed.2 = none) (hik : m.ik = some ik)
    (hek : m.ek = some ek) (hik' : ik ≠ "") (hek' : ek ≠ "") (hhdr : m.header = some sealed.1)
    (hciph : m.ciphertext = some sealed.2) (hcand : candidate ∈ b.keys.candidates)
    (hsec : sealed.2.key.root.secret = ⟨ik, ek, own, candidate.1, candidate.2⟩)
    (hopen : (responderLine own candidate.1 candidate.2 ik ek).decrypt (ratchetPair own draw)
      sealed.1 sealed.2 = some (text, s')) : ∃ o, b.opened d m draw = some o ∧ o.plaintext = text ∧
      (b.receive d m draw).line d = some s' ∧ o.consumed = candidate.2 := by
  have hthis : openCandidate (S := ideal own) ik ek sealed.1 sealed.2 draw candidate =
      some ⟨text, ⟨s', ik⟩, candidate.2⟩ := by
    unfold openCandidate
    dsimp only
    rw [show RatchetSession.decrypt _ _ _ _ = some (text, s') from hopen]
  have hresp : openAsResponder b.keys ik ek sealed.1 sealed.2 draw =
      some ⟨text, ⟨s', ik⟩, candidate.2⟩ := by
    unfold openAsResponder
    cases hfind : b.keys.candidates.findSome?
        (openCandidate (S := ideal own) ik ek sealed.1 sealed.2 draw) with
    | none =>
      rw [findSome?_eq_none_iff] at hfind
      rw [hfind candidate hcand] at hthis
      cases hthis
    | some =>
      -- Another candidate gives another secret, and does not open the message.
      rcases exists_of_findSome?_eq_some hfind with ⟨⟨_, _⟩, -, ho⟩
      have hsame := hsec.symm.trans (openCandidate_secret ho)
      cases hsame
      exact ho.symm.trans hthis
  have hopened : b.opened d m draw = some ⟨text, ⟨s', ik⟩, candidate.2⟩ := by
    rw [openSecret_of_closed hhdr hciph hclosed]
    unfold openFirst
    rw [hik, hek]
    simp only [Option.bind_some, if_neg hik', if_neg hek']
    exact hresp
  exact ⟨_, hopened, rfl, line_receive hopened, rfl⟩

end Mailbox

end SyncApp.SecretChats
