import SyncApp.SecretChats.IdealSuite

/-!
# Redelivered messages

A message that was opened and comes again is refused by the session, and tried as a first message;
what protects the session is that the one-time prekey is gone.  Restarts are clean: what is stored
is what was in memory.

Main results:

- `Settled.step`: what every event keeps.
- `redelivery_harmless`: a message that took a one-time prekey is not opened again.
-/

namespace SyncApp.SecretChats

open Foundations Ratchet Ratchet.Generic List Function
open Symbolic (Agreement signature fresh)
open Ratchet.Ideal (secret)

/-- A client, the number of draws it has made, the one-time prekeys that were taken, and the
messages it has opened. -/
structure Post (own : String) (D : Type) where
  box : Mailbox (ideal own) D
  draws : Nat
  consumed : List String
  opened : List (Inbound (ideal own))

/-- What can happen. -/
inductive PostEvent (own : String) (D : Type) where
  | receive (d : D) (m : Inbound (ideal own)) (draw : Nat)
  | send (kind : Kind) (d : D) (bundle : Bundle) (text : String) (draw : Nat)
  /-- The session with a device is dropped. -/
  | forget (d : D)
  /-- Prekeys are replaced, added or thrown away. -/
  | maintain (keys : Prekeys (ideal own))
  | restart

variable {own : String} {D : Type}

instance : DecidableEq (Inbound (ideal own)) := fun _ _ => decidable_of_iff' _ Inbound.ext_iff

/-- The session there is opens a message. -/
def Mailbox.opensExisting {S : Suite} (b : Mailbox S D) (d : D) (m : Inbound S) (draw : Nat) :
    Bool :=
  match m.header, m.ciphertext with
  | some header, some ciphertext =>
    ((b.sessions d).bind fun σ => openExisting σ header ciphertext draw).isSome
  | _, _ => false

namespace Post

/-- A client that was just installed. -/
def new (D : Type) (keys : Prekeys (ideal own)) : Post own D := ⟨vacant D keys, 0, [], []⟩

variable [DecidableEq D] (w : Post own D)

def step : PostEvent own D → Option String × Post own D
  | .receive d m draw =>
    match w.box.opened d m draw with
    | none => (none, w)
    | some o =>
      (some o.plaintext,
        { w with
          box := w.box.receive d m draw
          consumed := o.consumed.toList ++ w.consumed
          opened := m :: w.opened })
  | .send kind d bundle text draw =>
    match w.box.send kind d bundle text draw with
    | none => (none, w)
    | some (_, box) => (none, { w with box, draws := draw + 1 })
  | .forget d =>
    (none, { w with box := { w.box with sessions := update w.box.sessions d none } })
  | .maintain keys => (none, { w with box := { w.box with keys } })
  | .restart => (none, { w with box := w.box.restart })

/-- The client after a history. -/
abbrev after (events : List (PostEvent own D)) : Post own D :=
  Machine.final step w events

/-- A first message takes a one-time prekey, nobody writes with this device's own identity or with
keys drawn before, and a prekey that was taken does not come back. -/
def Careful : PostEvent own D → Prop
  | .receive d m draw =>
    ∀ o, w.box.opened d m draw = some o →
      w.box.opensExisting d m draw = true ∨ o.consumed.isSome = true
  | .send _ _ bundle _ draw => bundle.identityKey ≠ own ∧ w.draws ≤ draw
  | .forget _ => True
  | .maintain keys => ∀ k ∈ keys.oneTimePreKeys, k ∉ w.consumed
  | .restart => True

instance (w : Post own D) : ∀ event, Decidable (w.Careful event) := fun _ => by
  unfold Careful
  split <;> infer_instance

/-- A message that was opened before is delivered again. -/
def redelivers : PostEvent own D → Bool
  | .receive _ m _ => m ∈ w.opened
  | _ => false

/-- A history without the deliveries of messages that were opened before. -/
def withoutRedelivery : Post own D → List (PostEvent own D) → List (PostEvent own D)
  | _, [] => []
  | w, event :: rest =>
    if w.redelivers event then withoutRedelivery w rest
    else event :: withoutRedelivery (w.step event).2 rest

end Post

/-! ## What holds in every careful history -/

/-- The prekeys cannot give a secret again: it was agreed by this device as the initiator, or with
a one-time prekey that was taken. -/
def Retired (own : String) (consumed : List String) (a : Agreement) : Prop :=
  a.responder ≠ own ∨ ∃ k ∈ consumed, a.oneTimePreKey = some k

lemma Retired.mono {consumed consumed' : List String} {a : Agreement}
    (h : Retired own consumed a) (hsub : ∀ k ∈ consumed, k ∈ consumed') :
    Retired own consumed' a := by
  rcases h with hresp | ⟨k, hk, hotk⟩
  · exact .inl hresp
  · exact .inr ⟨k, hsub k hk, hotk⟩

/-- The key that a message was sealed with. -/
def Inbound.key (m : Inbound (ideal own)) : Option (Ideal.MessageKey String Agreement) :=
  m.ciphertext.map Ideal.Cipher.key

/-- A secret of a session, or of a message that was opened. -/
def Post.Seen (w : Post own D) (a : Agreement) : Prop :=
  (∃ d σ, w.box.sessions d = some σ ∧ σ.secret = a) ∨
    ∃ m ∈ w.opened, ∃ key, m.key = some key ∧ key.root.secret = a

/-- What holds of a client. -/
structure Settled (w : Post own D) : Prop where
  sane : ∀ d σ, w.box.sessions d = some σ → Ideal.Sane σ.session
  apart : ∀ d d' σ σ', w.box.sessions d = some σ → w.box.sessions d' = some σ' →
    σ.secret = σ'.secret → d = d'
  retired : ∀ a, w.Seen a → Retired own w.consumed a
  drawn : ∀ a, w.Seen a → a.responder ≠ own → ∃ i < w.draws, a.ephemeral = ephemeralKey own i
  gone : ∀ k ∈ w.consumed, k ∉ w.box.keys.oneTimePreKeys
  spent : ∀ m ∈ w.opened, ∀ key, m.key = some key →
    ∀ d σ, w.box.sessions d = some σ → σ.secret = key.root.secret → Ideal.Spent σ.session key

namespace Settled

variable {w : Post own D}

lemma new (keys : Prekeys (ideal own)) : Settled (Post.new D keys) where
  sane _ _ h := nomatch h
  apart _ _ _ _ h := nomatch h
  retired a h := by simp [Post.Seen, Post.new, vacant] at h
  drawn a h := by simp [Post.Seen, Post.new, vacant] at h
  gone _ h := nomatch h
  spent _ h := nomatch h

lemma not_seen (h : Settled w) {spk : String} {otk : Option String}
    (hcand : (spk, otk) ∈ w.box.keys.candidates) (ik ek : String) :
    ¬ w.Seen ⟨ik, ek, own, spk, otk⟩ := by
  intro hseen
  rcases h.retired _ hseen with hresp | ⟨k, hk, hotk⟩
  · exact hresp rfl
  · have hotk' : otk = some k := hotk
    subst hotk'
    exact h.gone k hk (mem_of_candidate hcand)

variable {m : Inbound (ideal own)} {d : D} {draw : Nat} {event : PostEvent own D}
  {events : List (PostEvent own D)}

lemma opened_eq_none (h : Settled w) (hm : m ∈ w.opened) (d : D) (draw : Nat) :
    w.box.opened d m draw = none := by
  cases hopen : w.box.opened d m draw with
  | none => rfl
  | some =>
    rcases route_openSecret (h.sane d) hopen with ⟨_, c, -, hciph, hroute⟩
    have hkey : m.key = some c.key := by
      unfold Inbound.key
      rw [hciph]
      rfl
    cases hroute with
    | existing σ hσ _ hopens =>
      exact absurd (h.spent m hm c.key hkey d σ hσ hopens.own.symm) hopens.unspent
    | first spk ik ek _ hcand hopens =>
      have hseen : w.Seen c.key.root.secret := .inr ⟨m, hm, c.key, hkey, rfl⟩
      rw [hopens.own] at hseen
      exact absurd hseen (h.not_seen hcand ik ek)

/-- Sessions that go away, and prekeys that are not taken ones. -/
lemma shrink (h : Settled w) {sessions : D → Option (Agreed (ideal own))}
    {keys : Prekeys (ideal own)} {pending : D → Option String}
    (hsub : ∀ d σ, sessions d = some σ → w.box.sessions d = some σ)
    (hkeys : ∀ k ∈ w.consumed, k ∉ keys.oneTimePreKeys) :
    Settled { w with box := ⟨sessions, keys, pending⟩ } := by
  have hseen : ∀ a, Post.Seen { w with box := ⟨sessions, keys, pending⟩ } a → w.Seen a := by
    rintro a (⟨d, σ, hσ, ha⟩ | hopened)
    · exact .inl ⟨d, σ, hsub d σ hσ, ha⟩
    · exact .inr hopened
  refine ⟨?_, ?_, ?_, ?_, hkeys, ?_⟩
  · intro d σ hσ
    exact h.sane d σ (hsub d σ hσ)
  · intro d d' σ σ' hσ hσ'
    exact h.apart d d' σ σ' (hsub d σ hσ) (hsub d' σ' hσ')
  · intro a ha
    exact h.retired a (hseen a ha)
  · intro a ha
    exact h.drawn a (hseen a ha)
  · intro m hm key hkey d σ hσ
    exact h.spent m hm key hkey d σ (hsub d σ hσ)

variable [DecidableEq D]

/-- A session is stored that goes on from the one before, or whose secret is new. -/
lemma store (h : Settled w) {τ : Agreed (ideal own)} {w' : Post own D}
    (hsess : w'.box.sessions = update w.box.sessions d (some τ))
    (hsane : Ideal.Sane τ.session) (hcons : ∀ k ∈ w.consumed, k ∈ w'.consumed)
    (hdraws : w.draws ≤ w'.draws) (hgone : ∀ k ∈ w'.consumed, k ∉ w'.box.keys.oneTimePreKeys)
    (hfrom : (∃ σ, w.box.sessions d = some σ ∧ τ.secret = σ.secret ∧
        ∀ key, Ideal.Spent σ.session key → Ideal.Spent τ.session key) ∨
      ¬ w.Seen τ.secret ∧ Retired own w'.consumed τ.secret ∧ (τ.secret.responder ≠ own →
        ∃ i < w'.draws, τ.secret.ephemeral = ephemeralKey own i))
    (hopened : ∀ m ∈ w'.opened, ∀ key, m.key = some key →
      m ∈ w.opened ∨ key.root.secret = τ.secret ∧ Ideal.Spent τ.session key) : Settled w' := by
  -- A session is the new one, or one of another device.
  have hcases : ∀ {d' σ}, w'.box.sessions d' = some σ →
      d' = d ∧ σ = τ ∨ d' ≠ d ∧ w.box.sessions d' = some σ := by
    intro d' σ hσ
    rw [hsess] at hσ
    exact (update_cases hσ).imp_left (And.imp_right fun hτ => (Option.some.inj hτ).symm)
  have hapart : ∀ d' σ, d' ≠ d → w.box.sessions d' = some σ → σ.secret ≠ τ.secret := by
    intro d' σ' hne hσ' hsame
    rcases hfrom with ⟨σ, hσ, hsec, -⟩ | ⟨hnew, -⟩
    · exact hne (h.apart d' d σ' σ hσ' hσ (hsame.trans hsec))
    · exact hnew (.inl ⟨d', σ', hσ', hsame⟩)
  have hspent : ∀ m ∈ w.opened, ∀ key, m.key = some key → τ.secret = key.root.secret →
      Ideal.Spent τ.session key := by
    intro m hm key hkey hsame
    rcases hfrom with ⟨σ, hσ, hsec, hspent⟩ | ⟨hnew, -⟩
    · exact hspent key (h.spent m hm key hkey d σ hσ (hsec.symm.trans hsame))
    · exact absurd (.inr ⟨m, hm, key, hkey, hsame.symm⟩) hnew
  have hown : w.Seen τ.secret ∨ _ :=
    hfrom.imp (fun ⟨σ, hσ, hsec, _⟩ => .inl ⟨d, σ, hσ, hsec.symm⟩) And.right
  have hseen : ∀ a, w'.Seen a → w.Seen a ∨ Retired own w'.consumed a ∧ (a.responder ≠ own →
      ∃ i < w'.draws, a.ephemeral = ephemeralKey own i) := by
    rintro a (⟨d', σ, hσ, rfl⟩ | ⟨m, hm, key, hkey, rfl⟩)
    · rcases hcases hσ with ⟨-, rfl⟩ | ⟨-, hold⟩
      · exact hown
      · exact .inl (.inl ⟨d', σ, hold, rfl⟩)
    · rcases hopened m hm key hkey with hold | ⟨hsec, -⟩
      · exact .inl (.inr ⟨m, hold, key, hkey, rfl⟩)
      · exact hsec ▸ hown
  refine ⟨?_, ?_, ?_, ?_, hgone, ?_⟩
  · intro d' σ hσ
    rcases hcases hσ with ⟨-, rfl⟩ | ⟨-, hold⟩
    · exact hsane
    · exact h.sane d' σ hold
  · intro d₁ d₂ σ₁ σ₂ hσ₁ hσ₂ hsec
    rcases hcases hσ₁ with ⟨rfl, rfl⟩ | ⟨hne₁, hold₁⟩
    · rcases hcases hσ₂ with ⟨rfl, -⟩ | ⟨hne₂, hold₂⟩
      · rfl
      · exact absurd hsec.symm (hapart d₂ σ₂ hne₂ hold₂)
    · rcases hcases hσ₂ with ⟨rfl, rfl⟩ | ⟨-, hold₂⟩
      · exact absurd hsec (hapart d₁ σ₁ hne₁ hold₁)
      · exact h.apart d₁ d₂ σ₁ σ₂ hold₁ hold₂ hsec
  · intro a ha
    rcases hseen a ha with hold | ⟨hretired, -⟩
    · exact (h.retired a hold).mono hcons
    · exact hretired
  · intro a ha hresp
    rcases hseen a ha with hold | ⟨-, hdrawn⟩
    · rcases h.drawn a hold hresp with ⟨i, hi, hkey⟩
      exact ⟨i, hi.trans_le hdraws, hkey⟩
    · exact hdrawn hresp
  · intro m hm key hkey d' σ hσ hsec
    rcases hcases hσ with ⟨-, rfl⟩ | ⟨hne, hold⟩
    · rcases hopened m hm key hkey with hpre | ⟨-, hused⟩
      · exact hspent m hpre key hkey hsec
      · exact hused
    · rcases hopened m hm key hkey with hpre | ⟨hown, -⟩
      · exact h.spent m hpre key hkey d' σ hold hsec
      · exact absurd (hsec.trans hown) (hapart d' σ hne hold)

lemma receive (h : Settled w) {o : Opened (ideal own)} (hopen : w.box.opened d m draw = some o)
    (hcare : w.box.opensExisting d m draw = true ∨ o.consumed.isSome = true) :
    Settled { w with
      box := w.box.receive d m draw
      consumed := o.consumed.toList ++ w.consumed
      opened := m :: w.opened } := by
  rcases route_openSecret (h.sane d) hopen with ⟨_, c, hhdr, hciph, hroute⟩
  have hkey : m.key = some c.key := by
    unfold Inbound.key
    rw [hciph]
    rfl
  -- The opened messages are this one, sealed under the secret of the session, and those before.
  have hopened : c.key.root.secret = o.session.secret → Ideal.Spent o.session.session c.key →
      ∀ m' ∈ m :: w.opened, ∀ key, m'.key = some key → m' ∈ w.opened ∨
        key.root.secret = o.session.secret ∧ Ideal.Spent o.session.session key := by
    intro hown hused m' hm' key hkey'
    rcases mem_cons.mp hm' with rfl | hold
    · rw [hkey] at hkey'
      cases hkey'
      exact .inr ⟨hown, hused⟩
    · exact .inl hold
  rw [Mailbox.receive_of_some hopen]
  cases hroute with
  | existing σ hσ hnone hopens =>
    rw [hnone]
    exact h.store (τ := o.session) rfl hopens.sane (fun _ => id) (Nat.le_refl _) h.gone
      (.inl ⟨σ, hσ, hopens.secret, hopens.spent⟩)
      (hopened (hopens.own.trans hopens.secret.symm) hopens.used)
  | first spk ik ek hclosed hcand hopens =>
    have hsec : o.session.secret = ⟨ik, ek, own, spk, o.consumed⟩ := hopens.secret
    have hnew := h.not_seen hcand ik ek
    rw [← hsec] at hnew
    have hfirst : w.box.opensExisting d m draw = false := by
      unfold Mailbox.opensExisting
      rw [hhdr, hciph]
      dsimp only
      rw [hclosed]
      rfl
    rcases Option.isSome_iff_exists.mp (hcare.resolve_left (by simp [hfirst])) with ⟨k, hk⟩
    have hretired : Retired own (o.consumed.toList ++ w.consumed) o.session.secret := by
      refine .inr ⟨k, ?_, ?_⟩
      · rw [hk]
        exact mem_append_left _ (mem_singleton.mpr rfl)
      · rw [hsec]
        exact hk
    refine h.store (τ := o.session) rfl hopens.sane ?_ (Nat.le_refl _) ?_
      (.inr ⟨hnew, hretired, ?_⟩) (hopened (hopens.own.trans hsec.symm) hopens.used)
    · intro k' hk'
      exact mem_append_right _ hk'
    · -- The key that was taken is dropped from the pool.
      intro k' hk' hpool
      rw [hk] at hk' hpool
      have hpool' : k' ∈ w.box.keys.oneTimePreKeys ∧ k' ≠ k := by
        simpa [Prekeys.drop] using hpool
      rcases mem_append.mp hk' with hthis | hold
      · exact hpool'.2 (mem_singleton.mp hthis)
      · exact h.gone k' hold hpool'.1
    · rw [hsec]
      exact fun hresp => absurd rfl hresp

lemma send (h : Settled w) {kind : Kind} {bundle : Bundle} {text : String}
    {posted : Posted (ideal own)} {box : Mailbox (ideal own) D}
    (hsend : w.box.send kind d bundle text draw = some (posted, box))
    (hother : bundle.identityKey ≠ own) (hdraw : w.draws ≤ draw) :
    Settled { w with box, draws := draw + 1 } := by
  rcases Mailbox.send_eq_some hsend with ⟨σ, ephemeral, session, hσ, hseal, -, rfl⟩
  have hdraws : w.draws ≤ draw + 1 := hdraw.trans (Nat.le_succ draw)
  rcases Mailbox.sessionFor_eq_some hσ with ⟨hstored, -⟩ | ⟨key, -, -, hstart⟩
  · have hcont := Ideal.Continues.encrypt (h.sane d σ hstored) hseal
    exact h.store (τ := ⟨session, σ.peer⟩) rfl hcont.sane (fun _ => id) hdraws h.gone
      (.inl ⟨σ, hstored, hcont.secret, hcont.spent⟩) fun _ hm _ _ => .inl hm
  · rcases startSession_ideal hstart with ⟨-, k, -, hsession⟩
    have hsane : Ideal.Sane σ.session := by
      rw [hsession]
      exact sane_initiatorLine ..
    have hcont := Ideal.Continues.encrypt hsane hseal
    have hsec : secret session =
        ⟨own, ephemeralKey own draw, bundle.identityKey, bundle.signedPrekey, k⟩ := by
      rw [hcont.secret, hsession]
      rfl
    have hresp : (secret session).responder ≠ own := by
      rw [hsec]
      exact hother
    -- The ephemeral key of a secret that was seen was drawn before.
    have hnew : ¬ w.Seen (secret session) := by
      intro hseen
      rcases h.drawn _ hseen hresp with ⟨i, _, hkey⟩
      rw [hsec] at hkey
      have hsame : draw = i := fresh_injective _ hkey
      omega
    refine h.store (τ := ⟨session, σ.peer⟩) rfl hcont.sane (fun _ => id) hdraws h.gone
      (.inr ⟨hnew, .inl hresp, fun _ => ⟨draw, Nat.lt_succ_self draw, ?_⟩⟩)
      fun _ hm _ _ => .inl hm
    change (secret session).ephemeral = _
    rw [hsec]

theorem step (h : Settled w) (hcare : w.Careful event) : Settled (w.step event).2 := by
  cases event with
  | receive =>
    unfold Post.step
    dsimp only
    split
    · exact h
    · next o hopen => exact h.receive hopen (hcare o hopen)
  | send =>
    unfold Post.step
    dsimp only
    split
    · exact h
    · next posted box hsend => exact h.send hsend hcare.1 hcare.2
  | forget d =>
    refine h.shrink ?_ h.gone
    intro d' σ hσ
    rcases update_cases hσ with ⟨rfl, hnew⟩ | ⟨-, hold⟩
    · cases hnew
    · exact hold
  | maintain =>
    refine h.shrink (fun _ _ => id) ?_
    intro k hk hpool
    exact hcare k hpool hk
  | restart => exact h.shrink (fun _ _ => id) h.gone

variable (h : Settled w)
include h

lemma after (hcare : Machine.Guarded Post.step Post.Careful w events) :
    Settled (w.after events) :=
  Machine.guarded_final Post.step (fun _ _ hw hev => hw.step hev) h hcare

lemma step_redelivered (hredel : w.redelivers event = true) : w.step event = (none, w) := by
  cases event with
  | receive d m =>
    have hm : m ∈ w.opened := of_decide_eq_true hredel
    unfold Post.step
    dsimp only
    rw [h.opened_eq_none hm]
  | send | forget | maintain | restart => cases hredel

variable (hcare : Machine.Guarded Post.step Post.Careful w events)
include hcare

lemma after_withoutRedelivery : w.after (w.withoutRedelivery events) = w.after events := by
  induction events generalizing w with
  | nil => rfl
  | cons event rest ih =>
    rcases hcare with ⟨hev, hrest⟩
    unfold Post.withoutRedelivery
    split
    · next hredel =>
      have hsame := h.step_redelivered hredel
      rw [hsame] at hrest
      have hafter : w.after (event :: rest) = w.after rest := by
        rw [Post.after, Machine.final_cons, hsame]
      rw [hafter]
      exact ih h hrest
    · exact ih (h.step hev) hrest

/-- After a careful history a message that was opened is not opened again, from whichever device it
is said to come. -/
lemma receive_opened (hm : m ∈ (w.after events).opened) (d : D) (draw : Nat) :
    (w.after events).box.opened d m draw = none ∧
      (w.after events).box.receive d m draw = (w.after events).box := by
  have hnone := (h.after hcare).opened_eq_none hm d draw
  exact ⟨hnone, Mailbox.receive_of_none hnone⟩

end Settled

/-! ## The clients -/

lemma Post.box_step_receive [DecidableEq D] (w : Post own D) (d : D) (m : Inbound (ideal own))
    (draw : Nat) : (w.step (.receive d m draw)).2.box = w.box.receive d m draw := by
  unfold Post.step
  dsimp only
  split
  · next hopen => exact (Mailbox.receive_of_none hopen).symm
  · rfl

/-- The history of a page that is given messages. -/
def Web.deliveries : Web (ideal own) → List (Inbound (ideal own)) → List (PostEvent own String)
  | _, [] => []
  | s, m :: rest =>
    .receive (sessionKey m.fromUserId m.fromDeviceId) m s.draws :: deliveries (s.receive m) rest

lemma Web.mailbox_deliveries (messages : List (Inbound (ideal own))) {s : Web (ideal own)}
    {w : Post own String} (h : s.mailbox = w.box) :
    (messages.foldl Web.receive s).mailbox = (w.after (s.deliveries messages)).box := by
  induction messages generalizing s w with
  | nil => exact h
  | cons m rest ih =>
    refine ih (w := (w.step _).2) ?_
    rw [Post.box_step_receive, ← h]
    exact s.mailbox_receive m

/-- Where every handshake takes a one-time prekey: on each client a message that was opened is not
opened again and leaves sessions and prekeys as they are; the client is where it would be had every
message come once. -/
theorem redelivery_harmless {w : Post own String} {p : Post own Peer} (hw : Settled w)
    (hp : Settled p) {events : List (PostEvent own String)} {events' : List (PostEvent own Peer)}
    (hcare : Machine.Guarded Post.step Post.Careful w events)
    (hcare' : Machine.Guarded Post.step Post.Careful p events') :
    (∀ s : Web (ideal own), s.mailbox = (w.after events).box → ∀ m ∈ (w.after events).opened,
        s.mailbox.opened (sessionKey m.fromUserId m.fromDeviceId) m s.draws = none ∧
          (s.receive m).mailbox = s.mailbox) ∧
      (∀ s : Android (ideal own), s.mailbox = (w.after events).box → ∀ m ∈ (w.after events).opened,
          s.mailbox.opened (sessionKey m.fromUserId m.fromDeviceId) m s.draws = none ∧
            ((Android.receive m).alone s).2.mailbox = s.mailbox) ∧
      (∀ s : Ios (ideal own), s.Synced none → s.mailbox = (p.after events').box →
        ∀ m ∈ (p.after events').opened, ∀ peer, s.mailbox.opened peer m s.draws = none ∧
            ((Ios.receive peer m).alone s).2.mailbox = s.mailbox) ∧
      w.after (w.withoutRedelivery events) = w.after events ∧
      p.after (p.withoutRedelivery events') = p.after events' := by
  refine ⟨?_, ?_, ?_, hw.after_withoutRedelivery hcare, hp.after_withoutRedelivery hcare'⟩
  · intro s hs m hm
    rw [s.mailbox_receive m, hs]
    exact hw.receive_opened hcare hm _ _
  · intro s hs m hm
    rw [s.mailbox_receive m, hs]
    exact hw.receive_opened hcare hm _ _
  · intro s hsync hs m hm peer
    rw [Ios.mailbox_receive hsync peer m, hs]
    exact hp.receive_opened hcare' hm _ _

namespace Redelivery

/-- The receiving device's prekeys. -/
def aliceKeys : Prekeys (ideal "alice") := ⟨"alice.spk", none, ["alice.otk"]⟩

/-- Two messages to a device that gave out a one-time prekey, or the empty text for none. -/
def fromBob (oneTimePrekey : String) : List (Inbound (ideal "alice")) :=
  (Mailbox.sendAll .web () (entry "alice" "alice.spk" oneTimePrekey)
      (vacant Unit (⟨"bob.spk", none, []⟩ : Prekeys (ideal "bob"))) 0 ["one", "two"]).map
    fun posted => (posted.reached "alice").inbound "bob" "phone" "bob"

lemma bar_notMem_bob : '|' ∉ "bob".toList := by decide

lemma colon_notMem_bob : ':' ∉ "bob".toList := by decide

/-- The sending device on iOS. -/
def bobPhone : Peer := ⟨⟨⟨"bob", bar_notMem_bob⟩, colon_notMem_bob⟩, "phone"⟩

variable (messages : List (Inbound (ideal "alice")))

/-- The clients after some messages. -/
def onWeb : Web (ideal "alice") :=
  messages.foldl Web.receive (Web.new aliceKeys).hydrate

def onAndroid : Android (ideal "alice") :=
  messages.foldl (fun s m => ((Android.receive m).alone s).2) (Android.new aliceKeys)

def onIos : Ios (ideal "alice") :=
  messages.foldl (fun s m => ((Ios.receive bobPhone m).alone s).2) (Ios.new "tablet" aliceKeys)

/-- The histories of a page and of a phone that are given the two messages. -/
def webHistory : List (PostEvent "alice" String) :=
  (Web.new aliceKeys).hydrate.deliveries (fromBob "alice.otk")

def iosHistory : List (PostEvent "alice" Peer) :=
  (fromBob "alice.otk").mapIdx fun i m => .receive bobPhone m i

theorem redelivery_harmless_oneTime : (fromBob "alice.otk").length = 2 ∧ ∀ m ∈ fromBob "alice.otk",
        ((onWeb (fromBob "alice.otk")).receive m).mailbox =
          (onWeb (fromBob "alice.otk")).mailbox := by
  have hcare : Machine.Guarded Post.step Post.Careful (Post.new String aliceKeys)
      webHistory := by decide +kernel
  have hcare' : Machine.Guarded Post.step Post.Careful (Post.new Peer aliceKeys)
      iosHistory := by decide +kernel
  refine ⟨by decide +kernel, ?_⟩
  intro m hm
  have hpage : (onWeb (fromBob "alice.otk")).mailbox =
      ((Post.new String aliceKeys).after webHistory).box := Web.mailbox_deliveries _ rfl
  have h := redelivery_harmless (Settled.new aliceKeys) (Settled.new aliceKeys) hcare hcare'
  refine (h.1 (onWeb (fromBob "alice.otk")) hpage m ?_).2
  exact mem_reverse.mpr hm

/-- How many messages a session has received in its chain. -/
def count (σ : Option (Agreed (ideal "alice"))) : Option Nat := σ.map fun σ => σ.session.received

/-- A message is given to a device that has a mailbox, and read. -/
def read {D : Type} (b : Mailbox (ideal "alice") D) (d : D) (m : Option (Inbound (ideal "alice"))) :
    Option String :=
  m.bind fun m => (b.opened d m 2).map Opened.plaintext

/-- Without a one-time prekey: on each client the first message opens once more, and the session
that had received two messages has received one. -/
theorem redelivery_rewinds :
    let messages := fromBob ""
    let again := messages ++ messages.take 1
    (read (onWeb messages).mailbox "bob:phone" messages.head? = some "one" ∧
      count ((onWeb messages).sessions "bob:phone") = some 2 ∧
      count ((onWeb again).sessions "bob:phone") = some 1) ∧
    (read (onAndroid messages).mailbox "bob:phone" messages.head? = some "one" ∧
      count ((onAndroid messages).sessions "bob:phone") = some 2 ∧
      count ((onAndroid again).sessions "bob:phone") = some 1) ∧
    (read (onIos messages).mailbox bobPhone messages.head? = some "one" ∧
      count ((onIos messages).rows bobPhone) = some 2 ∧
      count ((onIos again).rows bobPhone) = some 1) := by
  decide +kernel

end Redelivery

end SyncApp.SecretChats
