import SyncApp.Ratchet.Conversation
import SyncApp.SecretChats.Handshake

/-!
# Two devices that write to each other

Two devices are given each other's messages in order.  If one begins, the other answers in its
session.  If both begin, each gives up its session for the other's, and what they hold does not fit
together.

Main results:

- `conversation_opens`: every message opens if only one begins.
-/

namespace SyncApp.SecretChats

open Foundations Ratchet Ratchet.Generic
open Symbolic (Agreement signature fresh)
open Function (update)

/-! ## The devices and what is on its way -/

/-- A device of the conversation: its client, its identity and prekeys, and the name under which it
keeps the session with the other one. -/
structure Party where
  kind : Kind
  own : String
  userId : String
  deviceId : String
  Device : Type
  [decDevice : DecidableEq Device]
  peer : Device
  keys : Prekeys (ideal own)
  named : own ≠ ""
  /-- Prekeys are not drawn again. -/
  apart : ∀ k, k = keys.signedPreKey ∨ keys.previousSignedPreKey = some k →
    ∀ draw, fresh own draw ≠ k

attribute [instance] Party.decDevice

variable {c : Side → Party}

/-- The devices, the messages that each has sent and the other was not given, and what each has made
of those it was given. -/
structure Chat (c : Side → Party) where
  box : ∀ p, Mailbox (ideal (c p).own) (c p).Device
  draws : Side → Nat
  flight : ∀ p, List (Posted (ideal (c p).own))
  read : Side → List (Option String)

/-- What can happen. -/
inductive ChatEvent where
  | send (p : Side) (bundle : Bundle) (text : String)
  /-- A device is given the oldest message on its way. -/
  | deliver (p : Side)

namespace Chat

/-- Two devices that have not heard of each other. -/
def new (c : Side → Party) : Chat c where
  box p := vacant (c p).Device (c p).keys
  draws _ := 0
  flight _ := []
  read _ := []

/-- A message as the other device is given it. -/
def inbound (p : Side) (posted : Posted (ideal (c p.other).own)) : Inbound (ideal (c p).own) :=
  (posted.reached (c p).own).inbound (c p.other).userId (c p.other).deviceId (c p.other).own

variable (w : Chat c) (p : Side)

/-- A message has left. -/
def sent (posted : Posted (ideal (c p).own))
    (box : Mailbox (ideal (c p).own) (c p).Device) : Chat c where
  box := update w.box p box
  draws := update w.draws p (w.draws p + 1)
  flight := update w.flight p (w.flight p ++ [posted])
  read := w.read

/-- A message has arrived. -/
def given (posted : Posted (ideal (c p.other).own))
    (rest : List (Posted (ideal (c p.other).own))) : Chat c where
  box := update w.box p ((w.box p).receive (c p).peer (inbound p posted) (w.draws p))
  draws := update w.draws p (w.draws p + 1)
  flight := update w.flight p.other rest
  read := update w.read p (w.read p ++
    [((w.box p).opened (c p).peer (inbound p posted) (w.draws p)).map Opened.plaintext])

def step : ChatEvent → Unit × Chat c
  | .send p bundle text =>
    match (w.box p).send (c p).kind (c p).peer bundle text (w.draws p) with
    | none => ((), w)
    | some (posted, box) => ((), w.sent p posted box)
  | .deliver p =>
    match w.flight p.other with
    | [] => ((), w)
    | posted :: rest => ((), w.given p posted rest)

/-- The devices after a history. -/
abbrev after (events : List ChatEvent) : Chat c := Machine.final step w events

/-- The session of a device with the other one. -/
def line (w : Chat c) (p : Side) : Option Line := (w.box p).line (c p).peer

/-- A device begins only if the other has not begun, with a bundle that the other offers. -/
def Calm : ChatEvent → Prop
  | .send p bundle _ =>
    (w.line p).isNone → (w.line p.other).isNone ∧ bundle.Offers (w.box p.other).keys
  | .deliver _ => True

instance (w : Chat c) : ∀ event, Decidable (w.Calm event) := fun _ => by
  unfold Calm
  split <;> infer_instance

/-- The texts on their way from a device. -/
def texts : List (Option String) :=
  (w.flight p).map fun posted => some posted.ciphertext.text

/-- The frames on their way from a device. -/
def frames : List (Ideal.Header String × Ideal.Cipher String Agreement) :=
  (w.flight p).map fun posted => (posted.header, posted.ciphertext)

end Chat

/-- What a device sends in a history. -/
def sends (p : Side) : List ChatEvent → List (Option String)
  | [] => []
  | .send q _ text :: rest => if q = p then some text :: sends p rest else sends p rest
  | .deliver _ :: rest => sends p rest

lemma sends_cons (p : Side) (event : ChatEvent) (rest : List ChatEvent) :
    sends p (event :: rest) = sends p [event] ++ sends p rest := by
  cases event with
  | send q => by_cases h : q = p <;> simp [sends, h]
  | deliver => simp [sends]

namespace Chat

variable {w : Chat c} {p : Side} {posted : Posted (ideal (c p).own)}
  {box : Mailbox (ideal (c p).own) (c p).Device}
  {arrived : Posted (ideal (c p.other).own)} {rest : List (Posted (ideal (c p.other).own))}

@[simp]
lemma box_sent_other : (w.sent p posted box).box p.other = w.box p.other := by
  simp [sent, p.other_ne]

@[simp]
lemma line_sent : (w.sent p posted box).line p = box.line (c p).peer := by
  simp [line, sent]

@[simp]
lemma line_sent_other : (w.sent p posted box).line p.other = w.line p.other := by
  simp [line]

@[simp]
lemma flight_sent : (w.sent p posted box).flight p = w.flight p ++ [posted] := by
  simp [sent]

@[simp]
lemma flight_sent_other : (w.sent p posted box).flight p.other = w.flight p.other := by
  simp [sent, p.other_ne]

@[simp]
lemma frames_sent :
    (w.sent p posted box).frames p = w.frames p ++ [(posted.header, posted.ciphertext)] := by
  simp [frames]

@[simp]
lemma frames_sent_other : (w.sent p posted box).frames p.other = w.frames p.other := by
  simp [frames]

@[simp]
lemma line_given : (w.given p arrived rest).line p =
    ((w.box p).receive (c p).peer (inbound p arrived) (w.draws p)).line (c p).peer := by
  simp [line, given]

@[simp]
lemma line_given_other : (w.given p arrived rest).line p.other = w.line p.other := by
  simp [line, given, p.other_ne]

@[simp]
lemma flight_given : (w.given p arrived rest).flight p = w.flight p := by
  simp [given, p.other_ne.symm]

@[simp]
lemma flight_given_other : (w.given p arrived rest).flight p.other = rest := by
  simp [given]

@[simp]
lemma frames_given : (w.given p arrived rest).frames p = w.frames p := by
  simp [frames]

lemma frames_given_other (h : w.flight p.other = arrived :: rest) : w.frames p.other =
      (arrived.header, arrived.ciphertext) :: (w.given p arrived rest).frames p.other := by
  simp [frames, h]

end Chat

open Chat (Calm frames frames_given frames_sent inbound new texts)

/-! ## Devices in tune -/

/-- The ratchet key of a session was drawn by its device. -/
def Drawn (w : Chat c) (p : Side) (l : Line) : Prop :=
  ∃ draw < w.draws p, l.dhs.key = fresh (c p).own draw

section Drawn

variable {w : Chat c} {p : Side} {l : Line} {posted : Posted (ideal (c p).own)}
  {box : Mailbox (ideal (c p).own) (c p).Device}
  {arrived : Posted (ideal (c p.other).own)} {rest : List (Posted (ideal (c p.other).own))}

lemma Drawn.mono {w' : Chat c} (h : Drawn w p l) (hdraws : w.draws p ≤ w'.draws p) :
    Drawn w' p l := by
  rcases h with ⟨draw, hlt, hkey⟩
  exact ⟨draw, hlt.trans_le hdraws, hkey⟩

lemma Drawn.congr {l' : Line} (h : Drawn w p l) (hdhs : l'.dhs = l.dhs) : Drawn w p l' := by
  unfold Drawn
  rw [hdhs]
  exact h

lemma draws_sent (q : Side) : w.draws q ≤ (w.sent p posted box).draws q := by
  rcases eq_or_ne q p with rfl | hne
  · simp [Chat.sent]
  · simp [Chat.sent, hne]

lemma draws_given (q : Side) : w.draws q ≤ (w.given p arrived rest).draws q := by
  rcases eq_or_ne q p with rfl | hne
  · simp [Chat.given]
  · simp [Chat.given, hne]

lemma Drawn.of_given (hdhs : l.dhs = ratchetPair (c p).own (w.draws p)) :
    Drawn (w.given p arrived rest) p l :=
  ⟨w.draws p, by simp [Chat.given], congrArg Ideal.Pair.key hdhs⟩

/-- The next key a device draws is not the one of its session. -/
lemma Drawn.ne (h : Drawn w p l) : (ratchetPair (c p).own (w.draws p)).key ≠ l.dhs.key := by
  rcases h with ⟨_, _, hkey⟩
  rw [hkey]
  intro hsame
  have heq := fresh_injective _ hsame
  omega

end Drawn

/-- The devices fit together: neither has begun, one of them has and was not heard, or one leads and
the other follows. -/
inductive Tuned (w : Chat c) : Prop where
  | idle (hlines : ∀ p, w.line p = none) (hkeys : ∀ p, (w.box p).keys = (c p).keys)
      (hflight : ∀ p, w.flight p = [])
  | opening (p q : Side) (hq : q = p.other) (l : Line) (b : Bundle) (draw : Nat)
      (first : Posted (ideal (c p).own)) (rest : List (Posted (ideal (c p).own)))
      (hp : w.line p = some l) (hnone : w.line q = none) (hkeys : (w.box q).keys = (c q).keys)
      (hoffers : b.Offers (c q).keys) (hdrawn : Drawn w p l)
      (hwait : Ideal.Waiting l (agreement (c p).own b draw) b.signedPrekey (w.frames p))
      (hflight : w.flight p = first :: rest)
      (hfirst : first.bootstrap = some (ephemeralKey (c p).own draw)) (hback : w.flight q = [])
  | matched (p q : Side) (hq : q = p.other) (l f : Line) (hl : w.line p = some l)
      (hf : w.line q = some f) (hlead : Drawn w p l) (hfoll : Drawn w q f)
      (hmatch : Ideal.Matched l f (w.frames q) (w.frames p))

namespace Tuned

variable {w : Chat c} {r : Side}

lemma new (c : Side → Party) : Tuned (new c) :=
  .idle (fun _ => rfl) (fun _ => rfl) (fun _ => rfl)

lemma other_of_ne {p q : Side} (hq : q = p.other) : r = p ∨ r = q ∧ p = r.other := by
  subst hq
  cases r <;> cases p <;> decide

/-- A message leaves, and the devices stay in tune. -/
lemma sent (h : Tuned w) {bundle : Bundle} {text : String}
    (hcalm : w.Calm (.send r bundle text)) :
    ∃ posted box, (w.box r).send (c r).kind (c r).peer bundle text (w.draws r) =
        some (posted, box) ∧ posted.ciphertext.text = text ∧ Tuned (w.sent r posted box) := by
  cases h with
  | idle hlines hkeys hflight =>
    have hoffers := (hcalm (by rw [hlines r]; rfl)).2
    have hemp : w.frames r = [] := by simp [frames, hflight r]
    rcases (waiting_initiatorLine (c r).own bundle (w.draws r)).encrypt text with
      ⟨sealed, l, hseal, htext, hdhs, hwait⟩
    rcases Mailbox.send_first (hlines r) hoffers hseal (c r).kind with
      ⟨posted, box, hsend, rfl, hline, -, hboot, -⟩
    refine ⟨posted, box, hsend, htext, ?_⟩
    refine .opening r r.other rfl l bundle (w.draws r) posted [] (by simpa using hline)
      (by simpa using hlines r.other) (by simpa using hkeys r.other) ?_
      ⟨w.draws r, by simp [Chat.sent], congrArg Ideal.Pair.key hdhs⟩ ?_
      (by simp [hflight r]) hboot (by simpa using hflight r.other)
    · rw [← hkeys r.other]
      exact hoffers
    · rw [frames_sent, hemp]
      exact hwait
  | opening p q hq l b draw first rest hp hnone hkeys hoffers hdrawn hwait hflight hfirst
      hback =>
    rcases other_of_ne (r := r) hq with rfl | ⟨rfl, rfl⟩
    · subst hq
      rcases hwait.encrypt text with ⟨sealed, l', hseal, htext, hdhs, hwait'⟩
      rcases Mailbox.send_stored hp hseal (c r).kind bundle (w.draws r) with
        ⟨posted, box, hsend, rfl, hline, -, -, -⟩
      refine ⟨posted, box, hsend, htext, ?_⟩
      refine .opening r r.other rfl l' b draw first (rest ++ [posted]) (by simpa using hline)
        (by simpa using hnone) (by simpa using hkeys) hoffers
        ((hdrawn.congr hdhs).mono (draws_sent r)) ?_ (by simp [hflight]) hfirst
        (by simpa using hback)
      rw [frames_sent]
      exact hwait'
    · -- The other device has begun.
      have hother := (hcalm (by rw [hnone]; rfl)).1
      rw [hp] at hother
      cases hother
  | matched p q hq l f hl hf hlead hfoll hmatch =>
    rcases other_of_ne (r := r) hq with rfl | ⟨rfl, rfl⟩
    · subst hq
      rcases hmatch.leader_encrypt text with ⟨sealed, l', hseal, htext, hdhs, hmatch'⟩
      rcases Mailbox.send_stored hl hseal (c r).kind bundle (w.draws r) with
        ⟨posted, box, hsend, rfl, hline, -, -, -⟩
      refine ⟨posted, box, hsend, htext, ?_⟩
      refine .matched r r.other rfl l' f (by simpa using hline) (by simpa using hf)
        ((hlead.congr hdhs).mono (draws_sent r)) (hfoll.mono (draws_sent _)) ?_
      rw [frames_sent, Chat.frames_sent_other]
      exact hmatch'
    · rcases hmatch.follower_encrypt text with ⟨_, f', hseal, htext, hdhs, hmatch'⟩
      rcases Mailbox.send_stored hf hseal (c r).kind bundle (w.draws r) with
        ⟨posted, box, hsend, rfl, hline, -, -, -⟩
      refine ⟨posted, box, hsend, htext, ?_⟩
      refine .matched r.other r hq l f' (by simpa using hl) (by simpa using hline)
        (hlead.mono (draws_sent _)) ((hfoll.congr hdhs).mono (draws_sent r)) ?_
      rw [frames_sent, Chat.frames_sent_other]
      exact hmatch'

variable {arrived : Posted (ideal (c r.other).own)} {rest : List (Posted (ideal (c r.other).own))}

/-- A device without a session opens the first message of the other. -/
lemma given_first {w : Chat c} {b : Bundle} {draw : Nat} {l : Line} (hnone : w.line r = none)
    (hkeys : (w.box r).keys = (c r).keys) (hoffers : b.Offers (c r).keys)
    (hwait : Ideal.Waiting l (agreement (c r.other).own b draw) b.signedPrekey
      ((arrived.header, arrived.ciphertext) :: rest.map fun m => (m.header, m.ciphertext)))
    (hfirst : arrived.bootstrap = some (ephemeralKey (c r.other).own draw)) :
    ∃ o l', (w.box r).opened (c r).peer (inbound r arrived) (w.draws r) = some o ∧
      o.plaintext = arrived.ciphertext.text ∧ (w.given r arrived rest).line r = some l' ∧
      l'.dhs = ratchetPair (c r).own (w.draws r) ∧
      Ideal.Matched l' l (rest.map fun m => (m.header, m.ciphertext)) [] := by
  have hspk : (ratchetPair (c r).own (w.draws r)).key ≠ b.signedPrekey := by
    rcases hoffers with ⟨-, -, -, -, -, -, hsig, -⟩
    refine (c r).apart b.signedPrekey ?_ (w.draws r)
    exact hsig
  rcases hwait.answered 0 hspk with ⟨l', hopen, hdhs, hmatch⟩
  have hclosed : ∀ s, (w.box r).line (c r).peer = some s →
      s.decrypt (ratchetPair (c r).own (w.draws r)) arrived.header arrived.ciphertext = none := by
    intro s hs
    rw [show (w.box r).line (c r).peer = none from hnone] at hs
    cases hs
  have hek : ephemeralKey (c r.other).own draw ≠ "" := by
    simp [ephemeralKey, fresh]
  have hidentity : b.identityKey = (c r).own := hoffers.1
  have hsec := hwait.secret_head
  unfold agreement at hsec hopen
  rw [hidentity] at hsec hopen
  have hcand : (b.signedPrekey, b.oneTime) ∈ (w.box r).keys.candidates := by
    rw [hkeys]
    exact hoffers.candidate
  have hik : (inbound r arrived).ik = some (c r.other).own := by
    simp [inbound, Posted.inbound, Posted.reached, hfirst]
  rcases Mailbox.receive_first hclosed hik hfirst (c r.other).named hek rfl rfl hcand hsec
    hopen with ⟨o, ho, htext, hline, -⟩
  refine ⟨o, l', ho, htext, ?_, hdhs, hmatch⟩
  rw [Chat.line_given]
  exact hline

/-- A message arrives and is opened, and the devices stay in tune. -/
lemma given (h : Tuned w) (hflight : w.flight r.other = arrived :: rest) :
    ∃ o, (w.box r).opened (c r).peer (inbound r arrived) (w.draws r) = some o ∧
      o.plaintext = arrived.ciphertext.text ∧ Tuned (w.given r arrived rest) := by
  have hframes := Chat.frames_given_other hflight
  cases h with
  | idle _ _ hnothing =>
    rw [hnothing r.other] at hflight
    cases hflight
  | opening p q hq l b draw first more hp hnone hkeys hoffers hdrawn hwait hfirsts hfirst
      hback =>
    rcases other_of_ne (r := r) hq with rfl | ⟨rfl, rfl⟩
    · subst hq
      rw [hback] at hflight
      cases hflight
    · rw [hflight] at hfirsts
      cases hfirsts
      have hemp : w.frames r = [] := by simp [frames, hback]
      have hmore : (w.given r arrived rest).frames r.other =
          rest.map fun m => (m.header, m.ciphertext) := by
        simp [frames]
      rw [hframes, hmore] at hwait
      rcases given_first hnone hkeys hoffers hwait hfirst with
        ⟨o, l', ho, htext, hline, hdhs, hmatch⟩
      refine ⟨o, ho, htext, ?_⟩
      refine .matched r r.other rfl l' l hline (by simpa using hp) (.of_given hdhs)
        (hdrawn.mono (draws_given _)) ?_
      rw [frames_given, hemp, hmore]
      exact hmatch
  | matched p q hq l f hl hf hlead hfoll hmatch =>
    rcases other_of_ne (r := r) hq with rfl | ⟨rfl, rfl⟩
    · subst hq
      rw [hframes] at hmatch
      rcases hmatch.leader_decrypt (ratchetPair (c r).own (w.draws r)) with
        ⟨l', hopen, hdhs, hmatch'⟩
      rcases Mailbox.receive_stored (m := inbound r arrived) hl rfl rfl hopen with
        ⟨o, ho, htext, hline, -⟩
      refine ⟨o, ho, htext, ?_⟩
      refine .matched r r.other rfl l' f (by simpa using hline) (by simpa using hf)
        ((hlead.congr hdhs).mono (draws_given r)) (hfoll.mono (draws_given _)) ?_
      rw [frames_given]
      exact hmatch'
    · rw [hframes] at hmatch
      rcases hmatch.follower_decrypt hfoll.ne with ⟨f', hopen, hnext⟩
      rcases Mailbox.receive_stored (m := inbound r arrived) hf rfl rfl hopen with
        ⟨o, ho, htext, hline, -⟩
      refine ⟨o, ho, htext, ?_⟩
      rcases hnext with ⟨hdhs, hmatch'⟩ | ⟨hdhs, hmatch'⟩
      · refine .matched r.other r hq l f' (by simpa using hl) (by simpa using hline)
          (hlead.mono (draws_given _)) ((hfoll.congr hdhs).mono (draws_given r)) ?_
        rw [frames_given]
        exact hmatch'
      · refine .matched r r.other rfl f' l (by simpa using hline) (by simpa using hl)
          (.of_given hdhs) (hlead.mono (draws_given _)) ?_
        rw [frames_given]
        exact hmatch'

/-- One step: the devices stay in tune, and what was sent is what was read and what is on its
way. -/
lemma step (h : Tuned w) {event : ChatEvent} (hcalm : w.Calm event) :
    Tuned (w.step event).2 ∧ ∀ p, (w.step event).2.read p.other ++ (w.step event).2.texts p =
      w.read p.other ++ w.texts p ++ sends p [event] := by
  cases event with
  | send r bundle text =>
    rcases h.sent hcalm with ⟨posted, box, hsend, htext, htuned⟩
    have hstep : (w.step (.send r bundle text)).2 = w.sent r posted box := by
      unfold Chat.step
      dsimp only
      rw [hsend]
    rw [hstep]
    refine ⟨htuned, ?_⟩
    intro p
    rcases eq_or_ne r p with rfl | hne
    · simp [Chat.sent, texts, sends, htext]
    · simp [Chat.sent, texts, sends, hne, hne.symm]
  | deliver r =>
    cases hflight : w.flight r.other with
    | nil =>
      have hstep : (w.step (.deliver r)).2 = w := by
        unfold Chat.step
        dsimp only
        rw [hflight]
      rw [hstep]
      exact ⟨h, fun p => by simp [sends]⟩
    | cons arrived rest =>
      rcases h.given hflight with ⟨o, ho, htext, htuned⟩
      have hstep : (w.step (.deliver r)).2 = w.given r arrived rest := by
        unfold Chat.step
        dsimp only
        rw [hflight]
      rw [hstep]
      refine ⟨htuned, ?_⟩
      intro p
      rcases eq_or_ne p r.other with rfl | hne
      · simp [Chat.given, texts, sends, ho, htext, hflight]
      have hp : p.other ≠ r := by
        rintro rfl
        exact hne (by simp)
      simp [Chat.given, texts, sends, hne, hp]

lemma after (h : Tuned w) {events : List ChatEvent}
    (hcalm : Machine.Guarded Chat.step Calm w events) :
    Tuned (w.after events) ∧ ∀ p, (w.after events).read p.other ++ (w.after events).texts p =
      w.read p.other ++ w.texts p ++ sends p events := by
  induction events generalizing w with
  | nil => exact ⟨h, fun p => by simp [sends]⟩
  | cons event rest ih =>
    rcases hcalm with ⟨hev, hrest⟩
    rcases h.step hev with ⟨htuned, hstep⟩
    rcases ih htuned hrest with ⟨hafter, hcons⟩
    refine ⟨hafter, fun p => (hcons p).trans ?_⟩
    rw [hstep p, List.append_assoc, ← sends_cons]

end Tuned

/-- From devices that fit together, in every interleaving in which nobody begins a session against
one that the other has: what a device sends is what the other reads, in order, and what is on its
way. -/
theorem conversation_opens {w : Chat c} (hw : Tuned w) {events : List ChatEvent}
    (hcalm : Machine.Guarded Chat.step Calm w events) (p : Side) :
    (w.after events).read p.other ++ (w.after events).texts p =
        w.read p.other ++ w.texts p ++ sends p events ∧ ((w.after events).flight p = [] →
        (w.after events).read p.other = w.read p.other ++ w.texts p ++ sends p events) := by
  have hcons := (hw.after hcalm).2 p
  refine ⟨hcons, ?_⟩
  intro hemp
  rw [← hcons]
  simp [texts, hemp]

namespace Crossing

lemma fresh_ne_signed (own : String) (draw : Nat) : fresh own draw ≠ own ++ ".spk" := by
  intro h
  have hlist := congrArg String.toList h
  simp only [fresh, String.toList_append, List.append_cancel_left_eq, String.toList_ofList] at hlist
  have hdot : '.' ∈ List.replicate draw '+' := by
    rw [hlist]
    decide
  have heq := List.eq_of_mem_replicate hdot
  revert heq
  decide

/-- A device with a signed prekey and no one-time prekeys. -/
def device (kind : Kind) (own : String) (named : own ≠ "") : Party where
  kind := kind
  own := own
  userId := own
  deviceId := "phone"
  Device := String
  peer := "peer"
  keys := ⟨own ++ ".spk", none, []⟩
  named := named
  apart k hk draw := by
    rcases hk with rfl | hnone
    · exact fresh_ne_signed own draw
    · cases hnone

/-- Two devices with the given clients. -/
def devices (kind kind' : Kind) : Side → Party
  | .alice => device kind "alice" (by decide)
  | .bob => device kind' "bob" (by decide)

def toAlice (text : String) : ChatEvent := .send .bob (entry "alice" "alice.spk" "") text

def toBob (text : String) : ChatEvent := .send .alice (entry "bob" "bob.spk" "") text

/-- One device begins, and the other answers. -/
def answered : List ChatEvent :=
  [toBob "one", toBob "two", .deliver .bob, toAlice "yes", .deliver .alice, toBob "three",
    .deliver .bob, .deliver .bob]

theorem conversation_opens_answered : ((new (devices .web .ios)).after answered).read .bob =
        [some "one", some "two", some "three"] ∧
      ((new (devices .web .ios)).after answered).read .alice = [some "yes"] := by
  have hcalm : Machine.Guarded Chat.step Calm (new (devices .web .ios)) answered := by
    decide +kernel
  have hemp : ∀ p, ((new (devices .web .ios)).after answered).flight p = [] := by
    intro p
    apply List.eq_nil_of_length_eq_zero
    cases p with
    | alice | bob => decide +kernel
  exact ⟨(conversation_opens (Tuned.new _) hcalm .alice).2 (hemp .alice),
    (conversation_opens (Tuned.new _) hcalm .bob).2 (hemp .bob)⟩

/-- Both devices begin; when nothing is on its way any more, each sends again. -/
def crossed : List ChatEvent := [toBob "a1", toAlice "b1", .deliver .bob, .deliver .alice]

def later : List ChatEvent := [toBob "a2", toAlice "b2", .deliver .bob, .deliver .alice]

/-- How many messages are on their way once the first ones are delivered, and what the two devices
make of the messages they are given. -/
def outcome (kind kind' : Kind) : (Nat × Nat) × List (Option String) × List (Option String) :=
  let w := (new (devices kind kind')).after crossed
  (((w.flight .alice).length, (w.flight .bob).length), (w.after later).read .bob,
    (w.after later).read .alice)

/-- Whatever the two clients are, the first messages are opened and the later ones are not. -/
theorem crossing_breaks : outcome .web .web = ((0, 0), [some "a1", none], [some "b1", none]) ∧
      outcome .web .ios = ((0, 0), [some "a1", none], [some "b1", none]) ∧
      outcome .ios .ios = ((0, 0), [some "a1", none], [some "b1", none]) := by
  decide +kernel

end Crossing

end SyncApp.SecretChats
