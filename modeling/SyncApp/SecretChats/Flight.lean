import SyncApp.Ratchet.FirstFlight
import SyncApp.SecretChats.Handshake

/-!
# The messages before the first reply

A device begins a session and sends messages, and its app is started again now and then.  They reach
the other device in any order, some more than once, and wait in the queue until they are confirmed.
Only a message with the keys of the handshake begins the session there.

Main results:

- `Mailbox.sealed_post`: what a device sends before it is answered.
- `Gathering.step`: what one delivery keeps, and when it opens its message.
- `first_flight_opens`: each message is opened once, in every order of fair deliveries.
-/

namespace SyncApp.SecretChats

open Foundations Ratchet Ratchet.Generic List
open Symbolic (Agreement signature fresh)
open Prod (fst snd)
open Ratchet.Ideal (frame)

variable {own other : String} {D : Type}

/-! ## The sending device -/

/-- What the sending device does. -/
inductive Outgoing (own : String) (D : Type) where
  | text (bundle : Bundle) (text : String)
  /-- The app is started again from what it had stored. -/
  | restart (stored : Mailbox (ideal own) D)

def Outgoing.texts : List (Outgoing own D) → List String
  | [] => []
  | .text _ words :: rest => words :: texts rest
  | .restart _ :: rest => texts rest

/-- The messages of a device that nobody answers. -/
def Mailbox.post [DecidableEq D] (kind : Kind) (d : D) :
    Mailbox (ideal own) D → Nat → List (Outgoing own D) → List (Posted (ideal own))
  | _, _, [] => []
  | b, draw, .text bundle text :: rest =>
    match b.send kind d bundle text draw with
    | none => post kind d b draw rest
    | some (posted, b') => posted :: post kind d b' (draw + 1) rest
  | _, draw, .restart stored :: rest => post kind d stored.restart draw rest

/-- Whenever the app is started again, the session with the other device is stored as it is. -/
def Mailbox.Keeps [DecidableEq D] (kind : Kind) (d : D) :
    Mailbox (ideal own) D → Nat → List (Outgoing own D) → Prop
  | _, _, [] => True
  | b, draw, .text bundle text :: rest =>
    match b.send kind d bundle text draw with
    | none => Keeps kind d b draw rest
    | some (_, b') => Keeps kind d b' (draw + 1) rest
  | b, draw, .restart stored :: rest =>
    stored.sessions d = b.sessions d ∧ Keeps kind d stored.restart draw rest

/-- Messages of one chain: where they were sealed, and the ephemeral key that some of them carry. -/
structure Sealed (posts : List (Posted (ideal own))) (root : Ideal.Root String Agreement)
    (dh ephemeral : String) (texts : List String) : Prop where
  frames : posts.map (fun p => (p.header, p.ciphertext)) = Ideal.frames root dh 0 0 texts
  bootstrap : ∀ p ∈ posts, p.bootstrap = none ∨ p.bootstrap = some ephemeral

section Sending

variable [DecidableEq D] {kind : Kind} {d : D} {b : Mailbox (ideal own) D} {l : Line}
  {secret : Agreement} {signedPreKey ephemeral : String}
  {before : List (Ideal.Header String × Ideal.Cipher String Agreement)}

/-- What a device that has begun sends after what it has sent. -/
lemma Mailbox.waiting_post (script : List (Outgoing own D)) (draw : Nat)
    (hkeeps : b.Keeps kind d draw script) (hl : b.line d = some l)
    (hwait : Ideal.Waiting l secret signedPreKey before)
    (hpend : kind = .ios → b.pending d = none ∨ b.pending d = some ephemeral) :
    ∃ l', Ideal.Waiting l' secret signedPreKey
        (before ++ (b.post kind d draw script).map fun p => (p.header, p.ciphertext)) ∧
      l'.dhs = l.dhs ∧
      (b.post kind d draw script).map (fun p => p.ciphertext.text) = Outgoing.texts script ∧
      ∀ p ∈ b.post kind d draw script, p.bootstrap = none ∨ p.bootstrap = some ephemeral := by
  induction script generalizing b draw l before with
  | nil =>
    refine ⟨l, ?_, rfl, rfl, fun p hp => nomatch hp⟩
    simpa [Mailbox.post] using hwait
  | cons action rest ih =>
    cases action with
    | text bundle text =>
      rcases hwait.encrypt text with ⟨_, _, hseal, htext, hdhs, hwait'⟩
      rcases Mailbox.send_stored hl hseal kind bundle draw with
        ⟨posted, b', hsend, rfl, hl', -, hboot, hpending'⟩
      rw [Mailbox.Keeps, hsend] at hkeeps
      rcases ih (draw + 1) hkeeps hl' hwait' (by rw [hpending']; exact hpend) with
        ⟨l'', hrest, hdhs', htexts, hboots⟩
      have hpost : b.post kind d draw (.text bundle text :: rest) =
          posted :: b'.post kind d (draw + 1) rest := by
        rw [Mailbox.post, hsend]
      rw [hpost]
      refine ⟨l'', ?_, hdhs'.trans hdhs, ?_, ?_⟩
      · simpa using hrest
      · rw [map_cons, htexts, htext]
        rfl
      · intro p hp
        rcases mem_cons.mp hp with rfl | hp
        · rw [hboot]
          cases kind with
          | web | android => exact .inl rfl
          | ios => exact hpend rfl
        · exact hboots p hp
    | restart stored =>
      have hl' : stored.restart.line d = some l := by
        unfold Mailbox.line at hl ⊢
        rw [← hl]
        exact congrArg _ hkeeps.1
      exact ih draw (b := stored.restart) hkeeps.2 hl' hwait (fun _ => .inl rfl)

/-- What a device sends before it is answered: messages of one chain, the first of which carries
the ephemeral key. -/
theorem Mailbox.sealed_post {keys : Prekeys (ideal other)} {bundle : Bundle}
    (hnone : b.line d = none) (hoffers : bundle.Offers keys) (kind : Kind) (text : String)
    (draw : Nat) (script : List (Outgoing own D))
    (hkeeps : b.Keeps kind d draw (.text bundle text :: script)) :
    let posts := b.post kind d draw (.text bundle text :: script)
    Sealed posts ⟨agreement own bundle draw, [s(fresh own draw, bundle.signedPrekey)]⟩
        (fresh own draw) (ephemeralKey own draw) (text :: Outgoing.texts script) ∧
      ∀ p ∈ posts.head?, p.bootstrap = some (ephemeralKey own draw) := by
  rcases (waiting_initiatorLine own bundle draw).encrypt text with
    ⟨sealed, l, hseal, htext, hdhs, hwait⟩
  rcases Mailbox.send_first hnone hoffers hseal kind with
    ⟨posted, b', hsend, rfl, hl, -, hboot, hpend⟩
  have hpost : b.post kind d draw (.text bundle text :: script) =
      posted :: b'.post kind d (draw + 1) script := by
    rw [Mailbox.post, hsend]
  have howes : kind = .ios → b'.pending d = none ∨ b'.pending d = some (ephemeralKey own draw) := by
    rintro rfl
    rw [hpend]
    exact .inr (Function.update_self ..)
  rw [Mailbox.Keeps, hsend] at hkeeps
  rcases Mailbox.waiting_post script (draw + 1) hkeeps hl hwait howes with
    ⟨l', hwait', hdhs', htexts, hboots⟩
  rcases hwait'.flight with ⟨texts, hframes, -⟩
  have hkey : l'.dhs.key = fresh own draw := by
    rw [hdhs', hdhs]
    rfl
  rw [hwait'.root, hkey] at hframes
  have hall : texts = text :: Outgoing.texts script := by
    have hmap := congrArg (map fun sealed => sealed.2.text) hframes
    rw [Ideal.map_text_frames] at hmap
    rw [← hmap, ← htexts]
    simpa using htext
  intro posts
  have hposts : posts = posted :: b'.post kind d (draw + 1) script := hpost
  rw [hposts]
  refine ⟨⟨?_, ?_⟩, ?_⟩
  · rw [← hall, ← hframes]
    rfl
  · intro p hp
    rcases mem_cons.mp hp with rfl | hp
    · exact .inr hboot
    · exact hboots p hp
  · intro p hp
    cases hp
    exact hboot

end Sending

/-- Whether a client confirms a message of the queue, given whether it was opened: the web client
confirms every message, iOS those that it opened, Android none. -/
def Kind.confirms : Kind → Bool → Bool
  | .web, _ => true
  | .android, _ => false
  | .ios, opened => opened

/-- The messages of a device, the client of the other one and its name for the first. -/
structure Link (own other : String) (D : Type) where
  posts : List (Posted (ideal own))
  userId : String
  deviceId : String
  kind : Kind
  device : D

/-- The receiving device, the messages that wait in the queue, and those that were opened, the last
one first. -/
structure Arrival (other : String) (D : Type) where
  box : Mailbox (ideal other) D
  draws : Nat
  queued : List Nat
  log : List (Nat × String)

/-- A delivery of a message, and whether the confirmation of it is heard, if there is one. -/
structure Delivery where
  index : Nat
  heard : Bool

namespace Link

variable (k : Link own other D)

/-- A message as it arrives. -/
def mail (i : Nat) : Option (Inbound (ideal other)) :=
  k.posts[i]?.map fun p => (p.reached other).inbound k.userId k.deviceId own

/-- A message carries the keys of the handshake. -/
def carries (i : Nat) : Bool := (k.posts[i]?.bind Posted.bootstrap).isSome

/-- All messages wait, and none was delivered. -/
def start (box : Mailbox (ideal other) D) : Arrival other D :=
  ⟨box, 0, range k.posts.length, []⟩

variable [DecidableEq D] (w : Arrival other D)

def handle (m : Inbound (ideal other)) (e : Delivery) : Arrival other D :=
  let opened := w.box.opened k.device m w.draws
  { box := w.box.receive k.device m w.draws
    draws := w.draws + 1
    queued :=
      if k.kind.confirms opened.isSome && e.heard then w.queued.filter (· ≠ e.index)
      else w.queued
    log := (opened.map fun o => (e.index, o.plaintext)).toList ++ w.log }

/-- A message that waits is delivered. -/
def step (e : Delivery) : Unit × Arrival other D :=
  match k.mail e.index with
  | none => ((), w)
  | some m => if e.index ∈ w.queued then ((), k.handle w m e) else ((), w)

/-- The device after a number of deliveries. -/
abbrev after (deliveries : List Delivery) : Arrival other D :=
  Machine.final k.step w deliveries

/-- The message is within reach of the session; without a one-time prekey, the handshake's keys do
not come again with a message that was opened; and the web client is not given a message that it
cannot open and would confirm. -/
def Fair (oneTime : Option String) (w : Arrival other D) (e : Delivery) : Prop :=
  e.index ∈ w.queued →
    (∀ l ∈ w.box.line k.device, Ideal.Reaches l e.index) ∧
      (w.box.line k.device = none → e.index ≤ Web.maxSkip) ∧
      (oneTime = none → k.carries e.index = true → e.index ∉ w.log.map fst) ∧
      (k.kind = .web → (w.box.line k.device).isSome ∨ k.carries e.index = true)
deriving Decidable

end Link

/-! ## What every delivery keeps -/

/-- The messages are those of a device that began with a secret and was not answered. -/
structure Link.Honest (k : Link own other D) (a : Agreement) (dh : String) (texts : List String) :
    Prop where
  posts : Sealed k.posts ⟨a, [s(dh, a.signedPreKey)]⟩ dh a.ephemeral texts
  initiator : a.initiator = own
  responder : a.responder = other
  named : own ≠ ""
  drawn : a.ephemeral ≠ ""

/-- The device has not begun and can, or collects the messages and cannot begin again. -/
structure Gathering (k : Link own other D) (a : Agreement) (dh : String) (texts : List String)
    (w : Arrival other D) : Prop where
  session : (w.box.line k.device = none ∧ w.log = [] ∧
      (a.signedPreKey, a.oneTimePreKey) ∈ w.box.keys.candidates) ∨
    ∃ l, w.box.line k.device = some l ∧ w.log ≠ [] ∧
      Ideal.Collecting l ⟨a, [s(dh, a.signedPreKey)]⟩ dh (w.log.map fst) ∧
      ∀ key, a.oneTimePreKey = some key → key ∉ w.box.keys.oneTimePreKeys
  once : (w.log.map fst).Nodup
  right : ∀ i text, (i, text) ∈ w.log → texts[i]? = some text
  confirmed : ∀ i < texts.length, i ∉ w.queued → i ∈ w.log.map fst

section Receiving

variable {k : Link own other D} {a : Agreement} {dh : String} {texts : List String}
  {w : Arrival other D} {m : Inbound (ideal other)} {i : Nat}

/-- A message as it arrives: a frame of the chain, with the keys of the handshake or without. -/
lemma Link.Honest.mail (hk : k.Honest a dh texts) (hm : k.mail i = some m) :
    ∃ text, texts[i]? = some text ∧
      m.header = some (frame ⟨a, [s(dh, a.signedPreKey)]⟩ dh 0 i text).1 ∧
      m.ciphertext = some (frame ⟨a, [s(dh, a.signedPreKey)]⟩ dh 0 i text).2 ∧
      ((k.carries i = true ∧ m.ik = some own ∧ m.ek = some a.ephemeral) ∨
        (k.carries i = false ∧ m.ik = none ∧ m.ek = none)) := by
  rcases Option.map_eq_some_iff.mp hm with ⟨p, hp, rfl⟩
  have hfr := congrArg (fun frames => frames[i]?) hk.posts.frames
  simp only [getElem?_map, hp, Option.map_some, Ideal.getElem?_frames, Nat.zero_add] at hfr
  rcases Option.map_eq_some_iff.mp hfr.symm with ⟨text, htext, hpair⟩
  refine ⟨text, htext, ?_, ?_, ?_⟩
  · rw [hpair]
    rfl
  · rw [hpair]
    rfl
  · rcases hk.posts.bootstrap p (mem_of_getElem? hp) with hnone | hsome
    · right
      simp [Link.carries, hp, hnone, Posted.inbound, Posted.reached]
    · left
      simp [Link.carries, hp, hsome, Posted.inbound, Posted.reached]

lemma Link.Honest.length_posts (hk : k.Honest a dh texts) : k.posts.length = texts.length := by
  have hlen := congrArg length hk.posts.frames
  rw [length_map] at hlen
  have hmap := congrArg length (Ideal.map_text_frames (A := Agreement)
    ⟨a, [s(dh, a.signedPreKey)]⟩ dh 0 0 texts)
  rw [length_map] at hmap
  exact hlen.trans hmap

variable [DecidableEq D] {e : Delivery}

lemma Link.log_handle_of_none (h : w.box.opened k.device m w.draws = none) :
    (k.handle w m e).log = w.log := by
  simp [Link.handle, h]

lemma Link.log_handle_of_some {o : Opened (ideal other)}
    (h : w.box.opened k.device m w.draws = some o) :
    (k.handle w m e).log = (e.index, o.plaintext) :: w.log := by
  simp [Link.handle, h]

/-- A message waits, or it is the one that was handled. -/
lemma Link.queued_handle (hi : i ∉ (k.handle w m e).queued) : i ∉ w.queued ∨ (i = e.index ∧
      k.kind.confirms (w.box.opened k.device m w.draws).isSome = true) := by
  unfold Link.handle at hi
  dsimp only at hi
  split at hi
  · next hconf =>
    rw [Bool.and_eq_true] at hconf
    by_cases hidx : i = e.index
    · exact .inr ⟨hidx, hconf.1⟩
    · left
      intro hqueued
      exact hi (mem_filter.mpr ⟨hqueued, decide_eq_true hidx⟩)
  · exact .inl hi

namespace Gathering

variable {e : Delivery} {l : Line} {deliveries : List Delivery}

section

variable (h : Gathering k a dh texts w)
include h

/-- A message that is not opened is not confirmed, or it was opened before. -/
lemma unopened (hnone : w.box.opened k.device m w.draws = none)
    (hkept : k.kind.confirms false = true → e.index ∈ w.log.map fst) :
    Gathering k a dh texts (k.handle w m e) := by
  have hbox : (k.handle w m e).box = w.box := Mailbox.receive_of_none hnone
  have hlog : (k.handle w m e).log = w.log := Link.log_handle_of_none hnone
  refine ⟨?_, ?_, ?_, ?_⟩
  · rw [hbox, hlog]
    exact h.session
  · rw [hlog]
    exact h.once
  · rw [hlog]
    exact h.right
  · intro i hi hqueued
    rw [hlog]
    rcases Link.queued_handle hqueued with hpre | ⟨rfl, hconf⟩
    · exact h.confirmed i hi hpre
    rw [hnone] at hconf
    exact hkept hconf

lemma opened {o : Opened (ideal other)} (hopen : w.box.opened k.device m w.draws = some o)
    (htext : texts[e.index]? = some o.plaintext) (hnew : e.index ∉ w.log.map fst)
    (hline : (w.box.receive k.device m w.draws).line k.device = some l)
    (hcoll : Ideal.Collecting l ⟨a, [s(dh, a.signedPreKey)]⟩ dh (e.index :: w.log.map fst))
    (hgone : ∀ key, a.oneTimePreKey = some key → key ∉
    (w.box.receive k.device m w.draws).keys.oneTimePreKeys) :
    Gathering k a dh texts (k.handle w m e) := by
  have hlog := Link.log_handle_of_some (e := e) hopen
  refine ⟨.inr ⟨l, hline, ?_, ?_, hgone⟩, ?_, ?_, ?_⟩
  · rw [hlog]
    exact cons_ne_nil _ _
  · rw [hlog]
    exact hcoll
  · rw [hlog]
    exact nodup_cons.mpr ⟨hnew, h.once⟩
  · intro i text hi
    rw [hlog] at hi
    rcases mem_cons.mp hi with heq | hi
    · cases heq
      exact htext
    · exact h.right i text hi
  · intro i hi hqueued
    rw [hlog, map_cons]
    rcases Link.queued_handle hqueued with hpre | ⟨rfl, -⟩
    · exact mem_cons_of_mem _ (h.confirmed i hi hpre)
    · exact mem_cons_self

variable (hk : k.Honest a dh texts)
include hk

variable (hm : k.mail e.index = some m)
include hm

lemma handle_first (hnone : w.box.line k.device = none) (hlog : w.log = [])
    (hcand : (a.signedPreKey, a.oneTimePreKey) ∈ w.box.keys.candidates)
    (hcarry : k.carries e.index = true) (hskip : e.index ≤ Web.maxSkip) :
    Gathering k a dh texts (k.handle w m e) ∧ e.index ∈ (k.handle w m e).log.map fst := by
  rcases hk.mail hm with ⟨text, htext, hhdr, hciph, ⟨-, hik, hek⟩ | ⟨hnot, -⟩⟩
  · have ha : a = ⟨own, a.ephemeral, other, a.signedPreKey, a.oneTimePreKey⟩ := by
      rw [← hk.initiator, ← hk.responder]
    have hfirst : ∃ l, (responderLine other a.signedPreKey a.oneTimePreKey own
          a.ephemeral).decrypt (ratchetPair other w.draws)
          (frame ⟨a, [s(dh, a.signedPreKey)]⟩ dh 0 e.index text).1
          (frame ⟨a, [s(dh, a.signedPreKey)]⟩ dh 0 e.index text).2 = some (text, l) ∧
        Ideal.Collecting l ⟨a, [s(dh, a.signedPreKey)]⟩ dh [e.index] := by
      unfold responderLine
      rw [← ha]
      exact Ideal.collecting_first hskip rfl _ text
    rcases hfirst with ⟨l, hdec, hcoll⟩
    have hclosed : ∀ s, w.box.line k.device = some s →
        s.decrypt (ratchetPair other w.draws)
          (frame ⟨a, [s(dh, a.signedPreKey)]⟩ dh 0 e.index text).1
          (frame ⟨a, [s(dh, a.signedPreKey)]⟩ dh 0 e.index text).2 = none := by
      intro s hs
      rw [hnone] at hs
      cases hs
    rcases Mailbox.receive_first hclosed hik hek hk.named hk.drawn hhdr hciph hcand ha
      hdec with ⟨o, hopen, htext', hline, hcons⟩
    subst htext'
    refine ⟨h.opened hopen htext (by simp [hlog]) hline (by simpa [hlog] using hcoll) ?_, ?_⟩
    · intro key hkey
      rw [Mailbox.receive_of_some hopen, hcons, hkey]
      simp [Prekeys.drop]
    · rw [Link.log_handle_of_some hopen, map_cons]
      exact mem_cons_self
  · rw [hcarry] at hnot
    cases hnot

lemma handle_session (hl : w.box.line k.device = some l)
    (hcoll : Ideal.Collecting l ⟨a, [s(dh, a.signedPreKey)]⟩ dh (w.log.map fst))
    (hgone : ∀ key, a.oneTimePreKey = some key → key ∉ w.box.keys.oneTimePreKeys)
    (hreach : Ideal.Reaches l e.index)
    (hrepeat : a.oneTimePreKey = none → k.carries e.index = true → e.index ∉ w.log.map fst) :
    Gathering k a dh texts (k.handle w m e) ∧ e.index ∈ (k.handle w m e).log.map fst := by
  rcases hk.mail hm with ⟨text, htext, hhdr, hciph, hkeys⟩
  by_cases hold : e.index ∈ w.log.map fst
  · -- Neither the session nor the prekeys that are left open it again.
    have hnone : w.box.opened k.device m w.draws = none := by
      refine Mailbox.opened_eq_none hhdr hciph ?_ ?_
      · intro s hs
        rw [hl] at hs
        cases hs
        exact hcoll.refuses hold _ text
      · intro ik ek hik _ candidate hcand hsec
        have hsame : a = ⟨ik, ek, other, candidate.1, candidate.2⟩ := hsec
        cases hotk : a.oneTimePreKey with
        | none =>
          rcases hkeys with ⟨hcarry, -⟩ | ⟨-, hnot, -⟩
          · exact hrepeat hotk hcarry hold
          · rw [hnot] at hik
            cases hik
        | some key =>
          have hcandidate' : (candidate.1, some key) ∈ w.box.keys.candidates := by
            rw [← hotk, hsame]
            exact hcand
          exact hgone key hotk (mem_of_candidate hcandidate')
    refine ⟨h.unopened hnone (fun _ => hold), ?_⟩
    rw [Link.log_handle_of_none hnone]
    exact hold
  · rcases hcoll.opens hold hreach (ratchetPair other w.draws) text with
      ⟨_, hdec, hcollecting'⟩
    rcases Mailbox.receive_stored hl hhdr hciph hdec with
      ⟨o, hopen, htext', hline, hcons⟩
    subst htext'
    refine ⟨h.opened hopen htext hold hline hcollecting' ?_, ?_⟩
    · rw [Mailbox.receive_of_some hopen, hcons]
      exact hgone
    · rw [Link.log_handle_of_some hopen, map_cons]
      exact mem_cons_self

lemma handle_bare (hnone : w.box.line k.device = none) (hbare : k.carries e.index = false)
    (hweb : k.kind ≠ .web) : Gathering k a dh texts (k.handle w m e) := by
  rcases hk.mail hm with ⟨_, _, hhdr, hciph, ⟨hcarry, -⟩ | ⟨-, hik, -⟩⟩
  · rw [hbare] at hcarry
    cases hcarry
  refine h.unopened (Mailbox.opened_eq_none hhdr hciph ?_ ?_) ?_
  · intro s hs
    rw [hnone] at hs
    cases hs
  · intro ik ek hik'
    rw [hik] at hik'
    cases hik'
  · intro hconf
    cases hkind : k.kind with
    | web => exact absurd hkind hweb
    | android | ios =>
      rw [hkind] at hconf
      cases hconf

end

lemma log_handle (w : Arrival other D) (m : Inbound (ideal other)) (e : Delivery) :
    w.log <:+ (k.handle w m e).log := by
  cases hopen : w.box.opened k.device m w.draws with
  | none => rw [Link.log_handle_of_none hopen]
  | some =>
    rw [Link.log_handle_of_some hopen]
    exact suffix_cons ..

lemma log_step (w : Arrival other D) (e : Delivery) : w.log <:+ (k.step w e).2.log := by
  unfold Link.step
  split
  · exact suffix_rfl
  split
  · exact log_handle ..
  · exact suffix_rfl

lemma log_after (w : Arrival other D) (deliveries : List Delivery) :
    w.log <:+ (k.after w deliveries).log := by
  induction deliveries generalizing w with
  | nil => exact suffix_rfl
  | cons e rest ih => exact (log_step w e).trans (ih _)

/-- One delivery.  If the device has begun, or the message carries the keys, the message is opened
now if it was not opened before. -/
theorem step (h : Gathering k a dh texts w) (hk : k.Honest a dh texts)
    (hfair : k.Fair a.oneTimePreKey w e) : Gathering k a dh texts (k.step w e).2 ∧
      (e.index < texts.length → w.log ≠ [] ∨ k.carries e.index = true →
        e.index ∈ (k.step w e).2.log.map fst) := by
  cases hm : k.mail e.index with
  | none =>
    have hstep : (k.step w e).2 = w := by
      unfold Link.step
      rw [hm]
    rw [hstep]
    refine ⟨h, ?_⟩
    intro hlt
    have hle := List.getElem?_eq_none_iff.mp (Option.map_eq_none_iff.mp hm)
    rw [hk.length_posts] at hle
    omega
  | some m =>
    by_cases hqueued : e.index ∈ w.queued
    · have hstep : (k.step w e).2 = k.handle w m e := by
        unfold Link.step
        rw [hm]
        exact congrArg snd (if_pos hqueued)
      rw [hstep]
      rcases hfair hqueued with ⟨hreach, hskip, hrepeat, hweb⟩
      rcases h.session with ⟨hnone, hlog, hcand⟩ | ⟨l, hl, -, hcoll, hgone⟩
      · cases hcarry : k.carries e.index with
        | true =>
          rcases h.handle_first hk hm hnone hlog hcand hcarry (hskip hnone) with
            ⟨hgathering, hmem⟩
          exact ⟨hgathering, fun _ _ => hmem⟩
        | false =>
          have hother : k.kind ≠ .web := by
            intro hkind
            rcases hweb hkind with hsome | htrue
            · rw [hnone] at hsome
              cases hsome
            · rw [hcarry] at htrue
              cases htrue
          refine ⟨h.handle_bare hk hm hnone hcarry hother, ?_⟩
          rintro - (hlive | hfalse)
          · exact absurd hlog hlive
          · cases hfalse
      · rcases h.handle_session hk hm hl hcoll hgone (hreach l hl) hrepeat with
          ⟨hgathering, hmem⟩
        exact ⟨hgathering, fun _ _ => hmem⟩
    · have hstep : (k.step w e).2 = w := by
        unfold Link.step
        rw [hm]
        exact congrArg snd (if_neg hqueued)
      rw [hstep]
      exact ⟨h, fun hlt _ => h.confirmed e.index hlt hqueued⟩

variable (h : Gathering k a dh texts w)
include h

variable (hk : k.Honest a dh texts)
include hk

section

variable (hfair : Machine.Guarded k.step (k.Fair a.oneTimePreKey) w deliveries)
include hfair

lemma after : Gathering k a dh texts (k.after w deliveries) :=
  Machine.guarded_final k.step (fun _ _ hw he => (hw.step hk he).1) h hfair

/-- A device that was given a message with the keys has begun. -/
lemma log_ne_nil (he : e ∈ deliveries) (hcarry : k.carries e.index = true) :
    (k.after w deliveries).log ≠ [] := by
  induction deliveries generalizing w with
  | nil => cases he
  | cons first rest ih =>
    rcases hfair with ⟨hfirst, hrest⟩
    have hstep := h.step hk hfirst
    rcases mem_cons.mp he with rfl | he
    · have hlt : e.index < texts.length := by
        rw [← hk.length_posts]
        by_contra hge
        have hnone : k.posts[e.index]? = none := List.getElem?_eq_none_iff.mpr (by omega)
        simp [Link.carries, hnone] at hcarry
      have hmem := hstep.2 hlt (.inr hcarry)
      intro hnil
      have hsuffix := log_after (k := k) (k.step w e).2 rest
      rw [show (k.after (k.step w e).2 rest).log = [] from hnil, suffix_nil] at hsuffix
      rw [hsuffix] at hmem
      cases hmem
    · exact ih hstep.1 hrest he

end

/-- A message that is delivered once the device has begun, or carries the keys itself, is among
those that were opened. -/
lemma delivered {before later : List Delivery}
    (hfair : Machine.Guarded k.step (k.Fair a.oneTimePreKey) w (before ++ e :: later))
    (hlt : e.index < texts.length)
    (hcarry : k.carries e.index = true ∨ ∃ e' ∈ before, k.carries e'.index = true) :
    e.index ∈ (k.after w (before ++ e :: later)).log.map fst := by
  have hsplit := Machine.final_append k.step w before (e :: later)
  rw [Machine.guarded_append] at hfair
  rcases hfair with ⟨hpre, hev, -⟩
  have hlive : (k.after w before).log ≠ [] ∨ k.carries e.index = true := by
    rcases hcarry with hself | ⟨e', he', hearlier⟩
    · exact .inr hself
    · exact .inl (h.log_ne_nil hk hpre he' hearlier)
  have hmem := ((h.after hk hpre).step hk hev).2 hlt hlive
  have hsuffix := log_after (k := k) (k.step (k.after w before) e).2 later
  change e.index ∈ (Machine.final k.step w (before ++ e :: later)).log.map fst
  rw [hsplit]
  exact (List.IsSuffix.map fst hsuffix).subset hmem

end Gathering

end Receiving

/-! ## Each message once -/

/-- A device begins, sends and is started again any number of times, with the session stored as it
is; its messages are delivered in any order and number.  If the deliveries are fair, no message is
opened twice, each is opened with its text, and none is confirmed unopened; it is opened at the
latest when it comes with the keys of the handshake or after a message with them. -/
theorem first_flight_opens {D' : Type} [DecidableEq D] [DecidableEq D']
    {sender : Mailbox (ideal own) D} {receiver : Mailbox (ideal other) D'} {kind : Kind} {d : D}
    {bundle : Bundle} {text : String} {draw : Nat} {script : List (Outgoing own D)}
    {k : Link own other D'}
    (hposts : k.posts = sender.post kind d draw (.text bundle text :: script))
    (hkeeps : sender.Keeps kind d draw (.text bundle text :: script))
    (hnamed : own ≠ "") (hsender : sender.line d = none) (hreceiver : receiver.line k.device = none)
    (hoffers : bundle.Offers receiver.keys) {deliveries : List Delivery}
    (hfair : Machine.Guarded k.step (k.Fair bundle.oneTime) (k.start receiver) deliveries) :
    let texts := text :: Outgoing.texts script
    let w := k.after (k.start receiver) deliveries
    ((w.log.map fst).Nodup ∧ (∀ i t, (i, t) ∈ w.log → texts[i]? = some t) ∧
        ∀ i < texts.length, i ∉ w.queued → i ∈ w.log.map fst) ∧
      (∀ before e later, deliveries = before ++ e :: later → e.index < texts.length →
        (k.carries e.index = true ∨ ∃ e' ∈ before, k.carries e'.index = true) →
          e.index ∈ w.log.map fst) ∧
      k.carries 0 = true := by
  intro texts w
  rcases Mailbox.sealed_post hsender hoffers kind text draw script hkeeps with
    ⟨hsealed, hhead⟩
  rw [← hposts] at hsealed hhead
  have hek : ephemeralKey own draw ≠ "" := by
    simp [ephemeralKey, fresh, hnamed]
  have hk : k.Honest (agreement own bundle draw) (fresh own draw) texts :=
    ⟨hsealed, rfl, hoffers.1, hnamed, hek⟩
  have hstart : Gathering k (agreement own bundle draw) (fresh own draw) texts
      (k.start receiver) := by
    refine ⟨.inl ⟨hreceiver, rfl, hoffers.candidate⟩, nodup_nil,
      fun _ _ hin => absurd hin not_mem_nil, ?_⟩
    intro i hi hqueued
    rw [← hk.length_posts] at hi
    exact absurd (mem_range.mpr hi) hqueued
  have hafter := hstart.after hk hfair
  refine ⟨⟨hafter.once, hafter.right, hafter.confirmed⟩, ?_, ?_⟩
  · intro before e later hdeliveries hlt hcarry
    subst hdeliveries
    exact hstart.delivered hk hfair hlt hcarry
  · have hlen := hk.length_posts
    cases hfirst : k.posts with
    | nil =>
      rw [hfirst] at hlen
      cases hlen
    | cons p rest =>
      have hcarr := hhead p (by rw [hfirst]; rfl)
      simp [Link.carries, hfirst, hcarr]

namespace Flight

/-- The sending device. -/
def bob : Mailbox (ideal "bob") String := vacant String ⟨"bob.spk", none, []⟩

/-- What the device keeps after some messages. -/
def kept (kind : Kind) (oneTimePrekey : String) : List String → Mailbox (ideal "bob") String
  | [] => bob
  | text :: earlier =>
    let b := kept kind oneTimePrekey earlier
    ((b.send kind "alice" (entry "alice" "alice.spk" oneTimePrekey) text earlier.length).map
      snd).getD b

/-- Messages of one device, from its client, to another one, on its client. -/
def link (sender receiver : Kind) (oneTimePrekey : String)
    (script : List (Outgoing "bob" String)) : Link "bob" "alice" String where
  posts := bob.post sender "alice" 0
    (.text (entry "alice" "alice.spk" oneTimePrekey) "one" :: script)
  userId := "bob"
  deviceId := "phone"
  kind := receiver
  device := "bob"

/-- The receiving device has a one-time prekey. -/
def alice : Mailbox (ideal "alice") String := vacant String ⟨"alice.spk", none, ["alice.otk"]⟩

/-- A later message. -/
def further (words : String) : Outgoing "bob" String := .text (entry "alice" "alice.spk" "") words

/-- What waits and what was opened after some deliveries. -/
def outcome (k : Link "bob" "alice" String) (deliveries : List (Nat × Bool)) :
    List Nat × List (Nat × String) :=
  let w := k.after (k.start alice) (deliveries.map fun e => ⟨e.1, e.2⟩)
  (w.queued, w.log)

/-- The first message arrives after the last, and the confirmation of the last is lost. -/
def overtaken : List Delivery := [⟨2, false⟩, ⟨0, true⟩, ⟨2, true⟩, ⟨1, true⟩]

/-- From a phone that was started again after the first message to another phone. -/
def phone : Link "bob" "alice" String :=
  link .ios .ios "alice.otk"
    [.restart (kept .ios "alice.otk" ["one"]), further "two", further "three"]

/-- All three are opened, once each. -/
theorem first_flight_opens_overtaken : (phone.after (phone.start alice) overtaken).queued = [] ∧
      0 ∈ (phone.after (phone.start alice) overtaken).log.map fst ∧
      1 ∈ (phone.after (phone.start alice) overtaken).log.map fst ∧
      2 ∈ (phone.after (phone.start alice) overtaken).log.map fst ∧
      ((phone.after (phone.start alice) overtaken).log.map fst).Nodup := by
  have hfair : Machine.Guarded phone.step
      (phone.Fair (entry "alice" "alice.spk" "alice.otk").oneTime) (phone.start alice)
      overtaken := by decide +kernel
  have hemp : (phone.after (phone.start alice) overtaken).queued = [] := by decide +kernel
  have hoffers : (entry "alice" "alice.spk" "alice.otk").Offers alice.keys := by decide +kernel
  have hkeeps : bob.Keeps .ios "alice" 0 (.text (entry "alice" "alice.spk" "alice.otk") "one" ::
      [.restart (kept .ios "alice.otk" ["one"]), further "two", further "three"]) :=
    ⟨rfl, trivial⟩
  have h := first_flight_opens (k := phone) rfl hkeeps (by decide) rfl rfl hoffers hfair
  have hopened : ∀ i < 3, i ∈ (phone.after (phone.start alice) overtaken).log.map fst := by
    intro i hi
    refine h.1.2.2 i hi ?_
    exact hemp ▸ not_mem_nil
  exact ⟨hemp, hopened 0 (by decide), hopened 1 (by decide), hopened 2 (by decide), h.1.1⟩

/-- The second message reaches a browser before the first: it is confirmed, and never opened.
Without a one-time prekey, a first message whose confirmation is lost is opened twice.  And if a
page is opened again before the session of the second message is stored, the third is sealed where
the second was, and not opened. -/
theorem first_flight_lost :
    outcome (link .web .web "alice.otk" [further "two"]) [(1, true), (0, true)] =
        ([], [(0, "one")]) ∧
      outcome (link .android .web "alice.otk" [further "two"]) [(1, true), (0, true)] =
        ([], [(0, "one")]) ∧
      outcome (link .ios .web "alice.otk" [.restart (kept .ios "alice.otk" ["one"]),
          further "two"]) [(1, true), (0, true)] = ([], [(0, "one")]) ∧
      outcome (link .ios .ios "" []) [(0, false), (0, true)] = ([], [(0, "one"), (0, "one")]) ∧
      outcome (link .web .web "alice.otk" [further "two", .restart (kept .web "alice.otk" ["one"]),
          further "three"]) [(0, true), (1, true), (2, true)] = ([], [(1, "two"), (0, "one")]) := by
  decide +kernel

end Flight

end SyncApp.SecretChats
