import SyncApp.Ratchet.Calls

/-!
# Conversations of two sessions

Two sessions made from one secret exchange frames over a network that reorders, delays and drops
them.  The world records what each side sent and which frames of the other it has opened.
-/

namespace SyncApp.Ratchet

open Foundations

/-- The two parties. -/
inductive Side where
  | alice
  | bob
deriving DecidableEq

def Side.other : Side → Side
  | .alice => .bob
  | .bob => .alice

@[simp]
lemma Side.other_other (p : Side) : p.other.other = p := by
  cases p with
  | alice | bob => rfl

lemma Side.other_ne (p : Side) : p.other ≠ p := by
  cases p with
  | alice | bob => simp [other]

/-- A frame as `Encrypt` produced it, with what was encrypted. -/
structure Packet where
  header : Header
  ct : Bytes
  plaintext : Bytes

/-- One party: its session, the ratchet keys it has used, the frames it sent, and
the indices of the peer's frames it has opened. -/
structure Endpoint where
  session : Session
  pubs : List Bytes
  sent : List Packet
  got : List Nat

/-- Both parties. -/
structure World where
  alice : Endpoint
  bob : Endpoint

namespace World

variable (w : World)

/-- One party's end. -/
def get : Side → Endpoint
  | .alice => w.alice
  | .bob => w.bob

/-- The world with one party's end replaced. -/
def set (p : Side) (ep : Endpoint) : World :=
  match p with
  | .alice => { w with alice := ep }
  | .bob => { w with bob := ep }

@[simp]
lemma get_set_self (p : Side) (ep : Endpoint) : (w.set p ep).get p = ep := by
  cases p with
  | alice | bob => rfl

@[simp]
lemma get_set_other (p : Side) (ep : Endpoint) : (w.set p ep).get p.other = w.get p.other := by
  cases p with
  | alice | bob => rfl

/-- The world in which nothing has been sent. -/
def start (a b : Session) : World where
  alice := ⟨a, [a.dhs.pub], [], []⟩
  bob := ⟨b, [b.dhs.pub], [], []⟩

end World

/-- What happens in a conversation. -/
inductive Event where
  /-- A side encrypts; the frame is on its way. -/
  | encrypt (p : Side) (plaintext : Bytes)
  /-- Frame number `i` of the other side arrives; `keys` is what the key
  source gives if it is asked. -/
  | deliver (p : Side) (i : Nat) (keys : Option KeyPair)
  /-- Some other frame arrives. -/
  | intrude (p : Side) (keys : Option KeyPair) (hdr : Header) (ct : Bytes)

variable (P : Primitives) (w : World)

/-- One event: the result of `Decrypt`, if it was called, and the world after. -/
def World.step : Event → Option (Except SessionError Bytes) × World
  | .encrypt p plaintext =>
    let ep := w.get p
    let out := ep.session.encrypt P plaintext
    (none, w.set p { ep with
      session := out.2, sent := ep.sent ++ [⟨out.1.1, out.1.2, plaintext⟩] })
  | .deliver p i keys =>
    let ep := w.get p
    match (w.get p.other).sent[i]? with
    | none => (none, w)
    | some pkt =>
      let out := ep.session.decrypt P keys pkt.header pkt.ct
      (some out.1, w.set p { ep with
        session := out.2, pubs := out.2.dhs.pub :: ep.pubs
        got := if out.1.isOk then i :: ep.got else ep.got })
  | .intrude p keys hdr ct =>
    let ep := w.get p
    let out := ep.session.decrypt P keys hdr ct
    (some out.1, w.set p { ep with session := out.2 })

/-- No skip this header asks for exceeds `maxSkip`, and the store has room for
the keys it adds. -/
def Fits (s : Session) (hdr : Header) : Prop :=
  s.skipped.lookup (skKey hdr.dh hdr.n) = none →
    (s.sameDHr hdr.dh = true → s.skipCount hdr.n ≤ maxSkip ∧
      s.skipped.size + s.skipCount hdr.n ≤ maxSkippedKeys) ∧
    (s.sameDHr hdr.dh = false → s.skipCount hdr.pn ≤ maxSkip ∧ hdr.n.toNat ≤ maxSkip ∧
      s.skipped.size + s.skipCount hdr.pn + hdr.n.toNat ≤ maxSkippedKeys)
deriving Decidable

/-- The key source, when it is asked, gives a generated key that its side has not
used before. -/
def FreshDraw (ep : Endpoint) (keys : Option KeyPair) : Prop :=
  match keys with
  | none => False
  | some key => key.pub = P.x25519Base key.priv ∧ key.pub ∉ ep.pubs

/-- The conditions on a schedule: the responder encrypts only after it has opened a frame; a
delivery is the first of its frame, within the bounds and with a fresh key; any other frame is
refused. -/
def Scheduled : Event → Prop
  | .encrypt p _ => p = .bob → (w.get p).got ≠ []
  | .deliver p i keys =>
    match (w.get p.other).sent[i]? with
    | none => False
    | some pkt => i ∉ (w.get p).got ∧ Fits (w.get p).session pkt.header ∧
        ((w.get p).session.drawsKey P pkt.header pkt.ct = true → FreshDraw P (w.get p) keys)
  | .intrude p keys hdr ct => ((w.get p).session.decrypt P keys hdr ct).1.isOk = false

/-- The sending chain a message is added to stays below `2 ^ 32` messages, so
that the 32-bit counter never wraps. -/
def ShortChain : Event → Prop
  | .encrypt p _ => (w.get p).session.ns.toNat + 1 < 2 ^ 32
  | .deliver _ _ _ => True
  | .intrude _ _ _ _ => True

instance (P : Primitives) (ep : Endpoint) (keys : Option KeyPair) :
    Decidable (FreshDraw P ep keys) := by
  unfold FreshDraw
  split <;> infer_instance

instance (P : Primitives) (w : World) : ∀ ev, Decidable (Scheduled P w ev) := fun _ => by
  unfold Scheduled
  split <;> first | infer_instance | (split <;> infer_instance)

instance (w : World) : ∀ ev, Decidable (ShortChain w ev) := fun _ => by
  unfold ShortChain
  split <;> infer_instance

end SyncApp.Ratchet
