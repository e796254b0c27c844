import Mathlib.Algebra.Group.Nat.Defs
import SyncApp.Foundations.Machine
import SyncApp.Gateway.Replay

/-!
# Resuming a session

One session at `server/internal/gateway/conn.go`: its client authenticates, is sent frames, loses
its connection at any point, and comes back with its bearer token or by resuming.  Deliveries are
recorded in the replay buffer, the replies to `AUTH` and `RESUME` are not, and a resume restarts the
numbers from what is recorded.  `Settled` says when they go on correctly.
-/

namespace SyncApp.Gateway

open Foundations

variable {D : Type}

/-! ## The session -/

/-- The body of a frame.  The n-th resume token of a session is the number n.  After a bearer token
the reply holds its hash, which nobody can resume with. -/
inductive Body (D : Type) where
  | authOK (resumeToken : Option Nat)
  | resumeOK (fromSeq resumeToken : Nat)
  | delivery (d : D)

/-- An outbound frame, with the number of the authentication it was sent after.  The
latter is not on the wire. -/
structure Envelope (D : Type) where
  seq : Nat
  body : Body D
  epoch : Nat

/-- The frame is the reply to a handshake. -/
def Envelope.isControl (e : Envelope D) : Bool :=
  match e.body with
  | .authOK _ | .resumeOK _ _ => true
  | .delivery _ => false

def Envelope.frame (e : Envelope D) : Frame (Envelope D) := ⟨e.seq, e⟩

/-- A connection: its counter, and what was written and has not arrived yet. -/
structure Link (D : Type) where
  outSeq : Nat
  inFlight : List (Envelope D)

def nextSeq (outSeq : Nat) : Nat := (outSeq + 1) % 2 ^ 64

/-- The session at the server, its client, and what the conditions are about: the frames recorded
since the last authentication and whether they are buffered; whether the client has the reply to the
last handshake; and whether anything was recorded since. -/
structure World (D : Type) where
  replay : MemoryBuffer (Envelope D)
  resumeToken : Nat
  revoked : Bool
  epoch : Nat
  link : Option (Link D)
  heldToken : Option Nat
  received : List (Envelope D)
  log : List (Envelope D)
  kept : Bool
  answered : Bool
  recorded : Bool

/-- What can happen. -/
inductive Event (D : Type) where
  /-- The client authenticates, by password at first and by its bearer token later. -/
  | auth
  /-- A delivery is written, or its write fails. -/
  | push (d : D) (written : Bool) (now : Int) (visit : List String)
  /-- The next frame reaches the client. -/
  | receive
  | disconnect
  | resume (now : Int)
  /-- A delivery to another session is recorded. -/
  | elsewhere (id : String) (e : Envelope D) (now : Int) (visit : List String)

namespace World

/-- The highest number that the client has received since it authenticated. -/
def high (w : World D) : Nat :=
  w.received.foldl (fun high e => if high < e.seq then e.seq else high) 0

variable (sid : String) (w : World D) (now : Int)

/-- The buffer of the session is swept out, with frames of the current stream. -/
def swept (visit : List String) : Bool :=
  !w.log.isEmpty && ((w.replay.sweepLocked now visit).frames sid).isEmpty

/-- `doAuth`.  The session is created by the first one. -/
def auth : World D :=
  let seq := nextSeq 0
  let token := if w.epoch = 0 then some w.resumeToken else none
  { w with
    epoch := w.epoch + 1
    link := some ⟨seq, [⟨seq, .authOK token, w.epoch + 1⟩]⟩
    received := [], log := [], kept := true, answered := false, recorded := false }

/-- `writeOne`.  A failed write closes the connection. -/
def writeOne (d : D) (written : Bool) (now : Int) (visit : List String) : World D :=
  match w.link with
  | none => w
  | some l =>
    let env : Envelope D := ⟨nextSeq l.outSeq, .delivery d, w.epoch⟩
    if written then
      { w with
        link := some ⟨env.seq, l.inFlight ++ [env]⟩
        replay := w.replay.append now visit sid env.seq env
        log := w.log ++ [env], kept := w.kept && !w.swept sid now visit, recorded := true }
    else { w with link := none }

/-- A token that the client gets to know. -/
def learn (e : Envelope D) : Option Nat :=
  match e.body with
  | .authOK (some token) => some token
  | .resumeOK _ token => some token
  | _ => w.heldToken

/-- The client gets the next frame. -/
def receive : World D :=
  match w.link with
  | some ⟨outSeq, e :: rest⟩ =>
    { w with
      link := some ⟨outSeq, rest⟩, received := w.received ++ [e], heldToken := w.learn e
      answered := w.answered || e.isControl }
  | _ => w

/-- The client holds the token that the session can be resumed with. -/
def CanResume : Prop := w.heldToken = some w.resumeToken ∧ w.revoked = false
deriving Decidable

/-- `doResume`.  A token that was used already ends the session. -/
def resume : World D :=
  if w.CanResume then
    let lastAckSeq := w.high
    let frames := (w.replay.since now sid lastAckSeq).1
    let replay := (w.replay.since now sid lastAckSeq).2
    let maxSeq := frames.foldl (fun maxSeq f => if maxSeq < f.seq then f.seq else maxSeq) 0
    let maxSeq := if maxSeq < replay.highWater sid then replay.highWater sid else maxSeq
    let seq := nextSeq maxSeq
    let reply : Envelope D := ⟨seq, .resumeOK lastAckSeq (w.resumeToken + 1), w.epoch⟩
    { w with
      replay := replay, resumeToken := w.resumeToken + 1
      link := some ⟨seq, frames.map (·.payload) ++ [reply]⟩
      answered := false, recorded := false }
  else { w with link := none, revoked := w.revoked || w.heldToken.isSome }

def step : Event D → Unit × World D
  | .auth =>
    -- A client that never got its first reply has no token to come back with.
    if w.revoked = false ∧ (w.epoch = 0 ∨ w.heldToken ≠ none) then ((), w.auth) else ((), w)
  | .push d written now visit => ((), w.writeOne sid d written now visit)
  | .receive => ((), w.receive)
  | .disconnect => ((), { w with link := none })
  | .resume now => ((), w.resume sid now)
  | .elsewhere id e now visit =>
    if id = sid then ((), w)
    else ((), { w with
      replay := w.replay.append now visit id e.seq e
      kept := w.kept && !w.swept sid now visit })

/-- Before the first authentication. -/
def new : World D where
  replay := ⟨∅, now⟩
  resumeToken := 0
  revoked := false
  epoch := 0
  link := none
  heldToken := none
  received := []
  log := []
  kept := true
  answered := false
  recorded := false

abbrev after (events : List (Event D)) : World D :=
  Machine.final (step sid) w events

/-- The recorded frames of the stream that the client has not received. -/
def missed : List (Envelope D) := w.log.filter fun e => w.high < e.seq

/-- No more is missed than the replay window holds, and the window was not dropped. -/
def Replayable : Prop := w.missed.length ≤ maxFrames ∧ w.kept = true
deriving Decidable

/-- No frame that the client would be sent is from before its last authentication. -/
def Clean : Prop :=
  ∀ f ∈ w.replay.frames sid, w.high < f.seq → f.payload.epoch = w.epoch
deriving Decidable

/-- The client has the reply to the last handshake exactly if something was recorded
after it. -/
def Settled : Prop :=
  (w.recorded = true ↔ w.answered = true) ∧ w.Clean sid
deriving Decidable

/-- The counter of a connection is below the top of its range. -/
def Room : Prop :=
  match w.link with
  | none => True
  | some l => l.outSeq + 1 < 2 ^ 64

/-- The next number after those that are recorded is in range. -/
def RoomToResume : Prop := w.replay.highWater sid + 1 < 2 ^ 64
deriving Decidable

instance (w : World D) : Decidable w.Room := by
  unfold Room
  split <;> infer_instance

def Admissible : Event D → Prop
  | .push _ _ _ _ => w.Room
  | .resume _ => w.CanResume → w.Replayable ∧ w.RoomToResume sid ∧ w.Settled sid
  | _ => True

instance (sid : String) (w : World D) (ev : Event D) : Decidable (Admissible sid w ev) := by
  unfold Admissible
  split <;> infer_instance

/-- The frames received since the last authentication are numbered without gaps and
repetitions, and none of them is from before it. -/
def InOrder (frames : List (Envelope D)) : Prop :=
  Numbered (·.seq) 1 frames ∧ ∀ e ∈ frames, e.epoch = w.epoch

end World
end SyncApp.Gateway
