import SyncApp.Foundations.Machine
import SyncApp.Gateway.Replay

/-!
# Where a client resumes

With `RESUME` a client says up to which number it has received the frames of its session.  The web
client forgets the number when it dials, the Android client keeps it when it authenticates again,
and the iOS client sets it back after the reply.

Main results:

- `Run.resumes_where_stopped`: when the number sent is the highest received since the last
  authentication.
-/

namespace SyncApp.Clients

open Foundations
open Machine (final)

/-- The three clients. -/
inductive Kind where
  | web
  | android
  | ios
deriving DecidableEq

/-- The counters of a client: `ackSeq`, or `lastServerSeq` and `resumeCursor` on iOS. -/
structure Counters where
  lastServerSeq : Nat
  resumeCursor : Nat

namespace Kind

/-- `ackSeq` is the only counter of the other two clients. -/
def ackSeq (n : Nat) : Counters := ⟨n, n⟩

/-- `dial`, `runConnection`. -/
def dial (k : Kind) (c : Counters) : Counters :=
  match k with
  | .web => ackSeq 0
  | .android => c
  | .ios => { c with lastServerSeq := 0 }

/-- `handleFrame`, `ingest`. -/
def handleFrame (k : Kind) (c : Counters) (seq : Nat) : Counters :=
  match k with
  | .web | .android => if c.resumeCursor < seq then ackSeq seq else c
  | .ios =>
    if c.lastServerSeq < seq then ⟨seq, if c.resumeCursor < seq then seq else c.resumeCursor⟩
    else c

/-- `authenticate`, as it goes on with the reply. -/
def authenticate (k : Kind) (c : Counters) (seq : Nat) : Counters :=
  match k with
  | .web | .android => c
  | .ios => ⟨seq, seq⟩

end Kind

/-! ## Runs -/

/-- A client and its history: the reply that `authenticate` has yet to go on with, whether there
is a session to resume, and the highest numbers received before the latest `AUTH_OK` and since. -/
structure Run where
  counters : Counters
  reply : Option Nat
  session : Bool
  past : Nat
  high : Nat

/-- What happens to a client.  Connections are lost in between. -/
inductive Event where
  /-- A connection is opened, `WELCOME` arrives, and a resume is sent or is not offered. -/
  | connect (resume : Bool)
  /-- `AUTH_OK` arrives. -/
  | authOK (seq : Nat)
  /-- `authenticate` goes on. -/
  | goOn
  /-- Another frame arrives. -/
  | frame (seq : Nat)
deriving DecidableEq

namespace Run

/-- A new process, which may have kept a session. -/
def new (session : Bool) : Run := ⟨⟨0, 0⟩, none, session, 0, 0⟩

/-- What a step does, and `lastAckSeq` of a resume that is sent. -/
def step (k : Kind) (r : Run) : Event → Option Nat × Run
  | .connect resume =>
    -- `WELCOME` has the number zero.
    let c := k.handleFrame (k.dial r.counters) 0
    (if resume ∧ r.session then some c.resumeCursor else none, { r with counters := c })
  | .authOK seq =>
    (none, { r with
      counters := k.handleFrame r.counters seq, reply := some seq
      past := max r.past r.high, high := seq })
  | .goOn =>
    match r.reply with
    | none => (none, r)
    | some seq =>
      (none, { r with counters := k.authenticate r.counters seq, reply := none, session := true })
  | .frame seq =>
    (none, { r with counters := k.handleFrame r.counters seq, high := max r.high seq })

/-- The web client does not resume a session in which it has received anything, the Android client
only one in which it has received more than before, and the iOS client goes on at once. -/
def Careful (k : Kind) (r : Run) (event : Event) : Prop :=
  match k with
  | .web => event = .connect true → r.high = 0
  | .android => event = .connect true → r.past ≤ r.high
  | .ios => r.reply.isSome = true → event = .goOn

instance decidableCareful :
    ∀ (k : Kind) (r : Run) (event : Event), Decidable (Careful k r event) := fun _ => by
  unfold Careful
  split <;> infer_instance

/-- What the counters say: on Android the highest number of all, on iOS that of the session. -/
def Tracks (k : Kind) (r : Run) : Prop :=
  match k with
  | .web => True
  | .android => r.counters.resumeCursor = max r.past r.high
  | .ios => r.counters.lastServerSeq ≤ r.counters.resumeCursor ∧
      (∀ seq, r.reply = some seq → r.high = seq) ∧
      (r.reply = none → r.counters.resumeCursor = r.high)

variable {k : Kind} {r : Run} {event : Event}

lemma resumeCursor_handleFrame (hk : k ≠ .ios) (c : Counters) (seq : Nat) :
    (k.handleFrame c seq).resumeCursor = max c.resumeCursor seq := by
  cases k with
  | web | android =>
    simp only [Kind.handleFrame, Kind.ackSeq]
    split
    · next hlt => exact (max_eq_right hlt.le).symm
    · next hle => exact (max_eq_left (not_lt.mp hle)).symm
  | ios => exact absurd rfl hk

lemma handleFrame_ios {c : Counters} (h : c.lastServerSeq ≤ c.resumeCursor) (seq : Nat) :
    (Kind.ios.handleFrame c seq).lastServerSeq ≤ (Kind.ios.handleFrame c seq).resumeCursor ∧
      (Kind.ios.handleFrame c seq).resumeCursor = max c.resumeCursor seq := by
  simp only [Kind.handleFrame]
  split
  · dsimp only
    split
    · omega
    · omega
  · omega

lemma tracks_new (k : Kind) (session : Bool) : Tracks k (new session) := by
  cases k with
  | web => trivial
  | android => rfl
  | ios => exact ⟨le_rfl, fun _ h => absurd h.symm (Option.some_ne_none _), fun _ => rfl⟩

lemma Tracks.step (h : Tracks k r) (hcare : Careful k r event) :
    Tracks k (r.step k event).2 := by
  cases k with
  | web => trivial
  | android =>
    have hfr := resumeCursor_handleFrame (k := .android) (by decide) r.counters
    have hcur : r.counters.resumeCursor = max r.past r.high := h
    simp only [hcur] at hfr
    cases event with
    | connect => exact (hfr 0).trans (Nat.max_zero _)
    | authOK seq => exact hfr seq
    | frame seq => exact (hfr seq).trans (Nat.max_assoc ..)
    | goOn =>
      simp only [Run.step]
      split
      · exact h
      · exact h
  | ios =>
    obtain ⟨hle, hreply, hcur⟩ := h
    cases event with
    | connect =>
      obtain ⟨hle', hcursor'⟩ :=
        handleFrame_ios (c := Kind.ios.dial r.counters) (Nat.zero_le _) 0
      refine ⟨hle', hreply, fun hnone => hcursor'.trans ?_⟩
      rw [Nat.max_zero]
      exact hcur hnone
    | authOK seq =>
      refine ⟨(handleFrame_ios hle seq).1, fun seq' hseq => Option.some.inj hseq, fun hnone => ?_⟩
      exact absurd hnone (Option.some_ne_none _)
    | frame seq =>
      have hnone : r.reply = none := by
        rw [← Option.not_isSome_iff_eq_none]
        exact fun hsome => absurd (hcare hsome) (by simp)
      obtain ⟨hle', hcursor'⟩ := handleFrame_ios hle seq
      refine ⟨hle', fun seq' hseq => ?_, fun _ => by rw [Run.step, hcursor', hcur hnone]⟩
      exact absurd (hnone.symm.trans hseq) (Option.some_ne_none _).symm
    | goOn =>
      simp only [Run.step]
      split
      · exact ⟨hle, hreply, hcur⟩
      · next seq hseq =>
        exact ⟨le_rfl, fun _ h => absurd h.symm (Option.some_ne_none _),
          fun _ => (hreply seq hseq).symm⟩

/-- In every such run the number in `RESUME` is the highest received since the latest full
authentication, and the frames sent again are those above. -/
theorem resumes_where_stopped {session : Bool} {before : List Event}
    (h : Machine.Guarded (step k) (Careful k) (new session) (before ++ [event])) {n : Nat}
    (hsent : ((final (step k) (new session) before).step k event).1 = some n) :
    let r := final (step k) (new session) before
    n = r.high ∧ ∀ {P : Type} (buffer : Gateway.MemoryBuffer P) (now : Int) (id : String),
      (buffer.since now id n).1 = (buffer.frames id).filter fun f => r.high < f.seq := by
  obtain ⟨hpre, hcare, -⟩ := (Machine.guarded_append ..).mp h
  have htracks := Machine.guarded_final (step k) (fun _ _ => Tracks.step) (tracks_new k session)
    hpre
  generalize final (step k) (new session) before = r at *
  have hn : n = r.high := by
    cases event with
    | authOK | frame => simp [step] at hsent
    | goOn =>
      simp only [step] at hsent
      split at hsent
      · cases hsent
      · cases hsent
    | connect =>
      simp only [step, Option.ite_none_right_eq_some, Option.some.injEq] at hsent
      obtain ⟨⟨hresume, -⟩, rfl⟩ := hsent
      subst hresume
      cases k with
      | web => exact (hcare rfl).symm
      | android =>
        have hle : r.past ≤ r.high := hcare rfl
        have hcur : r.counters.resumeCursor = max r.past r.high := htracks
        exact hcur.trans (max_eq_right hle)
      | ios =>
        have hnone : r.reply = none := by
          rw [← Option.not_isSome_iff_eq_none]
          exact fun hsome => absurd (hcare hsome) (by simp)
        exact htracks.2.2 hnone
  refine ⟨hn, fun buffer now id => ?_⟩
  rw [← hn]
  unfold Gateway.MemoryBuffer.since Gateway.MemoryBuffer.frames
  split
  · rfl
  · rfl

theorem resumes_where_stopped_ios :
    let r := final (step .ios) (new false) [.connect false, .authOK 1, .goOn, .frame 2]
    (r.step .ios (.connect true)).1 = some 2 ∧ 2 = r.high := by
  have hcare : Machine.Guarded (step .ios) (Careful .ios) (new false)
      ([.connect false, .authOK 1, .goOn, .frame 2] ++ [.connect true]) := by decide
  exact ⟨rfl, (resumes_where_stopped hcare rfl).1⟩

/-- The web client asks for two frames again that it has.  The Android client has received one frame
since it authenticated, and says three.  The iOS client asks for a frame that came before it went
on. -/
theorem resumes_elsewhere :
    let web := final (step .web) (new false) [.connect false, .authOK 1, .goOn, .frame 2]
    let android := final (step .android) (new false)
      [.connect false, .authOK 1, .goOn, .frame 2, .frame 3, .connect false, .authOK 1, .goOn]
    let ios := final (step .ios) (new false) [.connect false, .authOK 1, .frame 2, .goOn]
    ((web.step .web (.connect true)).1 = some 0 ∧ web.high = 2) ∧
      ((android.step .android (.connect true)).1 = some 3 ∧ android.high = 1) ∧
      (ios.step .ios (.connect true)).1 = some 1 ∧ ios.high = 2 := by
  decide

end Run
end SyncApp.Clients
