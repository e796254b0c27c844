import SyncApp.Gateway.Resume

/-!
# The stream of a session

The numbers go on at a resume exactly if the reply to the last handshake was received and followed
by a recorded delivery, or neither, and nothing from before the last authentication is buffered
under a number that the client has not seen.

Main results:

- `resume_in_order_iff`: when a resume goes on in order.
- `resume_one_stream`: what the client receives from one authentication to the next.
-/

namespace SyncApp.Gateway

open Foundations List
open Numbered (append_iff cons_iff)
open Envelope (frame)
open MemoryBuffer (frames_since highWater since_fst)

variable {D : Type}

namespace World

/-- The number of the last frame, if there is one. -/
def top (frames : List (Envelope D)) : Nat :=
  match frames.getLast? with
  | none => 0
  | some e => e.seq

/-- The recorded frames of the stream, split at the last resume: the client had the numbers up to
`floor`, was sent `mid` again, the reply with the number `control`, and then `fresh`. -/
structure Layout (w : World D) (floor control : Nat) (pre mid fresh : List (Envelope D)) :
    Prop where
  log_eq : w.log = pre ++ mid ++ fresh
  pre_le : ∀ e ∈ pre, e.seq ≤ floor
  mid_numbered : Numbered (·.seq) (floor + 1) mid
  control_eq : control = floor + mid.length + 1
  top_eq : top (pre ++ mid) = floor + mid.length
  fresh_numbered : Numbered (·.seq) (control + 1) fresh
  recorded_iff : w.recorded = true ↔ fresh ≠ []
  answered_iff : w.answered = true ↔ control ≤ w.received.length
  floor_le : floor ≤ w.received.length
  le_last : w.received.length ≤ control + fresh.length
  link : ∀ l, w.link = some l → l.outSeq = control + fresh.length ∧
    w.received.length + l.inFlight.length = l.outSeq ∧
    Numbered (·.seq) (w.received.length + 1) l.inFlight ∧
    ∀ e ∈ l.inFlight, e.epoch = w.epoch ∧ (e.isControl = true ↔ e.seq = control)

/-- A session's buffer holds frames that were recorded, and unless it was swept out
the last ones of the stream. -/
structure Buffered (frames : List (Frame (Envelope D))) (epoch : Nat) (kept : Bool)
    (log : List (Envelope D)) : Prop where
  some_recorded : ∃ es : List (Envelope D), frames = es.map frame ∧
    es.length ≤ maxFrames ∧ ∀ e ∈ es, 2 ≤ e.seq ∧ e.epoch ≤ epoch
  last_recorded : kept = true → ∃ old : List (Envelope D),
    (∀ e ∈ old, 2 ≤ e.seq ∧ e.epoch < epoch) ∧
    frames = ((old ++ log).rtake maxFrames).map frame

/-- The invariant of the session. -/
structure Streaming (sid : String) (w : World D) : Prop where
  inOrder : w.InOrder w.received
  log : ∀ e ∈ w.log, e.epoch = w.epoch ∧ e.isControl = false ∧ 2 ≤ e.seq
  buffered : Buffered (w.replay.frames sid) w.epoch w.kept w.log
  layout : ∃ floor control pre mid fresh, w.Layout floor control pre mid fresh

variable {w : World D} {epoch control floor : Nat} {frames : List (Frame (Envelope D))}
  {kept : Bool} {log fresh mid pre low tail : List (Envelope D)} {sid : String} {l : Link D}
  {link : Option (Link D)} {now : Int}

lemma high_eq (h : Numbered (·.seq) 1 w.received) : w.high = w.received.length := by
  unfold high
  rw [h.foldl_larger Nat.one_pos]
  split
  · next hnil =>
    rw [hnil]
    rfl
  · omega

lemma Buffered.none :
    ([] : List (Frame (Envelope D))) = ((([] ++ [] : List (Envelope D))).rtake maxFrames).map
      frame := by
  rw [append_nil, rtake_nil]
  rfl

lemma streaming_new (sid : String) (now : Int) : (new now : World D).Streaming sid where
  inOrder := ⟨rfl, by simp [new]⟩
  log := by simp [new]
  buffered := ⟨⟨[], rfl, Nat.zero_le _, by simp⟩, fun _ => ⟨[], by simp, Buffered.none⟩⟩
  layout := ⟨0, 1, [], [], [], rfl, by simp, rfl, rfl, rfl, rfl, by simp [new], by simp [new],
    Nat.le_refl _, by simp [new], by simp [new]⟩

/-- With an authentication everything that is buffered becomes old. -/
lemma Buffered.renew (h : Buffered frames epoch kept log) :
    Buffered frames (epoch + 1) true [] := by
  rcases h.some_recorded with ⟨es, hes, hlen, hold⟩
  constructor
  · exact ⟨es, hes, hlen, fun e he => ⟨(hold e he).1, Nat.le_succ_of_le (hold e he).2⟩⟩
  · intro _
    refine ⟨es, fun e he => ⟨(hold e he).1, Nat.lt_succ_of_le (hold e he).2⟩, ?_⟩
    rw [append_nil, Window.rtake_of_length_le hlen]
    exact hes

lemma streaming_auth (h : w.Streaming sid) : w.auth.Streaming sid where
  inOrder := ⟨rfl, by simp [auth]⟩
  log := by simp [auth]
  buffered := h.buffered.renew
  layout := by
    refine ⟨0, 1, [], [], [], rfl, by simp, rfl, rfl, rfl, rfl, by simp [auth], by simp [auth],
      Nat.le_refl _, by simp [auth], ?_⟩
    rintro _ ⟨⟩
    exact ⟨rfl, rfl, rfl, by simp [auth, Envelope.isControl, nextSeq]⟩

/-! ## Recording -/

lemma Buffered.sweep (now : Int) (visit : List String)
    (h : Buffered (w.replay.frames sid) w.epoch w.kept w.log) :
    Buffered ((w.replay.sweepLocked now visit).frames sid) w.epoch
      (w.kept && !w.swept sid now visit) w.log := by
  rcases MemoryBuffer.frames_of_spared (w.replay.spared_sweepLocked now visit sid) with
    hsame | hdropped
  · rw [hsame]
    refine ⟨h.some_recorded, fun hkept => h.last_recorded ?_⟩
    exact ((Bool.and_eq_true _ _).mp hkept).1
  · rw [hdropped]
    refine ⟨⟨[], rfl, Nat.zero_le _, by simp⟩, fun hkept => ⟨[], by simp, ?_⟩⟩
    have hlog : w.log = [] := by
      simp only [swept, hdropped, Bool.and_eq_true, Bool.not_eq_true', Bool.and_eq_false_iff,
        Bool.not_eq_false', List.isEmpty_iff] at hkept
      rcases hkept.2 with hlog | hsome
      · exact hlog
      · cases hsome
    rw [hlog]
    exact Buffered.none

lemma Buffered.record (h : Buffered frames epoch kept log) (e : Envelope D)
    (hep : e.epoch = epoch) (hseq : 2 ≤ e.seq) :
    Buffered (Window.push maxFrames frames [e.frame]) epoch kept (log ++ [e]) := by
  constructor
  · rcases h.some_recorded with ⟨es, rfl, _, hold⟩
    refine ⟨(es ++ [e]).rtake maxFrames, ?_, ?_, ?_⟩
    · rw [← Window.push_eq, Window.map_push]
      rfl
    · rw [Window.length_rtake]
      exact Nat.min_le_left _ _
    · intro e' he'
      rcases mem_append.mp ((Window.rtake_suffix _ _).subset he') with he' | he'
      · exact hold e' he'
      · rw [mem_singleton.mp he']
        exact ⟨hseq, hep.le⟩
  · intro hkept
    rcases h.last_recorded hkept with ⟨old, hold, hframes⟩
    refine ⟨old, hold, ?_⟩
    rw [hframes, ← append_assoc, ← Window.push_rtake maxFrames (old ++ log), Window.map_push,
      map_cons, map_nil]

lemma nextSeq_eq {outSeq : Nat} (h : outSeq + 1 < 2 ^ 64) : nextSeq outSeq = outSeq + 1 :=
  Nat.mod_eq_of_lt h

/-- A delivery is numbered after the last frame of its connection. -/
lemma Layout.push (h : w.Layout floor control pre mid fresh) (hlink : w.link = some l)
    (env : Envelope D) (hseq : env.seq = l.outSeq + 1) (hep : env.epoch = w.epoch)
    (hbody : env.isControl = false) (replay : MemoryBuffer (Envelope D)) (kept : Bool) :
    Layout { w with
        link := some ⟨env.seq, l.inFlight ++ [env]⟩, replay := replay, log := w.log ++ [env],
        kept := kept, recorded := true }
      floor control pre mid (fresh ++ [env]) := by
  rcases h.link l hlink with ⟨_, _, hnum, hflight⟩
  refine ⟨?_, h.pre_le, h.mid_numbered, h.control_eq, h.top_eq, ?_, by simp, h.answered_iff,
    h.floor_le, ?_, ?_⟩
  · rw [h.log_eq, append_assoc _ fresh]
  · rw [append_iff, cons_iff]
    exact ⟨h.fresh_numbered, by omega, Numbered.nil _ _⟩
  · have hle := h.le_last
    rw [length_append]
    exact Nat.le_trans hle (by omega)
  · rintro _ ⟨⟩
    dsimp only
    rw [length_append, length_append, length_singleton, append_iff, cons_iff]
    refine ⟨by omega, by omega, ⟨hnum, by omega, Numbered.nil _ _⟩, ?_⟩
    refine forall_mem_append.mpr ⟨hflight, forall_mem_singleton.mpr ?_⟩
    rw [hbody]
    exact ⟨hep, ⟨nofun, fun hctl => by omega⟩⟩

/-- The numbers of the stream do not depend on the buffer and the tokens, and a
connection can be lost. -/
lemma Layout.frame (h : w.Layout floor control pre mid fresh) (replay : MemoryBuffer (Envelope D))
    (revoked kept : Bool) (hlink : link = w.link ∨ link = none) :
    Layout { w with replay := replay, revoked := revoked, kept := kept, link := link }
      floor control pre mid fresh := by
  refine { h with link := ?_ }
  rcases hlink with rfl | rfl
  · exact h.link
  · exact nofun

section

variable (h : w.Streaming sid)
include h

/-- The session goes on with another buffer that still holds its frames, and with or
without its connection. -/
lemma Streaming.frame {replay : MemoryBuffer (Envelope D)} (revoked : Bool)
    (hbuffered : Buffered (replay.frames sid) w.epoch kept w.log)
    (hlink : link = w.link ∨ link = none) :
    Streaming sid { w with replay := replay, revoked := revoked, kept := kept, link := link } where
  inOrder := h.inOrder
  log := h.log
  buffered := hbuffered
  layout := by
    rcases h.layout with ⟨floor, control, pre, mid, fresh, hlay⟩
    exact ⟨floor, control, pre, mid, fresh, hlay.frame replay revoked kept hlink⟩

lemma streaming_disconnect : Streaming sid { w with link := none } :=
  h.frame w.revoked h.buffered (.inr rfl)

lemma streaming_writeOne (hroom : w.Room) (d : D) (written : Bool) (now : Int)
    (visit : List String) : (w.writeOne sid d written now visit).Streaming sid := by
  unfold writeOne
  cases hlink : w.link with
  | none => exact h
  | some l =>
    dsimp only
    split
    · rcases h.layout with ⟨floor, control, pre, mid, _, hlay⟩
      have hseq : nextSeq l.outSeq = l.outSeq + 1 := by
        unfold Room at hroom
        rw [hlink] at hroom
        exact nextSeq_eq hroom
      have hout := (hlay.link l hlink).1
      have hctl := hlay.control_eq
      have htwo : 2 ≤ nextSeq l.outSeq := by omega
      refine ⟨h.inOrder, ?_, ?_, floor, control, pre, mid, _,
        hlay.push hlink ⟨nextSeq l.outSeq, .delivery d, w.epoch⟩ hseq rfl rfl _ _⟩
      · exact forall_mem_append.mpr ⟨h.log, forall_mem_singleton.mpr ⟨rfl, rfl, htwo⟩⟩
      · rw [MemoryBuffer.frames_append_self]
        exact (h.buffered.sweep now visit).record ⟨_, .delivery d, w.epoch⟩ rfl htwo
    · exact streaming_disconnect h

lemma streaming_elsewhere {id : String} (hne : id ≠ sid) (e : Envelope D) (now : Int)
    (visit : List String) :
    Streaming sid { w with
      replay := w.replay.append now visit id e.seq e
      kept := w.kept && !w.swept sid now visit } := by
  refine h.frame w.revoked ?_ (.inl rfl)
  rw [MemoryBuffer.append, MemoryBuffer.frames, AList.lookup_insert_ne hne.symm]
  exact h.buffered.sweep now visit

end

lemma streaming_receive (h : w.Streaming sid) : w.receive.Streaming sid := by
  unfold receive
  split
  · next outSeq e rest hlink =>
    rcases h.layout with ⟨floor, control, pre, mid, fresh, hlay⟩
    rcases hlay.link _ hlink with ⟨hout, hcnt, hnum, hflight⟩
    rw [cons_iff] at hnum
    rw [length_cons] at hcnt
    have he := hflight e mem_cons_self
    refine ⟨⟨?_, ?_⟩, h.log, h.buffered, floor, control, pre, mid, fresh, hlay.log_eq,
      hlay.pre_le, hlay.mid_numbered, hlay.control_eq, hlay.top_eq,
      hlay.fresh_numbered, hlay.recorded_iff, ?_, ?_, ?_, ?_⟩
    · rw [append_iff, cons_iff]
      exact ⟨h.inOrder.1, by rw [hnum.1, Nat.add_comm], Numbered.nil _ _⟩
    · exact forall_mem_append.mpr ⟨h.inOrder.2, forall_mem_singleton.mpr he.1⟩
    · have hans := hlay.answered_iff
      rw [Bool.or_eq_true, hans, he.2, hnum.1, length_append, length_singleton]
      omega
    · have hfloor := hlay.floor_le
      rw [length_append]
      omega
    · rw [length_append, length_singleton]
      omega
    · rintro _ ⟨⟩
      dsimp only at hout hcnt ⊢
      rw [length_append, length_singleton]
      exact ⟨hout, by omega, hnum.2, fun e' he' => hflight e' (mem_cons_of_mem _ he')⟩
  · exact h

/-! ## Resuming -/

/-- What the client has received of the log comes before what it has not. -/
lemma Layout.split (h : w.Layout floor control pre mid fresh) :
    ∃ low tail, w.log = low ++ tail ∧ (∀ e ∈ low, e.seq ≤ w.received.length) ∧
      (∀ e ∈ tail, w.received.length < e.seq) ∧
      (control ≤ w.received.length → Numbered (·.seq) (w.received.length + 1) tail ∧
        w.received.length + tail.length = control + fresh.length) ∧
      (w.received.length < control → ∃ rest, tail = rest ++ fresh ∧
        Numbered (·.seq) (w.received.length + 1) rest ∧
        w.received.length + rest.length + 1 = control) := by
  have hfloor := h.floor_le
  have hlast := h.le_last
  have hctl := h.control_eq
  have hpre : ∀ e ∈ pre, e.seq ≤ w.received.length := fun e he => (h.pre_le e he).trans hfloor
  rcases Nat.lt_or_ge w.received.length control with hlt | hge
  · have hcut := h.mid_numbered.cut (k := w.received.length - floor) (by omega)
    have hlen : (mid.drop (w.received.length - floor)).length =
        mid.length - (w.received.length - floor) := length_drop
    rw [show floor + 1 + (w.received.length - floor) = w.received.length + 1 by omega] at hcut
    refine ⟨pre ++ mid.take (w.received.length - floor),
      mid.drop (w.received.length - floor) ++ fresh, ?_, ?_, ?_, fun hle => by omega,
      fun _ => ⟨_, rfl, hcut.2, by omega⟩⟩
    · rw [h.log_eq, append_assoc pre (mid.take _), ← append_assoc (mid.take _),
        take_append_drop, append_assoc]
    · refine forall_mem_append.mpr ⟨hpre, fun e he => ?_⟩
      have hbelow := hcut.1.lt_of_mem he
      rw [length_take] at hbelow
      omega
    · refine forall_mem_append.mpr ⟨fun e he => hcut.2.le_of_mem he, fun e he => ?_⟩
      have habove := h.fresh_numbered.le_of_mem he
      omega
  · have hcut := h.fresh_numbered.cut (k := w.received.length - control) (by omega)
    have hlen : (fresh.drop (w.received.length - control)).length =
        fresh.length - (w.received.length - control) := length_drop
    rw [show control + 1 + (w.received.length - control) = w.received.length + 1 by omega] at hcut
    refine ⟨pre ++ mid ++ fresh.take (w.received.length - control),
      fresh.drop (w.received.length - control), ?_, ?_, ?_, fun _ => ⟨hcut.2, by omega⟩,
      fun hlt => by omega⟩
    · rw [h.log_eq, append_assoc (pre ++ mid), take_append_drop]
    · refine forall_mem_append.mpr ⟨forall_mem_append.mpr ⟨hpre, fun e he => ?_⟩, fun e he => ?_⟩
      · have hbelow := h.mid_numbered.lt_of_mem he
        omega
      · have hbelow := hcut.1.lt_of_mem he
        rw [length_take] at hbelow
        omega
    · exact fun e he => hcut.2.le_of_mem he

lemma replayed_eq (h : w.Streaming sid) (hreplay : w.Replayable) (hclean : w.Clean sid)
    (hlog : w.log = low ++ tail) (hlow : ∀ e ∈ low, e.seq ≤ w.received.length)
    (htail : ∀ e ∈ tail, w.received.length < e.seq) (now : Int) :
    (w.replay.since now sid w.high).1 = tail.map frame := by
  have hhigh := high_eq h.inOrder.1
  have hmissed : w.missed = tail := by
    unfold missed
    rw [hlog, hhigh]
    refine Window.filter_append_right (fun e he => ?_) (fun e he => ?_)
    · exact decide_eq_false (Nat.not_lt.mpr (hlow e he))
    · exact decide_eq_true (htail e he)
  have hfits : tail.length ≤ maxFrames := hmissed ▸ hreplay.1
  rcases h.buffered.last_recorded hreplay.2 with ⟨_, hold, hframes⟩
  rw [hlog, ← append_assoc, Window.rtake_append_of_length_le hfits, map_append] at hframes
  rw [since_fst, hframes, hhigh]
  refine Window.filter_append_right (fun f hf => decide_eq_false ?_) (fun f hf => ?_)
  · intro habove
    have hep := hclean f (hframes ▸ mem_append_left _ hf) (hhigh ▸ habove)
    rcases mem_map.mp hf with ⟨e, he, rfl⟩
    rcases mem_append.mp ((Window.rtake_suffix _ _).subset he) with hmem | hmem
    · -- An old frame with a higher number is from before the authentication.
      exact Nat.ne_of_lt (hold e hmem).2 hep
    · exact Nat.not_lt.mpr (hlow e hmem) habove
  · rcases mem_map.mp hf with ⟨e, he, rfl⟩
    exact decide_eq_true (htail e he)

lemma highWater_eq (h : w.Streaming sid) (hkept : w.kept = true) (hclean : w.Clean sid) :
    w.replay.highWater sid = top w.log := by
  rcases h.layout with ⟨_, _, _, _, _, hlay⟩
  rcases h.buffered.last_recorded hkept with ⟨old, hold, hframes⟩
  have hlast : (w.replay.frames sid).getLast? = (old ++ w.log).getLast?.map frame := by
    rw [hframes, getLast?_map, Window.getLast?_rtake (by decide)]
  unfold highWater top
  rw [hlast, getLast?_append]
  cases hlog : w.log.getLast? with
  | some => rfl
  | none =>
    -- Nothing is recorded, so at most the reply was received.
    have hnil : w.log = [] := getLast?_eq_none_iff.mp hlog
    have hparts := hlay.log_eq
    rw [hnil, eq_comm, append_eq_nil_iff, append_eq_nil_iff] at hparts
    rcases hparts with ⟨⟨rfl, rfl⟩, rfl⟩
    have htop := hlay.top_eq
    have hctl := hlay.control_eq
    have hle := hlay.le_last
    cases hold' : old.getLast? with
    | none => rfl
    | some e =>
      have hmem : e ∈ old := mem_of_getLast? hold'
      have hfr : e.frame ∈ w.replay.frames sid := by
        refine mem_of_getLast? ?_
        rw [hlast, hnil, append_nil, hold']
        rfl
      have hhigh := high_eq h.inOrder.1
      have htwo := (hold e hmem).1
      have hep := hclean _ hfr (by
        simp only [top, append_nil, getLast?_nil, length_nil] at htop hle hctl
        simp only [frame]
        omega)
      exact absurd hep (Nat.ne_of_lt (hold e hmem).2)

lemma top_append {xs ys : List (Envelope D)} {first : Nat} (h : Numbered (·.seq) first ys)
    (hne : ys ≠ []) : top (xs ++ ys) = first + ys.length - 1 := by
  have hlast := h.getLast?_eq hne
  unfold top
  rw [getLast?_append]
  cases hys : ys.getLast? with
  | none => exact absurd (getLast?_eq_none_iff.mp hys) hne
  | some =>
    rw [hys, Option.map_some, Option.some.injEq] at hlast
    exact hlast

lemma Layout.top_log (h : w.Layout floor control pre mid fresh) :
    top w.log + 1 = if fresh = [] then control else control + fresh.length + 1 := by
  rw [h.log_eq]
  split
  · next hnil =>
    rw [hnil, append_nil, h.top_eq, h.control_eq]
  · next hne =>
    rw [top_append h.fresh_numbered hne]
    omega

lemma Layout.le_top (h : w.Layout floor control pre mid fresh) {e : Envelope D} (he : e ∈ w.log) :
    e.seq ≤ top w.log := by
  have htop := h.top_log
  have hctl := h.control_eq
  have hbelow : control ≤ top w.log + 1 := by
    rw [htop]
    split
    · exact Nat.le_refl _
    · omega
  rw [h.log_eq] at he
  rcases mem_append.mp he with he | he
  · rcases mem_append.mp he with he | he
    · have hle := h.pre_le e he
      omega
    · have hlt := h.mid_numbered.lt_of_mem he
      omega
  · have hlt := h.fresh_numbered.lt_of_mem he
    rw [if_neg (ne_nil_of_mem he)] at htop
    omega

/-- The search for the largest replayed number stays below a bound. -/
lemma foldl_larger_le (frames : List (Frame (Envelope D))) {n m : Nat} (hm : m ≤ n)
    (h : ∀ f ∈ frames, f.seq ≤ n) :
    frames.foldl (fun maxSeq f => if maxSeq < f.seq then f.seq else maxSeq) m ≤ n := by
  induction frames generalizing m with
  | nil => exact hm
  | cons f frames ih =>
    rw [foldl_cons]
    refine ih ?_ fun f' hf' => h f' (mem_cons_of_mem _ hf')
    split
    · exact h f mem_cons_self
    · exact hm

lemma resume_eq (h : w.Streaming sid) (hcan : w.CanResume) (hreplay : w.Replayable)
    (hroom : w.RoomToResume sid) (hclean : w.Clean sid) (hlog : w.log = low ++ tail)
    (hlow : ∀ e ∈ low, e.seq ≤ w.received.length) (htail : ∀ e ∈ tail, w.received.length < e.seq)
    (now : Int) :
    w.resume sid now =
      { w with
        replay := (w.replay.since now sid w.high).2, resumeToken := w.resumeToken + 1
        link := some ⟨top w.log + 1, tail ++
          [⟨top w.log + 1, .resumeOK w.high (w.resumeToken + 1), w.epoch⟩]⟩
        answered := false, recorded := false } := by
  rcases h.layout with ⟨_, _, _, _, _, hlay⟩
  have hreplayed := replayed_eq h hreplay hclean hlog hlow htail now
  have hwater : (w.replay.since now sid w.high).2.highWater sid = top w.log := by
    rw [← highWater_eq h hreplay.2 hclean]
    unfold highWater
    rw [frames_since]
  have hmax := foldl_larger_le (tail.map frame) (Nat.zero_le (top w.log)) (by
      intro f hf
      rcases mem_map.mp hf with ⟨e, he, rfl⟩
      exact hlay.le_top (hlog ▸ mem_append_right _ he))
  have hseq : nextSeq (top w.log) = top w.log + 1 := by
    unfold RoomToResume at hroom
    rw [highWater_eq h hreplay.2 hclean] at hroom
    exact nextSeq_eq hroom
  unfold resume
  rw [if_pos hcan]
  dsimp only
  rw [hreplayed, hwater, map_map]
  have hsearch : (if (tail.map frame).foldl
      (fun maxSeq f => if maxSeq < f.seq then f.seq else maxSeq) 0 < top w.log then top w.log
      else (tail.map frame).foldl
        (fun maxSeq f => if maxSeq < f.seq then f.seq else maxSeq) 0) = top w.log := by
    split
    · rfl
    · omega
  rw [hsearch, hseq]
  congr 3
  rw [append_cancel_right_eq]
  exact map_id _

/-- With the reply and the frames after it both received or both outstanding, the log goes on right
after what was received. -/
lemma Layout.tail_numbered (h : w.Layout floor control pre mid fresh)
    (hcases : w.recorded = true ↔ w.answered = true)
    (hseen : control ≤ w.received.length → Numbered (·.seq) (w.received.length + 1) tail ∧
      w.received.length + tail.length = control + fresh.length)
    (hunseen : w.received.length < control → ∃ rest, tail = rest ++ fresh ∧
      Numbered (·.seq) (w.received.length + 1) rest ∧
      w.received.length + rest.length + 1 = control) :
    Numbered (·.seq) (w.received.length + 1) tail ∧
      top w.log = w.received.length + tail.length := by
  have htop := h.top_log
  rw [h.recorded_iff, h.answered_iff] at hcases
  rcases Nat.lt_or_ge w.received.length control with hlt | hge
  · have hnew : fresh = [] := by
      by_contra hne
      exact absurd (hcases.mp hne) (Nat.not_le.mpr hlt)
    rcases hunseen hlt with ⟨_, hrest, hrestNumbered, hlen⟩
    rw [hnew, append_nil] at hrest
    rw [if_pos hnew] at htop
    subst hrest
    exact ⟨hrestNumbered, by omega⟩
  · rcases hseen hge with ⟨htailNumbered, _⟩
    rw [if_neg (hcases.mpr hge)] at htop
    exact ⟨htailNumbered, by omega⟩

/-- A resume that meets the condition goes on with the stream. -/
lemma streaming_resume (h : w.Streaming sid) (hcan : w.CanResume) (hreplay : w.Replayable)
    (hroom : w.RoomToResume sid) (hset : w.Settled sid) (now : Int) :
    (w.resume sid now).Streaming sid := by
  rcases h.layout with ⟨_, _, _, _, _, hlay⟩
  rcases hlay.split with ⟨low, tail, hlog, hlow, htail, hseen, hunseen⟩
  have hnum := hlay.tail_numbered hset.1 hseen hunseen
  rw [resume_eq h hcan hreplay hroom hset.2 hlog hlow htail]
  refine ⟨h.inOrder, h.log, ?_, w.received.length, top w.log + 1, low, tail, [], ?_, hlow,
    hnum.1, by rw [hnum.2], ?_, Numbered.nil _ _, by simp, ?_, Nat.le_refl _, ?_, ?_⟩
  · rw [frames_since]
    exact h.buffered
  · rw [append_nil]
    exact hlog
  · rw [← hlog, hnum.2]
  · simp only [Bool.false_eq_true, false_iff]
    omega
  · simp only [length_nil]
    omega
  · rintro _ ⟨⟩
    dsimp only
    rw [length_append, length_singleton, length_nil, append_iff, cons_iff]
    have hreply : top w.log + 1 = w.received.length + 1 + tail.length := by omega
    refine ⟨by omega, by omega, ⟨hnum.1, hreply, Numbered.nil _ _⟩, ?_⟩
    intro e he
    rcases mem_append.mp he with he | he
    · have hinlog := h.log e (hlog ▸ mem_append_right _ he)
      have hlt := hnum.1.lt_of_mem he
      refine ⟨hinlog.1, ?_⟩
      rw [hinlog.2.1]
      exact ⟨nofun, fun hseq => by omega⟩
    · rw [mem_singleton.mp he]
      exact ⟨rfl, ⟨fun _ => rfl, fun _ => rfl⟩⟩

/-! ## Runs -/

lemma streaming_step (w : World D) (ev : Event D) (h : w.Streaming sid)
    (hev : w.Admissible sid ev) : (w.step sid ev).2.Streaming sid := by
  cases ev with
  | auth =>
    simp only [step]
    split
    · exact streaming_auth h
    · exact h
  | push => exact streaming_writeOne h hev ..
  | receive => exact streaming_receive h
  | disconnect => exact streaming_disconnect h
  | resume now =>
    simp only [step]
    by_cases hcan : w.CanResume
    · rcases hev hcan with ⟨hreplay, hroom, hset⟩
      exact streaming_resume h hcan hreplay hroom hset now
    · unfold resume
      rw [if_neg hcan]
      exact h.frame _ h.buffered (.inr rfl)
  | elsewhere id e now visit =>
    simp only [step]
    split
    · exact h
    · next hne => exact streaming_elsewhere h hne e now visit

lemma streaming_after {events : List (Event D)}
    (h : Machine.Guarded (step sid) (Admissible sid) (new now) events) :
    (after sid (new now) events).Streaming sid :=
  Machine.guarded_final (step sid) streaming_step (streaming_new sid now) h

lemma resume_link (hcan : w.CanResume) (now : Int) : ∃ outSeq reply, (w.resume sid now).link =
      some ⟨outSeq, (w.replay.since now sid w.high).1.map (·.payload) ++ [reply]⟩ := by
  unfold resume
  rw [if_pos hcan]
  exact ⟨_, _, rfl⟩

/-- Whatever a resume replays is from after the last authentication only if nothing
else is in the way. -/
lemma clean_of_inOrder (hcan : w.CanResume) (hl : (w.resume sid now).link = some l)
    (hepochs : ∀ e ∈ w.received ++ l.inFlight, e.epoch = w.epoch) : w.Clean sid := by
  intro f hf habove
  rcases resume_link hcan now with ⟨_, _, hlink⟩
  rw [hl] at hlink
  cases hlink
  refine hepochs f.payload (mem_append_right _ (mem_append_left _ ?_))
  refine mem_map.mpr ⟨f, ?_, rfl⟩
  rw [since_fst]
  exact mem_filter.mpr ⟨hf, decide_eq_true habove⟩

/-- The stream goes on in order, with all that the resume sends, if and only if the condition holds.
-/
theorem resume_in_order_iff (h : w.Streaming sid) (hcan : w.CanResume) (hreplay : w.Replayable)
    (hroom : w.RoomToResume sid) (now : Int) :
    (∃ l, (w.resume sid now).link = some l ∧ w.InOrder (w.received ++ l.inFlight)) ↔
      w.Settled sid := by
  rcases h.layout with ⟨_, _, _, _, fresh, hlay⟩
  rcases hlay.split with ⟨_, _, hlog, hlow, htail, hseen, hunseen⟩
  constructor
  · rintro ⟨l, hl, hnum, hepochs⟩
    have hclean : w.Clean sid := clean_of_inOrder hcan hl hepochs
    refine ⟨?_, hclean⟩
    rw [resume_eq h hcan hreplay hroom hclean hlog hlow htail] at hl
    cases hl
    rw [append_iff, append_iff, cons_iff, Nat.add_comm 1] at hnum
    rcases hnum with ⟨_, hreplayed, hreply, _⟩
    rw [hlay.recorded_iff, hlay.answered_iff]
    have htop := hlay.top_log
    constructor
    · intro hne
      by_contra hlt
      rw [Nat.not_le] at hlt
      -- The number of the reply is missing before the fresh frames.
      rcases hunseen hlt with ⟨_, hrest, _, hlen⟩
      rw [hrest, append_iff] at hreplayed
      cases fresh with
      | nil => exact hne rfl
      | cons =>
        have hfirst := (cons_iff.mp hreplayed.2).1
        have hfirst' := (cons_iff.mp hlay.fresh_numbered).1
        omega
    · intro hle hnil
      -- The number of the reply is used once more.
      rw [if_pos hnil] at htop
      dsimp only at hreply
      omega
  · intro hset
    have hnext := streaming_resume h hcan hreplay hroom hset now
    rw [resume_eq h hcan hreplay hroom hset.2 hlog hlow htail] at hnext ⊢
    rcases hnext.layout with ⟨_, _, _, _, _, hnextLayout⟩
    rcases hnextLayout.link _ rfl with ⟨_, _, hnum, hflight⟩
    refine ⟨_, rfl, ?_, ?_⟩
    · rw [append_iff, Nat.add_comm 1]
      exact ⟨h.inOrder.1, hnum⟩
    · exact forall_mem_append.mpr ⟨h.inOrder.2, fun e he => (hflight e he).1⟩

end World

open World in
/-- What a client receives from one authentication to the next is numbered without gaps and
repetitions, and nothing from before is replayed.  At the next resume the condition is exact. -/
theorem resume_one_stream (sid : String) (now : Int) (events : List (Event D))
    (h : Machine.Guarded (step sid) (Admissible sid) (new now) events) :
    let w := after sid (new now) events
    w.InOrder w.received ∧
      ∀ now', w.CanResume → w.Replayable → w.RoomToResume sid →
        ((∃ l, (w.resume sid now').link = some l ∧ w.InOrder (w.received ++ l.inFlight)) ↔
          w.Settled sid) := by
  have hstreaming := streaming_after h
  exact ⟨hstreaming.inOrder, fun now' hcan hreplay hroom =>
    resume_in_order_iff hstreaming hcan hreplay hroom now'⟩

/-- A client that resumes twice, the second time with a delivery to be replayed. -/
def resumingTwice : List (Event Nat) :=
  [.auth, .receive, .push 7 true 1 [], .receive, .disconnect,
    .resume 2, .receive, .push 8 true 3 [], .disconnect, .resume 4, .receive, .receive]

theorem resume_one_stream_twice :
    (let w := World.after "s" (World.new 0) resumingTwice;
      w.InOrder w.received ∧ w.received.map (·.seq) = [1, 2, 3, 4, 5]) ∧
    (let w := World.after "s" (World.new 0) (resumingTwice.take 9);
      ∃ l, (w.resume "s" 4).link = some l ∧ w.InOrder (w.received ++ l.inFlight)) := by
  refine ⟨⟨(resume_one_stream "s" 0 resumingTwice (by decide +kernel)).1, by decide +kernel⟩, ?_⟩
  have hexact := (resume_one_stream "s" 0 (resumingTwice.take 9) (by decide +kernel)).2 4
    (by decide +kernel) (by decide +kernel) (by decide +kernel)
  exact hexact.mpr (by decide +kernel)

/-- The numbers that a client has received, with the authentications they are from. -/
def numbers (events : List (Event Nat)) : List (Nat × Nat) :=
  (World.after "s" (World.new 0) events).received.map fun e => (e.seq, e.epoch)

/-- A resume with nothing sent since the last handshake repeats its number; one after another
authentication replays a frame from before; and the number of a lost reply is skipped. -/
theorem resume_out_of_order :
    numbers [.auth, .receive, .disconnect, .resume 1, .receive] = [(1, 1), (1, 1)] ∧
      numbers [.auth, .receive, .push 7 true 1 [], .receive, .disconnect,
        .resume 2, .receive, .disconnect, .resume 3, .receive] = [(1, 1), (2, 1), (3, 1), (3, 1)] ∧
      numbers [.auth, .receive, .push 7 true 1 [], .receive, .disconnect,
        .auth, .receive, .disconnect, .resume 2, .receive] = [(1, 2), (2, 1)] ∧
      numbers [.auth, .receive, .disconnect, .auth, .push 7 true 1 [], .disconnect,
        .resume 2, .receive] = [(2, 2)] := by
  decide +kernel

end SyncApp.Gateway
