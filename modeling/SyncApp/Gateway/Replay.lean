import Mathlib.Data.List.AList
import SyncApp.Foundations.Window

/-!
# The replay buffer

`memoryBuffer` of `server/internal/replay/replay.go`: the last frames of each session.  Now and then
an append sweeps out sessions that were idle for long, and others, in the order of the map, while
there are too many.  Times are in milliseconds.

Main results:

- `MemoryBuffer.since_fst`, `MemoryBuffer.frames_since`: what a session is sent again.
-/

namespace SyncApp.Gateway

open Foundations

def maxFrames : Nat := 1024

def sessionTTL : Int := 10 * 60 * 1000

def sweepEvery : Int := 60 * 1000

def maxSessions : Nat := 100000

structure Frame (P : Type) where
  seq : Nat
  payload : P

structure SessionBuf (P : Type) where
  frames : List (Frame P)
  lastSeen : Int

structure MemoryBuffer (P : Type) where
  sessions : AList fun _ : String => SessionBuf P
  lastSweep : Int

namespace MemoryBuffer

variable {P : Type}

/-- The loop of `sweepLocked` that drops idle sessions. -/
def expire (now : Int) (sessions : AList fun _ : String => SessionBuf P) :
    List String → AList fun _ : String => SessionBuf P
  | [] => sessions
  | id :: ids =>
    match sessions.lookup id with
    | some s => if sessionTTL < now - s.lastSeen then expire now (sessions.erase id) ids
        else expire now sessions ids
    | none => expire now sessions ids

/-- The loop of `sweepLocked` that enforces the ceiling. -/
def evict (sessions : AList fun _ : String => SessionBuf P) :
    List String → AList fun _ : String => SessionBuf P
  | [] => sessions
  | id :: visit =>
    if sessions.keys.length < maxSessions then sessions else evict (sessions.erase id) visit

variable (m : MemoryBuffer P) (now : Int) (visit : List String)

/-- `sweepLocked`.  The second loop walks through the sessions in the given
order. -/
def sweepLocked : MemoryBuffer P :=
  if now - m.lastSweep < sweepEvery ∧ m.sessions.keys.length < maxSessions then m
  else { lastSweep := now, sessions := evict (expire now m.sessions m.sessions.keys) visit }

variable (id : String)

def append (seq : Nat) (payload : P) : MemoryBuffer P :=
  let m := m.sweepLocked now visit
  let s := (m.sessions.lookup id).getD ⟨[], now⟩
  { m with
    sessions := m.sessions.insert id ⟨Window.push maxFrames s.frames [⟨seq, payload⟩], now⟩ }

def since (afterSeq : Nat) : List (Frame P) × MemoryBuffer P :=
  match m.sessions.lookup id with
  | none => ([], m)
  | some s =>
    (s.frames.filter fun f => afterSeq < f.seq,
      { m with sessions := m.sessions.insert id { s with lastSeen := now } })

def frames (m : MemoryBuffer P) (id : String) : List (Frame P) :=
  match m.sessions.lookup id with
  | none => []
  | some s => s.frames

def highWater : Nat :=
  match (m.frames id).getLast? with
  | none => 0
  | some f => f.seq

/-- A session is left alone or dropped. -/
def Spared (before after : AList fun _ : String => SessionBuf P) : Prop :=
  after.lookup id = before.lookup id ∨ after.lookup id = none

variable {a b c : AList fun _ : String => SessionBuf P}

lemma Spared.trans {id : String} (hab : Spared id a b) (hbc : Spared id b c) : Spared id a c := by
  rcases hbc with hbc | hbc
  · rw [Spared, hbc]
    exact hab
  · exact .inr hbc

variable (m : MemoryBuffer P) (now : Int) (id : String) (visit : List String) (afterSeq : Nat)

lemma spared_erase (other : String) : Spared id a (a.erase other) := by
  rcases eq_or_ne id other with rfl | hne
  · exact .inr (AList.lookup_erase id a)
  · exact .inl (AList.lookup_erase_ne hne)

lemma spared_expire (ids : List String) : Spared id a (expire now a ids) := by
  induction ids generalizing a with
  | nil => exact .inl rfl
  | cons other ids ih =>
    unfold expire
    split
    · split
      · exact (spared_erase id other).trans ih
      · exact ih
    · exact ih

lemma spared_evict : Spared id a (evict a visit) := by
  induction visit generalizing a with
  | nil => exact .inl rfl
  | cons other visit ih =>
    unfold evict
    split
    · exact .inl rfl
    · exact (spared_erase id other).trans ih

lemma spared_sweepLocked (id : String) :
    Spared id m.sessions (m.sweepLocked now visit).sessions := by
  unfold sweepLocked
  split
  · exact .inl rfl
  · exact (spared_expire now id _).trans (spared_evict id visit)

lemma frames_of_spared {m m' : MemoryBuffer P} {id : String}
    (h : Spared id m.sessions m'.sessions) : m'.frames id = m.frames id ∨ m'.frames id = [] := by
  unfold frames
  rcases h with h | h
  · exact .inl (by rw [h])
  · exact .inr (by rw [h])

/-- An append puts its frame at the end, and the session holds the last frames. -/
lemma frames_append_self (id : String) (seq : Nat) (payload : P) :
    (m.append now visit id seq payload).frames id =
      Window.push maxFrames ((m.sweepLocked now visit).frames id) [⟨seq, payload⟩] := by
  unfold append frames
  rw [AList.lookup_insert]
  cases (m.sweepLocked now visit).sessions.lookup id with
  | none | some => rfl

theorem since_fst :
    (m.since now id afterSeq).1 = (m.frames id).filter fun f => afterSeq < f.seq := by
  unfold since frames
  split
  · rfl
  · rfl

theorem frames_since : (m.since now id afterSeq).2.frames id = m.frames id := by
  unfold since
  split
  · rfl
  · next h =>
    unfold frames
    rw [AList.lookup_insert, h]

end MemoryBuffer
end SyncApp.Gateway
