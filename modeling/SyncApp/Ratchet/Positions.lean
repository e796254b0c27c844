import SyncApp.Ratchet.Calls

/-!
# Chain positions

A position names a chain by the Diffie-Hellman outputs absorbed up to its start, and a place in it,
so it determines a message key.  A trail records the positions that the receiving chains of a
session move past.

Main results:

- `Follows.created`, `Follows.after`: a trail follows its session through every run.
-/

namespace SyncApp.Ratchet

open Foundations List

/-- The root key after absorbing a list of Diffie-Hellman outputs. -/
def rootAt (P : Primitives) (sk : Bytes) (outs : List Bytes) : Bytes :=
  outs.foldl (fun rk d => (kdfRK P rk d).1) sk

/-- The chain key the last of a list of Diffie-Hellman outputs starts. -/
def chainAt (P : Primitives) (sk : Bytes) (outs : List Bytes) : Bytes :=
  match outs.getLast? with
  | none => []
  | some d => (kdfRK P (rootAt P sk outs.dropLast) d).2

variable (P : Primitives) (sk : Bytes) (outs : List Bytes) (start : Nat) (d : Bytes) (count : Nat)

lemma rootAt_concat : rootAt P sk (outs ++ [d]) = (kdfRK P (rootAt P sk outs) d).1 := by
  simp [rootAt]

lemma chainAt_concat : chainAt P sk (outs ++ [d]) = (kdfRK P (rootAt P sk outs) d).2 := by
  simp [chainAt]

structure Position where
  /-- The outputs absorbed up to the start of the chain. -/
  outs : List Bytes
  /-- The place in the chain. -/
  index : Nat
deriving DecidableEq

def Position.key (P : Primitives) (sk : Bytes) (p : Position) : Bytes :=
  KeyChain.keyAt (kdfCK P) (chainAt P sk p.outs) p.index

/-- A stretch of consecutive positions of one chain. -/
def stretch (outs : List Bytes) (start count : Nat) : List Position :=
  (range count).map fun i => ⟨outs, start + i⟩

@[simp]
lemma stretch_zero : stretch outs start 0 = [] :=
  rfl

lemma mem_stretch {outs : List Bytes} {start count : Nat} {p : Position} :
    p ∈ stretch outs start count ↔ p.outs = outs ∧ start ≤ p.index ∧ p.index < start + count := by
  rw [stretch, mem_map]
  constructor
  · rintro ⟨i, hi, rfl⟩
    exact ⟨rfl, by simp, by simpa using hi⟩
  · rintro ⟨houts, _, _⟩
    refine ⟨p.index - start, by rw [mem_range]; omega, ?_⟩
    cases p
    simp only [Position.mk.injEq] at *
    exact ⟨houts.symm, by omega⟩

lemma stretch_nodup : (stretch outs start count).Nodup := by
  apply List.Nodup.map _ nodup_range
  intro i j h
  simpa using h

lemma map_key_stretch : (stretch outs start count).map (Position.key P sk) =
      KeyChain.keys (kdfCK P) (KeyChain.advance (kdfCK P) start (chainAt P sk outs)) count := by
  simp [stretch, KeyChain.keys, Position.key, KeyChain.keyAt_advance, Function.comp_def]

namespace Session

/-- The Diffie-Hellman output that starts a new receiving chain on this header. -/
def receiveOut (P : Primitives) (s : Session) (hdr : Header) : Bytes :=
  (P.x25519 s.dhs.priv hdr.dh).getD []

/-- The Diffie-Hellman output that starts the sending chain after it. -/
def sendOut (P : Primitives) (keys : Option KeyPair) (hdr : Header) : Bytes :=
  (keys.bind fun kp => P.x25519 kp.priv hdr.dh).getD []

/-- The chain key a DH ratchet on this header would start receiving with. -/
def ratchetChain (P : Primitives) (s : Session) (hdr : Header) : Bytes :=
  (kdfRK P s.rk (s.receiveOut P hdr)).2

/-- The message keys at the positions a successful `Decrypt` moves past: the rest of the old chain
for a new ratchet key, then the positions up to the message's own.  A stored key moves no chain. -/
def passedBy (P : Primitives) (s : Session) (keys : Option KeyPair) (hdr : Header)
    (ct : Bytes) : List Bytes :=
  match (s.decrypt P keys hdr ct).1 with
  | .error _ => []
  | .ok _ =>
    if (s.trySkipped P hdr ct).isSome then []
    else if s.sameDHr hdr.dh then
      KeyChain.keys (kdfCK P) (s.ckr.getD []) (s.skipCount hdr.n + 1)
    else
      KeyChain.keys (kdfCK P) (s.ckr.getD []) (s.skipCount hdr.pn) ++
        KeyChain.keys (kdfCK P) (s.ratchetChain P hdr) (hdr.n.toNat + 1)

/-- The message keys at all the receiving-chain positions a run moves past. -/
def passed (P : Primitives) : Session → List Call → List Bytes
  | _, [] => []
  | s, .encrypt plaintext :: calls => passed P (s.call P (.encrypt plaintext)).2 calls
  | s, .decrypt keys hdr ct :: calls =>
    s.passedBy P keys hdr ct ++ passed P (s.call P (.decrypt keys hdr ct)).2 calls

lemma passed_append (s : Session) (calls calls' : List Call) :
    s.passed P (calls ++ calls') = s.passed P calls ++ (s.after P calls).passed P calls' := by
  induction calls generalizing s with
  | nil => rfl
  | cons c calls ih =>
    cases c with
    | encrypt => exact ih _
    | decrypt =>
      simp only [cons_append, passed, ih, append_assoc]
      rfl

end Session

/-! ## Trails -/

/-- Where a session stands: the outputs its root key has absorbed, those its
receiving chain started from, and the position that chain has reached. -/
structure Trail where
  outs : List Bytes
  receiving : List Bytes
  index : Nat

namespace Session

/-- The trail of a session as a constructor makes it: the initiator's root key
has absorbed one output. -/
def startTrail (P : Primitives) (s : Session) : Trail where
  outs := match s.dhr with
    | none => []
    | some dhr => [(P.x25519 s.dhs.priv dhr).getD []]
  receiving := []
  index := 0

/-- The positions a call to `Decrypt` moves the session past, and the trail
after it. -/
def trailDecrypt (P : Primitives) (s : Session) (keys : Option KeyPair) (hdr : Header)
    (ct : Bytes) (t : Trail) : List Position × Trail :=
  match (s.decrypt P keys hdr ct).1 with
  | .error _ => ([], t)
  | .ok _ =>
    if (s.trySkipped P hdr ct).isSome then ([], t)
    else if s.sameDHr hdr.dh then
      let count := s.skipCount hdr.n + 1
      (stretch t.receiving t.index count, { t with index := t.index + count })
    else
      let receiving := t.outs ++ [s.receiveOut P hdr]
      (stretch t.receiving t.index (s.skipCount hdr.pn) ++ stretch receiving 0 (hdr.n.toNat + 1),
        { outs := receiving ++ [sendOut P keys hdr], receiving := receiving,
          index := hdr.n.toNat + 1 })

/-- The positions a run moves the session past. -/
def positions (P : Primitives) : Session → Trail → List Call → List Position
  | _, _, [] => []
  | s, t, .encrypt plaintext :: calls => positions P (s.call P (.encrypt plaintext)).2 t calls
  | s, t, .decrypt keys hdr ct :: calls =>
    (s.trailDecrypt P keys hdr ct t).1 ++
      positions P (s.call P (.decrypt keys hdr ct)).2 (s.trailDecrypt P keys hdr ct t).2 calls

end Session

/-- A trail that describes a session, and a list of positions it has left behind. -/
structure Follows (P : Primitives) (sk : Bytes) (s : Session) (t : Trail)
    (log : List Position) : Prop where
  root : s.rk = rootAt P sk t.outs
  chain : ∀ ck, s.ckr = some ck → ck = KeyChain.advance (kdfCK P) t.index (chainAt P sk t.receiving)
  shorter : t.receiving.length ≤ t.outs.length
  behind : ∀ p ∈ log, p.outs.length < t.receiving.length ∨
    (p.outs = t.receiving ∧ p.index < t.index)
  nodup : log.Nodup

namespace Follows

variable {P : Primitives} {sk : Bytes} {s : Session} {t : Trail} {log : List Position}

theorem created (hnew : Created P sk s) : Follows P sk s (s.startTrail P) [] := by
  cases hnew with
  | initiator h =>
    rcases newInitiatorSession_eq_ok h with ⟨-, _, dhOut, -, hdh, rfl⟩
    refine ⟨?_, by simp, by simp [Session.startTrail], by simp, nodup_nil⟩
    simp only [Session.startTrail, hdh, Option.getD_some]
    exact (rootAt_concat P sk [] dhOut).symm
  | responder =>
    exact ⟨rfl, by simp [newResponderSession], by simp [Session.startTrail], by simp,
      nodup_nil⟩

variable (h : Follows P sk s t log)
include h

lemma append_stretch (count : Nat) : (log ++ stretch t.receiving t.index count).Nodup ∧
      ∀ p ∈ log ++ stretch t.receiving t.index count, p.outs.length < t.receiving.length ∨
          (p.outs = t.receiving ∧ p.index < t.index + count) := by
  constructor
  · refine nodup_append.mpr ⟨h.nodup, stretch_nodup _ _ _, ?_⟩
    rintro p hp q hq rfl
    rcases mem_stretch.mp hq with ⟨houts, _, -⟩
    rcases h.behind p hp with hlen | ⟨-, hidx⟩
    · rw [houts] at hlen
      omega
    · omega
  · intro p hp
    rcases mem_append.mp hp with hold | hnew
    · rcases h.behind p hold with hlen | ⟨houts, hidx⟩
      · exact Or.inl hlen
      · exact Or.inr ⟨houts, by omega⟩
    · rcases mem_stretch.mp hnew with ⟨houts, -, hhigh⟩
      exact Or.inr ⟨houts, hhigh⟩

/-- So are, after some of them, the positions of a chain that has absorbed one more
output than the root key. -/
lemma append_next (skip : Nat) (d : Bytes) (count : Nat) :
    (log ++ (stretch t.receiving t.index skip ++ stretch (t.outs ++ [d]) 0 count)).Nodup ∧
      ∀ p ∈ log ++ (stretch t.receiving t.index skip ++ stretch (t.outs ++ [d]) 0 count),
        p.outs.length < (t.outs ++ [d]).length ∨ (p.outs = t.outs ++ [d] ∧ p.index < count) := by
  rcases h.append_stretch skip with ⟨hnodup, hbehind⟩
  have hshorter : ∀ p ∈ log ++ stretch t.receiving t.index skip,
      p.outs.length < (t.outs ++ [d]).length := by
    intro p hp
    have hlen := h.shorter
    rw [length_append, length_singleton]
    rcases hbehind p hp with hlt | ⟨houts, -⟩
    · omega
    · rw [houts]
      omega
  rw [← append_assoc]
  constructor
  · refine nodup_append.mpr ⟨hnodup, stretch_nodup _ _ _, ?_⟩
    rintro p hp q hq rfl
    have hlt := hshorter p hp
    rw [(mem_stretch.mp hq).1] at hlt
    exact Nat.lt_irrefl _ hlt
  · intro p hp
    rcases mem_append.mp hp with hp | hp
    · exact Or.inl (hshorter p hp)
    · rcases mem_stretch.mp hp with ⟨houts, -, hhigh⟩
      exact Or.inr ⟨houts, by simpa using hhigh⟩

lemma map_key_ahead (hckr : s.ckr ≠ none) (count : Nat) :
    (stretch t.receiving t.index count).map (Position.key P sk) =
      KeyChain.keys (kdfCK P) (s.ckr.getD []) count := by
  rcases Option.ne_none_iff_exists'.mp hckr with ⟨ck, hck⟩
  rw [map_key_stretch, hck, Option.getD_some, h.chain ck hck]

lemma map_key_skip (upTo : UInt32) :
    (stretch t.receiving t.index (s.skipCount upTo)).map (Position.key P sk) =
      KeyChain.keys (kdfCK P) (s.ckr.getD []) (s.skipCount upTo) := by
  by_cases hckr : s.ckr = none
  · simp [Session.skipCount, hckr]
  · exact h.map_key_ahead hckr _

end Follows

lemma caughtUp_ratchet {P : Primitives} {s s₁ s₂ s₃ t : Session} {keys : Option KeyPair}
    {hdr : Header} (hold : s.skipMessageKeys P hdr.pn = .ok s₁)
    (hreceive : s₁.ratchetReceive P hdr = .ok s₂) (hsend : s₂.ratchetSend P keys = .ok s₃)
    (hskip : s₃.skipMessageKeys P hdr.n = .ok t) :
    s₃.skipped = s₁.skipped ∧ s₃.ckr = some (s.ratchetChain P hdr) ∧
      s₃.skipCount hdr.n = hdr.n.toNat ∧
      t.rk = (kdfRK P (kdfRK P s.rk (s.receiveOut P hdr)).1 (Session.sendOut P keys hdr)).1 ∧
      t.ckr = some (KeyChain.advance (kdfCK P) hdr.n.toNat (s.ratchetChain P hdr)) := by
  rcases Session.skipMessageKeys_eq_ok hold with ⟨-, hs₁⟩
  rcases Session.ratchetReceive_eq_ok hreceive with ⟨-, dhOut, hdh, rfl⟩
  rcases Session.ratchetSend_eq_ok hsend with ⟨dhs, dhOut', rfl, hdh', hs₃⟩
  rcases Session.skipMessageKeys_eq_ok hskip with ⟨-, rfl⟩
  rcases Session.skipBy_fixed P (s.skipCount hdr.pn) s with ⟨hdhs, -, hrk, -⟩
  rw [← hs₁] at hdhs hrk
  rw [hdhs] at hdh
  have hrecv : s.receiveOut P hdr = dhOut := by simp [Session.receiveOut, hdh]
  have hsent : Session.sendOut P (some dhs) hdr = dhOut' := by
    simpa [Session.sendOut] using congrArg (Option.getD · []) hdh'
  have hchain : s₃.ckr = some (s.ratchetChain P hdr) := by
    rw [hs₃, Session.ratchetChain, hrecv, hrk]
  have hcnt : s₃.skipCount hdr.n = hdr.n.toNat := by
    simp [Session.skipCount, hs₃]
  refine ⟨by rw [hs₃], hchain, hcnt, ?_, ?_⟩
  · rw [(Session.skipBy_fixed P _ _).2.2.1, hs₃, hrecv, hsent, hrk]
  · rw [hcnt, Session.skipBy_ckr hchain]

namespace Follows

variable {P : Primitives} {sk : Bytes} {s : Session} {t : Trail} {log : List Position}

lemma decrypt (h : Follows P sk s t log) (keys : Option KeyPair) (hdr : Header) (ct : Bytes) :
    s.passedBy P keys hdr ct = (s.trailDecrypt P keys hdr ct t).1.map (Position.key P sk) ∧
      Follows P sk (s.decrypt P keys hdr ct).2 (s.trailDecrypt P keys hdr ct t).2
        (log ++ (s.trailDecrypt P keys hdr ct t).1) := by
  have hcases := Session.decrypt_cases P s keys hdr ct
  unfold Session.passedBy Session.trailDecrypt
  cases hstored : s.trySkipped P hdr ct with
  | some result =>
    rcases result with ⟨pt, s'⟩
    rcases Session.trySkipped_eq_some hstored with ⟨_, -, -, rfl⟩
    rw [Session.decrypt, hstored]
    simp only [Option.isSome_some, if_true, map_nil, append_nil, true_and]
    exact { h with }
  | none =>
    generalize s.decrypt P keys hdr ct = r at hcases ⊢
    simp only [Option.isSome_none, Bool.false_eq_true, if_false]
    cases hcases with
    | refused => simpa using h
    | stored hlook hopen => simp [Session.trySkipped, hlook, hopen] at hstored
    | @next ck pt hckr hsame hn hopen =>
      have hcnt : s.skipCount hdr.n = 0 := by simp [Session.skipCount, hn]
      simp only [hsame, if_true, hcnt]
      refine ⟨(h.map_key_ahead (by simp [hckr]) _).symm, ?_⟩
      rcases h.append_stretch 1 with ⟨hnodup, hbehind⟩
      refine ⟨h.root, ?_, h.shorter, hbehind, hnodup⟩
      intro ck' hck'
      rw [← Option.some.inj hck', h.chain ck hckr, KeyChain.advance_succ]
    | @caughtUp s' ck pt hcatch hckr hopen =>
      cases hcatch with
      | same hsame hskip =>
        rcases Session.skipMessageKeys_eq_ok hskip with ⟨-, rfl⟩
        have hchain : s.ckr ≠ none := by
          intro hnone
          simp [Session.skipCount, hnone] at hckr
        rcases Option.ne_none_iff_exists'.mp hchain with ⟨c, hc⟩
        simp only [hsame, if_true]
        refine ⟨(h.map_key_ahead hchain _).symm, ?_⟩
        rcases h.append_stretch (s.skipCount hdr.n + 1) with ⟨hnodup, hbehind⟩
        refine ⟨?_, ?_, h.shorter, hbehind, hnodup⟩
        · exact (Session.skipBy_fixed P _ s).2.2.1.trans h.root
        · intro ck' hck'
          rw [Session.skipBy_ckr hc] at hckr
          rw [← Option.some.inj hck', ← Option.some.inj hckr, ← KeyChain.advance_succ,
            h.chain c hc, ← KeyChain.advance_add, Nat.add_comm]
      | ratchet hnew hold hreceive hsend hskip =>
        rcases caughtUp_ratchet hold hreceive hsend hskip with ⟨-, -, -, hrk, hck⟩
        have hreceiving : s.ratchetChain P hdr = chainAt P sk (t.outs ++ [s.receiveOut P hdr]) := by
          rw [chainAt_concat, ← h.root]
          rfl
        rcases h.append_next (s.skipCount hdr.pn) (s.receiveOut P hdr) (hdr.n.toNat + 1) with
          ⟨hnodup, hbehind⟩
        simp only [hnew, Bool.false_eq_true, if_false]
        refine ⟨?_, ?_, ?_, ?_, hbehind, hnodup⟩
        · rw [map_append, h.map_key_skip, map_key_stretch, ← hreceiving]
          rfl
        · rw [hrk, rootAt_concat, rootAt_concat, ← h.root]
        · intro ck' hck'
          rw [hck] at hckr
          rw [← Option.some.inj hck', ← Option.some.inj hckr, ← KeyChain.advance_succ, hreceiving]
        · simp

/-- No run moves past a position twice, and the keys it derives are those at the
positions it moves past. -/
theorem after (h : Follows P sk s t log) (calls : List Call) :
    s.passed P calls = (s.positions P t calls).map (Position.key P sk) ∧
      (log ++ s.positions P t calls).Nodup := by
  induction calls generalizing s t log with
  | nil => exact ⟨rfl, by simpa [Session.positions] using h.nodup⟩
  | cons c calls ih =>
    cases c with
    | encrypt plaintext =>
      exact ih (s := (s.encrypt P plaintext).2) { h with }
    | decrypt keys hdr ct =>
      rcases h.decrypt keys hdr ct with ⟨hkeys, hnext⟩
      rcases ih hnext with ⟨hrest, hnodup⟩
      refine ⟨?_, ?_⟩
      · simp only [Session.passed, Session.positions, map_append, hkeys]
        exact congrArg _ hrest
      · rw [append_assoc] at hnodup
        exact hnodup

end Follows
end SyncApp.Ratchet
