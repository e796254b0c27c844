import SyncApp.Ratchet.Ideal

/-!
# Two parties in step

The sessions of two parties whose frames arrive in the order they were sent.  One leads, with the
newer ratchet key; the other takes the lead when it opens the first frame of the leader's chain.

Main results:

- `decrypt_begun`, `Waiting.encrypt`: what a step of either does.
-/

namespace SyncApp.Ratchet
namespace Ideal

open Foundations Generic List
open RatchetSession (catchUp decrypt openNext responder trySkipped)

variable {K A : Type}

/-- The root key after an output was absorbed. -/
def Root.absorb (root : Root K A) (out : Sym2 K) : Root K A := ⟨root.secret, out :: root.outs⟩

/-! ## Frames of a chain -/

/-- The frame at a step of a chain. -/
def frame (root : Root K A) (dh : K) (pn n : Nat) (text : String) : Header K × Cipher K A :=
  (⟨dh, pn, n⟩, ⟨⟨root, n⟩, ⟨dh, pn, n⟩, text⟩)

/-- Frames at the steps from a given one on. -/
def frames (root : Root K A) (dh : K) (pn : Nat) : Nat → List String → List (Header K × Cipher K A)
  | _, [] => []
  | n, text :: rest => frame root dh pn n text :: frames root dh pn (n + 1) rest

variable (root : Root K A) (dh : K)

section

variable (pn n : Nat) (texts : List String)

lemma frames_concat (text : String) : frames root dh pn n (texts ++ [text]) =
      frames root dh pn n texts ++ [frame root dh pn (n + texts.length) text] := by
  induction texts generalizing n with
  | nil => rfl
  | cons first rest ih =>
    rw [cons_append, frames, frames, ih, cons_append, length_cons]
    congr 4
    omega

lemma map_text_frames :
    (frames root dh pn n texts).map (fun sealed => sealed.2.text) = texts := by
  induction texts generalizing n with
  | nil => rfl
  | cons text rest ih =>
    rw [frames, map_cons, ih]
    rfl

lemma getElem?_frames (i : Nat) :
    (frames root dh pn n texts)[i]? = texts[i]?.map (frame root dh pn (n + i)) := by
  induction texts generalizing n i with
  | nil => rfl
  | cons text rest ih =>
    cases i with
    | zero => rfl
    | succ =>
      rw [frames, getElem?_cons_succ, getElem?_cons_succ, ih, Nat.add_right_comm,
        Nat.add_assoc]

end

variable {dh : K} {pn : Nat} {root : Root K A}

lemma frames_eq_cons {n : Nat} {texts : List String} {f : Header K × Cipher K A}
    {rest : List (Header K × Cipher K A)} (h : frames root dh pn n texts = f :: rest) :
    ∃ text more, texts = text :: more ∧ f = frame root dh pn n text ∧
      rest = frames root dh pn (n + 1) more := by
  cases texts with
  | nil => cases h
  | cons text more =>
    cases h
    exact ⟨text, more, rfl, rfl, rfl⟩

variable [DecidableEq K] [DecidableEq A] {s l f : Line K A}

lemma encrypt_frame (h : s.sendingChainKey = some ⟨root, s.sent⟩) (text : String) :
    s.encrypt text = some (frame root s.dhs.key s.previousSent s.sent text,
      { s with sendingChainKey := some ⟨root, s.sent + 1⟩, sent := s.sent + 1 }) := by
  unfold RatchetSession.encrypt
  rw [h]
  rfl

lemma trySkipped_empty (h : s.skipped = .empty) (header : Header K) (c : Cipher K A) :
    s.trySkipped header c = none := by
  unfold trySkipped
  rw [h]
  rfl

lemma skipMessageKeys_self (h : s.receivingChainKey = none ∨ s.received = n) :
    s.skipMessageKeys n = some s := by
  unfold RatchetSession.skipMessageKeys
  split
  · next chain peer hchain _ =>
    rcases h with hnone | rfl
    · rw [hnone] at hchain
      cases hchain
    · rw [if_neg (by simp), Nat.sub_self]
      rfl
  · rfl

lemma openNext_frame (h : s.receivingChainKey = some ⟨root, s.received⟩) (text : String) :
    s.openNext (frame root dh pn s.received text).1 (frame root dh pn s.received text).2 =
      some (text, { s with
        receivingChainKey := some ⟨root, s.received + 1⟩, received := s.received + 1 }) := by
  unfold openNext
  rw [h]
  simp [frame]

lemma decrypt_next (hemp : s.skipped = .empty)
    (hchain : s.receivingChainKey = some ⟨root, s.received⟩) (hpeer : s.dhr = some dh)
    (fresh : Pair K) (text : String) :
    s.decrypt fresh (frame root dh pn s.received text).1 (frame root dh pn s.received text).2 =
      some (text, { s with
        receivingChainKey := some ⟨root, s.received + 1⟩, received := s.received + 1 }) := by
  unfold decrypt
  rw [trySkipped_empty hemp]
  rw [if_pos ⟨by rw [hchain]; rfl, hpeer, rfl⟩]
  exact openNext_frame hchain text

/-- The session after a ratchet step to a chain, before any of its frames. -/
def begun (s : Line K A) (root : Root K A) (fresh : Pair K) (dh : K) : Line K A where
  dhs := fresh
  dhr := some dh
  rootKey := root.absorb s(fresh.key, dh)
  sendingChainKey := some ⟨root.absorb s(fresh.key, dh), 0⟩
  receivingChainKey := some ⟨root, 0⟩
  sent := 0
  received := 0
  previousSent := s.sent
  skipped := .empty

theorem decrypt_begun {header : Header K} {c : Cipher K A} (hemp : s.skipped = .empty)
    (hpeer : s.dhr ≠ some header.dh) (hwhole : s.receivingChainKey = none ∨ s.received = header.pn)
    (hroot : s.rootKey.absorb s(s.dhs.key, header.dh) = root) (fresh : Pair K) :
    s.decrypt fresh header c =
      ((begun s root fresh header.dh).skipMessageKeys header.n).bind fun s =>
        s.openNext header c := by
  have hrat : s.dhRatchet fresh header = some (begun s root fresh header.dh) := by
    subst hroot
    unfold begun
    rw [← hemp]
    rfl
  unfold decrypt
  rw [trySkipped_empty hemp]
  rw [if_neg (fun h => hpeer h.2.1)]
  unfold catchUp
  rw [if_neg hpeer, show s.skipMessageKeys header.pn = some s from skipMessageKeys_self hwhole,
    Option.bind_some, hrat, Option.bind_some]

lemma decrypt_turn (hemp : s.skipped = .empty) (hpeer : s.dhr ≠ some dh)
    (hwhole : s.receivingChainKey = none ∨ s.received = pn)
    (hroot : s.rootKey.absorb s(s.dhs.key, dh) = root) (fresh : Pair K) (text : String) :
    s.decrypt fresh (frame root dh pn 0 text).1 (frame root dh pn 0 text).2 =
      some (text, { begun s root fresh dh with
        receivingChainKey := some ⟨root, 1⟩, received := 1 }) := by
  have hnone : (begun s root fresh dh).skipMessageKeys 0 = some (begun s root fresh dh) :=
    skipMessageKeys_self (.inr rfl)
  refine (decrypt_begun hemp hpeer hwhole hroot fresh).trans ?_
  refine (congrArg (Option.bind · _) hnone).trans ?_
  exact openNext_frame (s := begun s root fresh dh) rfl text

/-! ## In step -/

/-- Frames of the chain before the leader's are on their way; `count` were sent. -/
def Rest (f : Line K A) (old : List (Header K × Cipher K A)) (count : Nat) : Prop :=
  (f.receivingChainKey = none ∧ old = []) ∨
    ∃ root dh pn texts, f.receivingChainKey = some ⟨root, f.received⟩ ∧ f.dhr = some dh ∧
      old = frames root dh pn f.received texts ∧ f.received + texts.length = count

/-- A leader and a follower, and the frames on their way to each. -/
structure Matched (l f : Line K A) (toLeader toFollower : List (Header K × Cipher K A)) : Prop where
  root : l.rootKey = f.rootKey.absorb s(l.dhs.key, f.dhs.key)
  leaderSends : l.sendingChainKey = some ⟨l.rootKey, l.sent⟩
  followerSends : f.sendingChainKey = some ⟨f.rootKey, f.sent⟩
  leaderReads : l.receivingChainKey = some ⟨f.rootKey, l.received⟩
  peer : l.dhr = some f.dhs.key
  newer : f.dhr ≠ some l.dhs.key
  leaderEmpty : l.skipped = .empty
  followerEmpty : f.skipped = .empty
  back : ∃ texts, toLeader = frames f.rootKey f.dhs.key f.previousSent l.received texts ∧
    l.received + texts.length = f.sent
  forth : ∃ old texts,
    toFollower = old ++ frames l.rootKey l.dhs.key l.previousSent 0 texts ∧
      texts.length = l.sent ∧ Rest f old l.previousSent

namespace Matched

variable {toLeader toFollower rest : List (Header K × Cipher K A)}
  {sealed : Header K × Cipher K A}

lemma leader_encrypt (h : Matched l f toLeader toFollower) (text : String) :
    ∃ sealed l', l.encrypt text = some (sealed, l') ∧ sealed.2.text = text ∧
      l'.dhs = l.dhs ∧ Matched l' f toLeader (toFollower ++ [sealed]) := by
  refine ⟨_, _, encrypt_frame h.leaderSends text, rfl, rfl, ?_⟩
  rcases h.forth with ⟨old, texts, hforth, hlen, hrest⟩
  refine { h with leaderSends := rfl, forth := ⟨old, texts ++ [text], ?_, ?_, hrest⟩ }
  · rw [hforth, frames_concat, append_assoc, Nat.zero_add, hlen]
  · rw [length_append, hlen]
    rfl

lemma follower_encrypt (h : Matched l f toLeader toFollower) (text : String) :
    ∃ sealed f', f.encrypt text = some (sealed, f') ∧ sealed.2.text = text ∧
      f'.dhs = f.dhs ∧ Matched l f' (toLeader ++ [sealed]) toFollower := by
  refine ⟨_, _, encrypt_frame h.followerSends text, rfl, rfl, ?_⟩
  rcases h.back with ⟨texts, hback, hlen⟩
  refine { h with followerSends := rfl, back := ⟨texts ++ [text], ?_, ?_⟩ }
  · rw [hback, frames_concat, hlen]
  · rw [length_append, ← hlen]
    exact (Nat.add_assoc ..).symm

lemma leader_decrypt (h : Matched l f (sealed :: rest) toFollower) (fresh : Pair K) :
    ∃ l', l.decrypt fresh sealed.1 sealed.2 = some (sealed.2.text, l') ∧ l'.dhs = l.dhs ∧
      Matched l' f rest toFollower := by
  rcases h.back with ⟨_, hback, hlen⟩
  rcases frames_eq_cons hback.symm with ⟨text, more, rfl, rfl, hmore⟩
  refine ⟨_, decrypt_next h.leaderEmpty h.leaderReads h.peer fresh text, rfl, ?_⟩
  refine { h with leaderReads := rfl, back := ⟨more, hmore, ?_⟩ }
  rw [← hlen, length_cons]
  change l.received + 1 + more.length = l.received + (more.length + 1)
  omega

variable {fresh : Pair K}

/-- The follower opens the first frame of the leader's chain and takes the lead. -/
lemma follower_turn {text : String} {more : List String} (h : Matched l f toLeader toFollower)
    (hnew : fresh.key ≠ f.dhs.key) (hdh : dh = l.dhs.key) (hlen : more.length + 1 = l.sent)
    (hwhole : f.receivingChainKey = none ∨ f.received = pn) (hpn : pn = l.previousSent) :
    ∃ f', f.decrypt fresh (frame l.rootKey dh pn 0 text).1 (frame l.rootKey dh pn 0 text).2 =
        some (text, f') ∧ f'.dhs = fresh ∧
      Matched f' l (frames l.rootKey dh pn 1 more) toLeader := by
  subst hdh hpn
  have hroot : f.rootKey.absorb s(f.dhs.key, l.dhs.key) = l.rootKey := by
    rw [h.root, Sym2.eq_swap]
  refine ⟨_, decrypt_turn h.followerEmpty h.newer hwhole hroot fresh text, rfl, ?_⟩
  rcases h.back with ⟨texts, hback, hcnt⟩
  refine ⟨rfl, rfl, h.leaderSends, rfl, rfl, ?_, rfl, h.leaderEmpty, ⟨more, rfl, ?_⟩,
    toLeader, [], ?_, rfl, .inr ⟨f.rootKey, f.dhs.key, f.previousSent, texts, h.leaderReads,
      h.peer, hback, hcnt⟩⟩
  · rw [h.peer]
    intro hsame
    exact hnew (Option.some.inj hsame).symm
  · change 1 + more.length = l.sent
    omega
  · exact (append_nil _).symm

/-- The follower opens the next frame; with the first one of the leader's chain it takes the
lead. -/
lemma follower_decrypt (h : Matched l f toLeader (sealed :: rest))
    (hnew : fresh.key ≠ f.dhs.key) :
    ∃ f', f.decrypt fresh sealed.1 sealed.2 = some (sealed.2.text, f') ∧
      ((f'.dhs = f.dhs ∧ Matched l f' toLeader rest) ∨
        (f'.dhs = fresh ∧ Matched f' l rest toLeader)) := by
  rcases h.forth with ⟨old, texts, hforth, hlen, hrest⟩
  have hbegins : old = [] → (f.receivingChainKey = none ∨ f.received = l.previousSent) →
      ∃ f', f.decrypt fresh sealed.1 sealed.2 = some (sealed.2.text, f') ∧
        (f'.dhs = fresh ∧ Matched f' l rest toLeader) := by
    rintro rfl hwhole
    rcases frames_eq_cons hforth.symm with ⟨text, more, rfl, rfl, rfl⟩
    exact h.follower_turn hnew rfl hlen hwhole rfl
  rcases hrest with ⟨hnone, hold⟩ | ⟨root, dh, pn, oldTexts, hchain, hpeer, hold, hcnt⟩
  · rcases hbegins hold (.inl hnone) with ⟨f', hopen, hturned⟩
    exact ⟨f', hopen, .inr hturned⟩
  cases oldTexts with
  | nil =>
    rcases hbegins hold (.inr hcnt) with ⟨f', hopen, hturned⟩
    exact ⟨f', hopen, .inr hturned⟩
  | cons text more =>
    -- Frames of the chain before are still to come.
    subst hold
    cases hforth
    refine ⟨_, decrypt_next h.followerEmpty hchain hpeer fresh text, .inl ⟨rfl, ?_⟩⟩
    refine { h with forth := ⟨_, texts, rfl, hlen,
      .inr ⟨root, dh, pn, more, rfl, hpeer, rfl, ?_⟩⟩ }
    rw [← hcnt, length_cons]
    change f.received + 1 + more.length = f.received + (more.length + 1)
    omega

end Matched

/-- An initiator that was not answered, and its frames on their way. -/
structure Waiting (l : Line K A) (secret : A) (signedPreKey : K)
    (toResponder : List (Header K × Cipher K A)) : Prop where
  root : l.rootKey = ⟨secret, [s(l.dhs.key, signedPreKey)]⟩
  sends : l.sendingChainKey = some ⟨l.rootKey, l.sent⟩
  reads : l.receivingChainKey = none
  peer : l.dhr = some signedPreKey
  first : l.previousSent = 0
  empty : l.skipped = .empty
  flight : ∃ texts, toResponder = frames l.rootKey l.dhs.key 0 0 texts ∧ texts.length = l.sent

namespace Waiting

variable {secret : A} {signedPreKey : K} {toResponder rest : List (Header K × Cipher K A)}
  {sealed : Header K × Cipher K A}

theorem encrypt (h : Waiting l secret signedPreKey toResponder) (text : String) :
    ∃ sealed l', l.encrypt text = some (sealed, l') ∧ sealed.2.text = text ∧ l'.dhs = l.dhs ∧
      Waiting l' secret signedPreKey (toResponder ++ [sealed]) := by
  refine ⟨_, _, encrypt_frame h.sends text, rfl, rfl, ?_⟩
  rcases h.flight with ⟨texts, hflight, hlen⟩
  refine ⟨h.root, rfl, h.reads, h.peer, h.first, h.empty, texts ++ [text], ?_, ?_⟩
  · rw [hflight, frames_concat, h.first, Nat.zero_add, hlen]
  · rw [length_append, hlen]
    rfl

variable (h : Waiting l secret signedPreKey (sealed :: rest))
include h

lemma secret_head : sealed.2.key.root.secret = secret := by
  rcases h.flight with ⟨_, hflight, -⟩
  rcases frames_eq_cons hflight.symm with ⟨_, _, -, rfl, -⟩
  exact congrArg Root.secret h.root

/-- The responder opens the first frame, and leads from then on. -/
lemma answered {fresh : Pair K} (draw : Nat) (hnew : fresh.key ≠ signedPreKey) :
    ∃ r, (responder ⟨secret, []⟩ ⟨signedPreKey, draw⟩ : Line K A).decrypt fresh
        sealed.1 sealed.2 = some (sealed.2.text, r) ∧ r.dhs = fresh ∧ Matched r l rest [] := by
  rcases h.flight with ⟨_, hflight, hlen⟩
  rcases frames_eq_cons hflight.symm with ⟨text, more, rfl, rfl, rfl⟩
  have hroot : (Root.mk secret []).absorb s(signedPreKey, l.dhs.key) = l.rootKey := by
    rw [h.root, Sym2.eq_swap]
    rfl
  refine ⟨_, decrypt_turn rfl (by simp [responder]) (.inl rfl) hroot fresh text, rfl, ?_⟩
  refine ⟨rfl, rfl, h.sends, rfl, rfl, ?_, rfl, h.empty, ⟨more, ?_, ?_⟩, [], [], rfl, rfl,
    .inl ⟨h.reads, rfl⟩⟩
  · rw [h.peer]
    intro hsame
    exact hnew (Option.some.inj hsame).symm
  · rw [h.first]
  · rw [← hlen, length_cons]
    exact Nat.add_comm ..

end Waiting

end Ideal
end SyncApp.Ratchet
