import SyncApp.Ratchet.Exchange

/-!
# The frames of one chain in any order

A session that is given the frames of one chain keeps the keys of those it has passed, as long as no
frame is too far ahead and the store does not overflow.

Main results:

- `Collecting.opens`, `Collecting.refuses`: every frame opens the first time, and not again.
-/

namespace SyncApp.Ratchet
namespace Ideal

open Foundations Generic List
open RatchetSession (decrypt openNext responder skipLoop skipMessageKeys trySkipped)

variable {K A : Type} [DecidableEq K] [DecidableEq A] {l : Line K A} {root : Root K A} {dh : K}
  {n pn : Nat} {got : List Nat}

/-- A session that collects the frames of a chain, and the frames it has opened. -/
structure Collecting (l : Line K A) (root : Root K A) (dh : K) (got : List Nat) : Prop where
  reads : l.receivingChainKey = some ⟨root, l.received⟩
  peer : l.dhr = some dh
  stored : ∀ n, l.skipped.lookup (dh, n) = if n < l.received ∧ n ∉ got then some ⟨root, n⟩ else none
  passed : ∀ n ∈ got, n < l.received

/-- The frame at a step is not too far ahead, and the keys of those before it can be kept. -/
def Reaches (l : Line K A) (n : Nat) : Prop :=
  n ≤ l.received + Web.maxSkip ∧ l.skipped.size + (n - l.received) ≤ Web.maxSkippedKeys
deriving Decidable

/-- The session has gone ahead on its chain by some steps and kept their keys. -/
structure Ahead (l l' : Line K A) (root : Root K A) (dh : K) (steps : Nat) : Prop where
  reads : l'.receivingChainKey = some ⟨root, l'.received⟩
  received : l'.received = l.received + steps
  peer : l'.dhr = l.dhr
  stored : ∀ n, l'.skipped.lookup (dh, n) =
    if l.received ≤ n ∧ n < l.received + steps then some ⟨root, n⟩ else l.skipped.lookup (dh, n)

lemma Ahead.next {s l' : Line K A} {steps : Nat} (h : Ahead s l' root dh steps)
    (hrecv : s.received = l.received + 1) (hpeer : s.dhr = l.dhr)
    (hlook : ∀ n, s.skipped.lookup (dh, n) =
      if n = l.received then some ⟨root, n⟩ else l.skipped.lookup (dh, n)) :
    Ahead l l' root dh (steps + 1) := by
  refine ⟨h.reads, ?_, h.peer.trans hpeer, ?_⟩
  · rw [h.received, hrecv]
    omega
  · intro n
    rw [h.stored n, hlook, hrecv]
    by_cases hn : n = l.received
    · subst hn
      rw [if_neg (by omega), if_pos rfl, if_pos (by omega)]
    · by_cases hin : l.received + 1 ≤ n ∧ n < l.received + 1 + steps
      · rw [if_pos hin, if_pos (by omega)]
      · rw [if_neg hin, if_neg hn, if_neg (by omega)]

lemma ahead_skipLoop (steps : Nat) (hreads : l.receivingChainKey = some ⟨root, l.received⟩)
    (hfits : l.skipped.size + steps ≤ Web.maxSkippedKeys)
    (hnew : ∀ n, l.received ≤ n → l.skipped.lookup (dh, n) = none) :
    Ahead l (skipLoop dh (l.received + steps) steps ⟨root, l.received⟩ l) root dh steps := by
  induction steps generalizing l with
  | zero =>
    refine ⟨hreads, rfl, rfl, ?_⟩
    intro n
    rw [if_neg (by omega)]
    rfl
  | succ steps ih =>
    -- One key is kept, and the rest is the same loop from the next step on.
    have hone : l.skipped.lookup (dh, l.received) = none := hnew _ le_rfl
    have hroom : l.skipped.size + 1 ≤ Web.maxSkippedKeys := by omega
    have hloop : skipLoop dh (l.received + (steps + 1)) (steps + 1)
        (ChainKey.mk root l.received) l =
        skipLoop dh (l.received + 1 + steps) steps
          (ChainKey.mk root (l.received + 1)) (l.skipOne dh (ChainKey.mk root l.received)) := by
      rw [skipLoop, if_pos (by omega), Nat.add_right_comm, ← Nat.add_assoc]
    have hlook : ∀ n, (l.skipOne dh (ChainKey.mk root l.received)).skipped.lookup (dh, n) =
        if n = l.received then some ⟨root, n⟩ else l.skipped.lookup (dh, n) := by
      intro n
      refine (EvictingMap.lookup_store_of_fits _ hone hroom _).trans ?_
      by_cases hn : n = l.received
      · subst hn
        simp
      · simp [hn]
    have hsize : (l.skipOne dh (ChainKey.mk root l.received)).skipped.size = l.skipped.size + 1 :=
      EvictingMap.size_store_of_fits _ hone hroom
    have hnext : ∀ n, l.received + 1 ≤ n →
        (l.skipOne dh (ChainKey.mk root l.received)).skipped.lookup (dh, n) = none := by
      intro n hn
      rw [hlook, if_neg (by omega)]
      exact hnew n (by omega)
    have hahead := ih (l := l.skipOne dh (ChainKey.mk root l.received)) rfl (by omega) hnext
    rw [hloop]
    exact hahead.next rfl rfl hlook

section

variable (hreads : l.receivingChainKey = some ⟨root, l.received⟩) (hpeer : l.dhr = some dh)
  (hreach : Reaches l n)
include hreads hpeer hreach

variable (hle : l.received ≤ n) (hnew : ∀ n, l.received ≤ n → l.skipped.lookup (dh, n) = none)
include hle hnew

lemma ahead_skipMessageKeys :
    ∃ l', l.skipMessageKeys n = some l' ∧ Ahead l l' root dh (n - l.received) := by
  have hahead := ahead_skipLoop (n - l.received) hreads hreach.2 hnew
  rw [Nat.add_sub_cancel' hle] at hahead
  refine ⟨_, ?_, hahead⟩
  have hskip := hreach.1
  unfold skipMessageKeys
  rw [hreads, hpeer]
  dsimp only
  rw [if_neg (by omega)]

lemma opens_ahead (pn : Nat) (text : String) :
    ∃ l', ((l.skipMessageKeys n).bind fun s =>
        s.openNext (frame root dh pn n text).1 (frame root dh pn n text).2) = some (text, l') ∧
      l'.receivingChainKey = some ⟨root, l'.received⟩ ∧ l'.received = n + 1 ∧ l'.dhr = some dh ∧
      ∀ m, l'.skipped.lookup (dh, m) =
        if l.received ≤ m ∧ m < n then some ⟨root, m⟩ else l.skipped.lookup (dh, m) := by
  rcases ahead_skipMessageKeys hreads hpeer hreach hle hnew with ⟨s, hskip, hahead⟩
  have hrecv : s.received = n := by
    rw [hahead.received]
    omega
  have hopen : s.openNext (frame root dh pn s.received text).1
      (frame root dh pn s.received text).2 = _ := openNext_frame hahead.reads text
  rw [hrecv] at hopen
  refine ⟨{ s with receivingChainKey := some ⟨root, n + 1⟩, received := n + 1 }, ?_, rfl, rfl,
    hahead.peer.trans hpeer, ?_⟩
  · rw [hskip, Option.bind_some]
    exact hopen
  · intro m
    rw [← Nat.add_sub_cancel' hle]
    exact hahead.stored m

end

/-! ## Collecting -/

lemma collecting_first {secret : A} {signedPreKey : K} {draw : Nat} (hskip : n ≤ Web.maxSkip)
    (hroot : root = ⟨secret, [s(dh, signedPreKey)]⟩) (fresh : Pair K) (text : String) :
    ∃ l, (responder ⟨secret, []⟩ ⟨signedPreKey, draw⟩ : Line K A).decrypt fresh
        (frame root dh 0 n text).1 (frame root dh 0 n text).2 = some (text, l) ∧
      Collecting l root dh [n] := by
  have habsorb : (Root.mk secret []).absorb s(signedPreKey, dh) = root := by
    rw [hroot, Sym2.eq_swap]
    rfl
  have hreach : Reaches (begun (responder ⟨secret, []⟩ ⟨signedPreKey, draw⟩) root fresh dh) n := by
    refine ⟨by simpa [begun] using hskip, ?_⟩
    simp only [begun, EvictingMap.size_empty]
    have hcap : Web.maxSkip ≤ Web.maxSkippedKeys := by decide
    omega
  rcases opens_ahead rfl rfl hreach (Nat.zero_le n) (fun _ _ => rfl) 0 text with
    ⟨l, hopen, hreads, hrecv, hpeer, hstored⟩
  refine ⟨l, ?_, hreads, hpeer, ?_, ?_⟩
  · refine Eq.trans ?_ hopen
    exact decrypt_begun rfl (by simp [responder]) (.inl rfl) habsorb fresh
  · intro m
    rw [hstored m, hrecv]
    simp only [begun, EvictingMap.lookup_empty, mem_singleton]
    by_cases hm : m < n
    · rw [if_pos (by omega), if_pos (by omega)]
    · rw [if_neg (by omega), if_neg (by omega)]
  · intro m hm
    rw [mem_singleton.mp hm, hrecv]
    exact Nat.lt_succ_self n

namespace Collecting

variable (h : Collecting l root dh got)
include h

lemma lookup_ahead (hle : l.received ≤ n) : l.skipped.lookup (dh, n) = none := by
  rw [h.stored, if_neg (by omega)]

/-- A frame of the chain, other than by a stored key. -/
lemma decrypt_ahead (hnone : l.skipped.lookup (dh, n) = none) (fresh : Pair K) (text : String) :
    l.decrypt fresh (frame root dh pn n text).1 (frame root dh pn n text).2 =
      (l.skipMessageKeys n).bind fun s =>
        s.openNext (frame root dh pn n text).1 (frame root dh pn n text).2 := by
  have htry : l.trySkipped (frame root dh pn n text).1 (frame root dh pn n text).2 = none := by
    unfold trySkipped
    dsimp only [frame]
    rw [hnone]
  unfold decrypt
  rw [htry]
  dsimp only
  split
  · next hnext =>
    have hn : n = l.received := hnext.2.2
    rw [skipMessageKeys_self (.inr hn.symm), Option.bind_some]
  · have hcatch : l.catchUp fresh (frame root dh pn n text).1 = l.skipMessageKeys n :=
      if_pos h.peer
    rw [hcatch]

theorem opens (hn : n ∉ got) (hreach : Reaches l n) (fresh : Pair K) (text : String) :
    ∃ l', l.decrypt fresh (frame root dh pn n text).1 (frame root dh pn n text).2 =
        some (text, l') ∧ Collecting l' root dh (n :: got) := by
  rcases Nat.lt_or_ge n l.received with hlt | hle
  · -- Its key was kept.
    have hkey : l.skipped.lookup (dh, n) = some ⟨root, n⟩ := by
      rw [h.stored, if_pos ⟨hlt, hn⟩]
    refine ⟨{ l with skipped := l.skipped.consume (dh, n) }, ?_, h.reads, h.peer, ?_, ?_⟩
    · unfold decrypt trySkipped
      dsimp only [frame]
      rw [hkey]
      simp
    · intro m
      by_cases hm : m = n
      · subst hm
        simp
      have hname : (dh, m) ≠ (dh, n) := by
        intro hsame
        exact hm (Prod.mk.inj hsame).2
      simp only [mem_cons, hm, false_or]
      rw [EvictingMap.lookup_consume_ne _ hname]
      exact h.stored m
    · intro m hm
      rcases mem_cons.mp hm with rfl | hm
      · exact hlt
      · exact h.passed m hm
  · rcases opens_ahead h.reads h.peer hreach hle (fun _ => h.lookup_ahead) pn text with
      ⟨l', hopen, hreads, hrecv, hpeer, hstored⟩
    refine ⟨l', ?_, hreads, hpeer, ?_, ?_⟩
    · rw [h.decrypt_ahead (h.lookup_ahead hle)]
      exact hopen
    · intro m
      rw [hstored m, hrecv, h.stored m]
      have hpass := h.passed m
      by_cases hm : l.received ≤ m ∧ m < n
      · have hgot : m ∉ n :: got := by
          intro hmem
          rcases mem_cons.mp hmem with rfl | hmem
          · omega
          · have hlt := hpass hmem
            omega
        rw [if_pos hm, if_pos ⟨by omega, hgot⟩]
      · rw [if_neg hm]
        by_cases hkept : m < l.received ∧ m ∉ got
        · have hgot : m ∉ n :: got := by
            intro hmem
            rcases mem_cons.mp hmem with rfl | hmem
            · omega
            · exact hkept.2 hmem
          rw [if_pos hkept, if_pos ⟨by omega, hgot⟩]
        · rw [if_neg hkept, if_neg]
          rintro ⟨hlt, hgot⟩
          rw [mem_cons, not_or] at hgot
          exact hkept ⟨by omega, hgot.2⟩
    · intro m hm
      rw [hrecv]
      rcases mem_cons.mp hm with rfl | hm
      · exact Nat.lt_succ_self m
      have hlt := h.passed m hm
      omega

theorem refuses (hn : n ∈ got) (fresh : Pair K) (text : String) :
    l.decrypt fresh (frame root dh pn n text).1 (frame root dh pn n text).2 = none := by
  have hlt := h.passed n hn
  have hnone : l.skipped.lookup (dh, n) = none := by
    rw [h.stored, if_neg (fun hkept => hkept.2 hn)]
  have hself : l.skipMessageKeys n = some l := by
    unfold skipMessageKeys
    rw [h.reads, h.peer]
    dsimp only
    rw [if_neg (by omega), Nat.sub_eq_zero_of_le hlt.le]
    rfl
  rw [h.decrypt_ahead hnone, hself, Option.bind_some]
  unfold openNext
  rw [h.reads]
  simp [frame, hlt.ne]

end Collecting

end Ideal
end SyncApp.Ratchet
