import Mathlib.Data.Nat.ModEq
import SyncApp.Ratchet.Delivery

/-!
# A chain of more than 2 ^ 32 messages

Message numbers are 32-bit counters.  After `2 ^ 32 - 1` messages of a chain the one after the next
has number zero: the gap is one position, the loop of `skipMessageKeys` does not run, and the key of
the position before is tried.

Main results:

- `wrapped_frame_refused`: that message is refused.
-/

namespace SyncApp.Ratchet

open Foundations List
open Machine (final final_append guarded_append)
open World (start step)
open KeyChain (advance advance_succ keyAt)
open UInt32 (ofNat ofNat_add)

namespace Sample

variable (ck : Bytes) (n k : Nat) {plaintext : Bytes}

lemma leNum_chain : leNum ((advance (kdfCK primitives) n ck).take 31) ≡
      leNum (ck.take 31) + 2 * n [MOD 256 ^ 31] := by
  induction n with
  | zero => exact Nat.ModEq.refl _
  | succ n ih =>
    rw [advance_succ]
    have hstep : ((kdfCK primitives (advance (kdfCK primitives) n ck)).1).take 31 =
        leBytes 31 (leNum ((advance (kdfCK primitives) n ck).take 31) + 2) := by
      simp [kdfCK, primitives, leNum]
    rw [hstep, leNum_leBytes]
    calc _ ≡ leNum ((advance (kdfCK primitives) n ck).take 31) + 2 [MOD 256 ^ 31] :=
          Nat.mod_modEq _ _
      _ ≡ leNum (ck.take 31) + 2 * n + 2 [MOD 256 ^ 31] := ih.add_right 2
      _ = leNum (ck.take 31) + 2 * (n + 1) := by omega

/-- The first half of the cipher key of a position counts the positions. -/
lemma leNum_cipherKey : leNum (((aeadFor primitives (keyAt (kdfCK primitives) ck n)).1).take 16) ≡
      leNum (ck.take 31) + 2 * n + 1 [MOD 256 ^ 16] := by
  have hkey : ((aeadFor primitives (keyAt (kdfCK primitives) ck n)).1).take 16 =
      leBytes 16 (leNum ((advance (kdfCK primitives) n ck).take 31) + 1) := by
    have hmk : keyAt (kdfCK primitives) ck n =
        leBytes 31 (leNum ((advance (kdfCK primitives) n ck).take 31) + 1) ++
          [(advance (kdfCK primitives) n ck).getD 31 0] := by
      simp [keyAt, kdfCK, primitives, leNum]
    rw [hmk]
    simp only [aeadFor, primitives, mark, fit, take_take]
    rw [take_set_of_le (by decide), take_set_of_le (by decide), take_take,
      append_assoc, append_assoc, take_append_of_le_length (by simp)]
    exact leBytes_take (by decide) _
  rw [hkey, leNum_leBytes]
  calc _ ≡ leNum ((advance (kdfCK primitives) n ck).take 31) + 1 [MOD 256 ^ 16] :=
        Nat.mod_modEq _ _
    _ ≡ leNum (ck.take 31) + 2 * n + 1 [MOD 256 ^ 16] :=
        Nat.ModEq.add_right 1 ((leNum_chain ck n).of_dvd (by decide))

lemma chachaOpen_chachaSeal_ne {key key' nonce nonce' ad : Bytes} (h : tag key' ad ≠ tag key ad) :
    primitives.chachaOpen key nonce ad (primitives.chachaSeal key' nonce' ad plaintext) = none := by
  simp only [primitives]
  rw [if_neg]
  rintro ⟨-, htag⟩
  apply h
  simpa [tag] using htag

/-- The key of one position does not open the message of another, unless their
distance is a multiple of half the tag space. -/
lemma aeadOpen_aeadSeal_ne {ck ad : Bytes} {m n : Nat} (h : ¬ 2 * m ≡ 2 * n [MOD 256 ^ 16]) :
    aeadOpen primitives (keyAt (kdfCK primitives) ck n) ad
      (aeadSeal primitives (keyAt (kdfCK primitives) ck m) ad plaintext) = none := by
  apply chachaOpen_chachaSeal_ne
  intro htag
  have hnum := congrArg leNum htag
  rw [tag, tag, leNum_leBytes, leNum_leBytes] at hnum
  have hkeys := Nat.ModEq.add_right_cancel' _ hnum
  have hsum := ((leNum_cipherKey ck m).symm.trans hkeys).trans (leNum_cipherKey ck n)
  exact h (Nat.ModEq.add_left_cancel' _ (Nat.ModEq.add_right_cancel' _ hsum))

/-- The initiator's sending chain. -/
def chain : Bytes := alice.cks.getD []

/-- The initiator after `k` messages. -/
def aliceAt (k : Nat) : Session :=
  { alice with
    cks := some (advance (kdfCK primitives) k chain), ns := ofNat k }

/-- The secret of the prekey and the initiator's first key. -/
def firstOut : Bytes := (primitives.x25519 preKey.priv firstKey.pub).getD []

/-- The secret of the initiator's first key and the responder's reply key. -/
def replyOut : Bytes := (primitives.x25519 replyKey.priv firstKey.pub).getD []

/-- The responder after it has opened the first `k` messages in order. -/
def bobAt (k : Nat) : Session :=
  { bob.ratcheted primitives replyKey firstKey.pub firstOut replyOut with
    ckr := some (advance (kdfCK primitives) k chain), nr := ofNat k }

/-- Message number `k`. -/
def message (k : Nat) : Packet where
  header := ((aliceAt k).encrypt primitives []).1.1
  ct := ((aliceAt k).encrypt primitives []).1.2
  plaintext := []

lemma aliceAt_encrypt : ((aliceAt k).encrypt primitives []).2 = aliceAt (k + 1) := by
  simp only [aliceAt, Session.encrypt, Option.getD_some, advance_succ, ofNat_add]
  rfl

lemma message_dh : (message k).header.dh = firstKey.pub :=
  rfl

lemma bobAt_sameDHr (j : Nat) : (bobAt j).sameDHr (message k).header.dh = true := by
  rw [message_dh]
  simp [Session.sameDHr, bobAt, Session.ratcheted]

lemma bobAt_lookup (name : Bytes) : (bobAt k).skipped.lookup name = none :=
  EvictingMap.lookup_empty name

/-- Frames of the current chain fit and draw no key. -/
lemma bobAt_fits {j k : Nat} (h : (message k).header.n.toNat ≤ (bobAt j).nr.toNat) :
    Fits (bobAt j) (message k).header ∧
      (bobAt j).drawsKey primitives (message k).header (message k).ct = false := by
  constructor
  · intro _
    refine ⟨fun _ => ?_, fun hnew => ?_⟩
    · have hzero : (bobAt j).skipCount (message k).header.n = 0 := by
        unfold Session.skipCount
        split
        · rfl
        · omega
      rw [hzero]
      exact ⟨Nat.zero_le _, Nat.zero_le _⟩
    · cases hnew
  · simp [Session.drawsKey, bobAt_sameDHr]

lemma bobAt_decrypt {k : Nat} :
    (bobAt k).decrypt primitives none (message k).header (message k).ct =
      (.ok [], bobAt (k + 1)) := by
  have hopen : aeadOpen primitives (keyAt (kdfCK primitives)
      (advance (kdfCK primitives) k chain) 0) (message k).header.bytes (message k).ct =
      some [] :=
    aeadOpen_aeadSeal opensSealed _ _ _
  rw [Session.decrypt_of_same (bobAt_lookup k _) rfl (bobAt_sameDHr k k) rfl (Nat.zero_le _) hopen]
  simp only [Session.skipBy_zero, ← KeyChain.advance_add]
  refine Prod.ext rfl ?_
  simp only [bobAt, Nat.zero_add, Nat.add_comm 1 k, ofNat_add]
  rfl

lemma bob_decrypt_first :
    bob.decrypt primitives (some replyKey) (message 0).header (message 0).ct =
      (.ok [], bobAt 1) := by
  have hchain : (kdfRK primitives bob.rk firstOut).2 = chain := by
    decide +kernel
  have hopen : aeadOpen primitives (keyAt (kdfCK primitives)
      (kdfRK primitives bob.rk firstOut).2 (message 0).header.n.toNat) (message 0).header.bytes
      (message 0).ct = some [] := by
    exact aeadOpen_aeadSeal opensSealed _ _ _
  have hdh : primitives.x25519 bob.dhs.priv (message 0).header.dh = some firstOut := rfl
  have hdh' : primitives.x25519 replyKey.priv (message 0).header.dh = some replyOut := rfl
  rw [Session.decrypt_of_ratchet (EvictingMap.lookup_empty _) rfl (fit_length 32 _)
    (fun h => absurd rfl h) hdh hdh' (Nat.zero_le _) hopen, hchain]
  rfl

end Sample

/-! ## The schedule -/

open Sample

/-- The world after `k` messages were sent and opened in order. -/
structure InOrder (k : Nat) (w : World) : Prop where
  alice : w.alice.session = aliceAt k
  sent : w.alice.sent.length = k
  bob : w.bob.session = bobAt k
  got : ∀ i ∈ w.bob.got, i < k

/-- Messages `0` to `k`, each opened before the next one is sent. -/
def rounds : Nat → List Event
  | 0 => [.encrypt .alice [], .deliver .bob 0 (some replyKey)]
  | k + 1 => rounds k ++ [.encrypt .alice [], .deliver .bob (k + 1) none]

variable {k : Nat} {w : World}

lemma InOrder.encrypt (h : InOrder k w) : (w.step primitives (.encrypt .alice [])).2 =
      { w with alice := { w.alice with
        session := aliceAt (k + 1), sent := w.alice.sent ++ [message k] } } := by
  simp only [step, World.get, World.set, h.alice, aliceAt_encrypt]
  rfl

lemma InOrder.round (h : InOrder k w) : Machine.Guarded (step primitives) (Scheduled primitives) w
        [.encrypt .alice [], .deliver .bob k none] ∧
      InOrder (k + 1) (final (step primitives) w [.encrypt .alice [], .deliver .bob k none]) := by
  have hlast : (w.alice.sent ++ [message k])[k]? = some (message k) := by
    rw [getElem?_append_right (by rw [h.sent]), h.sent, Nat.sub_self]
    rfl
  have hfits := bobAt_fits (j := k) (k := k) (Nat.le_refl _)
  simp only [Machine.Guarded, final, h.encrypt, and_true]
  refine ⟨⟨?_, ?_⟩, ?_⟩
  · intro hbob
    cases hbob
  · simp only [Scheduled, World.get, Side.other, hlast, h.bob]
    refine ⟨fun hmem => Nat.lt_irrefl k (h.got k hmem), hfits.1, ?_⟩
    intro hdraw
    cases hdraw
  · simp only [step, World.get, World.set, Side.other, hlast, h.bob, bobAt_decrypt]
    refine ⟨rfl, by simp [h.sent], rfl, ?_⟩
    intro i hi
    rcases mem_cons.mp hi with rfl | hi
    · exact Nat.lt_succ_self _
    · exact Nat.lt_succ_of_lt (h.got i hi)

lemma rounds_inOrder (k : Nat) :
    Machine.Guarded (step primitives) (Scheduled primitives) (start alice bob)
        (rounds k) ∧ InOrder (k + 1) (final (step primitives) (start alice bob) (rounds k)) := by
  induction k with
  | zero =>
    refine ⟨by decide +kernel, ?_⟩
    have hsent : (step primitives (start alice bob) (.encrypt .alice [])).2 =
        { start alice bob with alice := ⟨aliceAt 1, [firstKey.pub], [message 0], []⟩ } :=
      rfl
    rw [rounds, Machine.final_cons, hsent]
    simp only [final, step, World.get, World.set, Side.other, start,
      getElem?_cons_zero, bob_decrypt_first]
    refine ⟨rfl, rfl, rfl, ?_⟩
    intro i hi
    rw [mem_singleton.mp hi]
    exact Nat.zero_lt_one
  | succ k ih =>
    rcases ih.2.round with ⟨hguard, hnext⟩
    rw [rounds, guarded_append, final_append]
    exact ⟨⟨ih.1, hguard⟩, hnext⟩

/-- With one position left before the counter wraps, the message after the next is
refused. -/
lemma Sample.bobAt_decrypt_wrapped (hk : k + 2 = 2 ^ 32) :
    ((bobAt (k + 1)).decrypt primitives none (message (k + 2)).header (message (k + 2)).ct).1 =
      .error .decrypt := by
  have hnr : (bobAt (k + 1)).nr.toNat = 2 ^ 32 - 1 := by
    rw [show (bobAt (k + 1)).nr = ofNat (k + 1) from rfl, toNat_ofNat (by omega)]
    omega
  have hn : (message (k + 2)).header.n = 0 := by
    rw [show (message (k + 2)).header.n = ofNat (k + 2) from rfl, hk]
    rfl
  have htry : (bobAt (k + 1)).trySkipped primitives (message (k + 2)).header
      (message (k + 2)).ct = none := by
    simp only [Session.trySkipped, bobAt_lookup]
  have hnext : ¬ ((bobAt (k + 1)).ckr ≠ none ∧
      (bobAt (k + 1)).sameDHr (message (k + 2)).header.dh = true ∧
      (message (k + 2)).header.n = (bobAt (k + 1)).nr) := by
    rintro ⟨-, -, hsame⟩
    rw [hn] at hsame
    rw [← hsame] at hnr
    simp at hnr
  -- The gap is one position in 32-bit arithmetic, and the loop does not run.
  have hskip : (bobAt (k + 1)).skipMessageKeys primitives (message (k + 2)).header.n =
      .ok (bobAt (k + 1)) := by
    rw [Session.skipMessageKeys_eq, if_neg]
    · simp [Session.skipCount, hn]
    · rintro ⟨-, hmany⟩
      rw [hn, UInt32.toNat_sub, hnr] at hmany
      simp [maxSkip] at hmany
  have hcatch : (bobAt (k + 1)).catchUp primitives none (message (k + 2)).header =
      .ok (bobAt (k + 1)) := by
    simp only [Session.catchUp, bobAt_sameDHr, if_true, pure_bind, hskip]
  have hopen : aeadOpen primitives (kdfCK primitives
      (advance (kdfCK primitives) (k + 1) chain)).2 (message (k + 2)).header.bytes
      (message (k + 2)).ct = none := by
    apply aeadOpen_aeadSeal_ne
    intro hmod
    have hsmall := Nat.ModEq.eq_of_lt_of_lt hmod (by omega) (by omega)
    omega
  simp only [Session.decrypt, htry, if_neg hnext, Session.advance, hcatch, bind, Except.bind]
  rw [show (bobAt (k + 1)).ckr = some (advance (kdfCK primitives) (k + 1) chain) from rfl]
  simp only [hopen]

/-- Without a bound on a chain delivery is not correct: after `2 ^ 32 - 1` messages in order the
next is delayed, and the one after it is refused. -/
theorem wrapped_frame_refused :
    ¬ ∀ (P : Primitives) (sk : Bytes) (signedPreKey firstKey : KeyPair) (a : Session),
      P.DHCommutes → P.OpensSealed → signedPreKey.Generated P → firstKey.Generated P →
      newInitiatorSession P sk signedPreKey.pub (some firstKey) = .ok a → ∀ events : List Event,
        Machine.Guarded (step P) (Scheduled P)
          (start a (newResponderSession sk signedPreKey)) events →
        ∀ (p : Side) (i : Nat) (keys : Option KeyPair), Scheduled P (final (step P)
            (start a (newResponderSession sk signedPreKey)) events) (.deliver p i keys) →
          ∃ pkt, ((final (step P) (start a (newResponderSession sk signedPreKey)) events).get
                p.other).sent[i]? = some pkt ∧ (step P (final (step P)
              (start a (newResponderSession sk signedPreKey)) events)
              (.deliver p i keys)).1 = some (.ok pkt.plaintext) := by
  intro hclaim
  obtain ⟨k, hk⟩ : ∃ k, k + 2 = 2 ^ 32 := ⟨2 ^ 32 - 2, by decide⟩
  rcases rounds_inOrder k with ⟨hguard, hord⟩
  have hfinal := hclaim primitives secret preKey firstKey alice dhCommutes opensSealed rfl rfl rfl
    (rounds k ++ [.encrypt .alice [], .encrypt .alice []])
  rw [show newResponderSession secret preKey = bob from rfl] at hfinal
  simp only [guarded_append, final_append] at hfinal
  generalize final (step primitives) (start alice bob) (rounds k) = w at *
  have hstep : final (step primitives) w [.encrypt .alice [], .encrypt .alice []] =
      { w with alice := { w.alice with
        session := aliceAt (k + 3)
        sent := w.alice.sent ++ [message (k + 1)] ++ [message (k + 2)] } } := by
    simp only [final, hord.encrypt]
    simp only [step, World.get, World.set, aliceAt_encrypt]
    rfl
  have hlast : (w.alice.sent ++ [message (k + 1)] ++ [message (k + 2)])[k + 2]? =
      some (message (k + 2)) := by
    have hlen : (w.alice.sent ++ [message (k + 1)]).length = k + 2 := by
      simp [hord.sent]
    rw [getElem?_append_right (by omega), hlen, Nat.sub_self]
    rfl
  have hnr : (message (k + 2)).header.n.toNat ≤ (bobAt (k + 1)).nr.toNat := by
    rw [show (message (k + 2)).header.n = ofNat (k + 2) from rfl, hk]
    exact Nat.zero_le _
  have hlater : Machine.Guarded (step primitives) (Scheduled primitives) w
      [.encrypt .alice [], .encrypt .alice []] := by
    simp [Machine.Guarded, Scheduled]
  rw [hstep] at hfinal
  rcases hfinal ⟨hguard, hlater⟩ .bob (k + 2) none (by
    simp only [Scheduled, World.get, Side.other, hlast, hord.bob]
    refine ⟨fun hmem => ?_, (bobAt_fits hnr).1, ?_⟩
    · have hlt := hord.got _ hmem
      omega
    · intro hdraw
      cases hdraw) with ⟨pkt, -, hres⟩
  simp only [step, World.get, Side.other, hlast, hord.bob, bobAt_decrypt_wrapped hk] at hres
  cases hres

end SyncApp.Ratchet
