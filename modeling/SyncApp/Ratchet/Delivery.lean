import SyncApp.Ratchet.Following
import SyncApp.Ratchet.Sample

/-!
# Delivery

Both sides follow one script.  The first arrival of a frame is at a position that was passed, and
its key is stored, or ahead on the receiving chain, or on the chain of the peer's next key.

Main results:

- `Follow.deliver_stored`, `Follow.deliver_same`, `Follow.deliver_ratchet`: the three cases.
- `delivery_correct`: every frame opens to what was sealed.
-/

namespace SyncApp.Ratchet

open Foundations List
open Script (before chain_succ lt_of_passed passed passed_ahead passed_closed passed_current
  root_succ turn turn_epoch_self turn_key turn_out turn_root)
open World (start step)
open Session (ratcheted sameDHr skipBy_fixed skipCount)
open KeyChain (advance keyAt)
open Machine (final)

/-! ## Delivering -/

/-- A side after it has opened frame `i` of its peer. -/
def Endpoint.opened (ep : Endpoint) (s : Session) (i : Nat) : Endpoint :=
  { ep with session := s, pubs := s.dhs.pub :: ep.pubs, got := i :: ep.got }

/-- A session that turns to the peer's next ratchet key, as the script has it. -/
abbrev Script.ratchet (σ : Script) (P : Primitives) (p : Side) (s : Session) (kp : KeyPair)
    (out : Bytes) : Session :=
  s.ratcheted P kp (σ.key (σ.epoch p + 1)).pub (σ.outs.getD (σ.epoch p) []) out

section Deliver

variable {P : Primitives} {sk : Bytes} {σ : Script} {p : Side} {ep : Endpoint}
  {pkt : Packet} {i j n : Nat}

variable {pubs : List Bytes} {s : Session} {nr' pn : UInt32} {kp : KeyPair} {nr : Nat} {out : Bytes}

lemma Keyed.passed_le (hk : Keyed P sk σ p s pubs) (j : Nat) :
    σ.passed (σ.epoch p) s.nr.toNat j ≤ σ.len j := by
  have hnr := hk.nr
  unfold passed
  by_cases hlt : j + 1 < σ.epoch p
  · rw [if_pos hlt]
  rw [if_neg hlt]
  by_cases heq : j + 1 = σ.epoch p
  · rw [if_pos heq]
    rw [← heq] at hnr
    exact hnr
  · rw [if_neg heq]
    exact Nat.zero_le _

/-- Positions of the peer's chains are told apart by their names. -/
lemma Follow.name_inj (hσ : σ.WellFormed P) (hp : Follow P sk σ p ep)
    (hj : j % 2 = p.other.parity) (hlt : j < σ.keys.length) (hn : n < 2 ^ 32) {j' n' : Nat}
    (hheld : σ.Pending p ep j' n') (hname : σ.name j' n' = σ.name j n) : j' = j ∧ n' = n := by
  rcases hheld with ⟨_, hn', -⟩
  have hlt' := lt_of_passed hn'
  have hep := hσ.epoch_lt p
  have hlen := hσ.len_lt j'
  have hle := hp.keyed.passed_le j'
  exact hσ.name_inj (by omega) hlt (by omega) (by omega) hn hname

lemma Script.PacketAt.skKey_header (hat : σ.PacketAt P sk p pkt j n) :
    skKey pkt.header.dh pkt.header.n = σ.name j n := by
  rw [hat.header]
  rfl

section

variable (hσ : σ.WellFormed P)
include hσ

lemma Script.PacketAt.toNat_n (hat : σ.PacketAt P sk p pkt j n) : pkt.header.n.toNat = n := by
  have hlt := hat.lt_len
  have hlen := hσ.len_lt j
  rw [hat.header]
  exact toNat_ofNat (by omega)

lemma Script.PacketAt.toNat_n_succ (hat : σ.PacketAt P sk p pkt j n) :
    (pkt.header.n + 1).toNat = n + 1 := by
  have hlt := hat.lt_len
  have hlen := hσ.len_lt j
  rw [UInt32.toNat_add, hat.toNat_n hσ, UInt32.toNat_one, Nat.mod_eq_of_lt]
  omega

theorem Follow.deliver_stored (hseal : P.OpensSealed) (hp : Follow P sk σ p ep)
    (hat : σ.PacketAt P sk p.other pkt j n) (hlab : (σ.labels p.other)[i]? = some (j, n))
    (hfirst : ∀ i' ∈ ep.got, (σ.labels p.other)[i']? ≠ some (j, n))
    (hpass : n < σ.passed (σ.epoch p) ep.session.nr.toNat j) (keys : Option KeyPair) :
    ∃ s', ep.session.decrypt P keys pkt.header pkt.ct = (.ok pkt.plaintext, s') ∧
      Follow P sk σ p (ep.opened s' i) := by
  have hlook := hp.received.stored.lookup_of_held ⟨hat.parity, hpass, hfirst⟩
  rw [← hat.skKey_header] at hlook
  refine ⟨_, Session.decrypt_of_stored hlook (hat.opens hseal), ?_, hp.framed, ?_, ?_, ?_⟩
  · have hk := hp.keyed
    exact { hk with pubs := fun j hj hpar => mem_cons_of_mem _ (hk.pubs j hj hpar) }
  · have hlt := hσ.epoch_lt p.other
    have hle := hat.le_epoch
    have hn := Nat.lt_trans hat.lt_len (hσ.len_lt j)
    have hstored := hp.received.stored.consume (j := j) (n := n)
      (fun j' n' hheld => hp.name_inj hσ hat.parity (by omega) hn hheld)
    rw [← hat.skKey_header] at hstored
    apply hstored.congr
    intro j' n'
    simp only [Script.Pending, Endpoint.opened, mem_cons, forall_eq_or_imp, hlab, ne_eq,
      Option.some.injEq, Prod.mk.injEq]
    constructor
    · rintro ⟨hj', hn', hne, hrest⟩
      exact ⟨⟨hj', hn', hrest⟩, fun hsame => hne ⟨hsame.1.symm, hsame.2.symm⟩⟩
    · rintro ⟨⟨hj', hn', hrest⟩, hne⟩
      exact ⟨hj', hn', fun hsame => hne ⟨hsame.1.symm, hsame.2.symm⟩, hrest⟩
  · intro i' hi'
    rcases mem_cons.mp hi' with rfl | hi'
    · exact ⟨j, n, hlab, hpass⟩
    · exact hp.received.seen i' hi'
  · intro _
    have hj := lt_of_passed hpass
    have hpos := hat.pos
    omega

lemma Follow.lookup_ahead (hp : Follow P sk σ p ep) (hat : σ.PacketAt P sk p.other pkt j n)
    (hahead : σ.passed (σ.epoch p) ep.session.nr.toNat j ≤ n) :
    ep.session.skipped.lookup (skKey pkt.header.dh pkt.header.n) = none := by
  have hlt := hσ.epoch_lt p.other
  have hle := hat.le_epoch
  have hn := Nat.lt_trans hat.lt_len (hσ.len_lt j)
  rw [hat.skKey_header]
  apply hp.received.stored.lookup_of_not_held
  intro j' n' hheld hname
  rcases hp.name_inj hσ hat.parity (by omega) hn hheld hname with ⟨rfl, rfl⟩
  have hpassed := hheld.2.1
  omega

end

/-- Opening the frame of a position just reached, where a set of positions was
skipped on the way. -/
lemma Received.opened {σ' : Script} {s' : Session} (hr : Received P sk σ p ep)
    (skipped : Nat → Nat → Prop) (hlabels : σ'.labels p.other = σ.labels p.other)
    (hlab : (σ.labels p.other)[i]? = some (j, n)) (hj : j % 2 = p.other.parity)
    (hmono : ∀ j', σ.passed (σ.epoch p) ep.session.nr.toNat j' ≤
      σ'.passed (σ'.epoch p) s'.nr.toNat j') (hsplit : ∀ j' n', j' % 2 = p.other.parity →
      (n' < σ'.passed (σ'.epoch p) s'.nr.toNat j' ↔
        n' < σ.passed (σ.epoch p) ep.session.nr.toNat j' ∨ skipped j' n' ∨ (j' = j ∧ n' = n)))
    (hahead : σ.passed (σ.epoch p) ep.session.nr.toNat j ≤ n)
    (hskipped : ∀ j' n', skipped j' n' → j' % 2 = p.other.parity ∧
      σ.passed (σ.epoch p) ep.session.nr.toNat j' ≤ n' ∧ ¬ (j' = j ∧ n' = n))
    (hstored : σ'.Stores P sk s'.skipped fun j' n' => σ.Pending p ep j' n' ∨ skipped j' n')
    (hep : 2 ≤ σ'.epoch p) : Received P sk σ' p (ep.opened s' i) := by
  -- What was opened before had been passed, so it is none of the new positions.
  have hunseen : ∀ j' n', σ.passed (σ.epoch p) ep.session.nr.toNat j' ≤ n' →
      ∀ i' ∈ ep.got, (σ.labels p.other)[i']? ≠ some (j', n') := by
    intro j' n' hle i' hi' hlab'
    rcases hr.seen i' hi' with ⟨_, _, hlab'', hpast⟩
    rw [hlab', Option.some.injEq, Prod.mk.injEq] at hlab''
    rcases hlab'' with ⟨rfl, rfl⟩
    omega
  refine ⟨hstored.congr ?_, ?_, fun _ => hep⟩
  · intro j' n'
    simp only [Script.Pending, Endpoint.opened, hlabels, mem_cons, forall_eq_or_imp, hlab,
      ne_eq, Option.some.injEq, Prod.mk.injEq]
    constructor
    · rintro ⟨hj', hpast, hne, hrest⟩
      rcases (hsplit j' n' hj').mp hpast with hold | hskip | hsame
      · exact Or.inl ⟨hj', hold, hrest⟩
      · exact Or.inr hskip
      · exact absurd ⟨hsame.1.symm, hsame.2.symm⟩ hne
    · rintro (⟨hj', hold, hrest⟩ | hskip)
      · refine ⟨hj', (hsplit j' n' hj').mpr (Or.inl hold), ?_, hrest⟩
        rintro ⟨rfl, rfl⟩
        omega
      · rcases hskipped j' n' hskip with ⟨hj', hle, hne⟩
        refine ⟨hj', (hsplit j' n' hj').mpr (Or.inr (Or.inl hskip)), ?_, hunseen j' n' hle⟩
        rintro ⟨rfl, rfl⟩
        exact hne ⟨rfl, rfl⟩
  · intro i' hi'
    rcases mem_cons.mp hi' with rfl | hi'
    · exact ⟨j, n, by rw [hlabels]; exact hlab, (hsplit j n hj).mpr (Or.inr (Or.inr ⟨rfl, rfl⟩))⟩
    rcases hr.seen i' hi' with ⟨j', n', hlab', hpast⟩
    exact ⟨j', n', by rw [hlabels]; exact hlab', Nat.lt_of_lt_of_le hpast (hmono j')⟩

lemma Keyed.ahead (hk : Keyed P sk σ p s pubs) (hcur : σ.epoch p = j + 2) (k : Nat)
    (hnr' : nr'.toNat = s.nr.toNat + k + 1) (hlt : nr'.toNat ≤ σ.len (j + 1)) (pub : Bytes) :
    Keyed P sk σ p { s.skipBy P k with ckr := some (advance (kdfCK P) (k + 1)
        (advance (kdfCK P) s.nr.toNat (σ.chain P sk (j + 1)))), nr := nr' } (pub :: pubs) := by
  rcases skipBy_fixed P k s with ⟨hdhs, hdhr, hrk, hcks, hns, hpn⟩
  refine ⟨?_, ?_, ?_, ?_, ?_, ?_, ?_, ?_, ?_, ?_, ?_⟩
  · exact hdhs.trans hk.dhs
  · exact fun h => hdhr.trans (hk.dhr_none h)
  · exact fun j' h => hdhr.trans (hk.dhr j' h)
  · exact hrk.trans hk.rk
  · exact fun h => hcks.trans (hk.cks h)
  · intro h
    omega
  · intro j' hj'
    have hjj : j' = j := by omega
    subst hjj
    simp only [hnr', ← KeyChain.advance_add]
    congr 2
    omega
  · exact (congrArg UInt32.toNat hns).trans hk.ns
  · exact (congrArg UInt32.toNat hpn).trans hk.pn
  · rw [hcur]
    exact hlt
  · exact fun j' h h' => mem_cons_of_mem _ (hk.pubs j' h h')

section

variable (hσ : σ.WellFormed P)
include hσ

theorem Follow.deliver_same (hseal : P.OpensSealed) (hp : Follow P sk σ p ep)
    (hat : σ.PacketAt P sk p.other pkt (j + 1) n) (hlab : (σ.labels p.other)[i]? = some (j + 1, n))
    (hcur : σ.epoch p = j + 2) (hahead : σ.passed (σ.epoch p) ep.session.nr.toNat (j + 1) ≤ n)
    (hfits : Fits ep.session pkt.header) (keys : Option KeyPair) :
    ∃ s', ep.session.decrypt P keys pkt.header pkt.ct = (.ok pkt.plaintext, s') ∧
      Follow P sk σ p (ep.opened s' i) := by
  have hk := hp.keyed
  have hnone := hp.lookup_ahead hσ hat hahead
  have hckr := hk.ckr j hcur
  have hdhr := hk.dhr (j + 1) hcur
  have hn := hat.toNat_n hσ
  have hlt := hat.lt_len
  have hlen := hσ.len_lt (j + 1)
  have hpassed : ∀ nr, σ.passed (σ.epoch p) nr (j + 1) = nr := fun _ => passed_current hcur.symm
  rw [hpassed] at hahead
  rcases Nat.exists_eq_add_of_le hahead with ⟨k, hk'⟩
  have hsame : ep.session.sameDHr pkt.header.dh = true := by
    simp only [sameDHr, hdhr, hat.header, decide_eq_true_eq]
    rfl
  rcases (hfits hnone).1 hsame with ⟨hskip, hroom⟩
  have hcnt : ep.session.skipCount pkt.header.n = k := by
    rw [skipCount, if_neg (by simp [hckr]), hn]
    omega
  rw [hcnt] at hskip hroom
  have hopen : aeadOpen P (keyAt (kdfCK P) (advance (kdfCK P)
      ep.session.nr.toNat (σ.chain P sk (j + 1))) k) pkt.header.bytes pkt.ct =
      some pkt.plaintext := by
    rw [KeyChain.keyAt_advance, ← hk']
    exact hat.opens hseal
  have hnr' := hat.toNat_n_succ hσ
  refine ⟨_, Session.decrypt_of_same hnone hckr hsame (by omega) hskip hopen, ?_, hp.framed, ?_⟩
  · exact hk.ahead hcur k (by omega) (by omega) _
  · have hpast : ∀ j' n', σ.Pending p ep j' n' →
        ∀ l < k, σ.name j' n' ≠ σ.name (j + 1) (ep.session.nr.toNat + l) := by
      intro j' n' hheld l hl hname
      have hkeys := hσ.epoch_lt p.other
      have hle := hat.le_epoch
      rcases hp.name_inj hσ hat.parity (by omega) (by omega) hheld hname with ⟨rfl, rfl⟩
      have hbelow := hheld.2.1
      rw [hpassed] at hbelow
      omega
    have hstored := (hp.received.stored.skip hckr hdhr rfl (by omega) hroom
      (fun l hl j' n' hheld => hpast j' n' hheld l hl)).2
    have hother : ∀ nr nr' j', j' ≠ j + 1 →
        σ.passed (σ.epoch p) nr j' = σ.passed (σ.epoch p) nr' j' := by
      intro nr nr' j' hj'
      by_cases hclosed : j' + 1 < σ.epoch p
      · rw [passed_closed hclosed, passed_closed hclosed]
      · rw [passed_ahead (by omega), passed_ahead (by omega)]
    refine hp.received.opened _ rfl hlab hat.parity ?_ ?_ ?_ ?_ hstored (by omega)
    · intro j'
      by_cases hj' : j' = j + 1
      · subst hj'
        rw [hpassed, hpassed, hnr']
        omega
      · rw [hother _ _ j' hj']
    · intro j' n' _
      by_cases hj' : j' = j + 1
      · subst hj'
        rw [hpassed, hpassed, hnr']
        omega
      · rw [hother _ ep.session.nr.toNat j' hj']
        simp [hj']
    · rw [hpassed]
      omega
    · rintro j' n' ⟨rfl, hlow, hhigh⟩
      rw [hpassed]
      exact ⟨hat.parity, hlow, by omega⟩

lemma Script.WellFormed.before_lt (j : Nat) : σ.before j < 2 ^ 32 := by
  match j with
  | 0 | 1 => exact Nat.two_pow_pos 32
  | j + 2 => exact hσ.len_lt j

/-- Closing the current receiving chain: the rest of it goes into the store. -/
lemma Follow.close_chain (hp : Follow P sk σ p ep) (hpn : pn.toNat = σ.before (σ.epoch p + 1))
    (hroom : ep.session.skipped.size + ep.session.skipCount pn ≤ maxSkippedKeys) :
    (ep.session.skipBy P (ep.session.skipCount pn)).skipped.size =
        ep.session.skipped.size + ep.session.skipCount pn ∧
      σ.Stores P sk (ep.session.skipBy P (ep.session.skipCount pn)).skipped fun j' n' =>
        σ.Pending p ep j' n' ∨ (j' + 1 = σ.epoch p ∧ ep.session.nr.toNat ≤ n' ∧
          n' < σ.before (σ.epoch p + 1)) := by
  have hk := hp.keyed
  by_cases hsmall : σ.epoch p < 2
  · -- There is no receiving chain yet, and nothing was sent on the chain before it.
    have hzero : ep.session.skipCount pn = 0 := by
      simp [skipCount, hk.ckr_none hsmall]
    rw [hzero]
    refine ⟨rfl, hp.received.stored.congr ?_⟩
    intro j' n'
    constructor
    · rintro (hheld | ⟨_, -, hn'⟩)
      · exact hheld
      · have hone : σ.epoch p = 1 := by omega
        rw [hone, before, hσ.len_zero] at hn'
        omega
    · exact Or.inl
  · rcases Nat.exists_eq_add_of_le' (Nat.le_of_not_lt hsmall) with ⟨j, hj⟩
    have hckr := hk.ckr j hj
    have hdhr := hk.dhr (j + 1) hj
    have hnr := hk.nr
    have hlen := hσ.len_lt (j + 1)
    have hpre : σ.before (σ.epoch p + 1) = σ.len (j + 1) := by rw [hj, before]
    rw [hpre] at hnr hpn ⊢
    have hcnt : ep.session.skipCount pn = σ.len (j + 1) - ep.session.nr.toNat := by
      rw [skipCount, if_neg (by simp [hckr]), hpn]
    rw [hcnt] at hroom ⊢
    have hkeys := hσ.epoch_lt p
    have hparity := hσ.parity p
    have hother := p.parity_other
    have hpast : ∀ l < σ.len (j + 1) - ep.session.nr.toNat, ∀ j' n', σ.Pending p ep j' n' →
        σ.name j' n' ≠ σ.name (j + 1) (ep.session.nr.toNat + l) := by
      intro l hl j' n' hheld hname
      rcases hp.name_inj hσ (by omega) (by omega) (by omega) hheld hname with ⟨rfl, rfl⟩
      have hbelow := hheld.2.1
      rw [passed_current hj.symm] at hbelow
      omega
    rcases hp.received.stored.skip hckr hdhr rfl (by omega) hroom hpast with ⟨hsize, hstored⟩
    refine ⟨hsize, hstored.congr ?_⟩
    intro j' n'
    rw [Nat.add_sub_cancel' hnr, hj, Nat.add_right_cancel_iff]

variable (hk : Keyed P sk σ p s pubs) (hbehind : σ.epoch p.other = σ.epoch p + 1)
include hk hbehind

lemma Keyed.turned (kp : KeyPair) (out : Bytes) (c : Nat) {n : Nat} (hnr' : nr'.toNat = n + 1)
    (hlt : n < σ.len (σ.epoch p + 1)) : Keyed P sk (σ.turn p kp out) p
      { (σ.ratchet P p (s.skipBy P c) kp out).skipBy P n with
        ckr := some (advance (kdfCK P) (n + 1) (kdfRK P s.rk (σ.outs.getD (σ.epoch p) [])).2)
        nr := nr' } (kp.pub :: pubs) := by
  have hlength := hσ.length_behind hbehind
  have houts := hσ.outs_length
  rcases skipBy_fixed P c s with ⟨-, -, hrk, -, hns, -⟩
  rcases skipBy_fixed P n (σ.ratchet P p (s.skipBy P c) kp out) with
    ⟨hdhs₂, hdhr₂, hrk₂, hcks₂, hns₂, hpn₂⟩
  have hep : (σ.turn p kp out).epoch p = σ.epoch p + 2 := turn_epoch_self
  have hnew : (σ.turn p kp out).outs.length = σ.epoch p + 2 := by
    simp only [turn, length_append, length_singleton]
    omega
  have hlast : (σ.turn p kp out).outs.getD (σ.epoch p + 1) [] = out := by
    rw [show σ.epoch p + 1 = σ.outs.length by omega]
    exact Script.turn_out_last
  have hroot₁ : (σ.turn p kp out).root P sk (σ.epoch p + 1) =
      (kdfRK P s.rk (σ.outs.getD (σ.epoch p) [])).1 := by
    rw [root_succ (by omega), turn_root (by omega), turn_out (by omega), hk.rk]
  have hchain₁ : (σ.turn p kp out).chain P sk (σ.epoch p + 1) =
      (kdfRK P s.rk (σ.outs.getD (σ.epoch p) [])).2 := by
    rw [chain_succ (by omega), turn_root (by omega), turn_out (by omega), hk.rk]
  have hzero : σ.len (σ.epoch p + 2) = 0 := hσ.len_new _ (by omega)
  refine ⟨?_, ?_, ?_, ?_, ?_, ?_, ?_, ?_, ?_, ?_, ?_⟩
  · rw [hep, ← hlength, Script.turn_key_last]
    exact hdhs₂
  · rw [hep]
    intro h
    omega
  · intro j hj
    have hj' : j = σ.epoch p + 1 := by omega
    rw [hj', turn_key (by omega)]
    exact hdhr₂
  · rw [hep, root_succ (by omega), hroot₁, hlast]
    refine hrk₂.trans ?_
    simp only [ratcheted, hrk]
  · intro _
    rw [hep, chain_succ (by omega), hroot₁, hlast,
      show (σ.turn p kp out).len (σ.epoch p + 2) = 0 from hzero]
    refine hcks₂.trans ?_
    simp only [ratcheted, hrk]
    rfl
  · rw [hep]
    intro h
    omega
  · intro j hj
    have hj' : j = σ.epoch p := by omega
    rw [hj', hchain₁, hnr']
  · rw [hep, show (σ.turn p kp out).len (σ.epoch p + 2) = 0 from hzero]
    exact (congrArg UInt32.toNat hns₂).trans rfl
  · rw [hep]
    refine (congrArg UInt32.toNat hpn₂).trans ?_
    exact (congrArg UInt32.toNat hns).trans hk.ns
  · rw [hep, hnr']
    exact hlt
  · intro j hj hpar
    by_cases hlt' : j ≤ σ.epoch p
    · rw [turn_key (by omega)]
      exact mem_cons_of_mem _ (hk.pubs j hlt' hpar)
    · have hparity := hσ.parity p
      have hj' : j = σ.keys.length := by omega
      rw [hj', Script.turn_key_last]
      exact mem_cons_self

/-- A side's own keys and those of its peer's chains have different parities. -/
lemma Script.WellFormed.sameDHr_next : s.sameDHr (σ.key (σ.epoch p + 1)).pub = false := by
  cases he : σ.epoch p with
  | zero => simp [sameDHr, hk.dhr_none he]
  | succ e =>
    simp only [sameDHr, hk.dhr e he, Option.some.injEq, decide_eq_false_iff_not]
    intro hpub
    have hlength := hσ.length p
    have heq := hσ.distinct e (by omega) (e + 1 + 1) (by omega) (by omega) hpub
    omega

end

lemma Script.passed_turn_last (hj : j + 1 = σ.epoch p) :
    (σ.turn p kp out).passed ((σ.turn p kp out).epoch p) nr j = σ.before (σ.epoch p + 1) := by
  rw [passed_closed (by rw [turn_epoch_self]; omega), ← hj]
  rfl

lemma Script.passed_turn_other (nr' : Nat) (hown : j ≠ σ.epoch p) (hlast : j + 1 ≠ σ.epoch p)
    (hnext : j ≠ σ.epoch p + 1) :
    (σ.turn p kp out).passed ((σ.turn p kp out).epoch p) nr j = σ.passed (σ.epoch p) nr' j := by
  by_cases hclosed : j + 1 < σ.epoch p
  · rw [passed_closed hclosed,
      passed_closed (by rw [turn_epoch_self]; omega)]
    rfl
  · rw [passed_ahead (by rw [turn_epoch_self]; omega),
      passed_ahead (by omega)]

variable (hσ : σ.WellFormed P)
include hσ

section

variable (hσ' : (σ.turn p kp out).WellFormed P) (hp : Follow P sk σ p ep)
  (hat : σ.PacketAt P sk p.other pkt (σ.epoch p + 1) n) (hbehind : σ.epoch p.other = σ.epoch p + 1)
  (hpn : pn.toNat = σ.before (σ.epoch p + 1))
  (hroom : ep.session.skipped.size + ep.session.skipCount pn + n ≤ maxSkippedKeys)
include hσ' hp hat hbehind hpn hroom

/-- The store after a DH ratchet turn: the rest of the old chain, and the new chain up to
the frame that made it turn. -/
lemma Follow.stored_turned : (σ.turn p kp out).Stores P sk
      ((σ.ratchet P p (ep.session.skipBy P (ep.session.skipCount pn)) kp out).skipBy P n).skipped
      fun j' n' => (σ.Pending p ep j' n' ∨ (j' + 1 = σ.epoch p ∧ ep.session.nr.toNat ≤ n' ∧
          n' < σ.before (σ.epoch p + 1))) ∨ (j' = σ.epoch p + 1 ∧ 0 ≤ n' ∧ n' < 0 + n) := by
  have hk := hp.keyed
  have hlength := hσ.length_behind hbehind
  have houts := hσ.outs_length
  have hparity := hσ.parity p
  have hother := p.parity_other
  have hlt := hat.lt_len
  have hlen := hσ.len_lt (σ.epoch p + 1)
  have hpre := hσ.before_lt (σ.epoch p + 1)
  rcases hp.close_chain hσ hpn (by omega) with ⟨hsize, hclosed⟩
  have hbelow : ∀ j' n', (σ.Pending p ep j' n' ∨ (j' + 1 = σ.epoch p ∧
      ep.session.nr.toNat ≤ n' ∧ n' < σ.before (σ.epoch p + 1))) →
      j' % 2 = p.other.parity ∧ j' < σ.epoch p ∧ n' < 2 ^ 32 := by
    rintro j' n' (⟨hj', hn', -⟩ | ⟨hj', -, hn'⟩)
    · have hle := hk.passed_le j'
      have hlen' := hσ.len_lt j'
      exact ⟨hj', lt_of_passed hn', by omega⟩
    · exact ⟨by omega, by omega, by omega⟩
  have hstored : (σ.turn p kp out).Stores P sk _ _ := hclosed.turn hσ
    (fun j' n' hheld => by have hj' := (hbelow j' n' hheld).2.1; omega)
  -- The new chain starts with the secret of the two newest keys.
  have hckr : (σ.ratchet P p (ep.session.skipBy P (ep.session.skipCount pn)) kp out).ckr =
      some (advance (kdfCK P) 0 ((σ.turn p kp out).chain P sk (σ.epoch p + 1))) := by
    rw [Script.turn_chain (by omega), chain_succ (by omega), ← hk.rk,
      ← (skipBy_fixed P (ep.session.skipCount pn) ep.session).2.2.1]
    rfl
  have hdhr : (σ.ratchet P p (ep.session.skipBy P (ep.session.skipCount pn)) kp out).dhr =
      some ((σ.turn p kp out).key (σ.epoch p + 1)).pub := by
    rw [turn_key (by omega)]
    rfl
  refine (Script.Stores.skip
    (s := σ.ratchet P p (ep.session.skipBy P (ep.session.skipCount pn)) kp out)
    (k := n) hstored hckr hdhr rfl (by omega) ?_ ?_).2
  · rw [← hsize] at hroom
    exact hroom
  · intro l hl j' n' hheld hname
    rcases hbelow j' n' hheld with ⟨_, _, hn'⟩
    have hkeys := hσ'.epoch_lt p
    rw [turn_epoch_self] at hkeys
    have heq := (hσ'.name_inj (by omega) (by omega) (by omega) hn' (by omega) hname).1
    omega

lemma Follow.received_turned (hlab : (σ.labels p.other)[i]? = some (σ.epoch p + 1, n))
    {ck : Bytes} (hnr' : nr'.toNat = n + 1) : Received P sk (σ.turn p kp out) p (ep.opened
      { (σ.ratchet P p (ep.session.skipBy P (ep.session.skipCount pn)) kp out).skipBy P n with
        ckr := some ck, nr := nr' } i) := by
  have hparity := hσ.parity p
  have hother := p.parity_other
  have hnr := hp.keyed.nr
  refine hp.received.opened (fun j' n' =>
    (j' + 1 = σ.epoch p ∧ ep.session.nr.toNat ≤ n' ∧ n' < σ.before (σ.epoch p + 1)) ∨
      (j' = σ.epoch p + 1 ∧ 0 ≤ n' ∧ n' < 0 + n)) rfl hlab hat.parity ?_ ?_ ?_ ?_ ?_ ?_
  · intro j'
    by_cases hown : σ.epoch p ≤ j'
    · rw [passed_ahead hown]
      exact Nat.zero_le _
    · by_cases hlast : j' + 1 = σ.epoch p
      · rw [passed_current hlast, Script.passed_turn_last hlast]
        exact hnr
      · rw [Script.passed_turn_other _ (by omega) hlast (by omega)]
  · intro j' n' hj'
    have hown : j' ≠ σ.epoch p := by
      rintro rfl
      omega
    by_cases hlast : j' + 1 = σ.epoch p
    · rw [passed_current hlast, Script.passed_turn_last hlast]
      omega
    · by_cases hnext : j' = σ.epoch p + 1
      · rw [hnext, passed_current turn_epoch_self.symm, hnr', passed_ahead (by omega)]
        omega
      · rw [Script.passed_turn_other ep.session.nr.toNat hown hlast hnext]
        omega
  · rw [passed_ahead (by omega)]
    exact Nat.zero_le _
  · rintro j' n' (⟨hj', hlow, -⟩ | ⟨hj', -, hhigh⟩)
    · refine ⟨by omega, ?_, by omega⟩
      rw [passed_current hj']
      exact hlow
    · refine ⟨by rw [hj']; exact hat.parity, ?_, by omega⟩
      rw [passed_ahead (by omega)]
      exact Nat.zero_le _
  · apply (hp.stored_turned hσ hσ' hat hbehind hpn hroom).congr
    intro j' n'
    exact or_assoc.symm
  · rw [turn_epoch_self]
    omega

end

/-- A frame that carries the peer's next ratchet key. -/
theorem Follow.deliver_ratchet (hcomm : P.DHCommutes) (hseal : P.OpensSealed)
    (hp : Follow P sk σ p ep) (hat : σ.PacketAt P sk p.other pkt (σ.epoch p + 1) n)
    (hlab : (σ.labels p.other)[i]? = some (σ.epoch p + 1, n)) (hfits : Fits ep.session pkt.header)
    {keys : Option KeyPair}
    (hdraw : ep.session.drawsKey P pkt.header pkt.ct = true → FreshDraw P ep keys) :
    ∃ kp out s', ep.session.decrypt P keys pkt.header pkt.ct = (.ok pkt.plaintext, s') ∧
      (σ.turn p kp out).WellFormed P ∧ Follow P sk (σ.turn p kp out) p (ep.opened s' i) := by
  have hk := hp.keyed
  have hbehind : σ.epoch p.other = σ.epoch p + 1 := by
    have hle := hat.le_epoch
    have hadj := hσ.adjacent p
    omega
  have hlength := hσ.length_behind hbehind
  have houts := hσ.outs_length
  have hlt := hat.lt_len
  have hahead : σ.passed (σ.epoch p) ep.session.nr.toNat (σ.epoch p + 1) ≤ n := by
    rw [passed_ahead (by omega)]
    exact Nat.zero_le _
  have hnone := hp.lookup_ahead hσ hat hahead
  have hn := hat.toNat_n hσ
  have hdhEq : pkt.header.dh = (σ.key (σ.epoch p + 1)).pub := by
    rw [hat.header]
    rfl
  have hpn : pkt.header.pn.toNat = σ.before (σ.epoch p + 1) := by
    rw [hat.header]
    exact toNat_ofNat (hσ.before_lt _)
  have hnew : ep.session.sameDHr pkt.header.dh = false := by
    rw [hdhEq]
    exact hσ.sameDHr_next hk hbehind
  have hgen := hσ.generated (σ.epoch p + 1) (by omega)
  have hsize : pkt.header.dh.length = 32 := by
    rw [hdhEq, hgen]
    exact P.x25519Base_length _
  rcases (hfits hnone).2 hnew with ⟨hskipOld, hskipNew, hroom⟩
  have hold : ep.session.ckr ≠ none → ep.session.nr.toNat ≤ pkt.header.pn.toNat ∧
      pkt.header.pn.toNat - ep.session.nr.toNat ≤ maxSkip := by
    intro hckr
    rw [skipCount, if_neg hckr] at hskipOld
    exact ⟨by rw [hpn]; exact hk.nr, hskipOld⟩
  have hdh : P.x25519 ep.session.dhs.priv pkt.header.dh = some (σ.outs.getD (σ.epoch p) []) := by
    rw [hk.dhs, hdhEq]
    exact (hσ.agreed (σ.epoch p) (by omega)).1
  have hfresh := hdraw (Session.drawsKey_of_ratchet hnone hnew hsize hold hdh)
  cases keys with
  | none => exact absurd hfresh (by simp [FreshDraw])
  | some kp =>
    rcases hfresh with ⟨hkp, hunused⟩
    rcases hcomm kp.priv (σ.key (σ.epoch p + 1)).priv with ⟨out, hsend, hrecv⟩
    rw [← hgen] at hsend
    rw [← hkp] at hrecv
    have hopen : aeadOpen P (keyAt (kdfCK P)
        (kdfRK P ep.session.rk (σ.outs.getD (σ.epoch p) [])).2 pkt.header.n.toNat)
        pkt.header.bytes pkt.ct = some pkt.plaintext := by
      rw [hn, hk.rk, ← chain_succ (by omega)]
      exact hat.opens hseal
    have hdec := Session.decrypt_of_ratchet hnone hnew hsize hold hdh
      (by rw [hdhEq]; exact hsend) hskipNew hopen
    rw [hn, hdhEq] at hdec
    have hσ' : (σ.turn p kp out).WellFormed P := by
      refine hσ.turn hbehind hkp ?_ ?_
      · intro j hj hpar hpub
        have hparity := hσ.parity p
        exact hunused (hpub ▸ hk.pubs j (by omega) hpar)
      · rw [hbehind]
        exact ⟨hrecv, hsend⟩
    refine ⟨kp, out, _, hdec, hσ', ?_, hp.framed.turn hσ, ?_⟩
    · have hturned := hk.turned hσ hbehind kp out (ep.session.skipCount pkt.header.pn)
        (hat.toNat_n_succ hσ) hlt
      have hpub : ((σ.ratchet P p (ep.session.skipBy P (ep.session.skipCount pkt.header.pn)) kp
          out).skipBy P n).dhs.pub = kp.pub :=
        congrArg KeyPair.pub (skipBy_fixed P n _).1
      simp only [Endpoint.opened, hpub]
      exact hturned
    · rw [hn] at hroom
      exact hp.received_turned hσ hσ' hat hbehind hpn hroom hlab (hat.toNat_n_succ hσ)

end Deliver

/-! ## Whole conversations -/

def Scripted (P : Primitives) (sk : Bytes) (w : World) : Prop :=
  ∃ σ : Script, σ.WellFormed P ∧ ∀ p, Follow P sk σ p (w.get p)

variable {p : Side} {w : World} {P : Primitives} {dhOut sk : Bytes}
  {firstKey signedPreKey : KeyPair}

lemma World.forall_set {ep : Endpoint} {Q : Side → Endpoint → Prop} (hself : Q p ep)
    (hother : Q p.other (w.get p.other)) (q : Side) : Q q ((w.set p ep).get q) := by
  rcases Side.eq_or_eq_other p q with rfl | rfl
  · rw [World.get_set_self]
    exact hself
  · rw [World.get_set_other]
    exact hother

/-- The script of a handshake: the prekey, the initiator's first key and their
secret. -/
def Script.opening (signedPreKey firstKey : KeyPair) (dhOut : Bytes) : Script where
  keys := [signedPreKey, firstKey]
  outs := [dhOut]
  len := fun _ => 0
  epoch := Side.parity
  labels := fun _ => []

lemma Script.opening_wellFormed (hspk : signedPreKey.Generated P) (hkey : firstKey.Generated P)
    (hdh : P.x25519 firstKey.priv signedPreKey.pub = some dhOut)
    (hdh' : P.x25519 signedPreKey.priv firstKey.pub = some dhOut) :
    (Script.opening signedPreKey firstKey dhOut).WellFormed P := by
  refine ⟨?_, ?_, ?_, rfl, ?_, ?_, ?_, fun _ => Nat.two_pow_pos 32, rfl, fun _ _ => rfl⟩
  · intro p
    cases p with
    | alice | bob => rfl
  · intro p
    cases p with
    | alice => exact Or.inl rfl
    | bob => exact Or.inr rfl
  · intro p
    cases p with
    | alice | bob => rfl
  · intro j hj
    match j, hj with
    | 0, _ => exact hspk
    | 1, _ => exact hkey
  · intro j hj
    match j, hj with
    | 0, _ => exact ⟨hdh', hdh⟩
  · intro i hi j hj hij _
    simp only [Script.opening, length_cons, length_nil] at hi hj
    omega

lemma Follow.fresh {s : Session} {pubs : List Bytes}
    (hk : Keyed P sk (Script.opening signedPreKey firstKey dhOut) p s pubs) (hnr : s.nr = 0)
    (hskipped : s.skipped = .empty) :
    Follow P sk (Script.opening signedPreKey firstKey dhOut) p ⟨s, pubs, [], []⟩ := by
  refine ⟨hk, ⟨rfl, ?_, nodup_nil⟩, ?_, ?_, ?_⟩
  · intro i pkt j n hpkt
    simp at hpkt
  · rw [show (Endpoint.mk s pubs [] []).session.skipped = .empty from hskipped]
    apply Script.Stores.empty
    rintro j n ⟨-, hpast, -⟩
    simp [passed, Script.opening, hnr] at hpast
  · intro i hi
    cases hi
  · intro h
    exact absurd rfl h

lemma Scripted.start (hcomm : P.DHCommutes) {a : Session} (hspk : signedPreKey.Generated P)
    (hkey : firstKey.Generated P)
    (hnew : newInitiatorSession P sk signedPreKey.pub (some firstKey) = .ok a) :
    Scripted P sk (start a (newResponderSession sk signedPreKey)) := by
  rcases newInitiatorSession_eq_ok hnew with ⟨-, _, dhOut, hdhs, hdh, rfl⟩
  cases Option.some.inj hdhs
  have hdh' : P.x25519 signedPreKey.priv firstKey.pub = some dhOut := by
    rcases hcomm firstKey.priv signedPreKey.priv with ⟨_, hone, htwo⟩
    rw [← hspk, hdh] at hone
    rw [← hkey, ← hone] at htwo
    exact htwo
  refine ⟨_, Script.opening_wellFormed hspk hkey hdh hdh', ?_⟩
  intro p
  cases p with
  | alice =>
    refine Follow.fresh ⟨rfl, ?_, ?_, rfl, fun _ => rfl, fun _ => rfl, ?_, rfl, rfl,
      Nat.le_refl _, ?_⟩ rfl rfl
    · intro h
      cases h
    · intro j hj
      cases hj
      rfl
    · intro j hj
      simp only [Script.opening, Side.parity] at hj
      omega
    · intro j hj hpar
      simp only [Script.opening, Side.parity] at hj hpar
      have hone : j = 1 := by omega
      subst hone
      exact mem_singleton.mpr rfl
  | bob =>
    refine Follow.fresh ⟨rfl, fun _ => rfl, ?_, rfl, ?_, fun _ => rfl, ?_, rfl, rfl,
      Nat.le_refl _, ?_⟩ rfl rfl
    · intro j hj
      simp only [Script.opening, Side.parity] at hj
      omega
    · intro h
      simp only [Script.opening, Side.parity] at h
      omega
    · intro j hj
      simp only [Script.opening, Side.parity] at hj
      omega
    · intro j hj _
      have hzero : j = 0 := Nat.le_zero.mp hj
      subst hzero
      exact mem_singleton.mpr rfl

lemma Scripted.encrypt (hw : Scripted P sk w) (plaintext : Bytes)
    (hstart : p = .bob → (w.get p).got ≠ []) (hshort : (w.get p).session.ns.toNat + 1 < 2 ^ 32) :
    Scripted P sk (w.step P (.encrypt p plaintext)).2 := by
  rcases hw with ⟨σ, hσ, hfollow⟩
  have hp := hfollow p
  have hpos : 1 ≤ σ.epoch p := by
    cases p with
    | alice =>
      have hparity := hσ.parity .alice
      simp only [Side.parity] at hparity
      omega
    | bob =>
      have hstarted := hp.received.started (hstart rfl)
      omega
  have hlen : σ.len (σ.epoch p) + 1 < 2 ^ 32 := by
    rw [← hp.keyed.ns]
    exact hshort
  refine ⟨σ.send p, hσ.send hpos hlen, World.forall_set ?_ ?_⟩
  · exact ⟨hp.keyed.send hpos hshort plaintext, hp.framed.send hσ hp.keyed hpos plaintext,
      hp.received.send hσ plaintext _⟩
  · have hq := hfollow p.other
    exact ⟨hq.keyed.peer_sends hσ, hq.framed.peer_sends hσ, hq.received.peer_sends hσ⟩

/-- The first delivery of a frame opens it and keeps both sides on one script. -/
lemma Scripted.deliver (hcomm : P.DHCommutes) (hseal : P.OpensSealed) {i : Nat}
    {keys : Option KeyPair} (hw : Scripted P sk w) (hsched : Scheduled P w (.deliver p i keys)) :
    ∃ pkt, (w.get p.other).sent[i]? = some pkt ∧
      (w.step P (.deliver p i keys)).1 = some (.ok pkt.plaintext) ∧
      Scripted P sk (w.step P (.deliver p i keys)).2 := by
  rcases hw with ⟨σ, hσ, hfollow⟩
  unfold Scheduled at hsched
  cases hpkt : (w.get p.other).sent[i]? with
  | none => simp [hpkt] at hsched
  | some pkt =>
    simp only [hpkt] at hsched
    rcases hsched with ⟨hfirst, hfits, hdraw⟩
    have hp := hfollow p
    have hq := hfollow p.other
    have hi : i < (σ.labels p.other).length := by
      rw [← hq.framed.aligned]
      exact (List.getElem?_eq_some_iff.mp hpkt).1
    rcases hlab : (σ.labels p.other)[i] with ⟨j, n⟩
    have hlab' : (σ.labels p.other)[i]? = some (j, n) := by
      rw [getElem?_eq_getElem hi, hlab]
    have hat := hq.framed.packets i pkt j n hpkt hlab'
    have hunseen : ∀ i' ∈ (w.get p).got, (σ.labels p.other)[i']? ≠ some (j, n) := by
      intro i' hi' hlab''
      have hsame := (getElem?_inj hi hq.framed.nodup).mp (hlab'.trans hlab''.symm)
      exact hfirst (hsame ▸ hi')
    have hopened : ∃ s' σ', (w.get p).session.decrypt P keys pkt.header pkt.ct =
        (.ok pkt.plaintext, s') ∧ σ'.WellFormed P ∧
        Follow P sk σ' p ((w.get p).opened s' i) ∧ Follow P sk σ' p.other (w.get p.other) := by
      by_cases hpass : n < σ.passed (σ.epoch p) (w.get p).session.nr.toNat j
      · rcases hp.deliver_stored hσ hseal hat hlab' hunseen hpass keys with ⟨s', hdec, hnext⟩
        exact ⟨s', σ, hdec, hσ, hnext, hq⟩
      -- Not passed yet: the current receiving chain or the next one.
      have hahead := Nat.le_of_not_lt hpass
      have hle := hat.le_epoch
      have hlt := hat.lt_len
      have hpos := hat.pos
      have hparity := hσ.parity p
      have hother := p.parity_other
      have hpar := hat.parity
      have hadj := hσ.adjacent p
      have hlow : ¬ j + 1 < σ.epoch p := by
        intro hpast
        rw [passed, if_pos hpast] at hahead
        omega
      by_cases hcur : σ.epoch p = j + 1
      · rcases Nat.exists_eq_add_of_le' hpos with ⟨_, rfl⟩
        rcases hp.deliver_same hσ hseal hat hlab' hcur hahead hfits keys with
          ⟨s', hdec, hnext⟩
        exact ⟨s', σ, hdec, hσ, hnext, hq⟩
      · have hnext : j = σ.epoch p + 1 := by omega
        subst hnext
        rcases hp.deliver_ratchet hσ hcomm hseal hat hlab' hfits hdraw with
          ⟨kp, out, s', hdec, hσ', hturned⟩
        exact ⟨s', σ.turn p kp out, hdec, hσ', hturned,
          hq.keyed.peer_turns hσ, hq.framed.turn hσ, hq.received.peer_turns hσ⟩
    rcases hopened with ⟨_, σ', hdec, hσ', hself, hother⟩
    refine ⟨pkt, rfl, ?_, σ', hσ', ?_⟩
    · simp only [step, hpkt, hdec]
    · simp only [step, hpkt, hdec]
      exact World.forall_set hself hother

lemma Scripted.step (hcomm : P.DHCommutes) (hseal : P.OpensSealed) (w : World) (ev : Event)
    (hw : Scripted P sk w) (hev : Scheduled P w ev ∧ ShortChain w ev) :
    Scripted P sk (w.step P ev).2 := by
  rcases hev with ⟨hsched, hshort⟩
  cases ev with
  | encrypt p plaintext => exact hw.encrypt plaintext hsched hshort
  | deliver =>
    rcases hw.deliver hcomm hseal hsched with ⟨_, -, -, hnext⟩
    exact hnext
  | intrude p keys hdr ct =>
    -- A refused frame leaves the session as it was.
    have href : ((w.get p).session.decrypt P keys hdr ct).2 = (w.get p).session := by
      simp only [Scheduled] at hsched
      cases hout : ((w.get p).session.decrypt P keys hdr ct).1 with
      | ok => simp [hout, Except.isOk, Except.toBool] at hsched
      | error => exact Session.decrypt_of_error hout
    rcases hw with ⟨σ, hσ, hfollow⟩
    refine ⟨σ, hσ, World.forall_set ?_ (hfollow p.other)⟩
    rw [href]
    exact hfollow p

/-- In every schedule within the bounds, the first delivery of a frame gives back its plaintext, if
every sending chain carries fewer than `2 ^ 32` messages. -/
theorem delivery_correct {P : Primitives} (hcomm : P.DHCommutes) (hseal : P.OpensSealed)
    {sk : Bytes} {signedPreKey firstKey : KeyPair} {a : Session}
    (hspk : signedPreKey.Generated P) (hkey : firstKey.Generated P)
    (hnew : newInitiatorSession P sk signedPreKey.pub (some firstKey) = .ok a) {events : List Event}
    (hrun : Machine.Guarded (step P) (fun w ev => Scheduled P w ev ∧ ShortChain w ev)
      (start a (newResponderSession sk signedPreKey)) events)
    {p : Side} {i : Nat} {keys : Option KeyPair}
    (hdeliver : Scheduled P (final (step P)
      (start a (newResponderSession sk signedPreKey)) events) (.deliver p i keys)) :
    ∃ pkt, ((final (step P)
        (start a (newResponderSession sk signedPreKey)) events).get p.other).sent[i]? =
          some pkt ∧ (step P (final (step P)
        (start a (newResponderSession sk signedPreKey)) events) (.deliver p i keys)).1 =
          some (.ok pkt.plaintext) := by
  have hw : Scripted P sk (final (step P) (start a (newResponderSession sk signedPreKey)) events) :=
    Machine.guarded_final (step P) (Scripted.step hcomm hseal)
      (Scripted.start hcomm hspk hkey hnew) hrun
  rcases hw.deliver hcomm hseal hdeliver with ⟨pkt, hpkt, hres, -⟩
  exact ⟨pkt, hpkt, hres⟩

open Sample in
/-- A frame that overtakes another across the responder's first turn, an answer on
the new chain, and the delayed frame. -/
theorem delivery_correct_overtaking : ∃ pkt, ((final (step primitives) (start alice bob)
        [.encrypt .alice [1], .encrypt .alice [2], .deliver .bob 1 (some replyKey),
          .encrypt .bob [3]]).get .alice).sent[0]? = some pkt ∧
      (step primitives (final (step primitives) (start alice bob)
        [.encrypt .alice [1], .encrypt .alice [2], .deliver .bob 1 (some replyKey),
          .encrypt .bob [3]]) (.deliver .bob 0 none)).1 = some (.ok pkt.plaintext) := by
  have hspk : preKey.Generated primitives := rfl
  have hkey : firstKey.Generated primitives := rfl
  have hnew : newInitiatorSession primitives secret preKey.pub (some firstKey) = .ok alice := rfl
  refine delivery_correct dhCommutes opensSealed hspk hkey hnew (p := .bob) ?_ ?_
  · decide +kernel
  · decide +kernel

end SyncApp.Ratchet
