import SyncApp.Ratchet.Script

/-!
# Sides that follow a script

A side follows the script when its keys and counters are those of its epoch, its frames are at
positions of its chains, and its store holds the keys of the positions passed without opening their
frames.

Main results:

- `Framed.send`, `Framed.turn`: encrypting adds a position, a turn adds a key.
-/

namespace SyncApp.Ratchet

open Foundations List
open Function (update update_of_ne update_self)

namespace Script

/-- The header of a position, as `Encrypt` returns it. -/
def header (σ : Script) (j n : Nat) : Header :=
  let hdr : Header :=
    { dh := (σ.key j).pub, pn := UInt32.ofNat (σ.before j), n := UInt32.ofNat n, raw := none }
  { hdr with raw := some hdr.bytes }

/-- A frame is the one of a position of its sender's chains. -/
structure PacketAt (P : Primitives) (sk : Bytes) (σ : Script) (p : Side) (pkt : Packet)
    (j n : Nat) : Prop where
  parity : j % 2 = p.parity
  pos : 1 ≤ j
  le_epoch : j ≤ σ.epoch p
  lt_len : n < σ.len j
  header : pkt.header = σ.header j n
  ct : pkt.ct = aeadSeal P (σ.msgKey P sk j n) (σ.header j n).bytes pkt.plaintext

lemma PacketAt.opens {P : Primitives} {sk : Bytes} {σ : Script} {p : Side} {pkt : Packet}
    {j n : Nat} (h : σ.PacketAt P sk p pkt j n) (hseal : P.OpensSealed) :
    aeadOpen P (σ.msgKey P sk j n) pkt.header.bytes pkt.ct = some pkt.plaintext := by
  rw [h.ct, h.header]
  exact aeadOpen_aeadSeal hseal _ _ _

/-- The positions a side has passed without having opened their frames. -/
def Pending (σ : Script) (p : Side) (ep : Endpoint) (j n : Nat) : Prop :=
  j % 2 = p.other.parity ∧ n < σ.passed (σ.epoch p) ep.session.nr.toNat j ∧
    ∀ i ∈ ep.got, (σ.labels p.other)[i]? ≠ some (j, n)

end Script

/-- A side's keys and counters are those of its epoch. -/
structure Keyed (P : Primitives) (sk : Bytes) (σ : Script) (p : Side) (s : Session)
    (pubs : List Bytes) : Prop where
  dhs : s.dhs = σ.key (σ.epoch p)
  dhr_none : σ.epoch p = 0 → s.dhr = none
  dhr : ∀ j, σ.epoch p = j + 1 → s.dhr = some (σ.key j).pub
  rk : s.rk = σ.root P sk (σ.epoch p)
  cks : 1 ≤ σ.epoch p → s.cks =
    some (KeyChain.advance (kdfCK P) (σ.len (σ.epoch p)) (σ.chain P sk (σ.epoch p)))
  ckr_none : σ.epoch p < 2 → s.ckr = none
  ckr : ∀ j, σ.epoch p = j + 2 → s.ckr =
    some (KeyChain.advance (kdfCK P) s.nr.toNat (σ.chain P sk (j + 1)))
  ns : s.ns.toNat = σ.len (σ.epoch p)
  pn : s.pn.toNat = σ.before (σ.epoch p)
  nr : s.nr.toNat ≤ σ.before (σ.epoch p + 1)
  pubs : ∀ j ≤ σ.epoch p, j % 2 = p.parity → (σ.key j).pub ∈ pubs

/-- The frames a side sent are at different positions of its chains. -/
structure Framed (P : Primitives) (sk : Bytes) (σ : Script) (p : Side)
    (sent : List Packet) : Prop where
  aligned : sent.length = (σ.labels p).length
  packets : ∀ (i : Nat) pkt j n, sent[i]? = some pkt → (σ.labels p)[i]? = some (j, n) →
    σ.PacketAt P sk p pkt j n
  nodup : (σ.labels p).Nodup

/-- A side stores the keys of the positions it has passed and not opened, and has
opened only positions it has passed. -/
structure Received (P : Primitives) (sk : Bytes) (σ : Script) (p : Side) (ep : Endpoint) :
    Prop where
  stored : σ.Stores P sk ep.session.skipped (σ.Pending p ep)
  seen : ∀ i ∈ ep.got, ∃ j n, (σ.labels p.other)[i]? = some (j, n) ∧
    n < σ.passed (σ.epoch p) ep.session.nr.toNat j
  started : ep.got ≠ [] → 2 ≤ σ.epoch p

structure Follow (P : Primitives) (sk : Bytes) (σ : Script) (p : Side) (ep : Endpoint) : Prop where
  keyed : Keyed P sk σ p ep.session ep.pubs
  framed : Framed P sk σ p ep.sent
  received : Received P sk σ p ep

lemma eq_ofNat_of_toNat {a : UInt32} {n : Nat} (h : a.toNat = n) : a = UInt32.ofNat n := by
  rw [← h, UInt32.ofNat_toNat]

/-! ## Encrypting -/

namespace Script

/-- The script after one more message on a side's chain. -/
def send (σ : Script) (p : Side) : Script :=
  { σ with
    len := update σ.len (σ.epoch p) (σ.len (σ.epoch p) + 1)
    labels := update σ.labels p (σ.labels p ++ [(σ.epoch p, σ.len (σ.epoch p))]) }

variable {P : Primitives} {sk : Bytes} {σ : Script} {p : Side}

lemma send_len_self : (σ.send p).len (σ.epoch p) = σ.len (σ.epoch p) + 1 :=
  update_self _ _ _

variable {j : Nat}

lemma send_len_ne (h : j ≠ σ.epoch p) : (σ.send p).len j = σ.len j :=
  update_of_ne h _ _

lemma le_send_len (j : Nat) : σ.len j ≤ (σ.send p).len j := by
  by_cases h : j = σ.epoch p
  · subst h
    rw [send_len_self]
    omega
  · rw [send_len_ne h]

lemma passed_le_send (e nr j : Nat) : σ.passed e nr j ≤ (σ.send p).passed e nr j := by
  unfold passed
  by_cases hj : j + 1 < e
  · rw [if_pos hj, if_pos hj]
    exact le_send_len j
  · rw [if_neg hj, if_neg hj]

lemma send_before (h : j ≠ σ.epoch p + 2) : (σ.send p).before j = σ.before j := by
  match j, h with
  | 0, _ | 1, _ => rfl
  | j + 2, h => exact send_len_ne (by omega)

lemma send_labels_self : (σ.send p).labels p = σ.labels p ++ [(σ.epoch p, σ.len (σ.epoch p))] :=
  update_self _ _ _

lemma send_labels_other : (σ.send p).labels p.other = σ.labels p.other :=
  update_of_ne (Side.other_ne p) _ _

lemma WellFormed.send (hσ : σ.WellFormed P) (hpos : 1 ≤ σ.epoch p)
    (hshort : σ.len (σ.epoch p) + 1 < 2 ^ 32) : (σ.send p).WellFormed P := by
  refine { hσ with len_lt := ?_, len_zero := ?_, len_new := ?_ }
  · intro j
    by_cases h : j = σ.epoch p
    · subst h
      rw [send_len_self]
      exact hshort
    · rw [send_len_ne h]
      exact hσ.len_lt j
  · rw [send_len_ne (by omega)]
    exact hσ.len_zero
  · intro j hj
    have hlt := hσ.epoch_lt p
    have hj' : σ.keys.length ≤ j := hj
    rw [send_len_ne (by omega)]
    exact hσ.len_new j hj'

lemma PacketAt.send {q : Side} {pkt : Packet} {n : Nat} (h : σ.PacketAt P sk q pkt j n)
    (hj : j ≠ σ.epoch p + 2) : (σ.send p).PacketAt P sk q pkt j n := by
  have hhdr : (σ.send p).header j n = σ.header j n := by
    simp only [Script.header, send_before hj]
    rfl
  refine ⟨h.parity, h.pos, h.le_epoch, Nat.lt_of_lt_of_le h.lt_len (le_send_len j), ?_, ?_⟩
  · rw [hhdr]
    exact h.header
  · rw [hhdr]
    exact h.ct

end Script

section Send

variable {P : Primitives} {sk : Bytes} {σ : Script} {p : Side} {ep : Endpoint}

lemma Script.WellFormed.epoch_ne (hσ : σ.WellFormed P) : σ.epoch p.other ≠ σ.epoch p := by
  rcases hσ.adjacent p with h | h
  · omega
  · omega

variable {pubs : List Bytes} {s : Session} {sent : List Packet}

lemma Keyed.send (hk : Keyed P sk σ p s pubs) (hpos : 1 ≤ σ.epoch p)
    (hshort : s.ns.toNat + 1 < 2 ^ 32) (plaintext : Bytes) :
    Keyed P sk (σ.send p) p (s.encrypt P plaintext).2 pubs := by
  refine ⟨hk.dhs, hk.dhr_none, hk.dhr, hk.rk, ?_, hk.ckr_none, hk.ckr, ?_, ?_, ?_, hk.pubs⟩
  · intro _
    simp only [Session.encrypt, hk.cks hpos, Option.getD_some]
    rw [show (σ.send p).len ((σ.send p).epoch p) = σ.len (σ.epoch p) + 1 from
      Script.send_len_self, KeyChain.advance_succ]
    rfl
  · simp only [Session.encrypt]
    rw [UInt32.toNat_add, Nat.mod_eq_of_lt (by simpa using hshort), hk.ns]
    exact Script.send_len_self.symm
  · exact hk.pn.trans (Script.send_before (by omega)).symm
  · have hne : σ.epoch p + 1 ≠ σ.epoch p + 2 := by omega
    exact Nat.le_trans hk.nr (Nat.le_of_eq (Script.send_before hne).symm)

variable (hσ : σ.WellFormed P)
include hσ

lemma Keyed.peer_sends (hk : Keyed P sk σ p.other s pubs) :
    Keyed P sk (σ.send p) p.other s pubs := by
  have hadj := hσ.adjacent p
  have hne := hσ.epoch_ne (p := p)
  refine ⟨hk.dhs, hk.dhr_none, hk.dhr, hk.rk, ?_, hk.ckr_none, hk.ckr, ?_, ?_, ?_, hk.pubs⟩
  · intro hpos
    rw [show (σ.send p).len ((σ.send p).epoch p.other) = σ.len (σ.epoch p.other) from
      Script.send_len_ne hne]
    exact hk.cks hpos
  · exact hk.ns.trans (Script.send_len_ne hne).symm
  · exact hk.pn.trans (Script.send_before (by omega)).symm
  · refine Nat.le_trans hk.nr ?_
    cases hep : σ.epoch p.other with
    | zero => exact Nat.zero_le _
    | succ e =>
      rw [show (σ.send p).epoch p.other = e + 1 from hep]
      exact Script.le_send_len e

lemma Keyed.packetAt (hk : Keyed P sk σ p s pubs) (hpos : 1 ≤ σ.epoch p) (plaintext : Bytes) :
    (σ.send p).PacketAt P sk p ⟨(s.encrypt P plaintext).1.1, (s.encrypt P plaintext).1.2, plaintext⟩
      (σ.epoch p) (σ.len (σ.epoch p)) := by
  have hhdr : (s.encrypt P plaintext).1.1 =
      (σ.send p).header (σ.epoch p) (σ.len (σ.epoch p)) := by
    simp only [Session.encrypt, Script.header, hk.dhs, eq_ofNat_of_toNat hk.ns,
      eq_ofNat_of_toNat hk.pn, Script.send_before (show σ.epoch p ≠ σ.epoch p + 2 by omega)]
    rfl
  refine ⟨hσ.parity p, hpos, Nat.le_refl _, ?_, hhdr, ?_⟩
  · rw [Script.send_len_self]
    omega
  · rw [← hhdr]
    simp only [Session.encrypt, hk.cks hpos, Option.getD_some]
    rfl

theorem Framed.send (hk : Keyed P sk σ p s pubs) (hpos : 1 ≤ σ.epoch p) (hf : Framed P sk σ p sent)
    (plaintext : Bytes) : Framed P sk (σ.send p) p (sent ++ [⟨(s.encrypt P plaintext).1.1,
      (s.encrypt P plaintext).1.2, plaintext⟩]) := by
  have hbelow : ∀ j n, (j, n) ∈ σ.labels p → n < σ.len j := by
    intro j n hmem
    rcases getElem?_of_mem hmem with ⟨i, hi⟩
    have hlt : i < sent.length := by
      rw [hf.aligned]
      exact (List.getElem?_eq_some_iff.mp hi).1
    exact (hf.packets i sent[i] j n (getElem?_eq_getElem hlt) hi).lt_len
  refine ⟨?_, ?_, ?_⟩
  · rw [Script.send_labels_self, length_append, length_append, hf.aligned]
    rfl
  · intro i pkt j n hpkt hlab
    rw [Script.send_labels_self] at hlab
    by_cases hi : i < sent.length
    · rw [getElem?_append_left hi] at hpkt
      rw [getElem?_append_left (hf.aligned ▸ hi)] at hlab
      have hat := hf.packets i pkt j n hpkt hlab
      have hle := hat.le_epoch
      exact hat.send (by omega)
    · rw [getElem?_append_right (by omega)] at hpkt
      rw [getElem?_append_right (by rw [← hf.aligned]; omega), ← hf.aligned] at hlab
      have hzero : i - sent.length = 0 := by
        have hlast := (List.getElem?_eq_some_iff.mp hpkt).1
        rw [length_singleton] at hlast
        omega
      rw [hzero, getElem?_cons_zero, Option.some.injEq] at hpkt hlab
      subst hpkt
      rcases hlab with ⟨rfl, rfl⟩
      exact hk.packetAt hσ hpos plaintext
  · rw [Script.send_labels_self, nodup_append]
    refine ⟨hf.nodup, by simp, ?_⟩
    rintro ⟨j, n⟩ hmem x hx rfl
    have hlt := hbelow j n hmem
    rw [mem_singleton, Prod.mk.injEq] at hx
    rcases hx with ⟨rfl, rfl⟩
    omega

lemma Framed.peer_sends (hf : Framed P sk σ p.other sent) :
    Framed P sk (σ.send p) p.other sent := by
  refine ⟨?_, ?_, ?_⟩
  · rw [Script.send_labels_other]
    exact hf.aligned
  · intro i pkt j n hpkt hlab
    rw [Script.send_labels_other] at hlab
    have hat := hf.packets i pkt j n hpkt hlab
    have hle := hat.le_epoch
    have hadj := hσ.adjacent p
    exact hat.send (by omega)
  · rw [Script.send_labels_other]
    exact hf.nodup

lemma Received.send (hr : Received P sk σ p ep) (plaintext : Bytes) (sent : List Packet) :
    Received P sk (σ.send p) p
      { ep with session := (ep.session.encrypt P plaintext).2, sent := sent } := by
  have hpass : ∀ nr j, j % 2 = p.other.parity →
      (σ.send p).passed (σ.epoch p) nr j = σ.passed (σ.epoch p) nr j := by
    intro nr j hj
    have hparity := hσ.parity p
    have hother := p.parity_other
    have hne : j ≠ σ.epoch p := by
      rintro rfl
      omega
    simp only [Script.passed, Script.send_len_ne hne]
  refine ⟨?_, ?_, hr.started⟩
  · apply Script.Stores.congr (σ := σ.send p) hr.stored
    intro j n
    simp only [Script.Pending, Script.send_labels_other]
    constructor
    · rintro ⟨hj, hlt, hrest⟩
      exact ⟨hj, by rw [← hpass _ _ hj]; exact hlt, hrest⟩
    · rintro ⟨hj, hlt, hrest⟩
      exact ⟨hj, by rw [← hpass _ _ hj] at hlt; exact hlt, hrest⟩
  · intro i hi
    rcases hr.seen i hi with ⟨j, n, hlab, hlt⟩
    refine ⟨j, n, by rw [Script.send_labels_other]; exact hlab, ?_⟩
    exact Nat.lt_of_lt_of_le hlt (Script.passed_le_send _ _ _)

lemma Received.peer_sends (hr : Received P sk σ p.other ep) :
    Received P sk (σ.send p) p.other ep := by
  have hadj := hσ.adjacent p
  have hpass : ∀ nr j,
      (σ.send p).passed (σ.epoch p.other) nr j = σ.passed (σ.epoch p.other) nr j := by
    intro nr j
    unfold Script.passed
    by_cases hj : j + 1 < σ.epoch p.other
    · rw [if_pos hj, if_pos hj]
      exact Script.send_len_ne (by omega)
    · rw [if_neg hj, if_neg hj]
  have hlabels : ∀ i ∈ ep.got, ((σ.send p).labels p.other.other)[i]? =
      (σ.labels p.other.other)[i]? := by
    intro i hi
    rcases hr.seen i hi with ⟨j, n, hlab, -⟩
    rw [Side.other_other] at hlab ⊢
    rw [Script.send_labels_self, getElem?_append_left (List.getElem?_eq_some_iff.mp hlab).1]
  refine ⟨?_, ?_, hr.started⟩
  · apply Script.Stores.congr (σ := σ.send p) hr.stored
    intro j n
    have hlt : n < (σ.send p).passed ((σ.send p).epoch p.other) ep.session.nr.toNat j ↔
        n < σ.passed (σ.epoch p.other) ep.session.nr.toNat j := by
      rw [← hpass]
      rfl
    simp only [Script.Pending, hlt]
    constructor
    · rintro ⟨hj, hn, hrest⟩
      exact ⟨hj, hn, fun i hi => hlabels i hi ▸ hrest i hi⟩
    · rintro ⟨hj, hn, hrest⟩
      exact ⟨hj, hn, fun i hi => (hlabels i hi).symm ▸ hrest i hi⟩
  · intro i hi
    rcases hr.seen i hi with ⟨j, n, hlab, hn⟩
    refine ⟨j, n, (hlabels i hi).trans hlab, ?_⟩
    rw [show (σ.send p).epoch p.other = σ.epoch p.other from rfl, hpass]
    exact hn

end Send

/-! ## A DH ratchet turn -/

lemma Side.eq_or_eq_other (p q : Side) : q = p ∨ q = p.other := by
  cases p <;> cases q <;> decide

namespace Script

/-- The script after a side has drawn a new key. -/
def turn (σ : Script) (p : Side) (key : KeyPair) (out : Bytes) : Script :=
  { σ with
    keys := σ.keys ++ [key]
    outs := σ.outs ++ [out]
    epoch := update σ.epoch p (σ.epoch p + 2) }

variable {P : Primitives} {sk : Bytes} {σ : Script} {p : Side} {kp : KeyPair} {out : Bytes}

variable {j : Nat}

lemma turn_key (h : j < σ.keys.length) : (σ.turn p kp out).key j = σ.key j := by
  simp only [key, turn, getD_eq_getElem?_getD, getElem?_append_left h]

lemma turn_key_last : (σ.turn p kp out).key σ.keys.length = kp := by
  simp [key, turn, getD_eq_getElem?_getD]

lemma turn_out (h : j < σ.outs.length) : (σ.turn p kp out).outs.getD j [] = σ.outs.getD j [] := by
  simp only [turn, getD_eq_getElem?_getD, getElem?_append_left h]

lemma turn_out_last : (σ.turn p kp out).outs.getD σ.outs.length [] = out := by
  simp [turn, getD_eq_getElem?_getD]

lemma turn_root (h : j ≤ σ.outs.length) : (σ.turn p kp out).root P sk j = σ.root P sk j := by
  simp only [root, turn, take_append_of_le_length h]

lemma turn_chain (h : j ≤ σ.outs.length) : (σ.turn p kp out).chain P sk j = σ.chain P sk j := by
  simp only [chain, turn, take_append_of_le_length h]

lemma turn_epoch_self : (σ.turn p kp out).epoch p = σ.epoch p + 2 :=
  update_self _ _ _

lemma turn_epoch_other : (σ.turn p kp out).epoch p.other = σ.epoch p.other :=
  update_of_ne (Side.other_ne p) _ _

lemma turn_name (h : j < σ.keys.length) (n : Nat) : (σ.turn p kp out).name j n = σ.name j n := by
  simp only [name, turn_key h]

variable (hσ : σ.WellFormed P)
include hσ

lemma turn_msgKey (h : j < σ.keys.length) (n : Nat) :
    (σ.turn p kp out).msgKey P sk j n = σ.msgKey P sk j n := by
  have hlen := hσ.outs_length
  simp only [msgKey, turn_chain (show j ≤ σ.outs.length by omega)]

lemma Stores.turn {m : EvictingMap Bytes Bytes} {held : Nat → Nat → Prop}
    (hm : σ.Stores P sk m held) (hheld : ∀ j n, held j n → j < σ.keys.length) :
    (σ.turn p kp out).Stores P sk m held := by
  intro name key
  rw [hm name key]
  constructor
  · rintro ⟨j, n, hjn, rfl, rfl⟩
    exact ⟨j, n, hjn, (turn_name (hheld j n hjn) n).symm, (turn_msgKey hσ (hheld j n hjn) n).symm⟩
  · rintro ⟨j, n, hjn, rfl, rfl⟩
    exact ⟨j, n, hjn, turn_name (hheld j n hjn) n, turn_msgKey hσ (hheld j n hjn) n⟩

lemma WellFormed.turn (hbehind : σ.epoch p.other = σ.epoch p + 1) (hgen : kp.Generated P)
    (hfresh : ∀ j < σ.keys.length, j % 2 = p.parity → (σ.key j).pub ≠ kp.pub)
    (hagree : P.x25519 (σ.key (σ.epoch p.other)).priv kp.pub = some out ∧
      P.x25519 kp.priv (σ.key (σ.epoch p.other)).pub = some out) :
    (σ.turn p kp out).WellFormed P := by
  have hlength := hσ.length_behind hbehind
  have houts := hσ.outs_length
  have hparity := hσ.parity p
  have hnew : (σ.turn p kp out).keys.length = σ.keys.length + 1 := by
    simp [Script.turn]
  have hcases : ∀ j < σ.keys.length + 1, j < σ.keys.length ∨ j = σ.keys.length := by
    omega
  refine ⟨?_, ?_, ?_, ?_, ?_, ?_, ?_, hσ.len_lt, hσ.len_zero, ?_⟩
  · intro q
    rcases Side.eq_or_eq_other p q with rfl | rfl
    · rw [turn_epoch_self]
      omega
    · rw [turn_epoch_other]
      exact hσ.parity p.other
  · intro q
    rcases Side.eq_or_eq_other p q with rfl | rfl
    · rw [turn_epoch_self, turn_epoch_other]
      omega
    · rw [Side.other_other, turn_epoch_self, turn_epoch_other]
      omega
  · intro q
    rcases Side.eq_or_eq_other p q with rfl | rfl
    · rw [hnew, turn_epoch_self, turn_epoch_other]
      omega
    · rw [Side.other_other, hnew, turn_epoch_self, turn_epoch_other]
      omega
  · simp [Script.turn, houts]
  · intro j hj
    rcases hcases j (hnew ▸ hj) with hlt | rfl
    · rw [turn_key hlt]
      exact hσ.generated j hlt
    · rw [turn_key_last]
      exact hgen
  · intro j hj
    have hj' : j < σ.outs.length + 1 := by simpa [Script.turn] using hj
    by_cases hlt : j < σ.outs.length
    · rw [turn_key (by omega), turn_key (by omega), turn_out hlt]
      exact hσ.agreed j hlt
    · have hj'' : j = σ.outs.length := by omega
      have hlast : j + 1 = σ.keys.length := by omega
      have hprev : j = σ.epoch p.other := by omega
      rw [hlast, turn_key_last, turn_key (by omega), hj'', turn_out_last, ← hj'', hprev]
      exact hagree
  · intro i hi j hj hij hpub
    rcases hcases i (hnew ▸ hi) with hlt | rfl
    · rcases hcases j (hnew ▸ hj) with hlt' | rfl
      · rw [turn_key hlt, turn_key hlt'] at hpub
        exact hσ.distinct i hlt j hlt' hij hpub
      · rw [turn_key hlt, turn_key_last] at hpub
        exact absurd hpub (hfresh i hlt (by omega))
    · rcases hcases j (hnew ▸ hj) with hlt' | rfl
      · rw [turn_key hlt', turn_key_last] at hpub
        exact absurd hpub.symm (hfresh j hlt' (by omega))
      · rfl
  · intro j hj
    exact hσ.len_new j (by omega)

lemma PacketAt.turn {q : Side} {pkt : Packet} {n : Nat} (h : σ.PacketAt P sk q pkt j n) :
    (σ.turn p kp out).PacketAt P sk q pkt j n := by
  have hj : j < σ.keys.length := Nat.lt_of_le_of_lt h.le_epoch (hσ.epoch_lt q)
  have hhdr : (σ.turn p kp out).header j n = σ.header j n := by
    simp only [Script.header, turn_key hj]
    rfl
  have hle : σ.epoch q ≤ (σ.turn p kp out).epoch q := by
    rcases Side.eq_or_eq_other p q with rfl | rfl
    · rw [turn_epoch_self]
      omega
    · rw [turn_epoch_other]
  refine ⟨h.parity, h.pos, Nat.le_trans h.le_epoch hle, h.lt_len, ?_, ?_⟩
  · rw [hhdr]
    exact h.header
  · rw [hhdr, turn_msgKey hσ hj]
    exact h.ct

end Script

section Turn

variable {P : Primitives} {sk : Bytes} {σ : Script} {p : Side} {kp : KeyPair} {out : Bytes}
  {ep : Endpoint}

theorem Framed.turn (hσ : σ.WellFormed P) {q : Side} {sent : List Packet}
    (hf : Framed P sk σ q sent) : Framed P sk (σ.turn p kp out) q sent :=
  ⟨hf.aligned, fun i pkt j n hpkt hlab => (hf.packets i pkt j n hpkt hlab).turn hσ, hf.nodup⟩

lemma Keyed.peer_turns (hσ : σ.WellFormed P) {s : Session} {pubs : List Bytes}
    (hk : Keyed P sk σ p.other s pubs) : Keyed P sk (σ.turn p kp out) p.other s pubs := by
  have hlt := hσ.epoch_lt p.other
  have houts := hσ.outs_length
  have hepoch : (σ.turn p kp out).epoch p.other = σ.epoch p.other := Script.turn_epoch_other
  refine ⟨?_, ?_, ?_, ?_, ?_, ?_, ?_, ?_, ?_, ?_, ?_⟩
  · rw [hepoch, Script.turn_key hlt]
    exact hk.dhs
  · rw [hepoch]
    exact hk.dhr_none
  · intro j hj
    rw [hepoch] at hj
    rw [Script.turn_key (by omega)]
    exact hk.dhr j hj
  · rw [hepoch, Script.turn_root (by omega)]
    exact hk.rk
  · rw [hepoch, Script.turn_chain (by omega)]
    exact hk.cks
  · rw [hepoch]
    exact hk.ckr_none
  · intro j hj
    rw [hepoch] at hj
    rw [Script.turn_chain (by omega)]
    exact hk.ckr j hj
  · rw [hepoch]
    exact hk.ns
  · rw [hepoch]
    exact hk.pn
  · rw [hepoch]
    exact hk.nr
  · intro j hj hpar
    rw [hepoch] at hj
    rw [Script.turn_key (by omega)]
    exact hk.pubs j hj hpar

lemma Script.lt_of_passed {e nr j n : Nat} (h : n < σ.passed e nr j) : j < e := by
  unfold Script.passed at h
  by_contra hge
  rw [if_neg (by omega), if_neg (by omega)] at h
  omega

lemma Received.peer_turns (hσ : σ.WellFormed P) (hr : Received P sk σ p.other ep) :
    Received P sk (σ.turn p kp out) p.other ep := by
  have hepoch : (σ.turn p kp out).epoch p.other = σ.epoch p.other := Script.turn_epoch_other
  have hlt := hσ.epoch_lt p.other
  refine ⟨?_, ?_, ?_⟩
  · have hheld : ∀ j n, σ.Pending p.other ep j n → j < σ.keys.length := by
      rintro j n ⟨-, hn, -⟩
      have hj := Script.lt_of_passed hn
      omega
    apply (hr.stored.turn hσ hheld).congr
    intro j n
    unfold Script.Pending
    rw [hepoch]
    rfl
  · rw [hepoch]
    exact hr.seen
  · rw [hepoch]
    exact hr.started

end Turn

end SyncApp.Ratchet
