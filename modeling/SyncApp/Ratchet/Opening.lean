import SyncApp.Ratchet.Session

/-!
# When Decrypt succeeds

The paths of `Decrypt` as equations, with the session they leave.

Main results:

- `Session.decrypt_of_stored`, `Session.decrypt_of_same`, `Session.decrypt_of_ratchet`: when a frame
  opens.
- `Session.lookup_skipBy_of_fits`: a skip adds the keys of the positions it passes while there is
  room.
-/

namespace SyncApp.Ratchet

open Foundations
open UInt32 (ofNat)

lemma toNat_ofNat {n : Nat} (h : n < 2 ^ 32) : (ofNat n).toNat = n := by
  rw [UInt32.toNat_ofNat', Nat.mod_eq_of_lt h]

variable {a b : UInt32}

lemma toNat_sub_of_le (h : a.toNat ≤ b.toNat) : (b - a).toNat = b.toNat - a.toNat :=
  UInt32.toNat_sub_of_le b a (UInt32.le_iff_toNat_le.mpr h)

lemma ofNat_add_toNat {k : Nat} (h : b.toNat = a.toNat + k) : a + ofNat k = b := by
  have hlt := b.toNat_lt
  apply UInt32.toNat_inj.mp
  rw [UInt32.toNat_add, toNat_ofNat (by omega), Nat.mod_eq_of_lt (by omega), h]

/-- Positions of one chain that lie within one round of the counter have different
names. -/
lemma skKey_offset_inj {d : Bytes} {i j : Nat} (hi : i < 2 ^ 32) (hj : j < 2 ^ 32)
    (h : skKey d (a + ofNat i) = skKey d (a + ofNat j)) : i = j := by
  have hsame := (skKey_inj.mp h).2
  rw [UInt32.add_right_inj] at hsame
  rw [← toNat_ofNat hi, ← toNat_ofNat hj, hsame]

namespace Session

variable {P : Primitives} {s : Session} {keys : Option KeyPair} {hdr : Header}
  {ct pt : Bytes}

/-- A skip forward by at most `maxSkip` positions succeeds. -/
lemma skipMessageKeys_of_le {upTo : UInt32}
    (hgap : s.ckr ≠ none → s.nr.toNat ≤ upTo.toNat ∧ upTo.toNat - s.nr.toNat ≤ maxSkip) :
    s.skipMessageKeys P upTo = .ok (s.skipBy P (s.skipCount upTo)) := by
  rw [skipMessageKeys_eq, if_neg]
  rintro ⟨hckr, hmany⟩
  rcases hgap hckr with ⟨hle, _⟩
  rw [toNat_sub_of_le hle] at hmany
  omega

variable {ck dhOut : Bytes} {k : Nat}

/-- While there is room, a skip binds the names of the positions it passes and
leaves the other bindings alone. -/
theorem lookup_skipBy_of_fits (hckr : s.ckr = some ck) (hfits : s.skipped.size + k ≤ maxSkippedKeys)
    (hnr : s.nr.toNat + k ≤ 2 ^ 32)
    (hnew : ∀ i < k, s.skipped.lookup (skKey (s.dhr.getD []) (s.nr + ofNat i)) = none) :
    (s.skipBy P k).skipped.size = s.skipped.size + k ∧
      ∀ name key, (s.skipBy P k).skipped.lookup name = some key ↔
        (∃ i < k, name = skKey (s.dhr.getD []) (s.nr + ofNat i) ∧
          key = KeyChain.keyAt (kdfCK P) ck i) ∨ s.skipped.lookup name = some key := by
  induction k with
  | zero => simp
  | succ k ih =>
    rcases ih (by omega) (by omega) (fun i hi => hnew i (by omega)) with ⟨hsize, hlook⟩
    have hfresh : (s.skipBy P k).skipped.lookup
        (skKey (s.dhr.getD []) (s.nr + ofNat k)) = none := by
      cases hcase : (s.skipBy P k).skipped.lookup
          (skKey (s.dhr.getD []) (s.nr + ofNat k)) with
      | none => rfl
      | some key =>
        rcases (hlook _ _).mp hcase with ⟨i, hi, hname, -⟩ | hold
        · have hik := skKey_offset_inj (by omega) (by omega) hname
          omega
        · rw [hnew k (by omega)] at hold
          contradiction
    have hroom : (s.skipBy P k).skipped.size + 1 ≤ maxSkippedKeys := by omega
    rw [skipBy_succ_skipped hckr]
    refine ⟨?_, ?_⟩
    · rw [EvictingMap.size_store_of_fits _ hfresh hroom, hsize, Nat.add_assoc]
    · intro name key
      rw [EvictingMap.lookup_store_of_fits _ hfresh hroom]
      by_cases hname : name = skKey (s.dhr.getD []) (s.nr + ofNat k)
      · rw [if_pos hname, Option.some.injEq]
        constructor
        · rintro rfl
          exact Or.inl ⟨k, by omega, hname, rfl⟩
        · rintro (⟨i, hi, hname', rfl⟩ | hold)
          · rw [hname'] at hname
            rw [skKey_offset_inj (by omega) (by omega) hname]
          · rw [hname, hnew k (by omega)] at hold
            contradiction
      · rw [if_neg hname, hlook]
        constructor
        · rintro (⟨i, hi, hrest⟩ | hold)
          · exact Or.inl ⟨i, by omega, hrest⟩
          · exact Or.inr hold
        · rintro (⟨i, _, hname', hkey⟩ | hold)
          · have hne : i ≠ k := by
              rintro rfl
              exact hname hname'
            exact Or.inl ⟨i, by omega, hname', hkey⟩
          · exact Or.inr hold

/-! ## The three paths -/

theorem decrypt_of_stored {key : Bytes} (hlook : s.skipped.lookup (skKey hdr.dh hdr.n) = some key)
    (hopen : aeadOpen P key hdr.bytes ct = some pt) : s.decrypt P keys hdr ct =
      (.ok pt, { s with skipped := s.skipped.consume (skKey hdr.dh hdr.n) }) := by
  simp only [decrypt, trySkipped, hlook, hopen]

lemma decrypt_of_caughtUp {t : Session} (hlook : s.skipped.lookup (skKey hdr.dh hdr.n) = none)
    (hnext : ¬ (s.ckr ≠ none ∧ s.sameDHr hdr.dh = true ∧ hdr.n = s.nr))
    (hcatch : s.catchUp P keys hdr = .ok t) (hckr : t.ckr = some ck)
    (hopen : aeadOpen P (kdfCK P ck).2 hdr.bytes ct = some pt) :
    s.decrypt P keys hdr ct = (.ok pt, { t with ckr := some (kdfCK P ck).1, nr := t.nr + 1 }) := by
  simp only [decrypt, trySkipped, hlook, if_neg hnext, advance, hcatch, bind, Except.bind, hckr,
    hopen]

/-- A frame at or ahead of the current position of the current receiving chain. -/
theorem decrypt_of_same (hlook : s.skipped.lookup (skKey hdr.dh hdr.n) = none)
    (hckr : s.ckr = some ck) (hsame : s.sameDHr hdr.dh = true) (hk : hdr.n.toNat = s.nr.toNat + k)
    (hskip : k ≤ maxSkip)
    (hopen : aeadOpen P (KeyChain.keyAt (kdfCK P) ck k) hdr.bytes ct = some pt) :
    s.decrypt P keys hdr ct = (.ok pt, { s.skipBy P k with
        ckr := some (KeyChain.advance (kdfCK P) (k + 1) ck), nr := hdr.n + 1 }) := by
  have hcnt : s.skipCount hdr.n = k := by
    rw [skipCount, if_neg (by simp [hckr])]
    omega
  have hnr : s.nr + ofNat k = hdr.n := ofNat_add_toNat hk
  by_cases hnext : hdr.n = s.nr
  · have hzero : k = 0 := by
      rw [hnext] at hk
      omega
    subst hzero
    rw [KeyChain.keyAt_zero] at hopen
    have hcond : s.ckr ≠ none ∧ s.sameDHr hdr.dh = true ∧ hdr.n = s.nr :=
      ⟨by simp [hckr], hsame, hnext⟩
    have htry : s.trySkipped P hdr ct = none := by simp only [trySkipped, hlook]
    rw [decrypt, htry]
    simp only [if_pos hcond, skipBy_zero]
    simp only [hckr, Option.getD_some, hopen, hnext]
    rfl
  · have hcatch : s.catchUp P keys hdr = .ok (s.skipBy P k) := by
      simp only [catchUp, hsame, if_true, pure_bind]
      rw [skipMessageKeys_of_le (fun _ => ⟨by omega, by omega⟩), hcnt]
    rw [decrypt_of_caughtUp hlook (fun h => hnext h.2.2) hcatch (skipBy_ckr hckr k) hopen,
      skipBy_nr, hnr, KeyChain.advance_succ]

/-- The session after a DH ratchet, before it skips in the new chain. -/
def ratcheted (P : Primitives) (s : Session) (key : KeyPair) (dhPub dhOut dhOut' : Bytes) :
    Session :=
  { s with
    dhs := key, dhr := some dhPub, pn := s.ns, ns := 0, nr := 0
    rk := (kdfRK P (kdfRK P s.rk dhOut).1 dhOut').1
    cks := some (kdfRK P (kdfRK P s.rk dhOut).1 dhOut').2
    ckr := some (kdfRK P s.rk dhOut).2 }

variable (hlook : s.skipped.lookup (skKey hdr.dh hdr.n) = none) (hnew : s.sameDHr hdr.dh = false)
  (hlen : hdr.dh.length = 32)
  (hold : s.ckr ≠ none → s.nr.toNat ≤ hdr.pn.toNat ∧ hdr.pn.toNat - s.nr.toNat ≤ maxSkip)
  (hdh : P.x25519 s.dhs.priv hdr.dh = some dhOut)
include hlook hnew hlen hold hdh

theorem decrypt_of_ratchet {key : KeyPair} {dhOut' : Bytes}
    (hdh' : P.x25519 key.priv hdr.dh = some dhOut') (hskip : hdr.n.toNat ≤ maxSkip)
    (hopen : aeadOpen P (KeyChain.keyAt (kdfCK P) (kdfRK P s.rk dhOut).2 hdr.n.toNat)
      hdr.bytes ct = some pt) : s.decrypt P (some key) hdr ct =
      (.ok pt, { ((s.skipBy P (s.skipCount hdr.pn)).ratcheted P key hdr.dh dhOut dhOut').skipBy P
          hdr.n.toNat with
        ckr := some (KeyChain.advance (kdfCK P) (hdr.n.toNat + 1) (kdfRK P s.rk dhOut).2)
        nr := hdr.n + 1 }) := by
  have hpast := skipMessageKeys_of_le (P := P) hold
  rcases skipBy_fixed P (s.skipCount hdr.pn) s with ⟨hdhs, -, hrk, -⟩
  generalize hs₁ : s.skipBy P (s.skipCount hdr.pn) = s₁ at hpast hdhs hrk ⊢
  have hrecv : s₁.ratchetReceive P hdr = .ok { s₁ with
      pn := s₁.ns, ns := 0, nr := 0, dhr := some hdr.dh, rk := (kdfRK P s₁.rk dhOut).1,
      ckr := some (kdfRK P s₁.rk dhOut).2 } := by
    simp only [ratchetReceive, publicKeyFromBytes, hlen, if_true, hdhs, hdh]
  have hsend : ({ s₁ with
      pn := s₁.ns, ns := 0, nr := 0, dhr := some hdr.dh, rk := (kdfRK P s₁.rk dhOut).1,
      ckr := some (kdfRK P s₁.rk dhOut).2 } : Session).ratchetSend P (some key) =
      .ok (s₁.ratcheted P key hdr.dh dhOut dhOut') := by
    simp only [ratchetSend, Option.getD_some, hdh']
    rfl
  have hchain : (s₁.ratcheted P key hdr.dh dhOut dhOut').ckr = some (kdfRK P s.rk dhOut).2 := by
    rw [← hrk]
    rfl
  have hnr : (s₁.ratcheted P key hdr.dh dhOut dhOut').nr = 0 := rfl
  have hcnt : (s₁.ratcheted P key hdr.dh dhOut dhOut').skipCount hdr.n = hdr.n.toNat := by
    simp [skipCount, hchain, hnr]
  have hcatch : s.catchUp P (some key) hdr =
      .ok ((s₁.ratcheted P key hdr.dh dhOut dhOut').skipBy P hdr.n.toNat) := by
    simp only [catchUp, dhRatchet, hnew, Bool.false_eq_true, if_false, hpast, bind, Except.bind,
      hrecv, hsend]
    rw [skipMessageKeys_of_le (fun _ => ⟨by simp [hnr], by simpa [hnr] using hskip⟩), hcnt]
  have hnext : ¬ (s.ckr ≠ none ∧ s.sameDHr hdr.dh = true ∧ hdr.n = s.nr) := by
    simp [hnew]
  rw [decrypt_of_caughtUp hlook hnext hcatch (skipBy_ckr hchain _) hopen, skipBy_nr, hnr,
    UInt32.ofNat_toNat, UInt32.zero_add, KeyChain.advance_succ]

lemma drawsKey_of_ratchet : s.drawsKey P hdr ct = true := by
  rcases skipBy_fixed P (s.skipCount hdr.pn) s with ⟨hdhs, -⟩
  simp only [drawsKey, trySkipped, hlook, hnew, skipMessageKeys_of_le hold, bind, Except.bind,
    ratchetReceive, publicKeyFromBytes, hlen, if_true, hdhs, hdh]
  rfl

end Session
end SyncApp.Ratchet
