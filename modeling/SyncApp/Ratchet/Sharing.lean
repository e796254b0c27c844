import SyncApp.Ratchet.GoHeap
import SyncApp.Ratchet.Sample

/-!
# What a failed Decrypt leaves behind

`Decrypt` runs the ratchet and skip path on a copy of the struct that owns its map and its order
array, so everything it writes lies above what existed before.

Main results:

- `decrypt_refines`: the heap's session does what the value does.
- `failed_decrypt_invisible`: a failed call leaves the session as it was.
-/

namespace SyncApp.Ratchet
namespace Heap

open Foundations
open Proc.Refines (of_exec seq)
open Proc (exec_bind unit)
open EvictingMap (evict store)

/-! ## Ownership -/

/-- A mark in memory: the objects that exist below it. -/
structure Mark where
  sessions : Nat
  maps : Nat
  arrays : Nat

/-- The mark below which everything allocated so far lies. -/
def mark (h : Heap) : Mark := ⟨h.sessions.size, h.maps.size, h.arrays.size⟩

/-- The session behind a pointer is well formed, and all it reaches lies above a
mark. -/
structure Owned (b : Mark) (p : Nat) (h : Heap) : Prop where
  ptr_above : b.sessions ≤ p
  ptr_live : p < h.sessions.size
  key : (h.sessions.read p).dhs ≠ none
  map_above : b.maps ≤ (h.sessions.read p).skipped
  map_live : (h.sessions.read p).skipped < h.maps.size
  order_above : (h.sessions.read p).skippedOrder.Above b.arrays
  order_valid : (h.sessions.read p).skippedOrder.Valid h.arrays
  arrays_above : b.arrays ≤ h.arrays.size

/-- Nothing below the mark has changed. -/
structure Keeps (b : Mark) (h h' : Heap) : Prop where
  sessions : Region.Agree b.sessions h.sessions h'.sessions
  maps : Region.Agree b.maps h.maps h'.maps
  arrays : Region.Agree b.arrays h.arrays h'.arrays
  sessions_size : h.sessions.size ≤ h'.sessions.size
  maps_size : h.maps.size ≤ h'.maps.size
  arrays_size : h.arrays.size ≤ h'.arrays.size

lemma Keeps.refl (b : Mark) (h : Heap) : Keeps b h h :=
  ⟨Region.Agree.refl _ _, Region.Agree.refl _ _, Region.Agree.refl _ _, Nat.le_refl _,
    Nat.le_refl _, Nat.le_refl _⟩

lemma Keeps.trans (b : Mark) (h₁ h₂ h₃ : Heap) (h : Keeps b h₁ h₂) (h' : Keeps b h₂ h₃) :
    Keeps b h₁ h₃ :=
  ⟨h.sessions.trans h'.sessions, h.maps.trans h'.maps, h.arrays.trans h'.arrays,
    Nat.le_trans h.sessions_size h'.sessions_size, Nat.le_trans h.maps_size h'.maps_size,
    Nat.le_trans h.arrays_size h'.arrays_size⟩

/-- A session all of whose objects lie below the mark is not affected by a program
that keeps what lies below it. -/
lemma Keeps.session_eq {h h' : Heap} (hkeeps : Keeps h.mark h h') {p : Nat} {b : Mark}
    (hp : Owned b p h) : h'.session p = h.session p ∧ Owned b p h' := by
  have hcell : h'.sessions.read p = h.sessions.read p := hkeeps.sessions p hp.ptr_live
  have hmap : h'.maps.read (h.sessions.read p).skipped =
      h.maps.read (h.sessions.read p).skipped := hkeeps.maps _ hp.map_live
  rcases hp.order_valid.congr hkeeps.arrays_size (hkeeps.arrays _) with ⟨hval, hord⟩
  constructor
  · simp only [session, hcell, hmap, hord]
  · refine ⟨hp.ptr_above, ?_, ?_, ?_, ?_, ?_, ?_, ?_⟩
    · exact Nat.lt_of_lt_of_le hp.ptr_live hkeeps.sessions_size
    · rw [hcell]
      exact hp.key
    · rw [hcell]
      exact hp.map_above
    · rw [hcell]
      exact Nat.lt_of_lt_of_le hp.map_live hkeeps.maps_size
    · rw [hcell]
      exact hp.order_above
    · rw [hcell]
      exact hval
    · exact Nat.le_trans hp.arrays_above hkeeps.arrays_size

section

variable {b : Mark} {p : Nat} {h : Heap}

/-- Writing the struct keeps what lies below it. -/
lemma Owned.keeps_setCell (hp : Owned b p h) (c : SessionCell) : Keeps b h (h.setCell p c) := by
  refine ⟨Region.agree_write hp.ptr_above c, Region.Agree.refl _ _, Region.Agree.refl _ _,
    ?_, Nat.le_refl _, Nat.le_refl _⟩
  simp [Heap.setCell]

lemma Owned.setCell (hp : Owned b p h) {c : SessionCell} (hkey : c.dhs ≠ none)
    (hmap : c.skipped = (h.sessions.read p).skipped)
    (hord : c.skippedOrder = (h.sessions.read p).skippedOrder) :
    Owned b p (h.setCell p c) ∧ Keeps b h (h.setCell p c) ∧
      (h.setCell p c).session p =
        c.value (h.session p).skipped.live (h.session p).skipped.order := by
  have hread : (h.setCell p c).sessions.read p = c := Region.read_write_self hp.ptr_live c
  refine ⟨?_, hp.keeps_setCell c, ?_⟩
  · refine ⟨hp.ptr_above, ?_, ?_, ?_, ?_, ?_, ?_, hp.arrays_above⟩
    · simpa [Heap.setCell] using hp.ptr_live
    · rw [hread]
      exact hkey
    · rw [hread, hmap]
      exact hp.map_above
    · rw [hread, hmap]
      exact hp.map_live
    · rw [hread, hord]
      exact hp.order_above
    · rw [hread, hord]
      exact hp.order_valid
  · simp only [session, hread, hmap, hord]
    rfl

lemma exec_update (p : Nat) (f : SessionCell → SessionCell) (h : Heap) :
    (update p f).exec h = (.ok (), h.setCell p (f (h.sessions.read p))) :=
  rfl

/-- Refinement by a session that owns what it reaches above a mark. -/
abbrev RefinesAt (b : Mark) (p : Nat) (h : Heap) {α : Type} (m : GoProc α)
    (f : Session → Except SessionError (α × Session)) : Prop :=
  Proc.Refines (Owned b p) (fun h => h.session p) (Keeps b) h m f

lemma refines_cell {α : Type} {k : SessionCell → GoProc α}
    {f : Session → Except SessionError (α × Session)}
    (hk : RefinesAt b p h (k (h.sessions.read p)) f) : RefinesAt b p h (cell p >>= k) f := by
  unfold RefinesAt Proc.Refines at *
  exact hk

lemma refines_update (hp : Owned b p h) {f : SessionCell → SessionCell} {g : Session → Session}
    (hkey : (f (h.sessions.read p)).dhs ≠ none)
    (hmap : (f (h.sessions.read p)).skipped = (h.sessions.read p).skipped)
    (hord : (f (h.sessions.read p)).skippedOrder = (h.sessions.read p).skippedOrder)
    (hg : (f (h.sessions.read p)).value (h.session p).skipped.live (h.session p).skipped.order =
      g (h.session p)) : RefinesAt b p h (update p f) (unit fun s => .ok (g s)) := by
  rcases hp.setCell hkey hmap hord with ⟨howned, hkeeps, hview⟩
  refine of_exec (exec_update p f h) ?_ hkeeps howned
  rw [hview, hg]
  rfl

/-! ## The skipped-key store -/

variable {arrays : Region (List Bytes)} {order : Slice}

/-- The eviction loop drops from the front of the order what eviction drops. -/
lemma evictLoop_spec {n : Nat} (live : AList fun _ : Bytes => Bytes) (fuel : Nat)
    (hfuel : fuel = order.length) (hval : order.Valid arrays) (habove : order.Above n) :
    (evictLoop arrays fuel live order).2.Valid arrays ∧
      (evictLoop arrays fuel live order).2.Above n ∧
      evict maxSkippedKeys live (order.toList arrays) =
        ⟨(evictLoop arrays fuel live order).1,
          (evictLoop arrays fuel live order).2.toList arrays⟩ := by
  induction fuel generalizing live order with
  | zero =>
    refine ⟨hval, habove, ?_⟩
    simp only [evictLoop, Slice.toList_of_length_zero hfuel.symm]
    rfl
  | succ fuel ih =>
    have hlen := Slice.length_toList hval
    cases hlist : order.toList arrays with
    | nil =>
      rw [hlist, List.length_nil] at hlen
      omega
    | cons oldest rest =>
      have hpos : 0 < order.length := by omega
      have htail : order.tail.toList arrays = rest := by
        rw [Slice.toList_tail, hlist, List.tail_cons]
      have hfuel' : fuel = order.tail.length := by
        simp only [Slice.tail]
        omega
      by_cases hfull : maxSkippedKeys < live.keys.length
      · have hloop : evictLoop arrays (fuel + 1) live order =
            evictLoop arrays fuel (live.erase oldest) order.tail := by
          rw [evictLoop, if_pos ⟨hfull, hpos⟩, hlist, List.headD_cons]
        rw [hloop, evict, if_pos hfull, ← htail]
        exact ih _ hfuel' hval.tail habove.tail
      · have hloop : evictLoop arrays (fuel + 1) live order = (live, order) := by
          rw [evictLoop, if_neg (fun hand => hfull hand.1)]
        rw [hloop, evict, if_neg hfull, hlist]
        exact ⟨hval, habove, rfl⟩

/-- Replacing the store: writes go to the session's own map and array. -/
lemma Owned.setStore (hp : Owned b p h) (live : AList fun _ : Bytes => Bytes)
    (hval : order.Valid arrays) (habove : order.Above b.arrays)
    (hagree : Region.Agree b.arrays h.arrays arrays) (hsize : h.arrays.size ≤ arrays.size) :
    Owned b p (h.setStore p live order arrays) ∧ Keeps b h (h.setStore p live order arrays) ∧
      (h.setStore p live order arrays).session p =
        { h.session p with skipped := ⟨live, order.toList arrays⟩ } := by
  have hread : (h.setStore p live order arrays).sessions.read p =
      { h.sessions.read p with skippedOrder := order } :=
    Region.read_write_self hp.ptr_live _
  refine ⟨?_, ?_, ?_⟩
  · refine ⟨hp.ptr_above, by simpa [Heap.setStore] using hp.ptr_live, ?_, ?_, ?_, ?_, ?_, ?_⟩
    · rw [hread]
      exact hp.key
    · rw [hread]
      exact hp.map_above
    · rw [hread]
      simpa [Heap.setStore] using hp.map_live
    · rw [hread]
      exact habove
    · rw [hread]
      exact hval
    · exact Nat.le_trans hp.arrays_above hsize
  · exact ⟨Region.agree_write hp.ptr_above _, Region.agree_write hp.map_above _, hagree,
      by simp [Heap.setStore], by simp [Heap.setStore], hsize⟩
  · simp only [session, hread]
    simp only [Heap.setStore, Region.read_write_self hp.map_live]
    rfl

lemma makes_noteKey (hp : Owned b p h) (grow : Nat → Nat) (key : Bytes) :
    Slice.Makes b.arrays h.arrays (h.noteKey grow p key)
      (if key ∈ (h.session p).skipped.live then (h.session p).skipped.order
        else (h.session p).skipped.order ++ [key]) := by
  unfold noteKey
  by_cases hmem : key ∈ h.maps.read (h.sessions.read p).skipped
  · have hmem' : key ∈ (h.session p).skipped.live := hmem
    simp only [if_pos hmem, if_pos hmem']
    exact ⟨hp.order_valid, rfl, hp.order_above, Region.Agree.refl _ _, Nat.le_refl _⟩
  · have hmem' : key ∉ (h.session p).skipped.live := hmem
    simp only [if_neg hmem, if_neg hmem']
    exact Slice.makes_append grow hp.arrays_above hp.order_valid hp.order_above key

lemma Owned.storeSkipped (hp : Owned b p h) (grow : Nat → Nat) (key msgKey : Bytes) :
    Owned b p (h.storeSkipped grow p key msgKey) ∧ Keeps b h (h.storeSkipped grow p key msgKey) ∧
      (h.storeSkipped grow p key msgKey).session p = (h.session p).storeSkipped key msgKey := by
  have hmakes := makes_noteKey hp grow key
  rcases evictLoop_spec ((h.maps.read (h.sessions.read p).skipped).insert key msgKey) _ rfl
    hmakes.valid hmakes.above with ⟨hval, habove, hevict⟩
  rw [hmakes.contents] at hevict
  rcases hp.setStore _ hval habove hmakes.agree
    hmakes.size_le with ⟨howned, hkeeps, hview⟩
  refine ⟨howned, hkeeps, hview.trans ?_⟩
  exact congrArg (fun m => { h.session p with skipped := m }) hevict.symm

lemma trySkipped_refines (hp : Owned b p h) (P : Primitives) (hdr : Header) (ct : Bytes) :
    match h.trySkipped P p hdr ct with
    | none => (h.session p).trySkipped P hdr ct = none
    | some (pt, h') => (h.session p).trySkipped P hdr ct = some (pt, h'.session p) ∧
        Owned b p h' := by
  have hlook : (h.session p).skipped.lookup (skKey hdr.dh hdr.n) =
      (h.maps.read (h.sessions.read p).skipped).lookup (skKey hdr.dh hdr.n) := rfl
  unfold Heap.trySkipped Session.trySkipped
  simp only [hlook]
  cases (h.maps.read (h.sessions.read p).skipped).lookup (skKey hdr.dh hdr.n) with
  | none => rfl
  | some key =>
    simp only
    cases aeadOpen P key hdr.bytes ct with
    | none => rfl
    | some =>
      rcases hp.setStore
        ((h.maps.read (h.sessions.read p).skipped).erase (skKey hdr.dh hdr.n))
        hp.order_valid hp.order_above (Region.Agree.refl _ _) (Nat.le_refl _) with
        ⟨howned, -, hview⟩
      refine ⟨?_, howned⟩
      rw [hview]
      rfl

/-! ## Ratchet steps -/

lemma refines_skipOne (hp : Owned b p h) (grow : Nat → Nat) (P : Primitives) :
    RefinesAt b p h (skipOne grow P p) (unit fun s => .ok (s.skipOne P)) := by
  have hchain := hp.setCell
    (c := { h.sessions.read p with
      ckr := some (kdfCK P ((h.sessions.read p).ckr.getD [])).1 }) hp.key rfl rfl
  rcases hchain with ⟨hp₁, hkeeps₁, hview₁⟩
  rcases hp₁.storeSkipped grow (skKey ((h.sessions.read p).dhr.getD []) (h.sessions.read p).nr)
    (kdfCK P ((h.sessions.read p).ckr.getD [])).2 with ⟨hp₂, hkeeps₂, hview₂⟩
  generalize hh₂ : storeSkipped grow p _ _ (h.setCell p _) = h₂ at hp₂ hkeeps₂ hview₂
  rcases hp₂.setCell (c := { h₂.sessions.read p with nr := (h₂.sessions.read p).nr + 1 })
    hp₂.key rfl rfl with ⟨hp₃, hkeeps₃, hview₃⟩
  refine of_exec (a := ()) ?_ ?_
    (Keeps.trans b _ _ _ (Keeps.trans b _ _ _ hkeeps₁ hkeeps₂) hkeeps₃) hp₃
  · rw [← hh₂]
    rfl
  · have hnr : ∀ c : SessionCell, c = h₂.sessions.read p →
        ({ c with nr := c.nr + 1 } : SessionCell).value (h₂.session p).skipped.live
          (h₂.session p).skipped.order =
        { h₂.session p with nr := (h₂.session p).nr + 1 } := by
      rintro c rfl
      rfl
    rw [hview₃, hnr _ rfl, hview₂, hview₁]
    rfl

lemma refines_skipLoop (grow : Nat → Nat) (P : Primitives) (upTo : UInt32) (fuel : Nat)
    (hp : Owned b p h) : RefinesAt b p h (skipLoop grow P p upTo fuel)
      (unit fun s => .ok (s.skipLoop P upTo fuel)) := by
  induction fuel generalizing h with
  | zero => exact of_exec rfl rfl (Keeps.refl b h) hp
  | succ fuel ih =>
    apply refines_cell
    by_cases hlt : (h.sessions.read p).nr < upTo
    · have hlt' : (h.session p).nr < upTo := hlt
      simp only [hlt, if_true]
      have hseq := seq (Keeps.trans b) (refines_skipOne hp grow P)
        (fun h' _ hp' => ih hp')
      apply hseq.congr
      simp only [unit, Session.skipLoop, hlt', if_true]
      rfl
    · have hlt' : ¬ (h.session p).nr < upTo := hlt
      simp only [hlt, if_false]
      apply (of_exec (f := unit fun s => .ok s) rfl rfl
        (Keeps.refl b h) hp).congr
      simp only [unit, Session.skipLoop, hlt', if_false]

section

variable (hp : Owned b p h)
include hp

lemma refines_skipMessageKeys (grow : Nat → Nat) (P : Primitives) (upTo : UInt32) :
    RefinesAt b p h (skipMessageKeys grow P p upTo) (unit fun s => s.skipMessageKeys P upTo) := by
  have hckr : (h.session p).ckr = (h.sessions.read p).ckr := rfl
  have hnr : (h.session p).nr = (h.sessions.read p).nr := rfl
  apply refines_cell
  by_cases hnone : (h.sessions.read p).ckr = none
  · simp only [hnone, if_true]
    apply (of_exec (f := unit fun s => .ok s) rfl rfl
      (Keeps.refl b h) hp).congr
    simp only [unit, Session.skipMessageKeys, hckr, hnone, if_true]
  · simp only [hnone, if_false]
    by_cases hmany : maxSkip < (upTo - (h.sessions.read p).nr).toNat
    · simp only [hmany, if_true]
      apply Proc.Refines.throw (Keeps.refl b h)
      simp only [unit, Session.skipMessageKeys, hckr, hnr, hnone, hmany, if_true, if_false]
      rfl
    · simp only [hmany, if_false]
      apply (refines_skipLoop grow P upTo _ hp).congr
      simp only [unit, Session.skipMessageKeys, hckr, hnr, hnone, hmany, if_false]

/-- An agreement that may be refused, and the derived keys it assigns. -/
lemma refines_agree (P : Primitives) {k : SessionCell → Option Bytes}
    {l : Session → Option Bytes} {f : Bytes × Bytes → SessionCell → SessionCell}
    {g : Bytes × Bytes → Session → Session} (hk : k (h.sessions.read p) = l (h.session p))
    (hkey : ∀ out, (f out (h.sessions.read p)).dhs ≠ none)
    (hmap : ∀ out, (f out (h.sessions.read p)).skipped = (h.sessions.read p).skipped)
    (hord : ∀ out, (f out (h.sessions.read p)).skippedOrder = (h.sessions.read p).skippedOrder)
    (hg : ∀ out, (f out (h.sessions.read p)).value (h.session p).skipped.live
      (h.session p).skipped.order = g out (h.session p)) :
    RefinesAt b p h
      (do
        let c ← cell p
        match k c with
        | none => throw .lowOrderPoint
        | some dhOut => update p (f (kdfRK P c.rk dhOut)))
      (fun s => match l s with
        | none => .error .lowOrderPoint
        | some dhOut => .ok ((), g (kdfRK P s.rk dhOut) s)) := by
  apply refines_cell
  cases hout : k (h.sessions.read p) with
  | none => exact Proc.Refines.throw (Keeps.refl b h) (by rw [← hk, hout])
  | some =>
    refine (refines_update hp (hkey _) (hmap _) (hord _) (hg _)).congr ?_
    rw [← hk, hout]
    rfl

lemma refines_ratchetReceive (P : Primitives) (hdr : Header) :
    RefinesAt b p h (ratchetReceive P p hdr) (unit fun s => s.ratchetReceive P hdr) := by
  unfold Heap.ratchetReceive
  cases hpub : publicKeyFromBytes hdr.dh with
  | none =>
    apply Proc.Refines.throw (Keeps.refl b h)
    simp only [unit, Session.ratchetReceive, hpub]
    rfl
  | some newDHr =>
    have hassign : RefinesAt b p h
        (update p fun c => { c with pn := c.ns, ns := 0, nr := 0, dhr := some newDHr })
        (unit fun s =>
          .ok { s with pn := s.ns, ns := 0, nr := 0, dhr := some newDHr }) :=
      refines_update hp hp.key rfl rfl rfl
    apply (seq (Keeps.trans b) hassign fun h' _ hp' => refines_agree hp' P
      (k := fun c => P.x25519 (c.dhs.getD ⟨[], []⟩).priv newDHr)
      (l := fun s => P.x25519 s.dhs.priv newDHr)
      (f := fun out c => { c with rk := out.1, ckr := some out.2 })
      (g := fun out s => { s with rk := out.1, ckr := some out.2 })
      rfl (fun _ => hp'.key) (fun _ => rfl) (fun _ => rfl) (fun _ => rfl)).congr
    simp only [unit, Session.ratchetReceive, hpub, bind, Except.bind]
    cases P.x25519 (h.session p).dhs.priv newDHr with
    | none | some => rfl

lemma refines_ratchetSend (P : Primitives) (keys : Option KeyPair) :
    RefinesAt b p h (ratchetSend P p keys) (unit fun s => s.ratchetSend P keys) := by
  cases keys with
  | none =>
    -- The struct is left without a key pair, so it is not well formed any more.
    exact ⟨hp.keeps_setCell _, rfl⟩
  | some dhs =>
    have hassign : RefinesAt b p h (update p fun c => { c with dhs := some dhs })
        (unit fun s => .ok { s with dhs := dhs }) :=
      refines_update hp (by simp) rfl rfl rfl
    apply (seq (Keeps.trans b) hassign fun h' _ hp' => refines_agree hp' P
      (k := fun c => P.x25519 dhs.priv (c.dhr.getD []))
      (l := fun s => P.x25519 dhs.priv (s.dhr.getD []))
      (f := fun out c => { c with rk := out.1, cks := some out.2 })
      (g := fun out s => { s with rk := out.1, cks := some out.2 })
      rfl (fun _ => hp'.key) (fun _ => rfl) (fun _ => rfl) (fun _ => rfl)).congr
    simp only [unit, Session.ratchetSend, bind, Except.bind]
    cases P.x25519 dhs.priv ((h.session p).dhr.getD []) with
    | none | some => rfl

variable (grow : Nat → Nat) (P : Primitives) (keys : Option KeyPair)

lemma refines_ratchetIfNew (hdr : Header) :
    RefinesAt b p h (ratchetIfNew grow P p keys hdr)
      (unit fun s => if s.sameDHr hdr.dh then pure s else do
        let s ← s.skipMessageKeys P hdr.pn
        s.dhRatchet P keys hdr) := by
  have hsame : (h.session p).sameDHr hdr.dh = (h.sessions.read p).sameDHr hdr.dh := rfl
  apply refines_cell
  cases hcase : (h.sessions.read p).sameDHr hdr.dh with
  | true =>
    apply of_exec rfl _ (Keeps.refl b h) hp
    simp only [unit, hsame, hcase, if_true]
    rfl
  | false =>
    have hsend : ∀ h', Keeps b h h' → Owned b p h' → RefinesAt b p h'
        (ratchetReceive P p hdr >>= fun _ => ratchetSend P p keys)
        (fun s => s.ratchetReceive P hdr >>= unit fun s => s.ratchetSend P keys) :=
      fun h' _ hp' => seq (Keeps.trans b) (refines_ratchetReceive hp' P hdr)
        (fun h'' _ hp'' => refines_ratchetSend hp'' P keys)
    apply (seq (Keeps.trans b) (refines_skipMessageKeys hp grow P hdr.pn)
      hsend).congr
    simp only [unit, hsame, hcase, Bool.false_eq_true, if_false, Session.dhRatchet]
    cases (h.session p).skipMessageKeys P hdr.pn with
    | error => rfl
    | ok s₁ =>
      simp only [bind, Except.bind]
      cases s₁.ratchetReceive P hdr with
      | error | ok => rfl

/-- The ratchet and skip path does what the session function does, and touches
nothing below the mark, whether it succeeds or fails. -/
lemma refines_advance (hdr : Header) (ct : Bytes) :
    RefinesAt b p h (advance grow P p keys hdr ct) (fun s => s.advance P keys hdr ct) := by
  have hopen : ∀ h', Keeps b h h' → Owned b p h' → RefinesAt b p h'
      (do
        let c ← cell p
        match c.ckr with
        | none => throw .decrypt
        | some ckr =>
          let out := kdfCK P ckr
          update p fun c => { c with ckr := some out.1, nr := c.nr + 1 }
          match aeadOpen P out.2 hdr.bytes ct with
          | none => throw .decrypt
          | some pt => return pt)
      (fun s => match s.ckr with
        | none => .error .decrypt
        | some ckr => match aeadOpen P (kdfCK P ckr).2 hdr.bytes ct with
          | none => .error .decrypt
          | some pt => .ok (pt, { s with ckr := some (kdfCK P ckr).1, nr := s.nr + 1 })) := by
    intro h' _ hp'
    have hckr : (h'.session p).ckr = (h'.sessions.read p).ckr := rfl
    apply refines_cell
    cases hcase : (h'.sessions.read p).ckr with
    | none =>
      apply Proc.Refines.throw (Keeps.refl b h')
      simp only [hckr, hcase]
    | some ckr =>
      have hassign : RefinesAt b p h'
          (update p fun c => { c with ckr := some (kdfCK P ckr).1, nr := c.nr + 1 })
          (unit fun s => .ok { s with ckr := some (kdfCK P ckr).1, nr := s.nr + 1 }) :=
        refines_update hp' hp'.key rfl rfl rfl
      have htag : ∀ h'', Keeps b h' h'' → Owned b p h'' → RefinesAt b p h''
          (match aeadOpen P (kdfCK P ckr).2 hdr.bytes ct with
            | none => throw .decrypt
            | some pt => pure pt)
          (fun s => match aeadOpen P (kdfCK P ckr).2 hdr.bytes ct with
            | none => .error .decrypt
            | some pt => .ok (pt, s)) := by
        intro h'' _ hp''
        cases aeadOpen P (kdfCK P ckr).2 hdr.bytes ct with
        | none => exact Proc.Refines.throw (Keeps.refl b h'') rfl
        | some => exact of_exec rfl rfl (Keeps.refl b h'') hp''
      apply (seq (Keeps.trans b) hassign htag).congr
      simp only [hckr, hcase]
      rfl
  have hskip : ∀ h', Keeps b h h' → Owned b p h' → RefinesAt b p h' _ _ :=
    fun h' hkeeps hp' => seq (Keeps.trans b)
      (refines_skipMessageKeys hp' grow P hdr.n)
      (fun h'' hkeeps' hp'' => hopen h'' (Keeps.trans b _ _ _ hkeeps hkeeps') hp'')
  apply (seq (Keeps.trans b) (refines_ratchetIfNew hp grow P keys hdr) hskip).congr
  cases hsame : (h.session p).sameDHr hdr.dh with
  | true =>
    unfold Session.advance Session.catchUp
    rw [hsame]
    rfl
  | false =>
    unfold Session.advance Session.catchUp
    rw [hsame]
    cases hskipped : (h.session p).skipMessageKeys P hdr.pn with
    | error => rfl
    | ok s => exact bind_assoc (s.dhRatchet P keys hdr) _ _

end

/-! ## The copy and the two calls -/

/-- The mark below which nothing lies. -/
def bottom : Mark := ⟨0, 0, 0⟩

/-- The copy owns its objects, shows the same session, and nothing older changed. -/
lemma Owned.clone (hp : Owned b p h) (grow : Nat → Nat) :
    Owned h.mark h.sessions.size (h.clone grow p) ∧ Keeps h.mark h (h.clone grow p) ∧
      (h.clone grow p).session h.sessions.size = h.session p := by
  have hmakes := Slice.makes_copy grow (Nat.le_refl h.arrays.size) (h.sessions.read p).skippedOrder
  have hread : (h.clone grow p).sessions.read h.sessions.size =
      { h.sessions.read p with
        skipped := h.maps.size
        skippedOrder := ((h.sessions.read p).skippedOrder.copy grow h.arrays).2 } :=
    Region.read_alloc_self _ _
  refine ⟨⟨Nat.le_refl _, ?_, ?_, ?_, ?_, ?_, ?_, hmakes.size_le⟩, ?_, ?_⟩
  · simp [Heap.clone]
  · rw [hread]
    exact hp.key
  · rw [hread]
    exact Nat.le_refl _
  · rw [hread]
    simp [Heap.clone]
  · rw [hread]
    exact hmakes.above
  · rw [hread]
    exact hmakes.valid
  · exact ⟨Region.agree_alloc (Nat.le_refl _) _, Region.agree_alloc (Nat.le_refl _) _,
      hmakes.agree, by simp [Heap.clone], by simp [Heap.clone], hmakes.size_le⟩
  · simp only [session, hread]
    simp only [Heap.clone, Region.read_alloc_self, hmakes.contents]
    rfl

/-- Copying a struct back makes the two pointers show the same session. -/
lemma Owned.adopt {trial : Nat} (ht : Owned b trial h) (hp : p < h.sessions.size) :
    Owned bottom p (h.setCell p (h.sessions.read trial)) ∧
      (h.setCell p (h.sessions.read trial)).session p = h.session trial := by
  have hread : (h.setCell p (h.sessions.read trial)).sessions.read p = h.sessions.read trial :=
    Region.read_write_self hp _
  refine ⟨⟨Nat.zero_le _, by simpa [Heap.setCell] using hp, ?_, Nat.zero_le _, ?_,
    Or.inl (Nat.zero_le _), ?_, Nat.zero_le _⟩, ?_⟩
  · rw [hread]
    exact ht.key
  · rw [hread]
    exact ht.map_live
  · rw [hread]
    exact ht.order_valid
  · simp only [session, hread]
    rfl

section

variable (hp : Owned bottom p h) (grow : Nat → Nat) (P : Primitives)
include hp

/-- `Decrypt` on memory gives the result of `Decrypt` on the session
value, and leaves the value it leaves. -/
theorem decrypt_refines (keys : Option KeyPair) (hdr : Header) (ct : Bytes) :
    (h.decrypt grow P p keys hdr ct).1 = ((h.session p).decrypt P keys hdr ct).1 ∧
      (h.decrypt grow P p keys hdr ct).2.session p = ((h.session p).decrypt P keys hdr ct).2 ∧
      Owned bottom p (h.decrypt grow P p keys hdr ct).2 := by
  have hskipped := trySkipped_refines hp P hdr ct
  have hsame : ((h.session p).ckr ≠ none ∧ (h.session p).sameDHr hdr.dh = true ∧
      hdr.n = (h.session p).nr) = ((h.sessions.read p).ckr ≠ none ∧
      (h.sessions.read p).sameDHr hdr.dh = true ∧ hdr.n = (h.sessions.read p).nr) := rfl
  unfold Heap.decrypt Session.decrypt
  cases hstored : h.trySkipped P p hdr ct with
  | some =>
    simp only [hstored] at hskipped
    rw [hskipped.1]
    exact ⟨rfl, rfl, hskipped.2⟩
  | none =>
    simp only [hstored] at hskipped
    simp only [hskipped, hsame]
    by_cases hnext : (h.sessions.read p).ckr ≠ none ∧
        (h.sessions.read p).sameDHr hdr.dh = true ∧ hdr.n = (h.sessions.read p).nr
    · have hckr : (h.session p).ckr = (h.sessions.read p).ckr := rfl
      simp only [if_pos hnext, hckr]
      cases aeadOpen P (kdfCK P ((h.sessions.read p).ckr.getD [])).2 hdr.bytes ct with
      | none => exact ⟨rfl, rfl, hp⟩
      | some =>
        rcases hp.setCell (c := { h.sessions.read p with
          ckr := some (kdfCK P ((h.sessions.read p).ckr.getD [])).1
          nr := (h.sessions.read p).nr + 1 }) hp.key rfl rfl with ⟨howned, -, hview⟩
        exact ⟨rfl, hview, howned⟩
    · -- The path runs on the copy; the original lies below the mark.
      simp only [if_neg hnext]
      rcases hp.clone grow with ⟨htrial, hcopy, hclone⟩
      rcases refines_advance htrial grow P keys hdr ct with ⟨hkeeps, hres⟩
      have hall := Keeps.trans _ _ _ _ hcopy hkeeps
      rcases hexec : (Heap.advance grow P h.sessions.size keys hdr ct).exec (h.clone grow p)
        with ⟨r, h'⟩
      rw [hexec] at hkeeps hres hall
      simp only [hclone] at hres
      cases hadv : (h.session p).advance P keys hdr ct with
      | error =>
        simp only [hadv] at hres
        subst hres
        rcases hall.session_eq hp with ⟨hview, howned⟩
        exact ⟨rfl, hview, howned⟩
      | ok result =>
        rcases result with ⟨_, _⟩
        simp only [hadv] at hres
        rcases hres with ⟨rfl, hview, hlast⟩
        have hlive : p < h'.sessions.size :=
          Nat.lt_of_lt_of_le hp.ptr_live hall.sessions_size
        rcases hlast.adopt hlive with ⟨howned, hadopt⟩
        exact ⟨rfl, hadopt.trans hview, howned⟩

lemma call_refines (c : Call) :
    (h.call grow P p c).1 = ((h.session p).call P c).1 ∧
      (h.call grow P p c).2.session p = ((h.session p).call P c).2 ∧
      Owned bottom p (h.call grow P p c).2 := by
  cases c with
  | encrypt =>
    rcases hp.setCell (c := { h.sessions.read p with
      cks := some (kdfCK P ((h.sessions.read p).cks.getD [])).1
      ns := (h.sessions.read p).ns + 1 }) hp.key rfl rfl with ⟨howned, -, hview⟩
    exact ⟨rfl, hview, howned⟩
  | decrypt keys hdr ct =>
    rcases decrypt_refines hp grow P keys hdr ct with ⟨hout, hview, howned⟩
    exact ⟨congrArg Reply.opened hout, hview, howned⟩

end

lemma Created.owned {P : Primitives} {sk : Bytes} (hnew : Created P sk p h) :
    Owned bottom p h := by
  have halloc : ∀ (h : Heap) (dhs : KeyPair) (dhr : Option Bytes) (rk : Bytes),
      Owned bottom h.sessions.size (h.allocSession dhs dhr rk) := by
    intro h dhs dhr rk
    have hread : (h.allocSession dhs dhr rk).sessions.read h.sessions.size = _ :=
      Region.read_alloc_self h.sessions _
    refine ⟨Nat.zero_le _, ?_, ?_, Nat.zero_le _, ?_, Or.inl (Nat.zero_le _), ?_,
      Nat.zero_le _⟩
    · simp [allocSession]
    · simp [hread]
    · rw [hread]
      simp [allocSession]
    · rw [hread]
      exact Slice.valid_nil _
  cases hnew with
  | responder kp h => exact halloc h kp none sk
  | @initiator spk keys h₀ _ _ hnew =>
    unfold Heap.newInitiatorSession at hnew
    cases hpub : publicKeyFromBytes spk with
    | none => simp [hpub] at hnew
    | some dhr =>
      cases keys with
      | none => simp [hpub] at hnew
      | some dhs =>
        cases hdh : P.x25519 dhs.priv dhr with
        | none => simp [hpub, hdh, exec_bind] at hnew
        | some =>
          simp only [hpub, hdh, exec_bind, Proc.exec_get, Proc.exec_set,
            exec_update, Proc.exec_pure, Prod.mk.injEq, Except.ok.injEq] at hnew
          rcases hnew with ⟨rfl, rfl⟩
          have hp := halloc h₀ dhs (some dhr) sk
          refine (hp.setCell ?_ ?_ ?_).1
          · exact hp.key
          · rfl
          · rfl

end

end Heap

open Foundations

/-- When `Decrypt` fails on a session that any calls have led to, every later sequence of calls
gives the results it would have given without the failing call. -/
theorem failed_decrypt_invisible {P : Primitives} {sk : Bytes} {p : Nat} {h₀ : Heap}
    (grow : Nat → Nat) (hnew : Heap.Created P sk p h₀) (calls : List Call)
    (keys : Option KeyPair) (hdr : Header) (ct : Bytes) (e : SessionError)
    (hfail : ((Machine.final (Heap.call grow P p) h₀ calls).decrypt grow P p keys hdr ct).1 =
      .error e) (later : List Call) : Machine.outputs (Heap.call grow P p)
        ((Machine.final (Heap.call grow P p) h₀ calls).decrypt grow P p keys hdr ct).2 later =
      Machine.outputs (Heap.call grow P p) (Machine.final (Heap.call grow P p) h₀ calls) later := by
  have hstep : ∀ h c, Heap.Owned Heap.bottom p h →
      Heap.Owned Heap.bottom p (h.call grow P p c).2 :=
    fun h c hp => (Heap.call_refines hp grow P c).2.2
  have hp : Heap.Owned Heap.bottom p (Machine.final (Heap.call grow P p) h₀ calls) :=
    Machine.invariant_final (Heap.call grow P p) hstep hnew.owned calls
  generalize Machine.final (Heap.call grow P p) h₀ calls = h at hfail hp ⊢
  rcases Heap.decrypt_refines hp grow P keys hdr ct with ⟨hout, hview, hp'⟩
  have hsame : (h.decrypt grow P p keys hdr ct).2.session p = h.session p := by
    rw [hview]
    exact Session.decrypt_of_error (hout.symm.trans hfail)
  -- Both memories show the same session, and calls look at nothing else.
  have hvalue : ∀ h₁, Heap.Owned Heap.bottom p h₁ →
      Machine.outputs (Heap.call grow P p) h₁ later =
        Machine.outputs (Session.call P) (h₁.session p) later := by
    intro h₁ h₁p
    refine Machine.outputs_eq_of_simulation (Heap.call grow P p)
      (R := fun h s => Heap.Owned Heap.bottom p h ∧ h.session p = s) ?_ ⟨h₁p, rfl⟩
      (Machine.guarded_true (Heap.call grow P p) h₁ later)
    rintro h₂ s c ⟨hp₂, rfl⟩ -
    rcases Heap.call_refines hp₂ grow P c with ⟨hreply, hnext, howned⟩
    exact ⟨hreply, howned, hnext⟩
  rw [hvalue _ hp', hvalue _ hp, hsame]

open Sample in
/-- A frame with a forged ratchet key makes the copy skip, ratchet and skip again before it is
refused.  The message it delayed still opens. -/
theorem failed_decrypt_invisible_forged : Machine.outputs (Heap.call id primitives 0)
        (Heap.decrypt id primitives 0 (some firstKey) ⟨fit 32 [77], 4, 1, none⟩ [1, 2, 3]
          (Machine.final (Heap.call id primitives 0)
            (Heap.newResponderSession secret preKey ⟨⟨[]⟩, ⟨[]⟩, ⟨[]⟩⟩).2
            [.decrypt (some replyKey) (frame 1 [42]).1 (frame 1 [42]).2])).2
        [.decrypt none (frame 0 [41]).1 (frame 0 [41]).2, .encrypt [43]] =
      Machine.outputs (Heap.call id primitives 0) (Machine.final (Heap.call id primitives 0)
          (Heap.newResponderSession secret preKey ⟨⟨[]⟩, ⟨[]⟩, ⟨[]⟩⟩).2
          [.decrypt (some replyKey) (frame 1 [42]).1 (frame 1 [42]).2])
        [.decrypt none (frame 0 [41]).1 (frame 0 [41]).2, .encrypt [43]] :=
  failed_decrypt_invisible id (.responder preKey ⟨⟨[]⟩, ⟨[]⟩, ⟨[]⟩⟩) _ (some firstKey)
    ⟨fit 32 [77], 4, 1, none⟩ [1, 2, 3] .decrypt (by decide +kernel) _

end SyncApp.Ratchet
