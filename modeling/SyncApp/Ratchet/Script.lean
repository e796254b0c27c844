import SyncApp.Ratchet.Conversation
import SyncApp.Ratchet.Opening
import SyncApp.Ratchet.Positions

/-!
# The script of a conversation

One sequence of ratchet keys, the responder's prekey first, then a key of each side in turn.
Neighbours agree on a secret, which starts a chain.  A side is at the number of its current key, its
epoch, and its store is a set of positions.

Main results:

- `Script.Stores.consume`: using a stored key removes its position.
- `Script.Stores.skip`: skipping adds the positions passed.
-/

namespace SyncApp.Ratchet

open Foundations List

/-- The keys of the initiator have odd numbers, those of the responder even ones. -/
def Side.parity : Side → Nat
  | .alice => 1
  | .bob => 0

lemma Side.parity_other (p : Side) : p.other.parity = 1 - p.parity := by
  cases p with
  | alice | bob => rfl

/-- The data behind a conversation. -/
structure Script where
  /-- The ratchet keys in the order of the epochs. -/
  keys : List KeyPair
  /-- The secret of each two neighbouring keys. -/
  outs : List Bytes
  /-- The number of messages sent on each chain. -/
  len : Nat → Nat
  /-- The epoch of each side. -/
  epoch : Side → Nat
  /-- The chain and the position of each frame a side sent. -/
  labels : Side → List (Nat × Nat)

namespace Script

variable (σ : Script)

def key (j : Nat) : KeyPair := σ.keys.getD j ⟨[], []⟩

variable (P : Primitives) (sk : Bytes)

/-- The root key of an epoch. -/
def root (σ : Script) (j : Nat) : Bytes :=
  rootAt P sk (σ.outs.take j)

/-- The chain key an epoch starts with. -/
def chain (σ : Script) (j : Nat) : Bytes :=
  chainAt P sk (σ.outs.take j)

/-- The length of the chain its owner sent on before this one. -/
def before : Nat → Nat
  | 0 => 0
  | 1 => 0
  | j + 2 => σ.len j

/-- How many positions of a chain a side has moved past, given its epoch and its
receive counter. -/
def passed (e nr j : Nat) : Nat :=
  if j + 1 < e then σ.len j else if j + 1 = e then nr else 0

/-- The name of a position in the skipped-key store. -/
def name (j n : Nat) : Bytes := skKey (σ.key j).pub (UInt32.ofNat n)

/-- The message key at a position. -/
def msgKey (σ : Script) (j n : Nat) : Bytes :=
  KeyChain.keyAt (kdfCK P) (σ.chain P sk j) n

/-- The sequence is as the protocol builds it. -/
structure WellFormed (P : Primitives) (σ : Script) : Prop where
  parity : ∀ p, σ.epoch p % 2 = p.parity
  adjacent : ∀ p, σ.epoch p = σ.epoch p.other + 1 ∨ σ.epoch p.other = σ.epoch p + 1
  length : ∀ p, σ.keys.length = max (σ.epoch p) (σ.epoch p.other) + 1
  outs_length : σ.outs.length + 1 = σ.keys.length
  generated : ∀ j < σ.keys.length, (σ.key j).Generated P
  agreed : ∀ j < σ.outs.length,
    P.x25519 (σ.key j).priv (σ.key (j + 1)).pub = some (σ.outs.getD j []) ∧
    P.x25519 (σ.key (j + 1)).priv (σ.key j).pub = some (σ.outs.getD j [])
  distinct : ∀ i < σ.keys.length, ∀ j < σ.keys.length, i % 2 = j % 2 →
    (σ.key i).pub = (σ.key j).pub → i = j
  len_lt : ∀ j, σ.len j < 2 ^ 32
  len_zero : σ.len 0 = 0
  len_new : ∀ j, σ.keys.length ≤ j → σ.len j = 0

section Passed

variable {σ : Script} {e nr j : Nat}

lemma passed_closed (h : j + 1 < e) : σ.passed e nr j = σ.len j :=
  if_pos h

lemma passed_current (h : j + 1 = e) : σ.passed e nr j = nr := by
  unfold passed
  rw [if_neg (by omega), if_pos h]

lemma passed_ahead (h : e ≤ j) : σ.passed e nr j = 0 := by
  unfold passed
  rw [if_neg (by omega), if_neg (by omega)]

end Passed

variable {P : Primitives} {σ : Script} {j : Nat} {sk : Bytes}

lemma WellFormed.length_behind {p : Side} (hσ : σ.WellFormed P)
    (hbehind : σ.epoch p.other = σ.epoch p + 1) : σ.keys.length = σ.epoch p + 2 := by
  have hmax := hσ.length p
  omega

lemma root_succ (h : j < σ.outs.length) :
    σ.root P sk (j + 1) = (kdfRK P (σ.root P sk j) (σ.outs.getD j [])).1 := by
  unfold root
  rw [take_add_one, getElem?_eq_getElem h]
  simp only [Option.toList_some, rootAt_concat, getD_eq_getElem?_getD,
    getElem?_eq_getElem h, Option.getD_some]

lemma chain_succ (h : j < σ.outs.length) :
    σ.chain P sk (j + 1) = (kdfRK P (σ.root P sk j) (σ.outs.getD j [])).2 := by
  unfold root chain
  rw [take_add_one, getElem?_eq_getElem h]
  simp only [Option.toList_some, chainAt_concat, getD_eq_getElem?_getD,
    getElem?_eq_getElem h, Option.getD_some]

lemma WellFormed.epoch_lt (hσ : σ.WellFormed P) (p : Side) : σ.epoch p < σ.keys.length := by
  have hlen := hσ.length p
  omega

lemma WellFormed.name_inj (hσ : σ.WellFormed P) {n j' n' : Nat} (hj : j < σ.keys.length)
    (hj' : j' < σ.keys.length) (hparity : j % 2 = j' % 2) (hn : n < 2 ^ 32) (hn' : n' < 2 ^ 32)
    (h : σ.name j n = σ.name j' n') : j = j' ∧ n = n' := by
  rcases skKey_inj.mp h with ⟨hpub, hcnt⟩
  refine ⟨hσ.distinct j hj j' hj' hparity hpub, ?_⟩
  rw [← toNat_ofNat hn, ← toNat_ofNat hn', hcnt]

/-- The store binds exactly the names of a set of positions, each to the message
key at the position. -/
def Stores (P : Primitives) (sk : Bytes) (σ : Script) (m : EvictingMap Bytes Bytes)
    (held : Nat → Nat → Prop) : Prop :=
  ∀ name key, m.lookup name = some key ↔
    ∃ j n, held j n ∧ name = σ.name j n ∧ key = σ.msgKey P sk j n

namespace Stores

variable {P : Primitives} {sk : Bytes} {σ : Script} {m : EvictingMap Bytes Bytes}
  {held held' : Nat → Nat → Prop}

lemma empty (h : ∀ j n, ¬ held j n) : σ.Stores P sk EvictingMap.empty held := by
  intro name key
  constructor
  · intro hlook
    simp at hlook
  · rintro ⟨j, n, hheld, -⟩
    exact absurd hheld (h j n)

lemma congr (hm : σ.Stores P sk m held) (h : ∀ j n, held' j n ↔ held j n) :
    σ.Stores P sk m held' := by
  intro name key
  rw [hm name key]
  simp only [h]

variable {j n : Nat}

section

variable (hm : σ.Stores P sk m held)
include hm

lemma lookup_of_held (h : held j n) : m.lookup (σ.name j n) = some (σ.msgKey P sk j n) :=
  (hm _ _).mpr ⟨j, n, h, rfl, rfl⟩

lemma lookup_of_not_held {name : Bytes} (h : ∀ j n, held j n → σ.name j n ≠ name) :
    m.lookup name = none := by
  cases hlook : m.lookup name with
  | none => rfl
  | some =>
    rcases (hm _ _).mp hlook with ⟨j, n, hheld, rfl, -⟩
    exact absurd rfl (h j n hheld)

theorem consume (hinj : ∀ j' n', held j' n' → σ.name j' n' = σ.name j n → j' = j ∧ n' = n) :
    σ.Stores P sk (m.consume (σ.name j n)) fun j' n' => held j' n' ∧ ¬ (j' = j ∧ n' = n) := by
  intro name key
  by_cases hname : name = σ.name j n
  · subst hname
    rw [EvictingMap.lookup_consume_self]
    constructor
    · intro h
      cases h
    · rintro ⟨j', n', ⟨hheld, hne⟩, hsame, -⟩
      exact absurd (hinj j' n' hheld hsame.symm) hne
  · rw [EvictingMap.lookup_consume_ne m hname, hm name key]
    constructor
    · rintro ⟨j', n', hheld, rfl, hkey⟩
      refine ⟨j', n', ⟨hheld, ?_⟩, rfl, hkey⟩
      rintro ⟨rfl, rfl⟩
      exact hname rfl
    · rintro ⟨j', n', ⟨hheld, -⟩, hrest⟩
      exact ⟨j', n', hheld, hrest⟩

end

theorem skip {s : Session} {a k : Nat} (hm : σ.Stores P sk s.skipped held)
    (hckr : s.ckr = some (KeyChain.advance (kdfCK P) a (σ.chain P sk j)))
    (hdhr : s.dhr = some (σ.key j).pub) (hnr : s.nr.toNat = a) (hround : a + k < 2 ^ 32)
    (hfits : s.skipped.size + k ≤ maxSkippedKeys)
    (hnew : ∀ i < k, ∀ j' n', held j' n' → σ.name j' n' ≠ σ.name j (a + i)) :
    (s.skipBy P k).skipped.size = s.skipped.size + k ∧ σ.Stores P sk (s.skipBy P k).skipped
        fun j' n' => held j' n' ∨ (j' = j ∧ a ≤ n' ∧ n' < a + k) := by
  have hpos : ∀ i < k, skKey (s.dhr.getD []) (s.nr + UInt32.ofNat i) = σ.name j (a + i) := by
    intro i hi
    rw [hdhr, Option.getD_some, name]
    congr 1
    apply ofNat_add_toNat
    rw [toNat_ofNat (by omega), hnr]
  rcases Session.lookup_skipBy_of_fits (P := P) hckr hfits (by omega) (fun i hi => by
    rw [hpos i hi]
    exact hm.lookup_of_not_held (hnew i hi)) with ⟨hsize, hlook⟩
  refine ⟨hsize, ?_⟩
  intro name key
  rw [hlook name key, hm name key]
  constructor
  · rintro (⟨i, hi, hname, hkey⟩ | ⟨j', n', hheld, hrest⟩)
    · refine ⟨j, a + i, Or.inr ⟨rfl, by omega, by omega⟩, hname.trans (hpos i hi), ?_⟩
      rw [hkey, KeyChain.keyAt_advance]
      rfl
    · exact ⟨j', n', Or.inl hheld, hrest⟩
  · rintro ⟨j', n', hheld | ⟨rfl, _, _⟩, hname, hkey⟩
    · exact Or.inr ⟨j', n', hheld, hname, hkey⟩
    · left
      refine ⟨n' - a, by omega, ?_, ?_⟩
      · rw [hpos (n' - a) (by omega), hname]
        congr 1
        omega
      · rw [hkey, KeyChain.keyAt_advance, msgKey]
        congr 1
        omega

end Stores
end Script
end SyncApp.Ratchet
