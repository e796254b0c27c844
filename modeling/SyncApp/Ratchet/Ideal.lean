import Mathlib.Data.Sym.Sym2
import SyncApp.Ratchet.Algebra

/-!
# Ratchet sessions under ideal primitives

The primitives as terms: a Diffie-Hellman output is the pair of its keys, a root key lists the
outputs absorbed, a chain key is its root and the number of steps, and a ciphertext opens under its
own key and header only.

Main results:

- `Opens.decrypt`: the key of a frame that opens was usable and is so no more.
- `Continues.encrypt`: sealing uses each position once.
-/

namespace SyncApp.Ratchet
namespace Ideal

open Foundations Generic
open RatchetSession (catchUp catchUp_cases decrypt decrypt_cases initiator responder skipLoop)
open EvictingMap (lookup_store_eq_some)

section Terms

variable (K A : Type)

/-- A root key: the secret that was agreed, and the outputs absorbed since, the last one first. -/
@[ext]
structure Root where
  secret : A
  outs : List (Sym2 K)

/-- A chain key: the root its chain began with, and the steps since. -/
structure ChainKey where
  root : Root K A
  step : Nat

@[ext]
structure MessageKey where
  root : Root K A
  step : Nat

/-- `RatchetHeader`. -/
structure Header where
  dh : K
  pn : Nat
  n : Nat
deriving DecidableEq

@[ext]
structure Cipher where
  key : MessageKey K A
  header : Header K
  text : String

/-- A key pair, with the draw of the key source it came from. -/
structure Pair where
  key : K
  draw : Nat

-- Equal outputs need not be the same term, so the comparisons are by fields: they evaluate.
section Comparisons

variable {K A} [DecidableEq K] [DecidableEq A]

instance : DecidableEq (Root K A) := fun _ _ => decidable_of_iff' _ Root.ext_iff

instance : DecidableEq (MessageKey K A) := fun _ _ => decidable_of_iff' _ MessageKey.ext_iff

instance : DecidableEq (Cipher K A) := fun _ _ => decidable_of_iff' _ Cipher.ext_iff

end Comparisons

abbrev terms [DecidableEq K] [DecidableEq A] : Algebra where
  Key := K
  Pair := Pair K
  Shared := Sym2 K
  Root := Root K A
  Chain := ChainKey K A
  MessageKey := MessageKey K A
  Header := Header K
  Cipher := Cipher K A
  Text := String
  Name := K × Nat
  pub := Pair.key
  diffieHellman pair key := some s(pair.key, key)
  kdfRootKey root out :=
    let next : Root K A := ⟨root.secret, out :: root.outs⟩
    (next, ⟨next, 0⟩)
  kdfChainKey chain := (⟨chain.root, chain.step + 1⟩, ⟨chain.root, chain.step⟩)
  header dh pn n := ⟨dh, pn, n⟩
  dh := Header.dh
  pn := Header.pn
  n := Header.n
  sealMessage key header text := ⟨key, header, text⟩
  openMessage key header c := if c.key = key ∧ c.header = header then some c.text else none
  skippedKey key n := (key, n)
  increment n := n + 1

end Terms

variable {K A : Type} [DecidableEq K] [DecidableEq A]

abbrev Line (K A : Type) [DecidableEq K] [DecidableEq A] : Type := RatchetSession (terms K A)

/-- The secret a session was made from. -/
def secret (s : Line K A) : A := s.rootKey.secret

variable {c : Cipher K A} {header : Header K} {text : String} {chain : ChainKey K A}
  {fresh : Pair K}

lemma openMessage_eq_some {key : MessageKey K A}
    (h : (terms K A).openMessage key header c = some text) : c = ⟨key, header, text⟩ := by
  dsimp only at h
  split at h
  · next hmatch =>
    rcases c with ⟨_, _, _⟩
    rcases hmatch with ⟨rfl, rfl⟩
    cases h
    rfl
  · cases h

/-- Places of keys, by the chain and then by the step. -/
def Before (a b : Nat × Nat) : Prop := a.1 < b.1 ∨ a.1 = b.1 ∧ a.2 < b.2

lemma Before.trans {a b c : Nat × Nat} (h : Before a b) (h' : Before b c) : Before a c := by
  unfold Before at *
  omega

lemma Before.irrefl (a : Nat × Nat) : ¬ Before a a := by
  unfold Before
  omega

/-- The place of a message key: how many outputs its root has absorbed, and its step. -/
def MessageKey.place (key : MessageKey K A) : Nat × Nat := (key.root.outs.length, key.step)

/-- The place of the next key of the receiving chain. -/
def frontier (s : Line K A) : Nat × Nat :=
  match s.receivingChainKey with
  | none => (0, 0)
  | some chain => (chain.root.outs.length, chain.step)

lemma frontier_eq {s : Line K A} (h : s.receivingChainKey = some chain) :
    frontier s = (chain.root.outs.length, chain.step) := by
  unfold frontier
  rw [h]

/-- What holds of a session whatever frames it was given. -/
structure Sane (s : Line K A) : Prop where
  depth : ∀ chain, s.receivingChainKey = some chain → chain.root.outs.length ≤ s.rootKey.outs.length
  receiving : ∀ chain, s.receivingChainKey = some chain → chain.root.secret = secret s
  stored : ∀ name key, s.skipped.lookup name = some key →
    Before key.place (frontier s) ∧ key.root.secret = secret s
  unique : ∀ name name' key, s.skipped.lookup name = some key →
    s.skipped.lookup name' = some key → name = name'

/-- A key that the session has passed and does not hold. -/
def Spent (s : Line K A) (key : MessageKey K A) : Prop :=
  Before key.place (frontier s) ∧ ∀ name, s.skipped.lookup name ≠ some key

/-- A session that another one has become. -/
structure Continues (s s' : Line K A) : Prop where
  sane : Sane s'
  secret : secret s' = secret s
  spent : ∀ key, Spent s key → Spent s' key

variable {s s' : Line K A}

lemma Continues.trans {s'' : Line K A} (h : Continues s s') (h' : Continues s' s'') :
    Continues s s'' :=
  ⟨h'.sane, h'.secret.trans h.secret, fun key hkey => h'.spent key (h.spent key hkey)⟩

lemma Continues.refl (h : Sane s) : Continues s s := ⟨h, rfl, fun _ hkey => hkey⟩

lemma Continues.of_eq (h : Sane s) (hroot : s'.rootKey = s.rootKey)
    (hchain : s'.receivingChainKey = s.receivingChainKey) (hstore : s'.skipped = s.skipped) :
    Continues s s' := by
  have hfrontier : frontier s' = frontier s := by
    unfold frontier
    rw [hchain]
  have hsec : Ideal.secret s' = Ideal.secret s := congrArg Root.secret hroot
  refine ⟨⟨?_, ?_, ?_, ?_⟩, hsec, ?_⟩
  · rw [hchain, hroot]
    exact h.depth
  · rw [hchain, hsec]
    exact h.receiving
  · rw [hstore, hfrontier, hsec]
    exact h.stored
  · rw [hstore]
    exact h.unique
  · intro key hkey
    unfold Spent at *
    rw [hstore, hfrontier]
    exact hkey

lemma sane_responder (sharedSecret : Root K A) (signedPreKey : Pair K) :
    Sane (responder sharedSecret signedPreKey : Line K A) where
  depth _ h := nomatch h
  receiving _ h := nomatch h
  stored _ _ h := by simp [responder] at h
  unique _ _ _ h := by simp [responder] at h

lemma sane_initiator {sharedSecret : Root K A} {theirSignedPreKey : K} {dhs : Pair K}
    (h : initiator (A := terms K A) sharedSecret theirSignedPreKey dhs = some s) :
    Sane s ∧ secret s = sharedSecret.secret := by
  cases h
  refine ⟨⟨?_, ?_, ?_, ?_⟩, rfl⟩
  · intro chain hchain
    cases hchain
  · intro chain hchain
    cases hchain
  · intro name key hkey
    simp at hkey
  · intro name name' key hkey
    simp at hkey

section

variable (h : Sane s) (hchain : s.receivingChainKey = some chain) (peer : K)
include h hchain

lemma Continues.skipOne : Continues s (s.skipOne peer chain) := by
  have hold : frontier s = (chain.root.outs.length, chain.step) := frontier_eq hchain
  have hnew : frontier (s.skipOne peer chain) = (chain.root.outs.length, chain.step + 1) := rfl
  have hmove : Before (frontier s) (frontier (s.skipOne peer chain)) := by
    rw [hold, hnew]
    exact .inr ⟨rfl, Nat.lt_succ_self _⟩
  -- The key that is stored lies at the frontier, so it is none of those stored before.
  have hplace : (⟨chain.root, chain.step⟩ : MessageKey K A).place = frontier s := hold.symm
  have hfresh : ∀ name, s.skipped.lookup name ≠ some ⟨chain.root, chain.step⟩ := by
    intro name hname
    have hpre := (h.stored _ _ hname).1
    rw [hplace] at hpre
    exact Before.irrefl _ hpre
  refine ⟨⟨?_, ?_, ?_, ?_⟩, rfl, ?_⟩
  · intro chain' hchain'
    cases hchain'
    exact h.depth chain hchain
  · intro chain' hchain'
    cases hchain'
    exact h.receiving chain hchain
  · intro name key hkey
    rcases lookup_store_eq_some hkey with ⟨-, rfl⟩ | ⟨-, hpre⟩
    · refine ⟨?_, h.receiving chain hchain⟩
      rw [show (⟨chain.root, chain.step⟩ : MessageKey K A).place = _ from hplace]
      exact hmove
    · exact ⟨(h.stored name key hpre).1.trans hmove, (h.stored name key hpre).2⟩
  · intro name name' key hkey hkey'
    rcases lookup_store_eq_some hkey with ⟨hname, rfl⟩ | ⟨-, hpre⟩
    · rcases lookup_store_eq_some hkey' with ⟨hname', -⟩ | ⟨-, hbefore'⟩
      · rw [hname, hname']
      · exact absurd hbefore' (hfresh name')
    · rcases lookup_store_eq_some hkey' with ⟨-, rfl⟩ | ⟨-, hbefore'⟩
      · exact absurd hpre (hfresh name)
      · exact h.unique name name' key hpre hbefore'
  · rintro key ⟨hpass, hgone⟩
    refine ⟨hpass.trans hmove, ?_⟩
    intro name hname
    rcases lookup_store_eq_some hname with ⟨-, rfl⟩ | ⟨-, hpre⟩
    · rw [show (⟨chain.root, chain.step⟩ : MessageKey K A).place = _ from hplace] at hpass
      exact Before.irrefl _ hpass
    · exact hgone name hpre

lemma Continues.skipLoop (upTo fuel : Nat) : Continues s (skipLoop peer upTo fuel chain s) := by
  induction fuel generalizing s chain with
  | zero => exact .refl h
  | succ fuel ih =>
    unfold skipLoop
    split
    · have hone := Continues.skipOne h hchain peer
      exact hone.trans (ih hone.sane rfl)
    · exact .refl h

end

lemma Continues.skipMessageKeys (h : Sane s) {upTo : Nat}
    (hskip : s.skipMessageKeys upTo = some s') : Continues s s' := by
  unfold RatchetSession.skipMessageKeys at hskip
  split at hskip
  · next hchain _ =>
    split at hskip
    · cases hskip
    · cases hskip
      exact .skipLoop h hchain ..
  · cases hskip
    exact .refl h

lemma Continues.dhRatchet (h : Sane s) (hrat : s.dhRatchet fresh header = some s') :
    Continues s s' := by
  cases hrat
  -- The new receiving chain has absorbed more than any chain before it.
  have hmove : ∀ place, Before place (frontier s) →
      Before place (s.rootKey.outs.length + 1, 0) := by
    intro place hplace
    cases hchain : s.receivingChainKey with
    | none =>
      have hzero : frontier s = (0, 0) := by
        unfold frontier
        rw [hchain]
      rw [hzero] at hplace
      unfold Before at hplace ⊢
      omega
    | some chain =>
      have hdepth := h.depth chain hchain
      rw [frontier_eq hchain] at hplace
      unfold Before at hplace ⊢
      omega
  refine ⟨⟨?_, ?_, ?_, ?_⟩, rfl, ?_⟩
  · intro chain hchain
    cases hchain
    simp
  · intro chain hchain
    cases hchain
    rfl
  · intro name key hkey
    exact ⟨hmove _ (h.stored name key hkey).1, (h.stored name key hkey).2⟩
  · exact h.unique
  · rintro key ⟨hpass, hgone⟩
    exact ⟨hmove _ hpass, hgone⟩

lemma Continues.catchUp (h : Sane s) (hcatch : s.catchUp fresh header = some s') :
    Continues s s' := by
  rcases catchUp_cases hcatch with hsame | ⟨u, v, hpre, hrat, hafter⟩
  · exact .skipMessageKeys h hsame
  · have hu := Continues.skipMessageKeys h hpre
    have hv := Continues.dhRatchet hu.sane hrat
    exact (hu.trans hv).trans (.skipMessageKeys hv.sane hafter)

/-! ## Opening and sealing -/

/-- A frame was opened: under the secret of the session, and with a key that was not spent and is
spent now. -/
structure Opens (s : Line K A) (header : Header K) (c : Cipher K A) (text : String)
    (s' : Line K A) : Prop extends Continues s s' where
  cipher : c.header = header ∧ c.text = text
  own : c.key.root.secret = Ideal.secret s
  unspent : ¬ Spent s c.key
  used : Spent s' c.key

lemma Opens.openNext (h : Sane s) (hopen : s.openNext header c = some (text, s')) :
    Opens s header c text s' := by
  unfold RatchetSession.openNext at hopen
  split at hopen
  · cases hopen
  · next chain hchain =>
    dsimp only at hopen
    split at hopen
    · cases hopen
    · next plaintext hmsg =>
      cases hopen
      have hc := openMessage_eq_some hmsg
      subst hc
      have hold : frontier s = (chain.root.outs.length, chain.step) := frontier_eq hchain
      have hmove : Before (frontier s) (chain.root.outs.length, chain.step + 1) := by
        rw [hold]
        exact .inr ⟨rfl, Nat.lt_succ_self _⟩
      have hplace : (⟨chain.root, chain.step⟩ : MessageKey K A).place = frontier s := hold.symm
      refine ⟨⟨⟨?_, ?_, ?_, ?_⟩, rfl, ?_⟩, ⟨rfl, rfl⟩, h.receiving chain hchain, ?_, ?_, ?_⟩
      · intro chain' hchain'
        cases hchain'
        exact h.depth chain hchain
      · intro chain' hchain'
        cases hchain'
        exact h.receiving chain hchain
      · intro name key hkey
        exact ⟨(h.stored name key hkey).1.trans hmove, (h.stored name key hkey).2⟩
      · exact h.unique
      · rintro key ⟨hpass, hgone⟩
        exact ⟨hpass.trans hmove, hgone⟩
      · rintro ⟨hpass, -⟩
        rw [hplace] at hpass
        exact Before.irrefl _ hpass
      · rw [hplace]
        exact hmove
      · intro name hname
        have hpre := (h.stored _ _ hname).1
        rw [hplace] at hpre
        exact Before.irrefl _ hpre

lemma Opens.trySkipped (h : Sane s) (hopen : s.trySkipped header c = some (text, s')) :
    Opens s header c text s' := by
  unfold RatchetSession.trySkipped at hopen
  dsimp only at hopen
  split at hopen
  · cases hopen
  · next key hkey =>
    split at hopen
    · cases hopen
    · next plaintext hmsg =>
      cases hopen
      have hc := openMessage_eq_some hmsg
      subst hc
      -- What is left in the store was there before.
      have hleft : ∀ name key',
          (s.skipped.consume (header.dh, header.n)).lookup name = some key' →
            name ≠ (header.dh, header.n) ∧ s.skipped.lookup name = some key' := by
        intro name key' hname
        rcases eq_or_ne name (header.dh, header.n) with rfl | hne
        · rw [EvictingMap.lookup_consume_self] at hname
          cases hname
        · rw [EvictingMap.lookup_consume_ne _ hne] at hname
          exact ⟨hne, hname⟩
      refine ⟨⟨⟨h.depth, h.receiving, ?_, ?_⟩, rfl, ?_⟩, ⟨rfl, rfl⟩, (h.stored _ _ hkey).2,
        ?_, (h.stored _ _ hkey).1, ?_⟩
      · intro name key' hname
        exact h.stored name key' (hleft name key' hname).2
      · intro name name' key' hname hname'
        exact h.unique name name' key' (hleft _ _ hname).2 (hleft _ _ hname').2
      · rintro key' ⟨hpass, hgone⟩
        exact ⟨hpass, fun name hname => hgone name (hleft _ _ hname).2⟩
      · rintro ⟨-, hgone⟩
        exact hgone _ hkey
      · intro name hname
        exact (hleft _ _ hname).1 (h.unique _ _ _ (hleft _ _ hname).2 hkey)

lemma Opens.after {t : Line K A} (h : Continues s t) (hopen : Opens t header c text s') :
    Opens s header c text s' :=
  ⟨h.trans hopen.toContinues, hopen.cipher, hopen.own.trans h.secret,
    fun hspent => hopen.unspent (h.spent _ hspent), hopen.used⟩

/-- A frame opens only under the secret of the session and with a key that was not spent, and the
key is spent from then on. -/
theorem Opens.decrypt (h : Sane s) (hopen : s.decrypt fresh header c = some (text, s')) :
    Opens s header c text s' := by
  rcases decrypt_cases hopen with hskipped | hnext | ⟨t, hcatch, hnext⟩
  · exact .trySkipped h hskipped
  · exact .openNext h hnext
  · have ht := Continues.catchUp h hcatch
    exact .after ht (.openNext ht.sane hnext)

theorem Continues.encrypt (h : Sane s) {out : Header K × Cipher K A}
    (hseal : s.encrypt text = some (out, s')) : Continues s s' := by
  unfold RatchetSession.encrypt at hseal
  split at hseal
  · cases hseal
  · cases hseal
    exact .of_eq h rfl rfl rfl

/-- Whether a frame opens, and what it says, does not depend on the key pair that is drawn. -/
lemma text_decrypt (s : Line K A) (fresh fresh' : Pair K) (header : Header K) (c : Cipher K A) :
    (s.decrypt fresh header c).map Prod.fst = (s.decrypt fresh' header c).map Prod.fst := by
  have hcatch : ((s.catchUp fresh header).bind fun s => s.openNext header c).map Prod.fst =
      ((s.catchUp fresh' header).bind fun s => s.openNext header c).map Prod.fst := by
    unfold catchUp
    split
    · rfl
    cases s.skipMessageKeys ((terms K A).pn header) with
    | none => rfl
    | some u =>
      have halike : RatchetSession.Alike ((u.dhRatchet fresh header).get rfl)
          ((u.dhRatchet fresh' header).get rfl) := ⟨rfl, rfl, rfl, rfl⟩
      exact (halike.text_skip _ header c).symm
  unfold decrypt
  split
  · rfl
  · split
    · rfl
    · exact hcatch

end Ideal
end SyncApp.Ratchet
