import SyncApp.Ratchet.Sample

/-!
# X3DH

`X3DHInitiator` and `X3DHResponder` of `pkg/e2e/x3dh.go` hash the same three or four Diffie-Hellman
secrets.  One secret does not show which key came from which side; together they do, unless an
initiator's identity key is its ephemeral key too.

Main results:

- `x3dh_agreement`: the sides agree, and disagree if their keys do.
-/

namespace SyncApp.Ratchet

open List

/-- Ed25519. -/
structure Signatures where
  publicKey : Bytes → Bytes
  sign (priv message : Bytes) : Bytes
  verify (pub message sig : Bytes) : Bool
  publicKey_length : ∀ priv, (publicKey priv).length = 32
  sign_length : ∀ priv message, (sign priv message).length = 64

/-- What a private key signs verifies under its public key. -/
def Signatures.Correct (E : Signatures) : Prop :=
  ∀ priv message, E.verify (E.publicKey priv) message (E.sign priv message) = true

/-- Only what the holder of a signing key has signed verifies under its public key. -/
def Signatures.Unforgeable (E : Signatures) (signed : Bytes → Bytes → Prop) : Prop :=
  ∀ pub message sig, E.verify pub message sig = true → signed pub message

def verifyPreKey (E : Signatures) (signingPub signedPreKeyPub sig : Bytes) : Bool :=
  if signingPub.length ≠ 32 ∨ sig.length ≠ 64 then false
  else E.verify signingPub signedPreKeyPub sig

/-- `PreKeyBundle`; the one-time prekey is empty if there is none. -/
structure PreKeyBundle where
  identityKey : Bytes
  signingKey : Bytes
  signedPreKey : Bytes
  signedPreKeySig : Bytes
  oneTimePreKey : Bytes

structure InitiatorKeys where
  identity : KeyPair
  ephemeral : KeyPair

structure ResponderKeys where
  identity : KeyPair
  signedPreKey : KeyPair
  oneTimePreKey : Option KeyPair

/-- The errors of the handshake. -/
inductive X3DHError where
  /-- `ErrBadPreKeySignature`: "e2e: bad signed-prekey signature". -/
  | badPreKeySignature
  /-- A public key is not 32 octets long. -/
  | invalidPublicKey
  /-- X25519 refused a public key. -/
  | lowOrderPoint
  /-- `errNoOneTimeKey`. -/
  | noOneTimeKey
deriving DecidableEq

/-- `PublicKeyFromBytes`, with its error. -/
def parsePublicKey (b : Bytes) : Except X3DHError Bytes :=
  match publicKeyFromBytes b with
  | none => .error .invalidPublicKey
  | some pub => .ok pub

variable (P : Primitives)

def dh (priv pub : Bytes) : Except X3DHError Bytes :=
  match P.x25519 priv pub with
  | none => .error .lowOrderPoint
  | some secret => .ok secret

def kdfRootFromX3DH (dhConcat : Bytes) : Bytes :=
  P.hkdf (replicate 32 0xff ++ dhConcat) [] (ascii "SyncApp-X3DH".toList) 32

/-- The part of `X3DHInitiator` before the derivation. -/
def initiatorConcat (E : Signatures) (a : InitiatorKeys)
    (bundle : PreKeyBundle) : Except X3DHError Bytes :=
  if verifyPreKey E bundle.signingKey bundle.signedPreKey bundle.signedPreKeySig then do
    let ikB ← parsePublicKey bundle.identityKey
    let spkB ← parsePublicKey bundle.signedPreKey
    let dh1 ← dh P a.identity.priv spkB
    let dh2 ← dh P a.ephemeral.priv ikB
    let dh3 ← dh P a.ephemeral.priv spkB
    let concat := dh1 ++ dh2 ++ dh3
    if 0 < bundle.oneTimePreKey.length then do
      let opkB ← parsePublicKey bundle.oneTimePreKey
      let dh4 ← dh P a.ephemeral.priv opkB
      pure (concat ++ dh4)
    else pure concat
  else .error .badPreKeySignature

/-- `X3DHInitiator`: the secret, and the ephemeral public key. -/
def x3dhInitiator (E : Signatures) (a : InitiatorKeys)
    (bundle : PreKeyBundle) : Except X3DHError (Bytes × Bytes) := do
  let concat ← initiatorConcat P E a bundle
  pure (kdfRootFromX3DH P concat, a.ephemeral.pub)

/-- The part of `X3DHResponder` before the derivation. -/
def responderConcat (b : ResponderKeys) (aIdentityPub aEphemeralPub : Bytes)
    (usedOneTime : Bool) : Except X3DHError Bytes := do
  let ikA ← parsePublicKey aIdentityPub
  let ekA ← parsePublicKey aEphemeralPub
  let dh1 ← dh P b.signedPreKey.priv ikA
  let dh2 ← dh P b.identity.priv ekA
  let dh3 ← dh P b.signedPreKey.priv ekA
  let concat := dh1 ++ dh2 ++ dh3
  if usedOneTime then
    match b.oneTimePreKey with
    | none => .error .noOneTimeKey
    | some oneTime => do
        let dh4 ← dh P oneTime.priv ekA
        pure (concat ++ dh4)
  else pure concat

def x3dhResponder (b : ResponderKeys) (aIdentityPub aEphemeralPub : Bytes)
    (usedOneTime : Bool) : Except X3DHError Bytes := do
  let concat ← responderConcat P b aIdentityPub aEphemeralPub usedOneTime
  pure (kdfRootFromX3DH P concat)

def KeyPair.ofPriv (priv : Bytes) : KeyPair := ⟨priv, P.x25519Base priv⟩

/-- The keys of a handshake, as private keys, of the initiator and of the responder; one side
knows its own, and the public keys of the others. -/
structure Exponents where
  identityA : Bytes
  ephemeralA : Bytes
  identityB : Bytes
  signedPreKeyB : Bytes
  oneTimeB : Option Bytes

namespace Exponents

variable (P : Primitives) (e : Exponents)

def initiatorKeys : InitiatorKeys where
  identity := .ofPriv P e.identityA
  ephemeral := .ofPriv P e.ephemeralA

/-- The bundle that the initiator is given. -/
def bundle (signingKey signedPreKeySig : Bytes) : PreKeyBundle where
  identityKey := P.x25519Base e.identityB
  signingKey := signingKey
  signedPreKey := P.x25519Base e.signedPreKeyB
  signedPreKeySig := signedPreKeySig
  oneTimePreKey := (e.oneTimeB.map P.x25519Base).getD []

/-- What the responder holds; a one-time prekey that was not used is of no account. -/
def responderKeys (spare : Option KeyPair) : ResponderKeys where
  identity := .ofPriv P e.identityB
  signedPreKey := .ofPriv P e.signedPreKeyB
  oneTimePreKey := (e.oneTimeB.map (KeyPair.ofPriv P)).or spare

/-- The public keys, and whether there is a one-time prekey. -/
def publics : (Bytes × Bytes) × (Bytes × Bytes) × Option Bytes :=
  ((P.x25519Base e.identityA, P.x25519Base e.ephemeralA),
    (P.x25519Base e.identityB, P.x25519Base e.signedPreKeyB), e.oneTimeB.map P.x25519Base)

def all : List Bytes :=
  [e.identityA, e.ephemeralA, e.identityB, e.signedPreKeyB] ++ e.oneTimeB.toList

/-- The Diffie-Hellman pairs of a handshake: the initiator's key first. -/
def pairs : List (Bytes × Bytes) :=
  [(e.identityA, e.signedPreKeyB), (e.ephemeralA, e.identityB), (e.ephemeralA, e.signedPreKeyB)] ++
    e.oneTimeB.toList.map fun oneTime => (e.ephemeralA, oneTime)

end Exponents

/-- Diffie-Hellman between some keys: both orders give the same secret, of 32 octets. -/
def Primitives.Commutes (keys : List Bytes) : Prop :=
  ∀ a ∈ keys, ∀ b ∈ keys, P.x25519 a (P.x25519Base b) = P.x25519 b (P.x25519Base a) ∧
    (P.x25519 a (P.x25519Base b)).map length = some 32
deriving Decidable

/-- Diffie-Hellman between some keys: the secret determines the two public keys. -/
def Primitives.PairInjective (keys : List Bytes) : Prop :=
  ∀ a ∈ keys, ∀ b ∈ keys, ∀ c ∈ keys, ∀ d ∈ keys,
    P.x25519 a (P.x25519Base b) = P.x25519 c (P.x25519Base d) →
      P.x25519Base a = P.x25519Base c ∧ P.x25519Base b = P.x25519Base d ∨
        P.x25519Base a = P.x25519Base d ∧ P.x25519Base b = P.x25519Base c
deriving Decidable

variable {P : Primitives} {E : Signatures}

/-- The initiator derives a secret only from a bundle whose signed prekey was signed by the bundle's
signing key. -/
lemma x3dhInitiator_verified {signed : Bytes → Bytes → Prop} (hforge : E.Unforgeable signed)
    {a : InitiatorKeys} {bundle : PreKeyBundle} {out : Bytes × Bytes}
    (h : x3dhInitiator P E a bundle = .ok out) : signed bundle.signingKey bundle.signedPreKey := by
  have hver : verifyPreKey E bundle.signingKey bundle.signedPreKey bundle.signedPreKeySig =
      true := by
    by_contra hbad
    simp [x3dhInitiator, initiatorConcat, hbad, bind, Except.bind] at h
  unfold verifyPreKey at hver
  split at hver
  · cases hver
  · exact hforge _ _ _ hver

namespace Exponents

def secret (P : Primitives) (pair : Bytes × Bytes) : Bytes :=
  (P.x25519 pair.1 (P.x25519Base pair.2)).getD []

/-- What both sides hash. -/
def concat (P : Primitives) (e : Exponents) : Bytes := (e.pairs.map (secret P)).flatten

lemma forall_mem_pairs {e : Exponents} {p : Bytes × Bytes → Prop} : (∀ pair ∈ e.pairs, p pair) ↔
      p (e.identityA, e.signedPreKeyB) ∧ p (e.ephemeralA, e.identityB) ∧
        p (e.ephemeralA, e.signedPreKeyB) ∧ ∀ k ∈ e.oneTimeB, p (e.ephemeralA, k) := by
  simp [pairs]

lemma mem_all_of_mem_pairs {e : Exponents} :
    ∀ pair ∈ e.pairs, pair.1 ∈ e.all ∧ pair.2 ∈ e.all := by
  refine forall_mem_pairs.mpr ⟨by simp [all], by simp [all], by simp [all], ?_⟩
  intro k hk
  exact ⟨by simp [all], mem_append_right _ (Option.mem_toList.mpr hk)⟩

end Exponents

variable {e f : Exponents}

lemma parsePublicKey_base (P : Primitives) (priv : Bytes) :
    parsePublicKey (P.x25519Base priv) = .ok (P.x25519Base priv) := by
  simp [parsePublicKey, publicKeyFromBytes, P.x25519Base_length]

variable {a b sig signingKey : Bytes} {keys : List Bytes}

lemma Primitives.Commutes.secret (h : P.Commutes keys) (ha : a ∈ keys) (hb : b ∈ keys) :
    P.x25519 a (P.x25519Base b) = some (Exponents.secret P (a, b)) ∧
      P.x25519 b (P.x25519Base a) = some (Exponents.secret P (a, b)) ∧
      (Exponents.secret P (a, b)).length = 32 := by
  rcases h a ha b hb with ⟨hcomm, hlen⟩
  rcases Option.map_eq_some_iff.mp hlen with ⟨secret, hsec, hlen⟩
  rw [← hcomm, Exponents.secret, hsec]
  exact ⟨rfl, rfl, hlen⟩

lemma Primitives.Commutes.dh (h : P.Commutes keys) (ha : a ∈ keys) (hb : b ∈ keys) :
    Ratchet.dh P a (P.x25519Base b) = .ok (Exponents.secret P (a, b)) ∧
      Ratchet.dh P b (P.x25519Base a) = .ok (Exponents.secret P (a, b)) := by
  rcases h.secret ha hb with ⟨hab, hba, -⟩
  simp [Ratchet.dh, hab, hba]

open Exponents (bundle forall_mem_pairs initiatorKeys mem_all_of_mem_pairs pairs responderKeys
  secret)

lemma dh_pairs (h : P.Commutes e.all) : ∀ pair ∈ e.pairs,
    dh P pair.1 (P.x25519Base pair.2) = .ok (secret P pair) ∧
      dh P pair.2 (P.x25519Base pair.1) = .ok (secret P pair) := by
  intro pair hpair
  rcases mem_all_of_mem_pairs pair hpair with ⟨hfst, hsnd⟩
  exact h.dh hfst hsnd

lemma initiatorConcat_eq (h : P.Commutes e.all)
    (hver : verifyPreKey E signingKey (P.x25519Base e.signedPreKeyB) sig = true) :
    initiatorConcat P E (e.initiatorKeys P) (e.bundle P signingKey sig) = .ok (e.concat P) := by
  rcases forall_mem_pairs.mp (dh_pairs h) with ⟨hdh1, hdh2, hdh3, hdh4⟩
  rcases e with ⟨_, _, _, _, _ | opkB⟩
  · simp [initiatorConcat, bundle, initiatorKeys, KeyPair.ofPriv, hver,
      parsePublicKey_base, hdh1, hdh2, hdh3, Exponents.concat, pairs, bind, Except.bind,
      pure, Except.pure]
  · simp [initiatorConcat, bundle, initiatorKeys, KeyPair.ofPriv, hver,
      parsePublicKey_base, hdh1, hdh2, hdh3, hdh4 opkB rfl, Exponents.concat, pairs,
      P.x25519Base_length, bind, Except.bind, pure, Except.pure]

lemma responderConcat_eq (h : P.Commutes e.all) (spare : Option KeyPair) :
    responderConcat P (e.responderKeys P spare) (P.x25519Base e.identityA)
      (P.x25519Base e.ephemeralA) e.oneTimeB.isSome = .ok (e.concat P) := by
  rcases forall_mem_pairs.mp (dh_pairs h) with ⟨hdh1, hdh2, hdh3, hdh4⟩
  rcases e with ⟨_, _, _, _, _ | opkB⟩
  · simp [responderConcat, responderKeys, KeyPair.ofPriv, parsePublicKey_base, hdh1, hdh2,
      hdh3, Exponents.concat, pairs, bind, Except.bind, pure, Except.pure]
  · simp [responderConcat, responderKeys, KeyPair.ofPriv, parsePublicKey_base, hdh1, hdh2,
      hdh3, hdh4 opkB rfl, Exponents.concat, pairs, bind, Except.bind, pure, Except.pure]

/-! ## What the hashed secrets determine -/

/-- Blocks of one length are found again in their concatenation. -/
lemma blocks_inj {n : Nat} (hn : 0 < n) {xs ys : List Bytes} (hxs : ∀ x ∈ xs, x.length = n)
    (hys : ∀ y ∈ ys, y.length = n) (h : xs.flatten = ys.flatten) : xs = ys := by
  have hemp : ∀ {z : Bytes} {zs : List Bytes}, z.length = n → [] ≠ (z :: zs).flatten := by
    intro z zs hz heq
    have hlen := congrArg length heq
    rw [flatten_cons, length_append, hz, length_nil] at hlen
    omega
  induction xs generalizing ys with
  | nil =>
    cases ys with
    | nil => rfl
    | cons y => exact absurd h (hemp (hys y mem_cons_self))
  | cons x xs ih =>
    cases ys with
    | nil => exact absurd h.symm (hemp (hxs x mem_cons_self))
    | cons y =>
      have hlen := (hxs x mem_cons_self).trans (hys y mem_cons_self).symm
      rcases append_inj h hlen with ⟨rfl, hrest⟩
      rw [ih (fun z hz => hxs z (mem_cons_of_mem _ hz))
        (fun z hz => hys z (mem_cons_of_mem _ hz)) hrest]

lemma Primitives.PairInjective.of_secret (hinj : P.PairInjective keys) (h : P.Commutes keys)
    {p q : Bytes × Bytes} (hp : p.1 ∈ keys ∧ p.2 ∈ keys) (hq : q.1 ∈ keys ∧ q.2 ∈ keys)
    (heq : secret P p = secret P q) :
    P.x25519Base p.1 = P.x25519Base q.1 ∧ P.x25519Base p.2 = P.x25519Base q.2 ∨
      P.x25519Base p.1 = P.x25519Base q.2 ∧ P.x25519Base p.2 = P.x25519Base q.1 := by
  refine hinj _ hp.1 _ hp.2 _ hq.1 _ hq.2 ?_
  rw [(h.secret hp.1 hp.2).1, (h.secret hq.1 hq.2).1]
  exact congrArg some heq

/-- What the three secrets with the signed prekey and the identity determine, if the initiator's
ephemeral key is not its identity key. -/
lemma same_keys_of_unordered {ikA ekA ikB spkB ikA' ekA' ikB' spkB' : Bytes} (hne : ekA ≠ ikA)
    (h1 : ikA = ikA' ∧ spkB = spkB' ∨ ikA = spkB' ∧ spkB = ikA')
    (h2 : ekA = ekA' ∧ ikB = ikB' ∨ ekA = ikB' ∧ ikB = ekA')
    (h3 : ekA = ekA' ∧ spkB = spkB' ∨ ekA = spkB' ∧ spkB = ekA') :
    ikA = ikA' ∧ ekA = ekA' ∧ ikB = ikB' ∧ spkB = spkB' := by
  have hothers : ikA = ikA' ∧ ekA = ekA' ∧ spkB = spkB' := by
    rcases h1 with ⟨hik, hspk⟩ | ⟨hik, hspk⟩
    · -- The first secret is read alike, so the ephemeral keys are told apart by the third.
      refine ⟨hik, ?_, hspk⟩
      rcases h3 with ⟨hek, -⟩ | ⟨hek, hek'⟩
      · exact hek
      · rw [hek, ← hspk, hek']
    · rcases h3 with ⟨hek, hspk'⟩ | ⟨hek, -⟩
      · exact ⟨by rw [hik, ← hspk', hspk], hek, hspk'⟩
      · -- The mirrored reading makes the ephemeral key the identity key.
        exact absurd (hek.trans hik.symm) hne
  rcases hothers with ⟨hik, hek, hspk⟩
  refine ⟨hik, hek, ?_, hspk⟩
  rcases h2 with ⟨-, hikB⟩ | ⟨hek', hikB⟩
  · exact hikB
  · rw [hikB, ← hek, hek']

/-- Two sides that hash the same mean the same keys, if the initiator's ephemeral key is not its
identity key. -/
lemma publics_of_same_secrets (hcomm : P.Commutes (e.all ++ f.all))
    (hinj : P.PairInjective (e.all ++ f.all))
    (hne : P.x25519Base e.ephemeralA ≠ P.x25519Base e.identityA)
    (h : e.concat P = f.concat P) : e.publics P = f.publics P := by
  have hpe : ∀ {pair}, pair ∈ e.pairs → pair.1 ∈ e.all ++ f.all ∧ pair.2 ∈ e.all ++ f.all := by
    intro pair hpair
    exact (mem_all_of_mem_pairs pair hpair).imp (mem_append_left _) (mem_append_left _)
  have hpf : ∀ {pair}, pair ∈ f.pairs → pair.1 ∈ e.all ++ f.all ∧ pair.2 ∈ e.all ++ f.all := by
    intro pair hpair
    exact (mem_all_of_mem_pairs pair hpair).imp (mem_append_right _) (mem_append_right _)
  have hlen : ∀ {pairs : List (Bytes × Bytes)},
      (∀ pair ∈ pairs, pair.1 ∈ e.all ++ f.all ∧ pair.2 ∈ e.all ++ f.all) →
      ∀ x ∈ pairs.map (secret P), x.length = 32 := by
    intro pairs hpairs x hx
    rcases mem_map.mp hx with ⟨pair, hpair, rfl⟩
    exact (hcomm.secret (hpairs pair hpair).1 (hpairs pair hpair).2).2.2
  have hsecrets : e.pairs.map (secret P) = f.pairs.map (secret P) :=
    blocks_inj (n := 32) (by decide) (hlen fun _ => hpe) (hlen fun _ => hpf) h
  have hread := fun {p q : Bytes × Bytes} (hp : p ∈ e.pairs) (hq : q ∈ f.pairs) =>
    hinj.of_secret hcomm (hpe hp) (hpf hq)
  rcases e with ⟨_, _, _, _, opkB⟩
  rcases f with ⟨_, _, _, _, opkB'⟩
  simp only [pairs, cons_append, nil_append, map_cons,
    cons.injEq] at hsecrets
  rcases hsecrets with ⟨hdh1, hdh2, hdh3, hdh4⟩
  rcases same_keys_of_unordered hne
    (hread (by simp [pairs]) (by simp [pairs]) hdh1)
    (hread (by simp [pairs]) (by simp [pairs]) hdh2)
    (hread (by simp [pairs]) (by simp [pairs]) hdh3) with
    ⟨hik, hek, hikB, hspk⟩
  have hone : opkB.map P.x25519Base = opkB'.map P.x25519Base := by
    cases opkB with
    | none =>
      cases opkB' with
      | none => rfl
      | some => simp at hdh4
    | some =>
      cases opkB' with
      | none => simp at hdh4
      | some =>
        simp only [Option.toList_some, map_cons, map_nil, cons.injEq,
          and_true] at hdh4
        rcases hread (by simp [pairs]) (by simp [pairs]) hdh4 with
          ⟨-, hone⟩ | ⟨hone, hone'⟩
        · exact congrArg some hone
        · refine congrArg some ?_
          exact hone'.trans (hek.symm.trans hone)
  simp only [Exponents.publics]
  rw [hik, hek, hikB, hspk, hone]

/-! ## The handshake -/

lemma x3dhInitiator_eq (h : P.Commutes e.all)
    (hver : verifyPreKey E signingKey (P.x25519Base e.signedPreKeyB) sig = true) :
    x3dhInitiator P E (e.initiatorKeys P) (e.bundle P signingKey sig) =
      .ok (kdfRootFromX3DH P (e.concat P), P.x25519Base e.ephemeralA) := by
  rw [x3dhInitiator, initiatorConcat_eq h hver]
  rfl

lemma x3dhResponder_eq (h : P.Commutes e.all) (spare : Option KeyPair) :
    x3dhResponder P (e.responderKeys P spare) (P.x25519Base e.identityA)
      (P.x25519Base e.ephemeralA) e.oneTimeB.isSome = .ok (kdfRootFromX3DH P (e.concat P)) := by
  rw [x3dhResponder, responderConcat_eq h]
  rfl

/-- The two sides derive the same secret, with and without a one-time prekey; none comes from a
signed prekey that is not signed; and sides that mean different keys derive different secrets,
unless the initiator's ephemeral key is its identity key.  The primitives are ideal at these keys.
-/
theorem x3dh_agreement (P : Primitives) (E : Signatures) (signed : Bytes → Bytes → Prop)
    (hcorrect : E.Correct) (hforge : E.Unforgeable signed) :
    (∀ (e : Exponents) (signing : Bytes) (spare : Option KeyPair), P.Commutes e.all → ∃ sk,
        x3dhInitiator P E (e.initiatorKeys P)
          (e.bundle P (E.publicKey signing) (E.sign signing (P.x25519Base e.signedPreKeyB))) =
            .ok (sk, P.x25519Base e.ephemeralA) ∧
        x3dhResponder P (e.responderKeys P spare) (P.x25519Base e.identityA)
          (P.x25519Base e.ephemeralA) e.oneTimeB.isSome = .ok sk) ∧
    (∀ (a : InitiatorKeys) (bundle : PreKeyBundle) (out : Bytes × Bytes),
      x3dhInitiator P E a bundle = .ok out → signed bundle.signingKey bundle.signedPreKey) ∧
    (∀ (e f : Exponents) (signingKey sig sk sk' ek : Bytes) (spare : Option KeyPair),
      P.Commutes (e.all ++ f.all) → P.PairInjective (e.all ++ f.all) →
      (kdfRootFromX3DH P (e.concat P) = kdfRootFromX3DH P (f.concat P) → e.concat P = f.concat P) →
      P.x25519Base e.ephemeralA ≠ P.x25519Base e.identityA →
      x3dhInitiator P E (e.initiatorKeys P) (e.bundle P signingKey sig) = .ok (sk, ek) →
      x3dhResponder P (f.responderKeys P spare) (P.x25519Base f.identityA)
        (P.x25519Base f.ephemeralA) f.oneTimeB.isSome = .ok sk' →
      e.publics P ≠ f.publics P → sk ≠ sk') := by
  refine ⟨?_, ?_, ?_⟩
  · intro e signing spare hcomm
    refine ⟨_, x3dhInitiator_eq hcomm ?_, x3dhResponder_eq hcomm spare⟩
    simp [verifyPreKey, E.publicKey_length, E.sign_length, hcorrect signing]
  · intro a bundle out hok
    exact x3dhInitiator_verified hforge hok
  · intro e f signingKey sig sk sk' ek spare hcomm hinj hkdf hne hinit hresp hdiffer
    have hver : verifyPreKey E signingKey (P.x25519Base e.signedPreKeyB) sig = true := by
      by_contra hbad
      simp [x3dhInitiator, initiatorConcat, bundle, hbad, bind, Except.bind] at hinit
    have hleft : P.Commutes e.all := fun a ha b hb =>
      hcomm a (mem_append_left _ ha) b (mem_append_left _ hb)
    have hright : P.Commutes f.all := fun a ha b hb =>
      hcomm a (mem_append_right _ ha) b (mem_append_right _ hb)
    rw [x3dhInitiator_eq hleft hver] at hinit
    rw [x3dhResponder_eq hright] at hresp
    cases hinit
    cases hresp
    intro hsame
    exact hdiffer (publics_of_same_secrets hcomm hinj hne (hkdf hsame))

namespace Sample

/-- The sample primitives, with a derivation that shows the first octet of every block. -/
def handshake : Primitives :=
  { primitives with
    hkdf := fun secret _ _ n =>
      fit n (UInt8.ofNat secret.length :: [32, 64, 96, 128].map fun i => secret.getD i 0)
    hkdf_length := by simp }

/-- A signature is the public key, padded. -/
def signatures : Signatures where
  publicKey priv := fit 32 priv
  sign priv _ := fit 64 (fit 32 priv)
  verify pub _ sig := decide (sig = fit 64 pub)
  publicKey_length := primitives.x25519Base_length
  sign_length priv _ := fit_length 64 (fit 32 priv)

/-- A handshake with a one-time prekey, and one in which the responder takes it that there was
none. -/
def withOneTime : Exponents := ⟨[1], [3], [9], [27], some [81]⟩

def withoutOneTime : Exponents := ⟨[1], [3], [9], [27], none⟩

/-- Both sides derive the same secret; if the responder leaves out the one-time prekey, it derives
another. -/
theorem x3dh_agreement_one_time : (∃ sk,
      x3dhInitiator handshake signatures (withOneTime.initiatorKeys handshake)
        (withOneTime.bundle handshake (fit 32 [7]) (fit 64 [7])) = .ok (sk, fit 32 [3]) ∧
      x3dhResponder handshake (withOneTime.responderKeys handshake none) (fit 32 [1])
        (fit 32 [3]) true = .ok sk) ∧ (kdfRootFromX3DH handshake (withOneTime.concat handshake) ≠
      kdfRootFromX3DH handshake (withoutOneTime.concat handshake)) := by
  rcases x3dh_agreement handshake signatures (fun _ _ => True)
    (fun _ _ => by simp [signatures]) (fun _ _ _ _ => trivial) with ⟨hsame, -, hdiffer⟩
  refine ⟨hsame withOneTime [7] none (by decide +kernel), ?_⟩
  exact hdiffer withOneTime withoutOneTime (fit 32 [7]) (fit 64 [7]) _ _ (fit 32 [3]) none
    (by decide +kernel) (by decide +kernel) (by decide +kernel) (by decide +kernel)
    (x3dhInitiator_eq (by decide +kernel) (by decide +kernel))
    (x3dhResponder_eq (by decide +kernel) none) (by decide +kernel)

/-- An initiator uses its identity key as its ephemeral key, with a peer that uses its identity key
as its signed prekey; the other way round the keys differ and the secrets do not. -/
theorem reused_key_mirrored : let e : Exponents := ⟨[1], [1], [3], [3], none⟩
    let f : Exponents := ⟨[3], [3], [1], [1], none⟩
    (handshake.Commutes (e.all ++ f.all) ∧ handshake.PairInjective (e.all ++ f.all) ∧
      (kdfRootFromX3DH handshake (e.concat handshake) =
        kdfRootFromX3DH handshake (f.concat handshake) → e.concat handshake = f.concat handshake)) ∧
    e.publics handshake ≠ f.publics handshake ∧
    (∃ sk,
      x3dhInitiator handshake signatures (e.initiatorKeys handshake)
        (e.bundle handshake (fit 32 [7]) (fit 64 [7])) = .ok (sk, fit 32 [1]) ∧
      x3dhResponder handshake (f.responderKeys handshake none) (fit 32 [3]) (fit 32 [3]) false =
        .ok sk) := by
  refine ⟨⟨by decide +kernel, by decide +kernel, by decide +kernel⟩, by decide +kernel, ?_⟩
  refine ⟨kdfRootFromX3DH handshake (Exponents.concat handshake ⟨[1], [1], [3], [3], none⟩), ?_, ?_⟩
  · exact x3dhInitiator_eq (e := ⟨[1], [1], [3], [3], none⟩) (by decide +kernel) (by decide +kernel)
  · refine (x3dhResponder_eq (e := ⟨[3], [3], [1], [1], none⟩) (by decide +kernel) none).trans ?_
    decide +kernel

end Sample

end SyncApp.Ratchet
