import SyncApp.Ratchet.Persistence

/-!
# Ratchet sessions over any primitives

The `RatchetSession` that the web, Android and iOS clients share (`ratchet.ts`, `Ratchet.kt`,
`Ratchet.swift`), over any keys, derivations and ciphers: octet strings, or terms.

Main results:

- `RatchetSession.decrypt_cases`: the ways in which a frame opens.
- `toSession_decrypt`: over octets it is the web client's session.
-/

namespace SyncApp.Ratchet
namespace Generic

open Foundations
open Web.RatchetSession (advance ratchetReceive ratchetSend sameDhr storeSkipped)

/-- What a session computes with. -/
structure Algebra where
  /-- Public keys. -/
  Key : Type
  /-- Key pairs. -/
  Pair : Type
  /-- Outputs of a key agreement. -/
  Shared : Type
  Root : Type
  Chain : Type
  MessageKey : Type
  Header : Type
  Cipher : Type
  Text : Type
  /-- Names of skipped keys. -/
  Name : Type
  [decKey : DecidableEq Key]
  [decName : DecidableEq Name]
  pub : Pair → Key
  diffieHellman : Pair → Key → Option Shared
  kdfRootKey : Root → Shared → Root × Chain
  kdfChainKey : Chain → Chain × MessageKey
  header (dh : Key) (pn n : Nat) : Header
  dh : Header → Key
  pn : Header → Nat
  n : Header → Nat
  sealMessage : MessageKey → Header → Text → Cipher
  openMessage : MessageKey → Header → Cipher → Option Text
  skippedKey : Key → Nat → Name
  increment : Nat → Nat

attribute [instance] Algebra.decKey Algebra.decName

/-- `RatchetSession`, without its key source. -/
structure RatchetSession (A : Algebra) where
  dhs : A.Pair
  dhr : Option A.Key
  rootKey : A.Root
  sendingChainKey : Option A.Chain
  receivingChainKey : Option A.Chain
  sent : Nat
  received : Nat
  previousSent : Nat
  skipped : EvictingMap A.Name A.MessageKey

namespace RatchetSession

variable {A : Algebra} (sharedSecret : A.Root)

/-- `RatchetSession.initiator`, with the key pair the key source gives. -/
def initiator (theirSignedPreKey : A.Key) (dhs : A.Pair) : Option (RatchetSession A) :=
  match A.diffieHellman dhs theirSignedPreKey with
  | none => none
  | some dhOut =>
    let out := A.kdfRootKey sharedSecret dhOut
    some { dhs := dhs, dhr := some theirSignedPreKey, rootKey := out.1,
           sendingChainKey := some out.2, receivingChainKey := none, sent := 0, received := 0,
           previousSent := 0, skipped := .empty }

def responder (signedPreKey : A.Pair) : RatchetSession A where
  dhs := signedPreKey
  dhr := none
  rootKey := sharedSecret
  sendingChainKey := none
  receivingChainKey := none
  sent := 0
  received := 0
  previousSent := 0
  skipped := .empty

variable (s : RatchetSession A)

def encrypt (plaintext : A.Text) : Option ((A.Header × A.Cipher) × RatchetSession A) :=
  match s.sendingChainKey with
  | none => none
  | some chain =>
    let out := A.kdfChainKey chain
    let header := A.header (A.pub s.dhs) s.previousSent s.sent
    some ((header, A.sealMessage out.2 header plaintext),
      { s with sendingChainKey := some out.1, sent := A.increment s.sent })

def trySkipped (header : A.Header) (ciphertext : A.Cipher) : Option (A.Text × RatchetSession A) :=
  let key := A.skippedKey (A.dh header) (A.n header)
  match s.skipped.lookup key with
  | none => none
  | some messageKey =>
    match A.openMessage messageKey header ciphertext with
    | none => none
    | some plaintext => some (plaintext, { s with skipped := s.skipped.consume key })

/-- One round of the skip loop: the key at the current position is stored. -/
def skipOne (peer : A.Key) (chain : A.Chain) (s : RatchetSession A) : RatchetSession A :=
  let out := A.kdfChainKey chain
  { s with
    receivingChainKey := some out.1
    skipped := s.skipped.store Web.maxSkippedKeys (A.skippedKey peer s.received) out.2
    received := A.increment s.received }

/-- The loop of `skipMessageKeys`, with a bound on its number of rounds. -/
def skipLoop (peer : A.Key) (upTo : Nat) : Nat → A.Chain → RatchetSession A → RatchetSession A
  | 0, _, s => s
  | fuel + 1, chain, s =>
    if s.received < upTo then
      skipLoop peer upTo fuel (A.kdfChainKey chain).1 (s.skipOne peer chain)
    else s

def skipMessageKeys (upTo : Nat) : Option (RatchetSession A) :=
  match s.receivingChainKey, s.dhr with
  | some chain, some peer =>
    if (Web.maxSkip : Int) < (upTo : Int) - s.received then none
    else some (skipLoop peer upTo (upTo - s.received) chain s)
  | _, _ => some s

variable (fresh : A.Pair) (header : A.Header)

/-- `dhRatchet`, with the key pair the key source gives. -/
def dhRatchet : Option (RatchetSession A) :=
  match A.diffieHellman s.dhs (A.dh header), A.diffieHellman fresh (A.dh header) with
  | some dhIn, some dhOut =>
    let receiving := A.kdfRootKey s.rootKey dhIn
    let sending := A.kdfRootKey receiving.1 dhOut
    some { s with
      dhs := fresh
      dhr := some (A.dh header)
      rootKey := sending.1
      sendingChainKey := some sending.2
      receivingChainKey := some receiving.2
      sent := 0
      received := 0
      previousSent := s.sent }
  | _, _ => none

/-- The part of `advance` before the message key is derived. -/
def catchUp : Option (RatchetSession A) :=
  if s.dhr = some (A.dh header) then s.skipMessageKeys (A.n header)
  else
    ((s.skipMessageKeys (A.pn header)).bind fun s => s.dhRatchet fresh header).bind fun s =>
      s.skipMessageKeys (A.n header)

variable (ciphertext : A.Cipher)

/-- The next key of the receiving chain opens a frame, or the frame is refused. -/
def openNext : Option (A.Text × RatchetSession A) :=
  match s.receivingChainKey with
  | none => none
  | some chain =>
    let out := A.kdfChainKey chain
    match A.openMessage out.2 header ciphertext with
    | none => none
    | some plaintext =>
      some (plaintext, { s with
        receivingChainKey := some out.1, received := A.increment s.received })

/-- `decrypt`; a frame that does not open changes nothing. -/
def decrypt : Option (A.Text × RatchetSession A) :=
  match s.trySkipped header ciphertext with
  | some opened => some opened
  | none =>
    if s.receivingChainKey.isSome ∧ s.dhr = some (A.dh header) ∧ A.n header = s.received then
      s.openNext header ciphertext
    else (s.catchUp fresh header).bind fun s => s.openNext header ciphertext

/-! ## What the calls do -/

variable {s s' : RatchetSession A}

/-- The sending side is as it was. -/
structure Reads (s s' : RatchetSession A) : Prop where
  dhs : s'.dhs = s.dhs
  sending : s'.sendingChainKey = s.sendingChainKey
  sent : s'.sent = s.sent

structure Begins (fresh : A.Pair) (s' : RatchetSession A) : Prop where
  dhs : s'.dhs = fresh
  sending : s'.sendingChainKey.isSome
  sent : s'.sent = 0

lemma Reads.refl (s : RatchetSession A) : Reads s s := ⟨rfl, rfl, rfl⟩

lemma Reads.trans {s'' : RatchetSession A} (h : Reads s s') (h' : Reads s' s'') : Reads s s'' :=
  ⟨h'.dhs.trans h.dhs, h'.sending.trans h.sending, h'.sent.trans h.sent⟩

variable {fresh : A.Pair} {header : A.Header} {ciphertext : A.Cipher} {text : A.Text}

lemma Begins.reads (h : Begins fresh s) (hreads : Reads s s') : Begins fresh s' :=
  ⟨hreads.dhs.trans h.dhs, hreads.sending ▸ h.sending, hreads.sent.trans h.sent⟩

lemma reads_skipLoop (peer : A.Key) (upTo fuel : Nat) (chain : A.Chain) (s : RatchetSession A) :
    Reads s (skipLoop peer upTo fuel chain s) := by
  induction fuel generalizing chain s with
  | zero => exact .refl s
  | succ fuel ih =>
    unfold skipLoop
    split
    · have hone : Reads s (s.skipOne peer chain) := ⟨rfl, rfl, rfl⟩
      exact hone.trans (ih _ _)
    · exact .refl s

lemma reads_skipMessageKeys {upTo : Nat} (h : s.skipMessageKeys upTo = some s') : Reads s s' := by
  unfold skipMessageKeys at h
  split at h
  · split at h
    · cases h
    · cases h
      exact reads_skipLoop ..
  · cases h
    exact .refl s

lemma begins_dhRatchet (h : s.dhRatchet fresh header = some s') : Begins fresh s' := by
  unfold dhRatchet at h
  split at h
  · cases h
    exact ⟨rfl, rfl, rfl⟩
  · cases h

lemma reads_openNext (h : s.openNext header ciphertext = some (text, s')) : Reads s s' := by
  unfold openNext at h
  split at h
  · cases h
  dsimp only at h
  split at h
  · cases h
  cases h
  exact ⟨rfl, rfl, rfl⟩

lemma reads_trySkipped (h : s.trySkipped header ciphertext = some (text, s')) : Reads s s' := by
  unfold trySkipped at h
  dsimp only at h
  split at h
  · cases h
  split at h
  · cases h
  · cases h
    exact ⟨rfl, rfl, rfl⟩

/-- A frame is opened by a stored key, by the next key of the receiving chain, or after catching
up with it. -/
theorem decrypt_cases {out : A.Text × RatchetSession A}
    (h : s.decrypt fresh header ciphertext = some out) :
    s.trySkipped header ciphertext = some out ∨ s.openNext header ciphertext = some out ∨
      ∃ t, s.catchUp fresh header = some t ∧ t.openNext header ciphertext = some out := by
  unfold decrypt at h
  split at h
  · next hskip =>
    left
    rw [hskip, h]
  · split at h
    · exact .inr (.inl h)
    · exact .inr (.inr (Option.bind_eq_some_iff.mp h))

/-- Before a frame opens the session skips keys, or it skips keys, takes a ratchet step and skips
keys. -/
lemma catchUp_cases {t : RatchetSession A} (h : s.catchUp fresh header = some t) :
    s.skipMessageKeys (A.n header) = some t ∨
      ∃ u v, s.skipMessageKeys (A.pn header) = some u ∧ u.dhRatchet fresh header = some v ∧
        v.skipMessageKeys (A.n header) = some t := by
  unfold catchUp at h
  split at h
  · exact .inl h
  · rcases Option.bind_eq_some_iff.mp h with ⟨v, hv, ht⟩
    rcases Option.bind_eq_some_iff.mp hv with ⟨u, hu, hrat⟩
    exact .inr ⟨u, v, hu, hrat, ht⟩

/-- Opening a frame leaves the sending side as it was, or begins a sending chain. -/
lemma sending_decrypt (h : s.decrypt fresh header ciphertext = some (text, s')) :
    Reads s s' ∨ Begins fresh s' := by
  rcases decrypt_cases h with hskip | hnext | ⟨t, hcatch, hnext⟩
  · exact .inl (reads_trySkipped hskip)
  · exact .inl (reads_openNext hnext)
  · rcases catchUp_cases hcatch with hsame | ⟨u, v, -, hrat, hafter⟩
    · exact .inl ((reads_skipMessageKeys hsame).trans (reads_openNext hnext))
    · right
      exact ((begins_dhRatchet hrat).reads (reads_skipMessageKeys hafter)).reads
        (reads_openNext hnext)

/-- The receiving sides are the same. -/
structure Alike (s s' : RatchetSession A) : Prop where
  dhr : s'.dhr = s.dhr
  receiving : s'.receivingChainKey = s.receivingChainKey
  received : s'.received = s.received
  skipped : s'.skipped = s.skipped

lemma Alike.skipLoop (h : Alike s s') (peer : A.Key) (upTo fuel : Nat) (chain : A.Chain) :
    Alike (skipLoop peer upTo fuel chain s) (skipLoop peer upTo fuel chain s') := by
  induction fuel generalizing s s' chain with
  | zero => exact h
  | succ fuel ih =>
    unfold RatchetSession.skipLoop
    rw [h.received]
    split
    · have hone : Alike (s.skipOne peer chain) (s'.skipOne peer chain) := by
        refine ⟨h.dhr, rfl, ?_, ?_⟩
        · simp only [skipOne, h.received]
        · simp only [skipOne, h.received, h.skipped]
      exact ih hone _
    · exact h

lemma Alike.text_openNext (h : Alike s s') (header : A.Header) (ciphertext : A.Cipher) :
    (s'.openNext header ciphertext).map Prod.fst = (s.openNext header ciphertext).map Prod.fst := by
  unfold openNext
  rw [h.receiving]
  split
  · rfl
  dsimp only
  split
  · rfl
  · rfl

lemma Alike.text_skip (h : Alike s s') (upTo : Nat) (header : A.Header) (ciphertext : A.Cipher) :
    ((s'.skipMessageKeys upTo).bind fun s => s.openNext header ciphertext).map Prod.fst =
      ((s.skipMessageKeys upTo).bind fun s => s.openNext header ciphertext).map Prod.fst := by
  unfold skipMessageKeys
  rw [h.receiving, h.dhr, h.received]
  split
  · split
    · rfl
    · exact (h.skipLoop _ _ _ _).text_openNext header ciphertext
  · exact h.text_openNext header ciphertext

end RatchetSession

/-! ## The web client's sessions -/

/-- Octet strings, with the web client's derivations. -/
abbrev octets (P : Primitives) : Algebra where
  Key := Bytes
  Pair := KeyPair
  Shared := Bytes
  Root := Bytes
  Chain := Bytes
  MessageKey := Bytes
  Header := Web.RatchetHeader
  Cipher := Bytes
  Text := Bytes
  Name := Web.Text
  pub := KeyPair.pub
  diffieHellman pair key := (Web.diffieHellman P pair.priv key).toOption
  kdfRootKey := Web.kdfRootKey P
  kdfChainKey := Web.kdfChainKey P
  header dh pn n := ⟨dh, pn, n, some (Web.marshalHeader ⟨dh, pn, n, none⟩)⟩
  dh := Web.RatchetHeader.dh
  pn := Web.RatchetHeader.pn
  n := Web.RatchetHeader.n
  sealMessage key header := Web.sealMessage P key (Web.marshalHeader header)
  openMessage key header := Web.openMessage P key (Web.marshalHeader header)
  skippedKey := Web.skippedKey
  increment := Web.increment

section Octets

variable (P : Primitives) {s s' : Web.RatchetSession}

/-- The web client's session, field by field. -/
def toSession (s : Web.RatchetSession) : RatchetSession (octets P) where
  dhs := s.dhs
  dhr := s.dhr
  rootKey := s.rootKey
  sendingChainKey := s.sendingChainKey
  receivingChainKey := s.receivingChainKey
  sent := s.sent
  received := s.received
  previousSent := s.previousSent
  skipped := s.skipped

section

variable (s : Web.RatchetSession)

variable (header : Web.RatchetHeader) (ciphertext : Bytes)

lemma toSession_trySkipped :
    (toSession P s).trySkipped header ciphertext =
      (s.trySkipped P header ciphertext).map fun out => (out.1, toSession P out.2) := by
  have hstore : (toSession P s).skipped = s.skipped := rfl
  unfold Web.RatchetSession.trySkipped RatchetSession.trySkipped
  simp only [hstore]
  cases s.skipped.lookup (Web.skippedKey header.dh header.n) with
  | none => rfl
  | some key =>
    dsimp only
    cases Web.openMessage P key (Web.marshalHeader header) ciphertext with
    | none | some => rfl

lemma toSession_openNext :
    (toSession P s).openNext header ciphertext =
      (s.openNext P header ciphertext).toOption.map fun out => (out.1, toSession P out.2) := by
  rcases s with ⟨_, _, _, _, receiving, _, _, _, _⟩
  cases receiving with
  | none => rfl
  | some chain =>
    unfold Web.RatchetSession.openNext RatchetSession.openNext toSession
    dsimp only
    cases Web.openMessage P (Web.kdfChainKey P chain).2 (Web.marshalHeader header)
        ciphertext with
    | none | some => rfl

end

lemma toSession_skipLoop {chain peer : Bytes} (upTo fuel : Nat)
    (hchain : s.receivingChainKey = some chain) (hpeer : s.dhr = some peer) :
    RatchetSession.skipLoop peer upTo fuel chain (toSession P s) =
      toSession P (s.skipLoop P upTo fuel) := by
  induction fuel generalizing s chain with
  | zero => rfl
  | succ fuel ih =>
    have hone : (toSession P s).skipOne peer chain = toSession P (s.skipOne P) := by
      rcases s with ⟨_, _, _, _, _, _, received, _, _⟩
      cases hchain
      cases hpeer
      rfl
    unfold RatchetSession.skipLoop Web.RatchetSession.skipLoop
    rw [hone]
    change (if s.received < upTo then _ else _) = _
    split
    · refine ih ?_ hpeer
      rw [Web.RatchetSession.skipOne, storeSkipped, hchain, Option.getD_some]
    · rfl

lemma toSession_skipMessageKeys (s : Web.RatchetSession) (upTo : Nat) :
    (toSession P s).skipMessageKeys upTo =
      (s.skipMessageKeys P upTo).toOption.map (toSession P) := by
  rcases s with ⟨_, dhr, _, _, receiving, _, received, _, _⟩
  cases receiving with
  | none => rfl
  | some =>
    cases dhr with
    | none => rfl
    | some =>
      unfold RatchetSession.skipMessageKeys Web.RatchetSession.skipMessageKeys
      rw [if_neg (by simp)]
      change (if (Web.maxSkip : Int) < upTo - received then none else _) = _
      dsimp only
      split
      · rfl
      · exact congrArg some (toSession_skipLoop P upTo _ rfl rfl)

lemma toSession_dhRatchet (s : Web.RatchetSession) (fresh : KeyPair)
    (header : Web.RatchetHeader) : (toSession P s).dhRatchet fresh header =
      (s.dhRatchet P (some fresh) header).toOption.map (toSession P) := by
  unfold RatchetSession.dhRatchet Web.RatchetSession.dhRatchet ratchetReceive ratchetSend toSession
  dsimp only
  cases hin : Web.diffieHellman P s.dhs.priv header.dh with
  | error => rfl
  | ok =>
    cases hout : Web.diffieHellman P fresh.priv header.dh with
    | error | ok =>
      simp only [bind, Except.bind, pure, Except.pure, Option.getD_some, hout]
      rfl

lemma toOption_bind {E α β : Type} (x : Except E α) (f : α → Except E β) :
    (x >>= f).toOption = x.toOption.bind fun a => (f a).toOption := by
  cases x with
  | error | ok => rfl

lemma toSession_catchUp (s : Web.RatchetSession) (fresh : KeyPair) (header : Web.RatchetHeader) :
    (toSession P s).catchUp fresh header =
      (s.catchUp P (some fresh) header).toOption.map (toSession P) := by
  unfold RatchetSession.catchUp Web.RatchetSession.catchUp sameDhr
  change (if s.dhr = some header.dh then _ else _) = _
  by_cases hsame : s.dhr = some header.dh
  · simp only [hsame, if_pos, decide_true]
    exact toSession_skipMessageKeys P s header.n
  simp only [hsame, if_false, decide_false, Bool.false_eq_true, toOption_bind]
  rw [toSession_skipMessageKeys]
  cases (s.skipMessageKeys P header.pn).toOption with
  | none => rfl
  | some t =>
    simp only [Option.map_some, Option.bind_some, toSession_dhRatchet]
    cases (t.dhRatchet P (some fresh) header).toOption with
    | none => rfl
    | some u => exact toSession_skipMessageKeys P u header.n

/-- The trial copy that the web client advances is the session itself. -/
theorem toSession_decrypt (h : s.Keyed) (fresh : KeyPair) (header : Web.RatchetHeader)
    (ciphertext : Bytes) : (toSession P s).decrypt fresh header ciphertext =
      ((s.decrypt P (some fresh) header ciphertext).1.toOption.map fun text =>
        (text, toSession P (s.decrypt P (some fresh) header ciphertext).2)) := by
  unfold RatchetSession.decrypt Web.RatchetSession.decrypt
  rw [toSession_trySkipped, h.trial]
  cases s.trySkipped P header ciphertext with
  | some => rfl
  | none =>
    have hnext : ((toSession P s).receivingChainKey.isSome ∧
        (toSession P s).dhr = some ((octets P).dh header) ∧
          (octets P).n header = (toSession P s).received) ↔
        s.receivingChainKey ≠ none ∧ s.sameDhr header.dh = true ∧ header.n = s.received := by
      simp [toSession, octets, sameDhr, Option.isSome_iff_ne_none]
    simp only [Option.map_none, hnext]
    split
    · rw [toSession_openNext]
      cases s.openNext P header ciphertext with
      | error | ok => rfl
    · rw [toSession_catchUp]
      unfold advance
      cases hcatch : s.catchUp P (some fresh) header with
      | error => rfl
      | ok t =>
        have hopen := toSession_openNext P t header ciphertext
        change (toSession P t).openNext header ciphertext = _
        rw [hopen]
        simp only [bind, Except.bind]
        cases t.openNext P header ciphertext with
        | error | ok => rfl

open Sample in
theorem toSession_decrypt_first :
    ((toSession primitives (.responder secret preKey)).decrypt replyKey (Web.Sample.webHeader 0)
      (frame 0 [3]).2).map Prod.fst = some [3] := by
  rw [toSession_decrypt primitives (Web.RatchetSession.keyed_responder ..), Option.map_map]
  decide +kernel

end Octets

end Generic
end SyncApp.Ratchet
