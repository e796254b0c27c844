import Mathlib.Algebra.Group.Nat.Defs
import SyncApp.Foundations.Base64
import SyncApp.Foundations.KeyChain

/-!
# Primitives of the end-to-end layer

X25519, HKDF-SHA256, HMAC-SHA256 and ChaCha20-Poly1305 are parameters, with their output sizes; the
derivations of `pkg/e2e/ratchet.go` are exact, labels and constants included.
-/

namespace SyncApp.Ratchet

open Foundations

/-- Octet strings. -/
abbrev Bytes := List UInt8

def ascii (text : List Char) : Bytes := text.map fun c => UInt8.ofNat c.toNat

/-- The external primitives, with the sizes of their outputs. -/
structure Primitives where
  /-- X25519 public key of a private key. -/
  x25519Base : Bytes → Bytes
  /-- X25519 shared secret; {lean}`none` for a public key of low order. -/
  x25519 : Bytes → Bytes → Option Bytes
  /-- HKDF-SHA256 of secret, salt and info, read to the given length. -/
  hkdf : Bytes → Bytes → Bytes → Nat → Bytes
  /-- HMAC-SHA256 of key and message. -/
  hmac : Bytes → Bytes → Bytes
  /-- ChaCha20-Poly1305 sealing of key, nonce, additional data and plaintext. -/
  chachaSeal : Bytes → Bytes → Bytes → Bytes → Bytes
  /-- ChaCha20-Poly1305 opening of key, nonce, additional data and ciphertext. -/
  chachaOpen : Bytes → Bytes → Bytes → Bytes → Option Bytes
  x25519Base_length : ∀ priv, (x25519Base priv).length = 32
  hkdf_length : ∀ secret salt info n, (hkdf secret salt info n).length = n
  hmac_length : ∀ key msg, (hmac key msg).length = 32

structure KeyPair where
  priv : Bytes
  pub : Bytes

variable (P : Primitives)

/-- A key pair as `GenerateKeyPair` builds it. -/
def KeyPair.Generated (kp : KeyPair) : Prop :=
  kp.pub = P.x25519Base kp.priv

/-- `PublicKeyFromBytes`: an X25519 public key is any 32 octets. -/
def publicKeyFromBytes (b : Bytes) : Option Bytes :=
  if b.length = 32 then some b else none

/-- `kdfRK`: the next root key and a chain key. -/
def kdfRK (rk dhOut : Bytes) : Bytes × Bytes :=
  let out := P.hkdf dhOut rk (ascii "SyncApp-Ratchet-RK".toList) 64
  (out.take 32, out.drop 32)

/-- `kdfCK`: the next chain key and a message key. -/
def kdfCK (ck : Bytes) : Bytes × Bytes :=
  (P.hmac ck [0x02], P.hmac ck [0x01])

@[simp]
lemma kdfRK_snd_length (rk dhOut : Bytes) : (kdfRK P rk dhOut).2.length = 32 := by
  simp [kdfRK, P.hkdf_length]

@[simp]
lemma kdfCK_fst_length (ck : Bytes) : (kdfCK P ck).1.length = 32 :=
  P.hmac_length _ _

/-- `aeadFor`: the cipher key and nonce of a message key. -/
def aeadFor (mk : Bytes) : Bytes × Bytes :=
  let buf := P.hkdf mk [] (ascii "SyncApp-Ratchet-Msg".toList) (32 + 12)
  (buf.take 32, buf.drop 32)

/-- `aeadSeal`.  Reading 44 octets of HKDF output and building the cipher
from 32 of them cannot fail, so the source's error results are not modelled. -/
def aeadSeal (mk ad plaintext : Bytes) : Bytes :=
  P.chachaSeal (aeadFor P mk).1 (aeadFor P mk).2 ad plaintext

/-- `aeadOpen`: {lean}`none` when authentication fails. -/
def aeadOpen (mk ad ciphertext : Bytes) : Option Bytes :=
  P.chachaOpen (aeadFor P mk).1 (aeadFor P mk).2 ad ciphertext

/-- Opening what was sealed under the same key, nonce and additional data gives
the plaintext back. -/
def Primitives.OpensSealed : Prop :=
  ∀ key nonce ad plaintext,
    P.chachaOpen key nonce ad (P.chachaSeal key nonce ad plaintext) = some plaintext

lemma aeadOpen_aeadSeal {P : Primitives} (h : P.OpensSealed) (mk ad plaintext : Bytes) :
    aeadOpen P mk ad (aeadSeal P mk ad plaintext) = some plaintext :=
  h _ _ _ _

/-- Diffie-Hellman between two honestly generated keys: both orders agree on a
secret. -/
def Primitives.DHCommutes : Prop :=
  ∀ a b, ∃ secret, P.x25519 a (P.x25519Base b) = some secret ∧
    P.x25519 b (P.x25519Base a) = some secret

/-- A ratchet header.  `raw` is the serialization the header arrived as, or
was authenticated as, when there is one. -/
structure Header where
  dh : Bytes
  pn : UInt32
  n : UInt32
  raw : Option Bytes

/-- The JSON text `json.Marshal` writes for a header: fields in declaration
order, no white space, the key in standard base64. -/
def headerJSON (dh : Bytes) (pn n : UInt32) : List Char :=
  "\x7b\"dh\":\"".toList ++ Base64.encode dh ++ "\",\"pn\":".toList ++
    Nat.toDigits 10 pn.toNat ++ ",\"n\":".toList ++ Nat.toDigits 10 n.toNat ++ "\x7d".toList

/-- The header's wire form, and therefore the additional data of its message. -/
def Header.bytes (h : Header) : Bytes :=
  h.raw.getD (ascii (headerJSON h.dh h.pn h.n))

end SyncApp.Ratchet
