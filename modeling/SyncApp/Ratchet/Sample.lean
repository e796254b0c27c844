import SyncApp.Ratchet.Calls

/-!
# A concrete instance of the primitives

An instance of the primitives that can be evaluated: Diffie-Hellman adds octets, HMAC counts in the
first 31 octets of its key, and a tag is computed from key and additional data.  Octet 31 of every
HKDF block is set and kept, so keys derived from a root key can be told from others.
-/

namespace SyncApp.Ratchet
namespace Sample

open Foundations

/-- Little-endian value of an octet string. -/
def leNum : Bytes → Nat
  | [] => 0
  | b :: bs => b.toNat + 256 * leNum bs

/-- The low `k` octets of a number, little-endian. -/
def leBytes : Nat → Nat → Bytes
  | 0, _ => []
  | k + 1, n => UInt8.ofNat n :: leBytes k (n / 256)

@[simp]
lemma leBytes_length (k n : Nat) : (leBytes k n).length = k := by
  induction k generalizing n with
  | zero => rfl
  | succ k ih => simp [leBytes, ih]

lemma leNum_leBytes (k n : Nat) : leNum (leBytes k n) = n % 256 ^ k := by
  induction k generalizing n with
  | zero => simp [leBytes, leNum, Nat.mod_one]
  | succ k ih => rw [leBytes, leNum, ih, UInt8.toNat_ofNat', Nat.pow_succ' (n := k), Nat.mod_mul]

lemma leBytes_take {j k : Nat} (h : j ≤ k) (n : Nat) : (leBytes k n).take j = leBytes j n := by
  induction j generalizing k n with
  | zero => rfl
  | succ j ih =>
    cases k with
    | zero => omega
    | succ => simp [leBytes, ih (Nat.le_of_succ_le_succ h)]

/-- Pad with zeros or cut to a length. -/
def fit (n : Nat) (b : Bytes) : Bytes := (b ++ List.replicate n 0).take n

@[simp]
lemma fit_length (n : Nat) (b : Bytes) : (fit n b).length = n := by
  simp [fit]

/-- Set octet 31 of each 32-octet block of a key derivation. -/
def mark (b : Bytes) : Bytes := (b.set 31 1).set 63 1

def tag (key ad : Bytes) : Bytes := leBytes 16 (leNum (key.take 16) + leNum ad)

def primitives : Primitives where
  x25519Base priv := fit 32 priv
  x25519 priv pub := some (List.zipWith (· + ·) (fit 32 priv) pub)
  hkdf secret salt _ n := mark (fit n (secret ++ salt))
  hmac key msg := leBytes 31 (leNum (key.take 31) + leNum msg) ++ [key.getD 31 0]
  chachaSeal key _ ad plaintext := plaintext ++ tag key ad
  chachaOpen key _ ad ct :=
    if 16 ≤ ct.length ∧ ct.drop (ct.length - 16) = tag key ad then
      some (ct.take (ct.length - 16))
    else none
  x25519Base_length := by simp
  hkdf_length := by simp [mark]
  hmac_length := by simp

lemma opensSealed : primitives.OpensSealed := by
  intro key nonce ad plaintext
  simp [primitives, tag]

lemma dhCommutes : primitives.DHCommutes := by
  intro a b
  refine ⟨List.zipWith (· + ·) (fit 32 a) (fit 32 b), rfl, ?_⟩
  exact congrArg some (List.zipWith_comm_of_comm (fun x y => UInt8.add_comm x y))

def secret : Bytes := fit 32 [7]

/-- The responder's signed prekey. -/
def preKey : KeyPair := ⟨fit 32 [5], fit 32 [5]⟩

/-- The initiator's first ratchet key. -/
def firstKey : KeyPair := ⟨fit 32 [9], fit 32 [9]⟩

/-- The key the responder draws when it first receives. -/
def replyKey : KeyPair := ⟨fit 32 [11], fit 32 [11]⟩

def alice : Session :=
  match newInitiatorSession primitives secret preKey.pub (some firstKey) with
  | .ok s => s
  | .error _ => newResponderSession secret preKey

def bob : Session := newResponderSession secret preKey

/-- The frame the initiator sends after `n` others. -/
def frame (n : Nat) (plaintext : Bytes) : Header × Bytes :=
  ((alice.after primitives (List.replicate n (.encrypt []))).encrypt primitives plaintext).1

end Sample
end SyncApp.Ratchet
