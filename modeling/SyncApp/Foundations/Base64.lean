import SyncApp.Foundations.JoinedKey

/-!
# Standard base64 with padding

Three octets become four characters of the standard alphabet; one or two trailing octets are padded
with equals signs.

Main results:

- `decode_encode`, `encode_injective`: what was encoded is read back.
-/

namespace Foundations.Base64

open UInt8 (ofNat)
open Option (bind_eq_bind bind_some pure_def)

/-- The standard alphabet, in the order of the values it stands for. -/
def alphabet : List Char :=
  "ABCDEFGHIJKLMNOPQRSTUVWXYZabcdefghijklmnopqrstuvwxyz0123456789+/".toList

/-- The character of a six-bit value. -/
def sextetChar (i : Nat) : Char := alphabet.getD i '='

/-- The six-bit value of a character of the alphabet. -/
def charSextet (c : Char) : Option Nat := alphabet.findIdx? (· = c)

/-- Encode octets, padding the last group. -/
def encode : List UInt8 → List Char
  | [] => []
  | [a] => [sextetChar (a.toNat / 4), sextetChar (a.toNat % 4 * 16), '=', '=']
  | [a, b] =>
    [sextetChar (a.toNat / 4), sextetChar (a.toNat % 4 * 16 + b.toNat / 16),
      sextetChar (b.toNat % 16 * 4), '=']
  | a :: b :: c :: rest =>
    sextetChar (a.toNat / 4) :: sextetChar (a.toNat % 4 * 16 + b.toNat / 16) ::
      sextetChar (b.toNat % 16 * 4 + c.toNat / 64) :: sextetChar (c.toNat % 64) :: encode rest

/-- Decode groups of four characters; anything else is refused. -/
def decode : List Char → Option (List UInt8)
  | [] => some []
  | p :: q :: '=' :: '=' :: [] => do
      let w ← charSextet p
      let x ← charSextet q
      pure [ofNat (w * 4 + x / 16)]
  | p :: q :: r :: '=' :: [] => do
      let w ← charSextet p
      let x ← charSextet q
      let y ← charSextet r
      pure [ofNat (w * 4 + x / 16), ofNat (x % 16 * 16 + y / 4)]
  | p :: q :: r :: s :: rest => do
      let w ← charSextet p
      let x ← charSextet q
      let y ← charSextet r
      let z ← charSextet s
      let tail ← decode rest
      pure (ofNat (w * 4 + x / 16) :: ofNat (x % 16 * 16 + y / 4) :: ofNat (y % 4 * 64 + z) :: tail)
  | _ => none

lemma charSextet_sextetChar {i : Nat} (h : i < 64) : charSextet (sextetChar i) = some i := by
  have hall : ∀ j : Fin 64, charSextet (sextetChar j) = some j.val := by
    decide +kernel
  exact hall ⟨i, h⟩

lemma sextetChar_ne_pad {i : Nat} (h : i < 64) : sextetChar i ≠ '=' := by
  have hall : ∀ j : Fin 64, sextetChar j ≠ '=' := by
    decide +kernel
  exact hall ⟨i, h⟩

lemma sextetChar_ne {ch : Char} (h : ch ∉ '=' :: alphabet) (i : Nat) : sextetChar i ≠ ch := by
  rintro rfl
  apply h
  rw [sextetChar, List.getD_eq_getElem?_getD]
  cases hget : alphabet[i]? with
  | none => exact List.mem_cons_self
  | some => exact List.mem_cons_of_mem _ (List.mem_of_getElem? hget)

/-- Splitting an octet into high and low parts and putting it together again. -/
lemma ofNat_split (a : UInt8) {n : Nat} (h : n = a.toNat) : ofNat n = a := by
  subst h
  simp

theorem decode_encode (bytes : List UInt8) : decode (encode bytes) = some bytes := by
  -- The induction follows the groups of three octets that `encode` consumes.
  induction bytes using encode.induct with
  | case1 => rfl
  | case2 a =>
    have ha := a.toNat_lt
    simp (disch := omega) only [encode, decode, charSextet_sextetChar, bind_eq_bind, bind_some,
      pure_def, Option.some.injEq, List.cons.injEq, and_true]
    exact ofNat_split a (by omega)
  | case3 a b =>
    have ha := a.toNat_lt
    have hb := b.toNat_lt
    have hpad : sextetChar (b.toNat % 16 * 4) ≠ '=' := sextetChar_ne_pad (by omega)
    rw [encode, decode]
    · simp (disch := omega) only [charSextet_sextetChar, bind_eq_bind, bind_some, pure_def,
        Option.some.injEq, List.cons.injEq, and_true]
      exact ⟨ofNat_split a (by omega), ofNat_split b (by omega)⟩
    · exact hpad
  | case4 a b c rest ih =>
    have ha := a.toNat_lt
    have hb := b.toNat_lt
    have hc := c.toNat_lt
    have hpad : sextetChar (c.toNat % 64) ≠ '=' := sextetChar_ne_pad (by omega)
    rw [encode, decode]
    · simp (disch := omega) only [charSextet_sextetChar, ih, bind_eq_bind, bind_some, pure_def,
        Option.some.injEq, List.cons.injEq, and_true]
      exact ⟨ofNat_split a (by omega), ofNat_split b (by omega), ofNat_split c (by omega)⟩
    · intro _ h
      exact absurd h hpad
    · intro h
      exact absurd h hpad

theorem encode_injective : Function.Injective encode := by
  intro a b h
  have := congrArg decode h
  rwa [decode_encode, decode_encode, Option.some.injEq] at this

lemma notMem_encode {ch : Char} (h : ch ∉ '=' :: alphabet) (bytes : List UInt8) :
    ch ∉ encode bytes := by
  have hpad : ch ≠ '=' := fun hpad => h (hpad ▸ List.mem_cons_self)
  induction bytes using encode.induct with
  | case1 => simp [encode]
  | case2 | case3 => simp [encode, (sextetChar_ne h _).symm, hpad]
  | case4 a b c rest ih => simp [encode, (sextetChar_ne h _).symm, ih]

/-- The separator of composite keys never occurs in an encoding. -/
lemma pipe_notMem_encode (bytes : List UInt8) : '|' ∉ encode bytes :=
  notMem_encode (by decide +kernel) bytes

end Foundations.Base64
