import Mathlib.Data.List.Basic
import Mathlib.Tactic.Ring

/-!
# Parsers of framed bytes

Numbers in a fixed number of bytes, the most significant first, and parsers that read off the front
of their input whatever follows.

Main results:

- `decode_encode`: a number is read back.
- `Reads`: what a parser reads, for each way of building parsers.
-/

namespace Foundations

open List

namespace BigEndian

/-- A number in so many bytes; what does not fit is cut off. -/
def encode : Nat → Nat → List UInt8
  | 0, _ => []
  | width + 1, n => UInt8.ofNat (n / 256 ^ width) :: encode width n

/-- The number that bytes stand for. -/
def decode (b : List UInt8) : Nat := b.foldl (fun n byte => n * 256 + byte.toNat) 0

@[simp]
lemma length_encode (width n : Nat) : (encode width n).length = width := by
  induction width with
  | zero => rfl
  | succ width ih => simp [encode, ih]

lemma foldl_encode (width n acc : Nat) :
    (encode width n).foldl (fun n byte => n * 256 + byte.toNat) acc =
      acc * 256 ^ width + n % 256 ^ width := by
  induction width generalizing acc with
  | zero => simp [encode, Nat.mod_one]
  | succ width ih =>
    have hbyte : (UInt8.ofNat (n / 256 ^ width)).toNat = n / 256 ^ width % 256 := by simp
    rw [encode, foldl_cons, ih, hbyte, pow_succ, Nat.mod_mul]
    ring

theorem decode_encode {width n : Nat} (h : n < 256 ^ width) : decode (encode width n) = n := by
  rw [decode, foldl_encode, Nat.mod_eq_of_lt h, Nat.zero_mul, Nat.zero_add]

end BigEndian

/-- What is read off the front of some bytes, and the bytes that are left.  More bytes at the
end are left too. -/
structure Parser (α : Type) where
  run : List UInt8 → Option (α × List UInt8)
  extend : ∀ b a rest more, run b = some (a, rest) → run (b ++ more) = some (a, rest ++ more)

namespace Parser

variable {α β : Type}

/-- Nothing is read. -/
protected def pure (a : α) : Parser α where
  run b := some (a, b)
  extend := by
    intro b a' rest more h
    cases h
    rfl

/-- One parser and then another, which depends on what was read. -/
protected def bind (p : Parser α) (f : α → Parser β) : Parser β where
  run b := (p.run b).bind fun x => (f x.1).run x.2
  extend := by
    intro b c rest more h
    rw [Option.bind_eq_some_iff] at h ⊢
    rcases h with ⟨⟨a, rest'⟩, hp, hf⟩
    exact ⟨(a, rest' ++ more), p.extend b a rest' more hp, (f a).extend rest' c rest more hf⟩

/-- The next so many bytes. -/
def chunk (n : Nat) : Parser (List UInt8) where
  run b := if n ≤ b.length then some (b.take n, b.drop n) else none
  extend := by
    intro b a rest more h
    split at h
    · next hn =>
      cases h
      rw [if_pos (by rw [length_append]; omega), take_append_of_le_length hn,
        drop_append_of_le_length hn]
    · cases h

/-- A number in so many bytes. -/
def word (width : Nat) : Parser Nat := (chunk width).bind fun b => .pure (BigEndian.decode b)

def times (p : Parser α) : Nat → Parser (List α)
  | 0 => .pure []
  | n + 1 => p.bind fun a => (p.times n).bind fun as => .pure (a :: as)

lemma run_bind (p : Parser α) (f : α → Parser β) (b : List UInt8) :
    (p.bind f).run b = (p.run b).bind fun x => (f x.1).run x.2 :=
  rfl

variable {b enc : List UInt8} {n k : Nat} {a : α} {f : α → Parser β} {p : Parser α} {P : α → Prop}

lemma run_chunk_of_le (h : n ≤ b.length) : (chunk n).run b = some (b.take n, b.drop n) :=
  if_pos h

lemma run_chunk_of_lt (h : b.length < n) : (chunk n).run b = none :=
  if_neg (Nat.not_le_of_lt h)

/-- Whatever follows, the parser reads a value off the bytes that stand for it. -/
def Reads (p : Parser α) (enc : List UInt8) (a : α) : Prop :=
  ∀ rest, p.run (enc ++ rest) = some (a, rest)

lemma Reads.pure (a : α) : (Parser.pure a).Reads [] a := fun _ => rfl

lemma Reads.bind {enc' : List UInt8} {c : β} (hp : p.Reads enc a) (hf : (f a).Reads enc' c) :
    (p.bind f).Reads (enc ++ enc') c := by
  intro rest
  rw [run_bind, append_assoc, hp (enc' ++ rest)]
  exact hf rest

lemma reads_chunk (h : b.length = n) : (chunk n).Reads b b := by
  intro rest
  subst h
  simp [chunk]

lemma reads_word {w : Nat} (h : n < 256 ^ w) : (word w).Reads (BigEndian.encode w n) n := by
  have hread := (reads_chunk (BigEndian.length_encode w n)).bind
    (f := fun b => .pure (BigEndian.decode b)) (Reads.pure _)
  rwa [append_nil, BigEndian.decode_encode h] at hread

lemma Reads.times {enc : α → List UInt8} (as : List α) (h : ∀ a ∈ as, p.Reads (enc a) a) :
    (p.times as.length).Reads (as.flatMap enc) as := by
  induction as with
  | nil => exact Reads.pure []
  | cons a as ih =>
    have htail : (p.times as.length).Reads (as.flatMap enc) as :=
      ih fun a' ha' => h a' (mem_cons_of_mem _ ha')
    have hread := (h a mem_cons_self).bind
      (f := fun a => (p.times as.length).bind fun as => .pure (a :: as))
      (htail.bind (Reads.pure (a :: as)))
    rwa [append_nil] at hread

lemma Reads.run_cut {pre : List UInt8} (h : p.Reads enc a) (hpre : pre <+: enc)
    (hne : pre ≠ enc) : p.run pre = none := by
  rcases hpre with ⟨cut, rfl⟩
  cases hrun : p.run pre with
  | none => rfl
  | some x =>
    -- The whole would leave the part that was cut off unread.
    have hwhole := p.extend pre x.1 x.2 cut hrun
    have hread := h []
    rw [append_nil, hwhole, Option.some.injEq, Prod.mk.injEq] at hread
    have hcut : cut = [] := (append_eq_nil_iff.mp hread.2).2
    simp [hcut] at hne

/-- Everything the parser gives has a property. -/
def Yields (p : Parser α) (P : α → Prop) : Prop := ∀ b a rest, p.run b = some (a, rest) → P a

lemma Yields.pure (h : P a) : (Parser.pure a).Yields P := by
  intro b a' rest hrun
  cases hrun
  exact h

lemma Yields.bind {Q : β → Prop} (hp : p.Yields P) (hf : ∀ a, P a → (f a).Yields Q) :
    (p.bind f).Yields Q := by
  intro b c rest hrun
  rw [run_bind, Option.bind_eq_some_iff] at hrun
  rcases hrun with ⟨⟨a, rest'⟩, hrun, hrun'⟩
  exact hf a (hp b a rest' hrun) rest' c rest hrun'

lemma yields_chunk (n : Nat) : (chunk n).Yields fun b => b.length = n := by
  intro b a rest hrun
  simp only [chunk] at hrun
  split at hrun
  · cases hrun
    rw [length_take]
    omega
  · cases hrun

lemma Yields.times (h : p.Yields P) (n : Nat) :
    (p.times n).Yields fun as => as.length = n ∧ ∀ a ∈ as, P a := by
  induction n with
  | zero => exact Yields.pure (by simp)
  | succ n ih =>
    refine h.bind fun a ha => ih.bind fun as has => Yields.pure ?_
    refine ⟨congrArg (· + 1) has.1, fun a' ha' => ?_⟩
    rcases mem_cons.mp ha' with rfl | hmem
    · exact ha
    · exact has.2 a' hmem

/-- The parser takes at least so many bytes. -/
def Consumes (p : Parser α) (k : Nat) : Prop :=
  ∀ b a rest, p.run b = some (a, rest) → rest.length + k ≤ b.length

lemma consumes_pure (a : α) : (Parser.pure a).Consumes 0 := by
  intro b a' rest hrun
  cases hrun
  rfl

lemma Consumes.bind {j : Nat} (hp : p.Consumes j) (hf : ∀ a, (f a).Consumes k) :
    (p.bind f).Consumes (j + k) := by
  intro b c rest hrun
  rw [run_bind, Option.bind_eq_some_iff] at hrun
  rcases hrun with ⟨⟨a, rest'⟩, hrun, hrun'⟩
  have hfirst := hp b a rest' hrun
  have hsecond := hf a rest' c rest hrun'
  omega

lemma consumes_chunk (n : Nat) : (chunk n).Consumes n := by
  intro b a rest hrun
  simp only [chunk] at hrun
  split at hrun
  · cases hrun
    rw [length_drop]
    omega
  · cases hrun

lemma Consumes.times (h : p.Consumes k) (n : Nat) : (p.times n).Consumes (n * k) := by
  induction n with
  | zero =>
    rw [Nat.zero_mul]
    exact consumes_pure []
  | succ n ih =>
    have hboth := h.bind fun a => ih.bind fun as => consumes_pure (a :: as)
    rwa [Nat.add_zero, Nat.add_comm, ← Nat.succ_mul] at hboth

end Parser

/-- Bytes that arrive in pieces. -/
abbrev Stream := List (List UInt8)

/-- So many bytes, read piece by piece, and what is left of the stream.  If it ends before, the
error is what it had. -/
def Stream.readFull : Stream → Nat → Except (List UInt8) (List UInt8) × Stream
  | [], n => (if n = 0 then .ok [] else .error [], [])
  | piece :: s, n =>
    if n = 0 then (.ok [], piece :: s)
    else if n < piece.length then (.ok (piece.take n), piece.drop n :: s)
    else
      let (got, s) := Stream.readFull s (n - piece.length)
      (match got with
        | .ok b => .ok (piece ++ b)
        | .error b => .error (piece ++ b), s)

lemma Stream.readFull_eq (s : Stream) (n : Nat) (h : n ≤ s.flatten.length) :
    ∃ s', Stream.readFull s n = (.ok (s.flatten.take n), s') ∧ s'.flatten = s.flatten.drop n := by
  induction s generalizing n with
  | nil =>
    obtain rfl : n = 0 := by simpa using h
    exact ⟨[], rfl, rfl⟩
  | cons piece s ih =>
    rw [Stream.readFull]
    by_cases hzero : n = 0
    · subst hzero
      exact ⟨piece :: s, by simp, by simp⟩
    rw [if_neg hzero]
    by_cases hlt : n < piece.length
    · refine ⟨piece.drop n :: s, ?_, ?_⟩
      · rw [if_pos hlt, flatten_cons, take_append_of_le_length (by omega)]
      · rw [flatten_cons, flatten_cons, drop_append_of_le_length (by omega)]
    · rw [if_neg hlt]
      rw [flatten_cons, length_append] at h
      rcases ih (n - piece.length) (by omega) with ⟨s', hread, hrest⟩
      have hpiece : piece.length ≤ n := by omega
      refine ⟨s', ?_, ?_⟩
      · rw [hread, flatten_cons, take_append, take_of_length_le hpiece]
      · rw [hrest, flatten_cons, drop_append, drop_of_length_le hpiece,
          nil_append]

end Foundations
