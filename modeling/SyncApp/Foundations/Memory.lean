import Mathlib.Data.List.Basic

/-!
# Regions of shared objects

Objects of one kind live in a region and are named by the order of their allocation.  Slices are
windows on arrays: appending writes into spare capacity, or moves to a new array.

Main results:

- `read_alloc_of_lt`, `read_write_of_ne`: what an allocation and a write leave.
- `Slice.Makes`: a slice that was built above what there was.
-/

namespace Foundations

open List
open Or (inl inr)

/-- A region of objects, addressed in order of allocation. -/
structure Region (α : Type) where
  cells : List α

namespace Region

variable {α : Type} [Inhabited α] (r : Region α)

/-- Number of objects, and the address of the next one. -/
def size : Nat := r.cells.length

/-- The object at an address. -/
def read (i : Nat) : α := r.cells.getD i default

/-- The region with one more object, at address `r.size`. -/
def alloc (x : α) : Region α := ⟨r.cells ++ [x]⟩

/-- Replace the object at an address. -/
def write (i : Nat) (x : α) : Region α := ⟨r.cells.set i x⟩

variable (r : Region α)

omit [Inhabited α] in
@[simp]
lemma size_alloc (x : α) : (r.alloc x).size = r.size + 1 := by
  simp [alloc, size]

omit [Inhabited α] in
@[simp]
lemma size_write (i : Nat) (x : α) : (r.write i x).size = r.size := by
  simp [write, size]

@[simp]
lemma read_alloc_self (x : α) : (r.alloc x).read r.size = x := by
  simp [alloc, read, size, getD_eq_getElem?_getD]

variable {i n : Nat} {r : Region α}

theorem read_alloc_of_lt (h : i < r.size) (x : α) : (r.alloc x).read i = r.read i := by
  simp only [alloc, read, size, getD_eq_getElem?_getD] at *
  rw [getElem?_append_left h]

lemma read_write_self (h : i < r.size) (x : α) : (r.write i x).read i = x := by
  simp only [write, read, size, getD_eq_getElem?_getD] at *
  simp [h]

theorem read_write_of_ne {j : Nat} (h : i ≠ j) (x : α) : (r.write i x).read j = r.read j := by
  simp [write, read, getD_eq_getElem?_getD, h]

/-- The later region has every object below a bound as the earlier one had it. -/
def Agree (n : Nat) (r r' : Region α) : Prop := ∀ i < n, r'.read i = r.read i

lemma Agree.refl (n : Nat) (r : Region α) : Agree n r r := fun _ _ => rfl

lemma Agree.trans {r' r'' : Region α} (h : Agree n r r') (h' : Agree n r' r'') : Agree n r r'' :=
  fun i hi => (h' i hi).trans (h i hi)

lemma agree_alloc (h : n ≤ r.size) (x : α) : Agree n r (r.alloc x) :=
  fun _ hi => read_alloc_of_lt (Nat.lt_of_lt_of_le hi h) x

lemma agree_write (h : n ≤ i) (x : α) : Agree n r (r.write i x) :=
  fun j hj => read_write_of_ne (by omega) x

end Region

/-- A window on an array of a region. -/
structure Slice where
  array : Nat
  offset : Nat
  length : Nat
  capacity : Nat
deriving DecidableEq, Inhabited

namespace Slice

variable {α : Type}

/-- The slice without elements or room. -/
def nil : Slice := ⟨0, 0, 0, 0⟩

/-- The elements in the window. -/
def toList (arrays : Region (List α)) (s : Slice) : List α :=
  ((arrays.read s.array).drop s.offset).take s.length

/-- The window lies in its array. -/
structure Valid (arrays : Region (List α)) (s : Slice) : Prop where
  length_le : s.length ≤ s.capacity
  room : s.offset + s.capacity ≤ (arrays.read s.array).length ∨ s.capacity = 0
  live : s.array < arrays.size ∨ s.capacity = 0

/-- The slice can reach no array below a bound. -/
def Above (n : Nat) (s : Slice) : Prop := n ≤ s.array ∨ s.capacity = 0

/-- The window without its first element. -/
def tail (s : Slice) : Slice :=
  { s with offset := s.offset + 1, length := s.length - 1, capacity := s.capacity - 1 }

variable (arrays : Region (List α))

@[simp]
lemma toList_nil : nil.toList arrays = [] := by
  simp [nil, toList]

lemma valid_nil : nil.Valid arrays :=
  ⟨Nat.le_refl _, inr rfl, inr rfl⟩

lemma above_nil (n : Nat) : nil.Above n :=
  inr rfl

variable {arrays : Region (List α)} {s : Slice} {n : Nat}

lemma toList_of_length_zero (h : s.length = 0) : s.toList arrays = [] := by
  simp [toList, h]

lemma length_toList (h : s.Valid arrays) : (s.toList arrays).length = s.length := by
  have hlen := h.length_le
  simp only [toList, length_take, length_drop]
  rcases h.room with hroom | hzero
  · omega
  · omega

lemma Valid.congr {arrays' : Region (List α)} (h : s.Valid arrays)
    (hsize : arrays.size ≤ arrays'.size)
    (hsame : s.array < arrays.size → arrays'.read s.array = arrays.read s.array) :
    s.Valid arrays' ∧ s.toList arrays' = s.toList arrays := by
  rcases h.live with hlive | hzero
  · have hread := hsame hlive
    refine ⟨⟨h.length_le, ?_, inl (Nat.lt_of_lt_of_le hlive hsize)⟩, ?_⟩
    · rw [hread]
      exact h.room
    · rw [toList, toList, hread]
  · have hlen := h.length_le
    refine ⟨⟨h.length_le, inr hzero, inr hzero⟩, ?_⟩
    rw [toList_of_length_zero (by omega), toList_of_length_zero (by omega)]

lemma toList_tail : s.tail.toList arrays = (s.toList arrays).tail := by
  simp only [tail, toList, ← drop_one, drop_take, drop_drop]

lemma Valid.tail (h : s.Valid arrays) : s.tail.Valid arrays := by
  have hlen := h.length_le
  refine ⟨?_, ?_, ?_⟩
  · simp only [Slice.tail]
    omega
  · simp only [Slice.tail]
    rcases h.room with hroom | hzero
    · omega
    · omega
  · simp only [Slice.tail]
    rcases h.live with hlive | hzero
    · exact inl hlive
    · omega

lemma Above.tail (h : s.Above n) : s.tail.Above n := by
  rcases h with habove | hzero
  · exact inl habove
  · refine inr ?_
    simp only [Slice.tail]
    omega

variable [Inhabited α] (grow : Nat → Nat)

/-- A new array with the given elements and some spare room. -/
def ofList (arrays : Region (List α)) (xs : List α) : Region (List α) × Slice :=
  (arrays.alloc (xs ++ replicate (grow xs.length) default),
    { array := arrays.size, offset := 0, length := xs.length,
      capacity := xs.length + grow xs.length })

/-- Append an element, in place when there is room.  `grow` is the room a
new array is given beyond its elements. -/
def append (arrays : Region (List α)) (s : Slice) (x : α) : Region (List α) × Slice :=
  if s.length < s.capacity then
    (arrays.write s.array ((arrays.read s.array).set (s.offset + s.length) x),
      { s with length := s.length + 1 })
  else ofList grow arrays (s.toList arrays ++ [x])

/-- A copy of the elements: `append(nil, s...)`. -/
def copy (arrays : Region (List α)) (s : Slice) : Region (List α) × Slice :=
  if s.length = 0 then (arrays, nil) else ofList grow arrays (s.toList arrays)

/-- What an operation that returns a slice promises: it touches no array below the
bound, and the slice it returns reaches none. -/
structure Makes (n : Nat) (arrays : Region (List α)) (out : Region (List α) × Slice)
    (xs : List α) : Prop where
  valid : out.2.Valid out.1
  contents : out.2.toList out.1 = xs
  above : out.2.Above n
  agree : Region.Agree n arrays out.1
  size_le : arrays.size ≤ out.1.size

variable (grow : Nat → Nat)

lemma makes_ofList (h : n ≤ arrays.size) (xs : List α) :
    Makes n arrays (ofList grow arrays xs) xs := by
  refine ⟨⟨Nat.le_add_right _ _, inl ?_, inl ?_⟩, ?_, inl h, Region.agree_alloc h _, ?_⟩
  · simp [ofList]
  · simp [ofList]
  · simp [ofList, toList]
  · simp [ofList]

lemma makes_copy (h : n ≤ arrays.size) (s : Slice) :
    Makes n arrays (copy grow arrays s) (s.toList arrays) := by
  unfold copy
  by_cases hzero : s.length = 0
  · rw [if_pos hzero, toList_of_length_zero hzero]
    exact ⟨valid_nil _, toList_nil _, above_nil _, Region.Agree.refl _ _, Nat.le_refl _⟩
  · rw [if_neg hzero]
    exact makes_ofList grow h _

omit [Inhabited α] in
lemma take_drop_set {l : List α} {o : Nat} (h : o + n < l.length) (x : α) :
    ((l.set (o + n) x).drop o).take (n + 1) = (l.drop o).take n ++ [x] := by
  have hn : n < (l.drop o).length := by
    rw [length_drop]
    omega
  rw [← set_drop, take_add_one, take_set_of_le (Nat.le_refl n),
    getElem?_set_self hn]
  rfl

lemma makes_append (h : n ≤ arrays.size) (hs : s.Valid arrays) (habove : s.Above n) (x : α) :
    Makes n arrays (append grow arrays s x) (s.toList arrays ++ [x]) := by
  unfold append
  by_cases hroom : s.length < s.capacity
  · -- In place: there is capacity, so the array is the slice's own.
    have hlive : s.array < arrays.size := hs.live.resolve_right (by omega)
    have hbound := hs.room.resolve_right (by omega)
    have hn : n ≤ s.array := habove.resolve_right (by omega)
    rw [if_pos hroom]
    refine ⟨⟨hroom, inl ?_, inl ?_⟩, ?_, inl hn, Region.agree_write hn _, ?_⟩
    · simpa [Region.read_write_self hlive] using hbound
    · simpa using hlive
    · simp only [toList, Region.read_write_self hlive]
      exact take_drop_set (by omega) x
    · simp
  · rw [if_neg hroom]
    exact makes_ofList grow h _

end Slice
end Foundations
