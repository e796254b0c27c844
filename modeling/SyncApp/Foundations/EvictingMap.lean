import Mathlib.Data.List.AList

/-!
# Bounded maps that evict in insertion order

A map with the list of its keys in the order they were first stored.  Storing past the capacity
drops the oldest of that list; a key that was consumed stays in it.

Main results:

- `lookup_insert_eq`: what is found after a store.
- `SameBindings`: maps that hold the same under different names.
-/

namespace Foundations

open AList (lookup_eq_none lookup_isSome mem_keys)

/-- A finite map with the order in which its keys were first stored. -/
@[ext]
structure EvictingMap (K V : Type) where
  live : AList (fun _ : K => V)
  order : List K

namespace EvictingMap

variable {K L V : Type} [DecidableEq K] [DecidableEq L]

instance [DecidableEq V] : DecidableEq (EvictingMap K V) := fun _ _ =>
  decidable_of_iff' _ EvictingMap.ext_iff

/-- The map without bindings. -/
def empty : EvictingMap K V := ⟨∅, []⟩

variable (m : EvictingMap K V)

/-- Number of live bindings. -/
def size : Nat := m.live.keys.length

/-- The value bound to a key, if the key is live. -/
def lookup (m : EvictingMap K V) (k : K) : Option V := m.live.lookup k

/-- Drop the oldest keys while more than `cap` bindings are live. -/
def evict (cap : Nat) : AList (fun _ : K => V) → List K → EvictingMap K V
  | live, [] => ⟨live, []⟩
  | live, k :: ks =>
    if cap < live.keys.length then evict cap (live.erase k) ks
    else ⟨live, k :: ks⟩

/-- Bind a key and evict down to the capacity. -/
def store (cap : Nat) (m : EvictingMap K V) (k : K) (v : V) : EvictingMap K V :=
  evict cap (m.live.insert k v) (if k ∈ m.live then m.order else m.order ++ [k])

/-- Remove one binding, leaving the eviction order as it is. -/
def consume (k : K) : EvictingMap K V :=
  { m with live := m.live.erase k }

@[simp]
lemma lookup_empty (k : K) : (empty : EvictingMap K V).lookup k = none := by
  simp [empty, lookup]

omit [DecidableEq K] in
@[simp]
lemma size_empty : (empty : EvictingMap K V).size = 0 := by
  simp [empty, size]

@[simp]
lemma lookup_consume_self (k : K) : (m.consume k).lookup k = none := by
  simp [consume, lookup]

variable {k k' : K} {cap : Nat} {live : AList (fun _ : K => V)} {v : V} {m : EvictingMap K V}

lemma lookup_consume_ne (m : EvictingMap K V) (h : k' ≠ k) :
    (m.consume k).lookup k' = m.lookup k' := by
  simp [consume, lookup, AList.lookup_erase_ne h]

section

variable (live : AList (fun _ : K => V))

lemma length_keys_erase (k : K) : (live.erase k).keys.length =
      if (live.lookup k).isSome then live.keys.length - 1 else live.keys.length := by
  rw [AList.keys_erase, List.length_erase]
  by_cases hk : k ∈ live
  · simp [mem_keys.mp hk, lookup_isSome.mpr hk]
  · simp [mt mem_keys.mpr hk, lookup_eq_none.mpr hk]

lemma length_keys_insert (k : K) (v : V) :
    (live.insert k v).keys.length =
      if (live.lookup k).isSome then live.keys.length else live.keys.length + 1 := by
  rw [AList.keys_insert, List.length_cons, List.length_erase]
  by_cases hk : k ∈ live
  · have hpos : 0 < live.keys.length :=
      List.length_pos_of_mem (mem_keys.mp hk)
    simp [mem_keys.mp hk, lookup_isSome.mpr hk]
    omega
  · simp [mt mem_keys.mpr hk, lookup_eq_none.mpr hk]

theorem lookup_insert_eq (k k' : K) (v : V) :
    (live.insert k v).lookup k' = if k' = k then some v else live.lookup k' := by
  split
  · next h => subst h; simp
  · next h => exact AList.lookup_insert_ne h

lemma lookup_erase_eq (k k' : K) :
    (live.erase k).lookup k' = if k' = k then none else live.lookup k' := by
  split
  · next h => subst h; simp
  · next h => exact AList.lookup_erase_ne h

end

lemma lookup_evict_eq_some {ks : List K} (h : (evict cap live ks).lookup k = some v) :
    live.lookup k = some v := by
  induction ks generalizing live with
  | nil => exact h
  | cons x xs ih =>
    simp only [evict] at h
    split at h
    · have hold := ih h
      rw [lookup_erase_eq] at hold
      split at hold
      · contradiction
      · exact hold
    · exact h

lemma lookup_store_eq_some {v' : V} (h : (m.store cap k v).lookup k' = some v') :
    (k' = k ∧ v' = v) ∨ (k' ≠ k ∧ m.lookup k' = some v') := by
  have hins := lookup_evict_eq_some h
  rw [lookup_insert_eq] at hins
  split at hins
  · next hk => exact Or.inl ⟨hk, (Option.some.inj hins).symm⟩
  · next hk => exact Or.inr ⟨hk, hins⟩

lemma evict_of_le (h : live.keys.length ≤ cap) (ks : List K) :
    evict cap live ks = ⟨live, ks⟩ := by
  cases ks with
  | nil => rfl
  | cons => simp [evict, Nat.not_lt.mpr h]

section

variable (v : V) (hnew : m.lookup k = none) (hfits : m.size + 1 ≤ cap)
include hnew hfits

lemma store_of_fits : m.store cap k v = ⟨m.live.insert k v, m.order ++ [k]⟩ := by
  have hk : k ∉ m.live := AList.lookup_eq_none.mp hnew
  have hlen : (m.live.insert k v).keys.length ≤ cap := by
    rw [length_keys_insert]
    simpa [lookup_eq_none.mpr hk, size] using hfits
  rw [store, if_neg hk, evict_of_le hlen]

lemma lookup_store_of_fits (k' : K) :
    (m.store cap k v).lookup k' = if k' = k then some v else m.lookup k' := by
  rw [store_of_fits v hnew hfits]
  exact lookup_insert_eq m.live k k' v

lemma size_store_of_fits : (m.store cap k v).size = m.size + 1 := by
  rw [store_of_fits v hnew hfits]
  have hlen := length_keys_insert m.live k v
  rw [show m.live.lookup k = none from hnew] at hlen
  simpa [size] using hlen

end

/-- Two maps hold the same bindings when their keys are read off one family of labels: the eviction
orders name the same labels, and each label has the same value. -/
structure SameBindings {I : Type} (f : I → K) (g : I → L)
    (m : EvictingMap K V) (n : EvictingMap L V) : Prop where
  order : ∃ is : List I, m.order = is.map f ∧ n.order = is.map g
  lookup : ∀ i, m.lookup (f i) = n.lookup (g i)
  size : m.size = n.size

namespace SameBindings

variable {I : Type} {f : I → K} {g : I → L}
variable {m : EvictingMap K V} {n : EvictingMap L V}

lemma empty : SameBindings f g (EvictingMap.empty : EvictingMap K V) EvictingMap.empty :=
  ⟨⟨[], rfl, rfl⟩, fun _ => by simp, by simp⟩

variable (hf : Function.Injective f) (hg : Function.Injective g)
include hf hg

lemma consume (h : SameBindings f g m n) (i : I) :
    SameBindings f g (m.consume (f i)) (n.consume (g i)) := by
  refine ⟨h.order, fun j => ?_, ?_⟩
  · by_cases hj : j = i
    · subst hj
      simp
    · rw [lookup_consume_ne m (hf.ne hj), lookup_consume_ne n (hg.ne hj), h.lookup j]
  · have hm := length_keys_erase m.live (f i)
    have hn := length_keys_erase n.live (g i)
    have hsize : m.live.keys.length = n.live.keys.length := h.size
    have hlook : m.live.lookup (f i) = n.live.lookup (g i) := h.lookup i
    change (m.live.erase (f i)).keys.length = (n.live.erase (g i)).keys.length
    rw [hm, hn, hsize, hlook]

lemma evict (cap : Nat) {live : AList (fun _ : K => V)} {live' : AList (fun _ : L => V)}
    (is : List I) (hlook : ∀ i, live.lookup (f i) = live'.lookup (g i))
    (hsize : live.keys.length = live'.keys.length) :
    SameBindings f g (EvictingMap.evict cap live (is.map f))
      (EvictingMap.evict cap live' (is.map g)) := by
  induction is generalizing live live' with
  | nil => exact ⟨⟨[], rfl, rfl⟩, hlook, hsize⟩
  | cons i is ih =>
    simp only [List.map_cons, EvictingMap.evict, hsize]
    split
    · apply ih
      · intro j
        rw [lookup_erase_eq, lookup_erase_eq, hlook j]
        by_cases hj : j = i
        · simp [hj]
        · simp [hf.ne hj, hg.ne hj]
      · rw [length_keys_erase, length_keys_erase, hlook i, hsize]
    · exact ⟨⟨i :: is, rfl, rfl⟩, hlook, hsize⟩

/-- Storing the same label and value on both sides keeps the bindings equal. -/
lemma store (cap : Nat) (h : SameBindings f g m n) (i : I) (v : V) :
    SameBindings f g (m.store cap (f i) v) (n.store cap (g i) v) := by
  obtain ⟨is, hm, hn⟩ := h.order
  have hlook : ∀ j, (m.live.insert (f i) v).lookup (f j) =
      (n.live.insert (g i) v).lookup (g j) := by
    intro j
    have hj : m.live.lookup (f j) = n.live.lookup (g j) := h.lookup j
    rw [lookup_insert_eq, lookup_insert_eq, hj]
    by_cases hji : j = i
    · simp [hji]
    · simp [hf.ne hji, hg.ne hji]
  have hsize : (m.live.insert (f i) v).keys.length = (n.live.insert (g i) v).keys.length := by
    have hi : m.live.lookup (f i) = n.live.lookup (g i) := h.lookup i
    have hmn : m.live.keys.length = n.live.keys.length := h.size
    rw [length_keys_insert, length_keys_insert, hi, hmn]
  have hmem : f i ∈ m.live ↔ g i ∈ n.live := by
    rw [← lookup_isSome, ← lookup_isSome]
    exact iff_of_eq (congrArg (fun o : Option V => (o.isSome : Prop)) (h.lookup i))
  unfold EvictingMap.store
  by_cases hi : f i ∈ m.live
  · rw [if_pos hi, if_pos (hmem.mp hi), hm, hn]
    exact SameBindings.evict hf hg cap is hlook hsize
  · rw [if_neg hi, if_neg (mt hmem.mpr hi), hm, hn]
    simpa using SameBindings.evict hf hg cap (is ++ [i]) hlook hsize

end SameBindings

end EvictingMap

end Foundations
