import Mathlib.Data.List.AList
import SyncApp.Foundations.Tables

/-!
# A store of hashes that expire

Under each key a hash from fields to integers, and the time at which it expires, if it does.  A hash
without fields is not kept, and a field that is not there has the value zero.

Main results:

- `value_hincrby`, `value_hdel`, `value_pexpire`, `value_sweep`: the values after each command.
-/

namespace Foundations

open Function

structure ExpiringHash (F : Type) [DecidableEq F] where
  fields : AList fun _ : F => Int
  deadline : Option Nat

structure HashStore (K F : Type) [DecidableEq F] where
  hash : K → Option (ExpiringHash F)
  nonempty : ∀ key h, hash key = some h → h.fields.keys ≠ []

namespace HashStore

variable {K F : Type} [DecidableEq K] [DecidableEq F]

def empty : HashStore K F := ⟨fun _ => none, nofun⟩

def fields (s : HashStore K F) (key : K) : AList fun _ : F => Int :=
  ((s.hash key).map ExpiringHash.fields).getD ∅

variable (s : HashStore K F) (key : K) (field : F)

/-- The value of a field, zero if it is not there. -/
def value : Int := ((s.fields key).lookup field).getD 0

/-- The hash under a key is written, or taken out if it has no fields. -/
def put (h : ExpiringHash F) : HashStore K F where
  hash := update s.hash key (if h.fields.keys = [] then none else some h)
  nonempty := by
    intro key' h' hkey
    rcases update_cases hkey with ⟨rfl, hnew⟩ | ⟨-, hold⟩
    · split at hnew
      · cases hnew
      · next hfields => exact Option.some.inj hnew ▸ hfields
    · exact s.nonempty key' h' hold

/-- `HINCRBY`, with the value that it answers. -/
def hincrby (by_ : Int) : Int × HashStore K F :=
  let n := s.value key field + by_
  (n, s.put key ⟨(s.fields key).insert field n, (s.hash key).bind ExpiringHash.deadline⟩)

def hdel : HashStore K F :=
  s.put key ⟨(s.fields key).erase field, (s.hash key).bind ExpiringHash.deadline⟩

def hlen : Nat := (s.fields key).keys.length

def hkeys : List F := (s.fields key).keys

def del : HashStore K F where
  hash := update s.hash key none
  nonempty := by
    intro key' h' hkey
    rcases eq_or_ne key' key with rfl | hne
    · simp at hkey
    · rw [update_of_ne hne] at hkey
      exact s.nonempty key' h' hkey

/-- `PEXPIRE`: nothing happens to a key that is not there. -/
def pexpire (deadline : Nat) : HashStore K F :=
  match s.hash key with
  | none => s
  | some h => s.put key { h with deadline := some deadline }

variable (now : Nat)

def Expired (key : K) : Prop :=
  ∃ h ∈ s.hash key, ∃ deadline ∈ h.deadline, deadline ≤ now
deriving Decidable

def sweep : HashStore K F where
  hash := fun key => if s.Expired now key then none else s.hash key
  nonempty := by
    intro key h hkey
    split at hkey
    · cases hkey
    · exact s.nonempty key h hkey

variable (s : HashStore K F) (key key' : K) (field field' : F)

omit [DecidableEq K] in
@[simp]
lemma value_empty : (empty : HashStore K F).value key field = 0 := by
  simp [value, fields, empty]

lemma fields_put (h : ExpiringHash F) :
    (s.put key h).fields key' = if key' = key then h.fields else s.fields key' := by
  unfold fields put
  dsimp only
  rcases eq_or_ne key' key with rfl | hne
  · rw [update_self, if_pos rfl]
    split
    · next hnil =>
      have hentries : h.fields.entries = [] := List.map_eq_nil_iff.mp hnil
      exact (AList.ext hentries).symm
    · rfl
  · rw [update_of_ne hne, if_neg hne]

theorem value_hincrby (n : Int) : (s.hincrby key field n).2.value key' field' =
      s.value key' field' + if key' = key ∧ field' = field then n else 0 := by
  simp only [value, hincrby, fields_put]
  rcases eq_or_ne key' key with rfl | hkey
  · rcases eq_or_ne field' field with rfl | hfield
    · simp
    · simp [hfield, AList.lookup_insert_ne hfield]
  · simp [hkey]

theorem value_hdel : (s.hdel key field).value key' field' =
      if key' = key ∧ field' = field then 0 else s.value key' field' := by
  simp only [value, hdel, fields_put]
  rcases eq_or_ne key' key with rfl | hkey
  · rcases eq_or_ne field' field with rfl | hfield
    · simp
    · simp [hfield, AList.lookup_erase_ne hfield]
  · simp [hkey]

/-- A key whose hash has no fields is not there, so it need not be deleted. -/
lemma del_of_hlen : (if s.hlen key = 0 then s.del key else s) = s := by
  by_cases h : s.hlen key = 0
  case neg => rw [if_neg h]
  rw [if_pos h]
  have hnone : s.hash key = none := by
    cases hkey : s.hash key with
    | none => rfl
    | some hash =>
      refine absurd ?_ (s.nonempty key hash hkey)
      simpa [hlen, fields, hkey] using h
  cases s with
  | mk =>
    simp only [del, mk.injEq]
    exact update_eq_self_iff.mpr hnone.symm

theorem value_pexpire (deadline : Nat) :
    (s.pexpire key deadline).value key' field' = s.value key' field' := by
  unfold pexpire
  split
  · rfl
  · next h hkey =>
    simp only [value, fields_put]
    rcases eq_or_ne key' key with rfl | hne
    · simp [fields, hkey]
    · simp [hne]

omit [DecidableEq K] in
theorem value_sweep :
    (s.sweep now).value key field = if s.Expired now key then 0 else s.value key field := by
  unfold value fields sweep
  dsimp only
  split
  · simp
  · rfl

omit [DecidableEq K] in
lemma mem_hkeys {s : HashStore K F} {key : K} {field : F} (h : s.value key field ≠ 0) :
    field ∈ s.hkeys key := by
  unfold value at h
  unfold hkeys
  rw [← AList.mem_keys, ← AList.lookup_isSome]
  cases hlook : (s.fields key).lookup field with
  | none => simp [hlook] at h
  | some => rfl

end HashStore
end Foundations
