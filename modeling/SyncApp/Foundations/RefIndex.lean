import Mathlib.Data.List.AList
import SyncApp.Foundations.Tables

/-!
# Reference counts under keys

Under each key an index counts references to nodes.  A node is taken out with its last reference,
and a key with its last node.

Main results:

- `mem_nodes`: the nodes listed are those with a reference.
- `count_inc`, `count_dec`: the counts after a call.
-/

namespace Foundations

open Function

/-- Counts of references by key and node.  No count that is kept is zero. -/
structure RefIndex (K N : Type) [DecidableEq N] where
  entries : K → Option (AList fun _ : N => Nat)
  positive : ∀ key nodes, entries key = some nodes →
    ∀ node count, nodes.lookup node = some count → 0 < count

namespace RefIndex

variable {K N : Type} [DecidableEq K] [DecidableEq N]

/-- No references. -/
def empty : RefIndex K N := ⟨fun _ => none, nofun⟩

variable (r : RefIndex K N) (key : K)

def counts : AList fun _ : N => Nat := (r.entries key).getD ∅

/-- The number of references to a node under a key. -/
def count (node : N) : Nat := ((r.counts key).lookup node).getD 0

def nodes : List N := (r.counts key).keys

omit [DecidableEq K] in
lemma pos_of_lookup {r : RefIndex K N} {key : K} {node : N} {count : Nat}
    (h : (r.counts key).lookup node = some count) : 0 < count := by
  unfold counts at h
  cases hkey : r.entries key with
  | none => simp [hkey] at h
  | some nodes =>
    rw [hkey, Option.getD_some] at h
    exact r.positive key nodes hkey node count h

omit [DecidableEq K] in
theorem mem_nodes {r : RefIndex K N} {key : K} {node : N} :
    node ∈ r.nodes key ↔ 0 < r.count key node := by
  unfold nodes count
  rw [← AList.mem_keys, ← AList.lookup_isSome]
  cases hlook : (r.counts key).lookup node with
  | none => simp
  | some => simpa using pos_of_lookup hlook

omit [DecidableEq K] in
lemma nodup_nodes : (r.nodes key).Nodup :=
  (r.counts key).keys_nodup

variable (nodes : AList fun _ : N => Nat)
  (h : ∀ node count, nodes.lookup node = some count → 0 < count)

/-- The counts of a key are written, and a key without counts is taken out. -/
def put : RefIndex K N where
  entries := update r.entries key (if nodes.keys.length = 0 then none else some nodes)
  positive := by
    intro key' nodes' hkey node count hlook
    rcases update_cases hkey with ⟨rfl, hnew⟩ | ⟨-, hold⟩
    · split at hnew
      · cases hnew
      · exact h node count (Option.some.inj hnew ▸ hlook)
    · exact r.positive key' nodes' hold node count hlook

lemma counts_put (key' : K) (node : N) : ((r.put key nodes h).counts key').lookup node =
      if key' = key then nodes.lookup node else (r.counts key').lookup node := by
  simp only [counts, put]
  rcases eq_or_ne key' key with rfl | hne
  · rw [update_self, if_pos rfl]
    split
    · next hnil =>
      -- A map without keys looks up nothing.
      rw [List.length_eq_zero_iff] at hnil
      have habsent : node ∉ nodes := by simp [AList.mem_keys, hnil]
      simp [AList.lookup_eq_none.mpr habsent]
    · rfl
  · rw [update_of_ne hne, if_neg hne]

/-- One more reference. -/
def inc (node : N) : RefIndex K N :=
  r.put key ((r.counts key).insert node (r.count key node + 1)) (by
    intro node' count h
    rcases eq_or_ne node' node with rfl | hne
    · rw [AList.lookup_insert, Option.some.injEq] at h
      omega
    · rw [AList.lookup_insert_ne hne] at h
      exact pos_of_lookup h)

/-- The counts of a key with one reference less, if there is one. -/
def less (node : N) : AList fun _ : N => Nat :=
  let count := (nodes.lookup node).getD 0
  if 0 < count then
    if count - 1 = 0 then nodes.erase node else nodes.insert node (count - 1)
  else nodes

lemma pos_of_lookup_less {nodes : AList fun _ : N => Nat}
    (h : ∀ node count, nodes.lookup node = some count → 0 < count) (node : N) :
    ∀ node' count, (less nodes node).lookup node' = some count → 0 < count := by
  intro node' count hlook
  unfold less at hlook
  dsimp only at hlook
  split at hlook
  · split at hlook
    · rcases eq_or_ne node' node with rfl | hne
      · simp at hlook
      · rw [AList.lookup_erase_ne hne] at hlook
        exact h node' count hlook
    · rcases eq_or_ne node' node with rfl | hne
      · rw [AList.lookup_insert, Option.some.injEq] at hlook
        omega
      · rw [AList.lookup_insert_ne hne] at hlook
        exact h node' count hlook
  · exact h node' count hlook

lemma getD_lookup_less (node node' : N) : ((less nodes node).lookup node').getD 0 =
      if node' = node then (nodes.lookup node).getD 0 - 1 else (nodes.lookup node').getD 0 := by
  unfold less
  dsimp only
  rcases eq_or_ne node' node with rfl | hne
  · rw [if_pos rfl]
    split
    · split
      · next hlast =>
        rw [hlast]
        simp
      · simp
    · omega
  · split
    · split
      · rw [AList.lookup_erase_ne hne]
      · rw [AList.lookup_insert_ne hne]
    · rfl

/-- One reference less. -/
def dec (node : N) : RefIndex K N :=
  match h : r.entries key with
  | none => r
  | some nodes => r.put key (less nodes node) (pos_of_lookup_less (r.positive key nodes h) node)

variable (r : RefIndex K N) (key key' : K) (node node' : N)

omit [DecidableEq K] in
@[simp]
lemma count_empty : (empty : RefIndex K N).count key node = 0 := by
  simp [count, counts, empty]

theorem count_inc : (r.inc key node).count key' node' =
      r.count key' node' + if key' = key ∧ node' = node then 1 else 0 := by
  simp only [count, inc, counts_put]
  rcases eq_or_ne key' key with rfl | hkey
  · rcases eq_or_ne node' node with rfl | hnode
    · simp
    · simp [hnode, AList.lookup_insert_ne hnode]
  · simp [hkey]

theorem count_dec : (r.dec key node).count key' node' =
      r.count key' node' - if key' = key ∧ node' = node then 1 else 0 := by
  unfold dec
  split
  · next hkey =>
    split
    · next heq =>
      rcases heq with ⟨rfl, rfl⟩
      simp [count, counts, hkey]
    · rfl
  · next nodes hkey =>
    have hcounts : r.counts key = nodes := by simp [counts, hkey]
    simp only [count, counts_put]
    rcases eq_or_ne key' key with rfl | hne
    · rw [if_pos rfl, getD_lookup_less, hcounts]
      rcases eq_or_ne node' node with rfl | hnode
      · simp
      · simp [hnode]
    · simp [hne]

end RefIndex
end Foundations
