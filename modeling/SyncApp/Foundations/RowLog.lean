import Mathlib.Data.List.Nodup

/-!
# Logs whose rows evolve

A log only grows, and its rows may be rewritten in place, as far as a relation allows.

Main results:

- `Extends.trans`, `Extends.append`: how logs extend each other.
-/

namespace Foundations.RowLog

open List

variable {α β : Type}

/-! ## Extension -/

/-- A log extends another one: every row of the other is still at its position,
after a change that the relation allows. -/
def Extends (R : α → α → Prop) (rows rows' : List α) : Prop :=
  ∀ (i : Nat) (a : α), rows[i]? = some a → ∃ a', rows'[i]? = some a' ∧ R a a'

namespace Extends

variable {R : α → α → Prop} {rows rows' rows'' : List α}

lemma refl (hrefl : ∀ a, R a a) (rows : List α) : Extends R rows rows :=
  fun _ a h => ⟨a, h, hrefl a⟩

theorem trans (htrans : ∀ a b c, R a b → R b c → R a c) (h : Extends R rows rows')
    (h' : Extends R rows' rows'') : Extends R rows rows'' := by
  intro i a ha
  rcases h i a ha with ⟨b, hb, hab⟩
  rcases h' i b hb with ⟨c, hc, hbc⟩
  exact ⟨c, hc, htrans a b c hab hbc⟩

theorem append (rows added : List α) (hrefl : ∀ a, R a a) : Extends R rows (rows ++ added) := by
  intro i a ha
  refine ⟨a, ?_, hrefl a⟩
  rw [getElem?_append_left (List.getElem?_eq_some_iff.mp ha).1]
  exact ha

lemma of_forall₂ (h : List.Forall₂ R rows rows') : Extends R rows rows' := by
  induction h with
  | nil => exact fun _ _ ha => absurd ha (by simp)
  | cons hab _ ih =>
    intro i a ha
    cases i with
    | zero =>
      rw [getElem?_cons_zero, Option.some.injEq] at ha
      exact ⟨_, rfl, ha ▸ hab⟩
    | succ i => exact ih i a ha

end Extends

variable {R : α → α → Prop} {rows rows' : List α} {b a : α} {g name : α → β} {f : α → α}
  {p : α → Bool}

lemma forall₂_trans (htrans : ∀ a b c, R a b → R b c → R a c) {rows'' : List α}
    (h : List.Forall₂ R rows rows') (h' : List.Forall₂ R rows' rows'') :
    List.Forall₂ R rows rows'' := by
  induction h generalizing rows'' with
  | nil =>
    cases h' with
    | nil => exact .nil
  | cons hab _ ih =>
    cases h' with
    | cons hbc hrest => exact .cons (htrans _ _ _ hab hbc) (ih hrest)

lemma exists_of_mem_right (h : List.Forall₂ R rows rows') (hb : b ∈ rows') :
    ∃ a ∈ rows, R a b := by
  induction h with
  | nil => exact absurd hb not_mem_nil
  | cons hab _ ih =>
    rcases mem_cons.mp hb with rfl | hrest
    · exact ⟨_, mem_cons_self, hab⟩
    rcases ih hrest with ⟨a, ha, hR⟩
    exact ⟨a, mem_cons_of_mem _ ha, hR⟩

lemma map_eq_of_forall₂ (hg : ∀ a b, R a b → g b = g a) (h : List.Forall₂ R rows rows') :
    rows'.map g = rows.map g := by
  induction h with
  | nil => rfl
  | cons hab _ ih => rw [map_cons, map_cons, ih, hg _ _ hab]

/-- Rewrite the first row that satisfies a test. -/
def updateFirst (p : α → Bool) (f : α → α) : List α → List α
  | [] => []
  | a :: rows => if p a then f a :: rows else a :: updateFirst p f rows

lemma forall₂_updateFirst (hrefl : ∀ a, R a a) (rows : List α)
    (hf : ∀ a, rows.find? p = some a → R a (f a)) : List.Forall₂ R rows (updateFirst p f rows) := by
  induction rows with
  | nil => exact .nil
  | cons a rows ih =>
    unfold updateFirst
    split
    · next hp =>
      exact .cons (hf a (find?_cons_of_pos hp)) (forall₂_same.mpr fun b _ => hrefl b)
    · next hp =>
      refine .cons (hrefl a) (ih fun b hb => hf b ?_)
      rw [find?_cons_of_neg hp]
      exact hb

lemma mem_updateFirst (hb : b ∈ updateFirst p f rows) :
    b ∈ rows ∨ ∃ a, rows.find? p = some a ∧ b = f a := by
  have hrows : List.Forall₂ (fun a b => b = a ∨ (rows.find? p = some a ∧ b = f a)) rows
      (updateFirst p f rows) :=
    forall₂_updateFirst (fun _ => .inl rfl) rows fun _ ha => .inr ⟨ha, rfl⟩
  rcases exists_of_mem_right hrows hb with ⟨a, ha, rfl | hfound⟩
  · exact .inl ha
  · exact .inr ⟨a, hfound⟩

lemma getElem?_updateFirst (ha : rows.find? p = some a) :
    ∃ i : Nat, rows[i]? = some a ∧ (updateFirst p f rows)[i]? = some (f a) := by
  induction rows with
  | nil => exact absurd ha (by simp)
  | cons b rows ih =>
    unfold updateFirst
    by_cases hp : p b
    · rw [find?_cons_of_pos hp, Option.some.injEq] at ha
      rw [if_pos hp, ha]
      exact ⟨0, rfl, rfl⟩
    · rw [find?_cons_of_neg hp] at ha
      rw [if_neg hp]
      rcases ih ha with ⟨i, hrow, hrow'⟩
      exact ⟨i + 1, hrow, hrow'⟩

lemma map_updateFirst (hf : ∀ a, p a = true → g (f a) = g a) (rows : List α) :
    (updateFirst p f rows).map g = rows.map g := by
  induction rows with
  | nil => rfl
  | cons a rows ih =>
    unfold updateFirst
    split
    · next hp => rw [map_cons, map_cons, hf a hp]
    · rw [map_cons, map_cons, ih]

lemma nodup_snoc {names : List β} (hnodup : names.Nodup) {b : β} (hnew : b ∉ names) :
    (names ++ [b]).Nodup := by
  apply nodup_append.mpr
  refine ⟨hnodup, nodup_singleton b, ?_⟩
  intro a ha c hc hac
  rw [mem_singleton] at hc
  exact hnew (hc ▸ hac ▸ ha)

/-- Where names are distinct, the first row with a name is the only one. -/
lemma find?_of_nodup [DecidableEq β] (hnodup : (rows.map name).Nodup) (hrow : a ∈ rows) :
    rows.find? (fun b => name b = name a) = some a := by
  induction rows with
  | nil => exact absurd hrow not_mem_nil
  | cons b rows ih =>
    rw [map_cons, nodup_cons] at hnodup
    rcases mem_cons.mp hrow with rfl | hrest
    · exact find?_cons_of_pos (by simp)
    have hne : name b ≠ name a := by
      intro hname
      exact hnodup.1 (hname ▸ mem_map_of_mem hrest)
    rw [find?_cons_of_neg (by simpa using hne)]
    exact ih hnodup.2 hrest

/-- Where names are distinct, rewriting the first row with a name rewrites all of
them. -/
lemma updateFirst_eq_map [DecidableEq β] (hnodup : (rows.map name).Nodup) (n : β) (f : α → α) :
    updateFirst (fun a => name a = n) f rows = rows.map fun a => if name a = n then f a else a := by
  induction rows with
  | nil => rfl
  | cons a rows ih =>
    rw [map_cons, nodup_cons] at hnodup
    unfold updateFirst
    rw [map_cons]
    by_cases hname : name a = n
    · have hrest : (rows.map fun a => if name a = n then f a else a) = rows := by
        refine Eq.trans (map_congr_left fun b hb => if_neg ?_) (map_id rows)
        intro hb'
        exact hnodup.1 (hname.trans hb'.symm ▸ mem_map_of_mem hb)
      rw [if_pos (decide_eq_true hname), if_pos hname, hrest]
    · rw [if_neg (by simpa using hname), if_neg hname, ih hnodup.2]

end Foundations.RowLog
