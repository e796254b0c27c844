import Mathlib.Data.List.Perm.Subperm
import SyncApp.KeyDirectory.Holding

/-!
# The keys of the directory are answerable

A device holds the private half of every key that the directory can hand out in its name.  The web
and the Android client drop their oldest keys, which have left the directory: keys enter it in the
order of their age, and what was handed out is older than what it still has.

Main results:

- `Holder.Sound.step`: one event keeps the invariant of pool, marks and directory.
- `Holder.marked_step_iff`: the events after which a key is marked that is gone.
- `prekeys_answerable`: what holds in every orderly run.
-/

namespace SyncApp.KeyDirectory

open Foundations Messaging List
open SecretStore (lt_of_mem_range' unpublishedPreKeys)
open Holder (after)

/-! ## What holds in every orderly run -/

namespace Holder

variable {α : Type} {c : Client α} {w : Holder}

/-- The queue is the end of what the directory took; what it took and the pool still has is marked,
or in the frame that is not answered; and that frame has everything that is not marked. -/
structure Sound (w : Holder) : Prop where
  drawn : w.store.Drawn
  bounded : w.store.oneTimePreKeys.length ≤ maxLocalPreKeys
  received : ∀ k ∈ w.received, k < w.store.drawn
  nodup : w.received.Nodup
  queue : w.entry.oneTime <:+ w.received
  held : ∀ k ∈ w.entry.oneTime, k ∈ w.store.oneTimePreKeys
  handed : ∀ k ∈ w.handed, k ∈ w.received ∧ k ∉ w.entry.oneTime
  accounted : ∀ k ∈ w.received, k ∈ w.store.oneTimePreKeys →
    k ∈ w.store.publishedPreKeys ∨ k ∈ w.sent
  marks : ∀ k ∈ w.store.publishedPreKeys, k ∈ w.received
  few : w.pending = none → w.store.unpublishedPreKeys.length ≤ oneTimePreKeyCount
  offered : ∀ p ∈ w.pending, ∀ k ∈ w.store.oneTimePreKeys, k ∈ w.store.publishedPreKeys ∨ k ∈ p.1
  frame : ∀ p ∈ w.pending, ∀ k ∈ p.1, k ∈ w.received
  accepted : ∀ p ∈ w.pending, p.2.accepted = p.1.length
  left : ∀ p ∈ w.pending, w.entry.oneTime.length ≤ p.2.oneTimePreKeysLeft
  signed : w.entry.signedPreKey = "" ∨ w.entry.signedPreKey = formatInt w.store.signedPreKey ∨
    ∃ k ∈ w.store.previousSignedPreKey, w.entry.signedPreKey = formatInt k

/-- Where the oldest keys go first, the pool and what the directory took are in the order of
drawing, and what is to be offered comes last. -/
structure InOrder (w : Holder) : Prop where
  pool : w.store.oneTimePreKeys.Pairwise (· < ·)
  received : w.received.Pairwise (· < ·)
  later : ∀ k ∈ w.store.oneTimePreKeys, k ∉ w.store.publishedPreKeys → k ∉ w.sent →
    ∀ r ∈ w.received, r < k

variable {k n : Nat} {p : List Nat × KeyStateBody} {now : Int} {gone : List Nat} {s' : SecretStore}

/-- A key that the directory took after one that it still has, it still has. -/
lemma mem_queue_of_later (hs : w.Sound) (horder : w.InOrder) {k' : Nat}
    (hk : k ∈ w.entry.oneTime) (hk' : k' ∈ w.received) (hlt : k < k') : k' ∈ w.entry.oneTime := by
  rcases hs.queue with ⟨_, hfront⟩
  have hordered := horder.received
  rw [← hfront] at hk' hordered
  rcases mem_append.mp hk' with hearlier | hlater
  · have hlt' := (pairwise_append.mp hordered).2.2 k' hearlier k hk
    omega
  · exact hlater

/-- Making room does not take out what the directory still has. -/
lemma notMem_surplus (hs : w.Sound) (horder : w.InOrder) {sent : List Nat}
    {state : KeyStateBody} (hpend : w.pending = some (sent, state))
    (hfew : n ≤ oneTimePreKeyCount)
    (hlow : n ≠ 0 → state.oneTimePreKeysLeft ≤ oneTimePreKeyLowWater) (hk : k ∈ w.entry.oneTime) :
    k ∉ (w.store.oneTimePreKeys ++ range' w.store.drawn n).take
      ((w.store.oneTimePreKeys ++ range' w.store.drawn n).length - maxLocalPreKeys) := by
  intro hgone
  have hfew' : n ≤ 100 := hfew
  rw [length_append, length_range'] at hgone
  -- Keys are taken out only where keys are new, and then the directory has few.
  rcases Nat.eq_zero_or_pos n with rfl | hpos
  · rw [Nat.add_zero, Nat.sub_eq_zero_of_le hs.bounded] at hgone
    cases hgone
  have hleft : w.entry.oneTime.length ≤ 25 :=
    (hs.left _ hpend).trans (hlow (Nat.ne_of_gt hpos))
  have hm : w.store.oneTimePreKeys.length + n - maxLocalPreKeys ≤
      w.store.oneTimePreKeys.length := by
    unfold maxLocalPreKeys
    omega
  rw [take_append_of_le_length hm] at hgone
  -- What stays of the pool comes later, so the directory has it too.
  generalize hdrop : w.store.oneTimePreKeys.drop
    (w.store.oneTimePreKeys.length + n - maxLocalPreKeys) = rest
  have hsplit := take_append_drop
    (w.store.oneTimePreKeys.length + n - maxLocalPreKeys) w.store.oneTimePreKeys
  have hordered := horder.pool
  rw [← hsplit, pairwise_append, hdrop] at hordered
  have hsub : rest ⊆ w.entry.oneTime := by
    intro k' hk'
    have hpool : k' ∈ w.store.oneTimePreKeys := mem_of_mem_drop (hdrop ▸ hk')
    have hrecv : k' ∈ w.received := by
      rcases hs.offered _ hpend k' hpool with hmark | hsent
      · exact hs.marks k' hmark
      · exact hs.frame _ hpend k' hsent
    exact mem_queue_of_later hs horder hk hrecv (hordered.2.2 k hgone k' hk')
  have hnodup : rest.Nodup := hdrop ▸ (drop_sublist _ _).nodup hs.drawn.nodup
  have hlen := (hnodup.subperm hsub).length_le
  rw [← hdrop, length_drop] at hlen
  have hover : 256 < w.store.oneTimePreKeys.length + n := by
    by_contra hfits
    have hzero : w.store.oneTimePreKeys.length + n - maxLocalPreKeys = 0 :=
      Nat.sub_eq_zero_of_le (Nat.le_of_not_lt hfits)
    rw [hzero, take_zero] at hgone
    cases hgone
  unfold maxLocalPreKeys at hlen
  omega

lemma mem_unpublished {s : SecretStore} :
    k ∈ s.unpublishedPreKeys ↔ k ∈ s.oneTimePreKeys ∧ k ∉ s.publishedPreKeys := by
  unfold unpublishedPreKeys
  rw [mem_filter, decide_eq_true_eq]

section

variable (hs : w.Sound)
include hs

lemma Sound.maintain (hnone : w.pending = none) (hserves : w.Rotates now → w.ServesCurrent) :
    Sound { w with store := c.maintain w.store now } := by
  have hgrown := c.grown_maintain w.store now
  rcases hgrown.pool with ⟨first, n, hfirst, hdrawn, hpool, hfew⟩
  have hmarks := hgrown.marks
  have hle : w.store.drawn ≤ (c.maintain w.store now).drawn := by omega
  have hsub : w.store.oneTimePreKeys ⊆ (c.maintain w.store now).oneTimePreKeys := by
    rw [hpool]
    exact subset_append_left _ _
  have hold : ∀ k < w.store.drawn, k ∈ (c.maintain w.store now).oneTimePreKeys →
      k ∈ w.store.oneTimePreKeys := by
    intro k hk hmem
    rw [hpool] at hmem
    exact (mem_append.mp hmem).resolve_right fun hnew =>
      (lt_of_mem_range' (hk.trans_le hfirst) hnew).ne rfl
  refine
    { hs with
      drawn := ⟨?_, ?_, ?_⟩
      bounded := ?_
      received := fun k hk => (hs.received k hk).trans_le hle
      held := fun k hk => hsub (hs.held k hk)
      accounted := ?_
      marks := ?_
      few := ?_
      offered := ?_
      frame := ?_
      signed := ?_ }
  · rw [hpool, nodup_append]
    exact ⟨hs.drawn.nodup, nodup_range', fun k hk k' hk' =>
      (lt_of_mem_range' ((hs.drawn.pool k hk).trans_le hfirst) hk').ne⟩
  · intro k hk
    rw [hpool] at hk
    rcases mem_append.mp hk with hk | hk
    · exact (hs.drawn.pool k hk).trans_le hle
    · exact hdrawn.symm ▸ (mem_range'_1.mp hk).2
  · intro k hk
    rw [hmarks] at hk
    exact (hs.drawn.marks k hk).trans_le hle
  · rcases hfew with hzero | hfew
    · rw [hpool, hzero]
      exact (congrArg length (append_nil _)).trans_le hs.bounded
    · exact hfew.trans (by decide)
  · intro k hk hmem
    rw [hmarks]
    exact hs.accounted k hk (hold k (hs.received k hk) hmem)
  · intro k hk
    rw [hmarks] at hk
    exact hs.marks k hk
  · intro _
    rcases hfew with hzero | hfew
    · have hsame : (c.maintain w.store now).oneTimePreKeys = w.store.oneTimePreKeys := by
        rw [hpool, hzero]
        exact append_nil _
      unfold unpublishedPreKeys
      rw [hsame, hmarks]
      exact hs.few hnone
    · exact (SecretStore.length_unpublished_le _).trans hfew
  · intro p hp
    rw [hnone] at hp
    cases hp
  · intro p hp
    rw [hnone] at hp
    cases hp
  · rcases c.signed_maintain w.store now with ⟨haged, hprev⟩ | ⟨_, hsame, hprev⟩
    · rw [hprev]
      rcases hserves haged with hemp | hcur
      · exact .inl hemp
      · exact .inr (.inr ⟨_, rfl, hcur⟩)
    · rw [hsame, hprev]
      exact hs.signed

lemma InOrder.maintain (horder : w.InOrder) (now : Int) :
    InOrder { w with store := c.maintain w.store now } := by
  have hgrown := c.grown_maintain w.store now
  rcases hgrown.pool with ⟨first, n, hfirst, _, hpool, _⟩
  refine ⟨?_, horder.received, ?_⟩
  · rw [hpool, pairwise_append]
    exact ⟨horder.pool, pairwise_lt_range', fun k hk k' hk' =>
      lt_of_mem_range' ((hs.drawn.pool k hk).trans_le hfirst) hk'⟩
  · intro k hk hmark hsent r hr
    rw [hpool] at hk
    rw [hgrown.marks] at hmark
    rcases mem_append.mp hk with hk | hk
    · exact horder.later k hk hmark hsent r hr
    · exact lt_of_mem_range' ((hs.received r hr).trans_le hfirst) hk

/-- A reply is applied that leaves what the directory has. -/
lemma Sound.applied (hpend : w.pending = some p)
    (happ : w.store.Applied p.2.oneTimePreKeysLeft p.1 n gone s')
    (hstays : ∀ k ∈ w.entry.oneTime, k ∉ gone) : Sound { w with store := s', pending := none } := by
  have hminted := SecretStore.drawn_mint hs.drawn n
  have hpool : ∀ k, k ∈ s'.oneTimePreKeys ↔
      k ∈ w.store.oneTimePreKeys ++ range' w.store.drawn n ∧ k ∉ gone := by
    intro k
    rw [happ.pool, mem_filter, decide_eq_true_eq]
  have hnodup : s'.oneTimePreKeys.Nodup := by
    rw [happ.pool]
    exact hminted.nodup.filter _
  have hmarks : ∀ k, k ∈ s'.publishedPreKeys ↔
      (k ∈ w.store.publishedPreKeys ∨ k ∈ p.1) ∧ k ∉ gone := by
    intro k
    rw [happ.marks, mem_filter, decide_eq_true_eq, mem_union_iff]
  have hrecv : ∀ k, k ∈ w.store.publishedPreKeys ∨ k ∈ p.1 → k ∈ w.received := by
    rintro k (hmark | hsent)
    · exact hs.marks k hmark
    · exact hs.frame p hpend k hsent
  refine
    { hs with
      drawn := ⟨hnodup, ?_, ?_⟩
      bounded := happ.bounded
      received := ?_
      held := ?_
      accounted := ?_
      marks := ?_
      few := ?_
      offered := nofun
      frame := nofun
      accepted := nofun
      left := nofun
      signed := ?_ }
  · intro k hk
    rw [happ.drawn]
    exact hminted.pool k ((hpool k).mp hk).1
  · intro k hk
    rw [happ.drawn]
    exact Nat.lt_add_right n (hs.received k (hrecv k ((hmarks k).mp hk).1))
  · intro k hk
    rw [happ.drawn]
    exact Nat.lt_add_right n (hs.received k hk)
  · intro k hk
    exact (hpool k).mpr ⟨mem_append_left _ (hs.held k hk), hstays k hk⟩
  · intro k hk hmem
    rcases (hpool k).mp hmem with ⟨hmem, hnot⟩
    refine .inl ((hmarks k).mpr ⟨?_, hnot⟩)
    rcases mem_append.mp hmem with hold | hnew
    · exact hs.offered p hpend k hold
    · exact absurd rfl (lt_of_mem_range' (hs.received k hk) hnew).ne
  · exact fun k hk => hrecv k ((hmarks k).mp hk).1
  · intro _
    -- Of the pool only the new keys are not marked.
    have hsub : s'.unpublishedPreKeys ⊆ range' w.store.drawn n := by
      intro k hk
      rcases mem_unpublished.mp hk with ⟨hmem, hmark⟩
      rcases (hpool k).mp hmem with ⟨hmem, hnot⟩
      refine (mem_append.mp hmem).resolve_left ?_
      intro hold
      exact hmark ((hmarks k).mpr ⟨hs.offered p hpend k hold, hnot⟩)
    have hlen := ((hnodup.filter _).subperm hsub).length_le
    rw [length_range'] at hlen
    exact hlen.trans happ.few
  · rw [happ.signedPreKey, happ.previousSignedPreKey]
    exact hs.signed

lemma InOrder.applied (horder : w.InOrder) (hpend : w.pending = some p)
    (happ : w.store.Applied p.2.oneTimePreKeysLeft p.1 n gone s') :
    InOrder { w with store := s', pending := none } := by
  refine ⟨?_, horder.received, ?_⟩
  · rw [happ.pool]
    exact List.Pairwise.filter _ (pairwise_append.mpr ⟨horder.pool, pairwise_lt_range',
      fun k hk k' hk' => lt_of_mem_range' (hs.drawn.pool k hk) hk'⟩)
  · intro k hk hmark _ r hr
    rw [happ.pool, mem_filter, decide_eq_true_eq] at hk
    rw [happ.marks, mem_filter, decide_eq_true_eq, mem_union_iff] at hmark
    rcases mem_append.mp hk.1 with hold | hnew
    · exact absurd ⟨hs.offered p hpend k hold, hk.2⟩ hmark
    · exact lt_of_mem_range' (hs.received r hr) hnew

/-! ### Fetching and using keys -/

lemma Sound.expire : Sound { w with entry := .new } :=
  { hs with
    queue := nil_suffix
    held := nofun
    handed := fun k hk => ⟨(hs.handed k hk).1, not_mem_nil⟩
    left := fun _ _ => Nat.zero_le _
    signed := .inl rfl }

lemma Sound.fetch :
    Sound { w with
      entry := { w.entry with oneTime := w.entry.oneTime.tail }
      handed := w.handed ++ w.entry.oneTime.head?.toList } := by
  have htail : w.entry.oneTime.tail <:+ w.entry.oneTime := tail_suffix _
  refine { hs with
    queue := htail.trans hs.queue
    held := fun k hk => hs.held k (htail.subset hk)
    handed := ?_
    left := ?_ }
  · intro k hk
    rcases mem_append.mp hk with hk | hk
    · exact (hs.handed k hk).imp_right fun hnot hmem => hnot (htail.subset hmem)
    have hhead := Option.mem_toList.mp hk
    have hmem := mem_of_mem_head? hhead
    refine ⟨hs.queue.subset hmem, ?_⟩
    -- The queue has each key once.
    have hnodup := hs.queue.sublist.nodup hs.nodup
    rw [← cons_head?_tail hhead, nodup_cons] at hnodup
    exact hnodup.1
  · intro p hp
    exact htail.length_le.trans (hs.left p hp)

omit hs in
lemma mark_consume {s : SecretStore} {k' : Nat} (hk' : k' ∈ s.publishedPreKeys) (hne : k' ≠ k) :
    k' ∈ (c.consume s k).publishedPreKeys := by
  rw [c.marks_consume]
  split
  · exact hk'
  · exact mem_filter.mpr ⟨hk', decide_eq_true hne⟩

lemma Sound.consume (hk : k ∈ w.handed) :
    Sound { w with store := c.consume w.store k } := by
  rcases c.rest_consume w.store k with ⟨hdrawn, hsig, hprev⟩
  have hpool : ∀ k', k' ∈ (c.consume w.store k).oneTimePreKeys ↔
      k' ∈ w.store.oneTimePreKeys ∧ k' ≠ k := by
    intro k'
    rw [c.pool_consume, mem_filter, decide_eq_true_eq]
  have hnodup : (c.consume w.store k).oneTimePreKeys.Nodup := by
    rw [c.pool_consume]
    exact hs.drawn.nodup.filter _
  have hmarkSub : ∀ k' ∈ (c.consume w.store k).publishedPreKeys,
      k' ∈ w.store.publishedPreKeys := by
    intro k' hk'
    rw [c.marks_consume] at hk'
    split at hk'
    · exact hk'
    · exact (mem_filter.mp hk').1
  refine
    { hs with
      drawn := ⟨hnodup, ?_, ?_⟩
      bounded := ?_
      received := ?_
      held := ?_
      accounted := ?_
      marks := ?_
      few := ?_
      offered := ?_
      signed := ?_ }
  · intro k' hk'
    rw [hdrawn]
    exact hs.drawn.pool k' ((hpool k').mp hk').1
  · intro k' hk'
    rw [hdrawn]
    exact hs.drawn.marks k' (hmarkSub k' hk')
  · rw [c.pool_consume]
    exact (length_filter_le _ _).trans hs.bounded
  · intro k' hk'
    rw [hdrawn]
    exact hs.received k' hk'
  · intro k' hk'
    refine (hpool k').mpr ⟨hs.held k' hk', ?_⟩
    rintro rfl
    exact (hs.handed k' hk).2 hk'
  · intro k' hk' hmem
    rcases (hpool k').mp hmem with ⟨hmem, hne⟩
    exact (hs.accounted k' hk' hmem).imp_left fun hmark => mark_consume hmark hne
  · exact fun k' hk' => hs.marks k' (hmarkSub k' hk')
  · intro hnone
    refine le_trans ?_ (hs.few hnone)
    have hsub : (c.consume w.store k).unpublishedPreKeys ⊆ w.store.unpublishedPreKeys := by
      intro k' hk'
      rcases mem_unpublished.mp hk' with ⟨hmem, hmark⟩
      rcases (hpool k').mp hmem with ⟨hmem, hne⟩
      exact mem_unpublished.mpr ⟨hmem, fun hmarked => hmark (mark_consume hmarked hne)⟩
    exact ((hnodup.filter _).subperm hsub).length_le
  · intro p hp k' hmem
    rcases (hpool k').mp hmem with ⟨hmem, hne⟩
    exact (hs.offered p hp k' hmem).imp_left fun hmark => mark_consume hmark hne
  · rw [hsig, hprev]
    exact hs.signed

end

lemma InOrder.consume (horder : w.InOrder) (k : Nat) :
    InOrder { w with store := c.consume w.store k } := by
  refine ⟨?_, horder.received, ?_⟩
  · rw [c.pool_consume]
    exact horder.pool.filter _
  · intro k' hk' hmark hsent
    rw [c.pool_consume, mem_filter, decide_eq_true_eq] at hk'
    exact horder.later k' hk'.1 (fun hmarked => hmark (mark_consume hmarked hk'.2)) hsent

lemma sound_new (c : Client α) (now : Int) :
    (new c now).Sound ∧ (c.OldestFirst → (new c now).InOrder) := by
  have hpool : (c.create now).Drawn ∧ (c.create now).oneTimePreKeys.length ≤ oneTimePreKeyCount ∧
      (c.create now).publishedPreKeys = [] ∧
      (c.create now).oneTimePreKeys.Pairwise (· < ·) := by
    cases c with
    | web | android =>
      exact ⟨SecretStore.drawn_createIdentity now, length_range'.le, rfl, pairwise_lt_range'⟩
    | ios => exact ⟨⟨nodup_nil, nofun, nofun⟩, Nat.zero_le _, rfl, .nil⟩
  rcases hpool with ⟨hdrawn, hlen, hmarks, hordered⟩
  refine ⟨?_, fun _ => ⟨hordered, .nil, nofun⟩⟩
  exact
    { drawn := hdrawn
      bounded := hlen.trans (by decide)
      received := nofun
      nodup := nodup_nil
      queue := suffix_refl _
      held := nofun
      handed := nofun
      accounted := nofun
      marks := by
        intro k hk
        have hnil : k ∈ ([] : List Nat) := hmarks ▸ hk
        cases hnil
      few := fun _ => (SecretStore.length_unpublished_le _).trans hlen
      offered := nofun
      frame := nofun
      accepted := nofun
      left := nofun
      signed := .inl rfl }

/-- The record of published keys has only keys that the client has. -/
def Marked (w : Holder) : Prop := ∀ k ∈ w.store.publishedPreKeys, k ∈ w.store.oneTimePreKeys

lemma marked_consume_iff (h : w.Marked) (k : Nat) :
    Marked { w with store := c.consume w.store k } ↔
      (c.leavesMark = true → k ∉ w.store.publishedPreKeys) := by
  unfold Marked
  simp only [c.pool_consume, c.marks_consume, mem_filter, decide_eq_true_eq]
  constructor
  · intro hall hleaves hmark
    rw [if_pos hleaves] at hall
    exact (hall k hmark).2 rfl
  · intro hclean k' hk'
    split at hk'
    · next hleaves => exact ⟨h k' hk', fun heq => hclean hleaves (heq ▸ hk')⟩
    · rw [mem_filter, decide_eq_true_eq] at hk'
      exact ⟨h k' hk'.1, hk'.2⟩

lemma marked_applied_iff (hs : w.Sound) (h : w.Marked) (hpend : w.pending = some p)
    (happ : w.store.Applied p.2.oneTimePreKeysLeft p.1 n gone s')
    (hgone : gone ⊆ w.store.oneTimePreKeys ++ range' w.store.drawn n) :
    Marked { w with store := s', pending := none } ↔ ∀ k ∈ p.1, k ∈ w.store.oneTimePreKeys := by
  unfold Marked
  simp only [happ.pool, happ.marks, mem_filter, mem_union_iff, decide_eq_true_eq]
  constructor
  · intro hall k hk
    -- A key of the frame is not new, so it is not taken out unless the pool has it.
    have hold : k ∈ w.store.oneTimePreKeys ++ range' w.store.drawn n →
        k ∈ w.store.oneTimePreKeys := fun hmem =>
      (mem_append.mp hmem).resolve_right fun hnew =>
        (lt_of_mem_range' (hs.received k (hs.frame p hpend k hk)) hnew).ne rfl
    by_cases hin : k ∈ gone
    · exact hold (hgone hin)
    · exact hold (hall k ⟨.inr hk, hin⟩).1
  · rintro hfr k ⟨hmark | hsent, hnot⟩
    · exact ⟨mem_append_left _ (h k hmark), hnot⟩
    · exact ⟨mem_append_left _ (hfr k hsent), hnot⟩

lemma marked_new (c : Client α) (now : Int) : (new c now).Marked := by
  intro k hk
  cases c <;> cases hk

/-! ### Publishing -/

variable [LE α] [DecidableLE α]

lemma take_offered (hs : w.Sound) (hnone : w.pending = none) :
    (c.offered w.store).take maxPreKeysPerPublish = c.offered w.store := by
  refine take_of_length_le ?_
  rw [(c.perm_offered w.store).length_eq]
  exact (hs.few hnone).trans (by decide)

lemma mem_offered : k ∈ c.offered w.store ↔
    k ∈ w.store.oneTimePreKeys ∧ k ∉ w.store.publishedPreKeys :=
  (c.perm_offered w.store).mem_iff.trans mem_unpublished

section

variable (hs : w.Sound) (hnone : w.pending = none) (now : Int)
include hs hnone

lemma received_publish : (w.publish c now).received = w.received ++ c.offered w.store := by
  unfold publish
  dsimp only
  rw [take_offered hs hnone]

lemma queue_publish :
    (w.publish c now).entry.oneTime =
      w.entry.oneTime.rtake (maxOneTimePreKeys - (c.offered w.store).length) ++
        c.offered w.store := by
  unfold publish
  rw [DeviceKeys.oneTime_publish, appendCapped_fst, take_offered hs hnone]

lemma Sound.publish : (w.publish c now).Sound := by
  have hqueue := queue_publish (c := c) hs hnone now
  have hrecv := received_publish (c := c) hs hnone now
  have hsent : (w.publish c now).sent = c.offered w.store := rfl
  have hoff : ∀ k ∈ w.store.oneTimePreKeys,
      k ∈ w.store.publishedPreKeys ∨ k ∈ c.offered w.store := by
    intro k hpool
    by_cases hmark : k ∈ w.store.publishedPreKeys
    · exact .inl hmark
    · exact .inr (mem_offered.mpr ⟨hpool, hmark⟩)
  have hnew : ∀ k ∈ c.offered w.store, k ∉ w.received := by
    intro k hk hmem
    rcases mem_offered.mp hk with ⟨hpool, hmark⟩
    rcases hs.accounted k hmem hpool with hmarked | hsent
    · exact hmark hmarked
    · rw [sent, hnone] at hsent
      cases hsent
  refine
    { hs with
      received := ?_
      nodup := ?_
      queue := ?_
      held := ?_
      handed := ?_
      accounted := fun k _ hpool => hoff k hpool
      marks := ?_
      few := nofun
      offered := ?_
      frame := ?_
      accepted := ?_
      left := ?_
      signed := ?_ }
  · intro k hk
    rw [hrecv] at hk
    rcases mem_append.mp hk with hk | hk
    · exact hs.received k hk
    · exact hs.drawn.pool k (mem_offered.mp hk).1
  · rw [hrecv, nodup_append]
    refine ⟨hs.nodup, ?_, ?_⟩
    · exact (c.perm_offered w.store).nodup_iff.mpr (hs.drawn.nodup.filter _)
    · rintro k hk k' hk' rfl
      exact hnew k hk' hk
  · rw [hqueue, hrecv]
    rcases (Window.rtake_suffix (maxOneTimePreKeys - (c.offered w.store).length) _).trans
      hs.queue with ⟨front, hfront⟩
    exact ⟨front, by rw [← append_assoc, hfront]⟩
  · intro k hk
    rw [hqueue] at hk
    rcases mem_append.mp hk with hk | hk
    · exact hs.held k ((Window.rtake_suffix _ _).subset hk)
    · exact (mem_offered.mp hk).1
  · intro k hk
    rcases hs.handed k hk with ⟨hmem, hnot⟩
    rw [hrecv, hqueue]
    refine ⟨mem_append_left _ hmem, ?_⟩
    intro hstored
    rcases mem_append.mp hstored with hstored | hstored
    · exact hnot ((Window.rtake_suffix _ _).subset hstored)
    · exact hnew k hstored hmem
  · intro k hk
    rw [hrecv]
    exact mem_append_left _ (hs.marks k hk)
  · rintro p hp
    cases hp
    exact hoff
  · rintro p hp k hk
    cases hp
    rw [hrecv]
    exact mem_append_right _ hk
  · rintro p hp
    cases hp
    rw [keyStateBody_accepted, DeviceKeys.accepted_publish]
    exact congrArg length (take_offered hs hnone)
  · rintro p hp
    cases hp
    exact Nat.le_refl _
  · exact .inr (.inl (DeviceKeys.signedPreKey_publish _ _ _))

end

lemma InOrder.publish (hc : c.OldestFirst) (hs : w.Sound) (horder : w.InOrder)
    (hnone : w.pending = none) (now : Int) : (w.publish c now).InOrder := by
  have hrecv := received_publish (c := c) hs hnone now
  refine ⟨horder.pool, ?_, ?_⟩
  · rw [hrecv, pairwise_append]
    refine ⟨horder.received, ?_, ?_⟩
    · rw [c.offered_of_oldestFirst hc]
      exact horder.pool.filter _
    · intro r hr k hk
      rcases mem_offered.mp hk with ⟨hpool, hmark⟩
      refine horder.later k hpool hmark ?_ r hr
      rw [sent, hnone]
      exact not_mem_nil
  · intro k hpool hmark hsent
    exact absurd (mem_offered.mpr ⟨hpool, hmark⟩) hsent

theorem Sound.step (hs : w.Sound) (horder : c.OldestFirst → w.InOrder) {event : HolderEvent}
    (hord : w.Orderly c event) :
    (w.step c event).2.Sound ∧ (c.OldestFirst → (w.step c event).2.InOrder) := by
  cases event with
  | maintain now =>
    exact ⟨hs.maintain hord.1 hord.2, fun hc => (horder hc).maintain hs now⟩
  | publish now =>
    exact ⟨hs.publish hord now, fun hc => (horder hc).publish hc hs hord now⟩
  | reply =>
    simp only [Holder.step]
    split
    · exact ⟨hs, horder⟩
    · next sent state hpend =>
      rcases c.applied_applyState hs.drawn (hs.accepted _ hpend)
        (hord _ hpend) with ⟨n, gone, happ, hgone⟩
      refine ⟨hs.applied hpend happ ?_,
        fun hc => (horder hc).applied hs hpend happ⟩
      intro k hk
      rcases hgone with hnil | ⟨hc, holdest⟩
      · rw [hnil]
        exact not_mem_nil
      · rw [holdest]
        exact notMem_surplus hs (horder hc) hpend happ.few happ.low hk
  | fetch =>
    simp only [Holder.step]
    split
    · exact ⟨hs.expire, fun hc => ⟨(horder hc).pool, (horder hc).received, (horder hc).later⟩⟩
    · exact ⟨hs.fetch, fun hc => ⟨(horder hc).pool, (horder hc).received, (horder hc).later⟩⟩
  | consume k => exact ⟨hs.consume hord, fun hc => (horder hc).consume k⟩

/-- After an orderly event a key is marked that is gone exactly where the event is not clean. -/
theorem marked_step_iff (hs : w.Sound) (h : w.Marked) {event : HolderEvent}
    (hord : w.Orderly c event) : (w.step c event).2.Marked ↔ w.Clean c event := by
  cases event with
  | maintain now =>
    refine iff_of_true (fun k hk => ?_) trivial
    have hgrown := c.grown_maintain w.store now
    rcases hgrown.pool with ⟨_, _, _, _, hpool, _⟩
    have hmark : k ∈ w.store.publishedPreKeys := hgrown.marks ▸ hk
    exact hpool ▸ mem_append_left _ (h k hmark)
  | publish => exact iff_of_true h trivial
  | fetch =>
    refine iff_of_true ?_ trivial
    simp only [Holder.step]
    split <;> exact h
  | consume k => exact marked_consume_iff h k
  | reply =>
    simp only [Holder.step, Clean]
    split
    · next hnone =>
      rw [hnone]
      exact iff_of_true h nofun
    · next sent state hpend =>
      rcases c.applied_applyState hs.drawn (hs.accepted _ hpend)
        (hord _ hpend) with ⟨n, gone, happ, hgone⟩
      have hsub : gone ⊆ w.store.oneTimePreKeys ++ range' w.store.drawn n := by
        rcases hgone with hnil | ⟨-, holdest⟩
        · exact hnil ▸ nil_subset _
        · exact holdest ▸ take_subset ..
      rw [marked_applied_iff hs h hpend happ hsub, hpend]
      simp only [Option.mem_def, Option.some.injEq, forall_eq']

/-- What an orderly event keeps. -/
lemma sound_step (w : Holder) (event : HolderEvent)
    (h : Sound w ∧ (c.OldestFirst → InOrder w)) (hev : w.Orderly c event) :
    (w.step c event).2.Sound ∧ (c.OldestFirst → (w.step c event).2.InOrder) :=
  h.1.step h.2 hev

end Holder

/-- In every orderly run of each client, it has the private half of every one-time key that the
directory stores, and of the signed prekey served; it never records a key that is gone exactly if no
event leaves a mark without its key. -/
theorem prekeys_answerable {α : Type} [LE α] [DecidableLE α] (c : Client α) (now : Int)
    (events : List HolderEvent)
    (hord : Machine.Guarded (Holder.step c) (Holder.Orderly c) (Holder.new c now) events) :
    let w := after c now events
    (∀ k ∈ w.entry.oneTime, k ∈ w.store.oneTimePreKeys) ∧
      (w.entry.signedPreKey ≠ "" →
        w.entry.signedPreKey = formatInt w.store.signedPreKey ∨
          ∃ k ∈ w.store.previousSignedPreKey, w.entry.signedPreKey = formatInt k) ∧
      ((∀ before rest, events = before ++ rest →
          ∀ k ∈ (after c now before).store.publishedPreKeys,
            k ∈ (after c now before).store.oneTimePreKeys) ↔
        Machine.Guarded (Holder.step c) (Holder.Clean c) (Holder.new c now) events) := by
  have hs := (Machine.guarded_final (Holder.step c) Holder.sound_step (Holder.sound_new c now)
    hord).1
  refine ⟨hs.held, fun hserves => hs.signed.resolve_left hserves, ?_⟩
  exact Machine.forall_final_iff_guarded (Holder.step c) Holder.sound_step
    (fun _ _ h hmarked hev => Holder.marked_step_iff h.1 hmarked hev)
    (Holder.sound_new c now) (Holder.marked_new c now) hord

def day : Int := 24 * 60 * 60 * 1000

/-- The keys of a device are published, peers take most of them and use one, and the signed prekey
is replaced. -/
def usedUp : List HolderEvent :=
  [.maintain 0, .publish 0, .reply] ++ replicate 80 (.fetch day) ++
    [.consume 3, .maintain (8 * day), .publish (8 * day), .reply, .publish (8 * day), .reply]

/-- The keys that the directory then has are in the pool, and so are all that are marked. -/
theorem prekeys_answerable_android : (after (.android : Client Nat) 0 usedUp).entry.oneTime =
        range' 83 20 ++ range' 104 80 ∧
      (∀ k ∈ (after (.android : Client Nat) 0 usedUp).entry.oneTime,
        k ∈ (after (.android : Client Nat) 0 usedUp).store.oneTimePreKeys) ∧
      ∀ before rest, usedUp = before ++ rest →
        ∀ k ∈ (after (.android : Client Nat) 0 before).store.publishedPreKeys,
          k ∈ (after (.android : Client Nat) 0 before).store.oneTimePreKeys :=
  have hrun := prekeys_answerable (.android : Client Nat) 0 usedUp (by decide +kernel)
  ⟨by decide +kernel, hrun.1, hrun.2.2.mpr (by decide +kernel)⟩

def usedOnce : List HolderEvent := [.maintain 0, .publish 0, .reply, .fetch 0, .consume 3]

/-- The signed prekey is published and replaced twice. -/
def replacedTwice : List HolderEvent :=
  [.maintain 0, .publish 0, .reply, .maintain (7 * day), .maintain (14 * day)]

/-- Peers take all the keys again and again, and nobody writes. -/
def neverWritten : List HolderEvent :=
  [.maintain 0, .publish 0, .reply] ++
    (replicate 5 (replicate 50 (.fetch 0) ++ [.publish 0, .reply, .publish 0, .reply])).flatten

/-- The directory serves the first signed prekey of the device, and the device has it no more. -/
def Holder.Outdated (w : Holder) : Prop :=
  w.entry.signedPreKey = formatInt 2 ∧ w.store.signedPreKey ≠ 2 ∧
    w.store.previousSignedPreKey ≠ some 2
deriving Decidable

/-- The directory has a one-time key that the device has no more. -/
def Holder.Stranded (w : Holder) : Prop := ∃ k ∈ w.entry.oneTime, k ∉ w.store.oneTimePreKeys
deriving Decidable

/-- On the web a key that is used leaves its mark.  On all clients the directory serves a signed
prekey that is gone after two replacements without a publish.  On iOS making room takes out keys
that the directory has. -/
theorem prekeys_not_answerable :
    (3 ∈ (after (.web : Client Nat) 0 usedOnce).store.publishedPreKeys ∧
        3 ∉ (after (.web : Client Nat) 0 usedOnce).store.oneTimePreKeys) ∧
      ((after (.web : Client Nat) 0 replacedTwice).Outdated ∧
        (after (.android : Client Nat) 0 replacedTwice).Outdated ∧
        (after (.ios id : Client Nat) 0 replacedTwice).Outdated) ∧
      (after (.ios fun k => (k + 47) % 300) 0 neverWritten).Stranded := by
  decide +kernel

end SyncApp.KeyDirectory
