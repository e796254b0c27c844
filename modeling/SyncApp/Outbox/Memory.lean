import SyncApp.Messaging.Staging
import SyncApp.Outbox.Relay

/-!
# The relay over the in-memory store

The message service and the relay share one store.  What was not published is in the outbox,
unmarked and in the order of staging, whatever fails.

Main results:

- `memoryBox_lawful`: the store keeps to the laws that the relay relies on.
- `memoryWorld_inOrder`: records are handed out in order.
-/

namespace SyncApp.Outbox

open Foundations OrderedDelivery Messaging List

def stagedBy : Service → List ServiceOp → List OutboxRecord
  | _, [] => []
  | sv, op :: ops => sv.staged op ++ stagedBy (sv.step op).2 ops

/-- The in-memory store, whose calls do not fail, next to the message service. -/
def memoryBox : Box Service (List ServiceOp) Unit where
  others sv ops := (stagedBy sv ops, sv.after ops)
  poll sv _ limit := (some (sv.store.pollOutbox limit), sv)
  markSent sv _ ids := (true, { sv with store := sv.store.markSent ids })
  purgeSent sv _ limit := { sv with store := (sv.store.purgeSent limit).2 }

/-- Requests to the services, as long as the clock has room. -/
def RequestsInTime (sv : Service) (_ : List OutboxRecord) (ops : List ServiceOp) : Prop :=
  Machine.Guarded Service.step (fun sv op => Service.isRelayCall op = false ∧ sv.InTime op) sv ops

lemma pollLoop_eq_take (sent : String → Bool) (limit : Int) (out records : List OutboxRecord) :
    ∃ n : Nat, Store.pollLoop sent limit out records =
      out ++ (records.filter fun rec => !sent rec.id).take n ∧ limit ≤ out.length + n := by
  induction records generalizing out with
  | nil => exact ⟨limit.toNat, by simp [Store.pollLoop], by omega⟩
  | cons rec records ih =>
    unfold Store.pollLoop
    by_cases hsent : sent rec.id = true
    · rw [if_pos hsent, filter_cons_of_neg (by simp [hsent])]
      exact ih out
    rw [if_neg hsent, filter_cons_of_pos (by simp [hsent])]
    by_cases hfull : limit ≤ (out ++ [rec]).length
    · rw [if_pos hfull]
      exact ⟨1, rfl, by simpa using hfull⟩
    rw [if_neg hfull]
    rcases ih (out ++ [rec]) with ⟨n, hn, hlim⟩
    rw [length_append, length_singleton] at hlim
    refine ⟨n + 1, ?_, by omega⟩
    rw [hn, take_succ_cons, append_assoc]
    rfl

/-! ## The account -/

lemma foldl_marks (ids : List String) (sent : String → Bool) (id : String) :
    ids.foldl (fun sent id => Function.update sent id true) sent id = true ↔
      sent id = true ∨ id ∈ ids := by
  induction ids generalizing sent with
  | nil => simp
  | cons first ids ih =>
    rw [foldl_cons, ih, Function.update_apply, mem_cons]
    split
    · next heq => simp [heq]
    · next hne => simp [hne]

/-- The outbox has every record that was not published, unmarked and in order. -/
structure MemoryAccount (sv : Service) (staged done : List OutboxRecord) : Prop where
  ids : (staged.map (·.id)).Nodup
  issued : ∀ q ∈ staged, sv.ids.Issued q.id
  marks : ∀ id, sv.store.outboxSent id = true → sv.ids.Issued id
  outbox : sv.store.outbox.Sublist staged
  pending : ∀ q ∈ staged, q ∉ done → q ∈ sv.store.outbox ∧ sv.store.outboxSent q.id = false

namespace MemoryAccount

variable {sv : Service} {staged done : List OutboxRecord}

lemma nodup (h : MemoryAccount sv staged done) : staged.Nodup :=
  List.Nodup.of_map _ h.ids

lemma step (h : MemoryAccount sv staged done) {op : ServiceOp}
    (hop : Service.isRelayCall op = false) (htime : sv.InTime op) :
    MemoryAccount (sv.step op).2 (staged ++ sv.staged op) done := by
  have hlater := (sv.step_rows op).later
  have hmarks : ∀ id, sv.store.outboxSent id = true → (sv.step op).2.ids.Issued id :=
    fun id hid => hlater.issued htime id (h.marks id hid)
  have hissued : ∀ q ∈ staged, (sv.step op).2.ids.Issued q.id :=
    fun q hq => hlater.issued htime q.id (h.issued q hq)
  cases sv.step_stages hop with
  | nothing hbox hsent =>
    have hstaged : sv.staged op = [] := by
      rw [Service.staged, hbox, drop_length]
    rw [hstaged, append_nil]
    constructor
    · exact h.ids
    · exact hissued
    · rw [hsent]
      exact hmarks
    · rw [hbox]
      exact h.outbox
    · rw [hbox, hsent]
      exact h.pending
  | one rec hbox hsent hdraws =>
    have hstaged : sv.staged op = [rec] := by
      rw [Service.staged, hbox, drop_left]
    have hfresh : ¬ sv.ids.Issued rec.id := hdraws.not_issued htime
    rw [hstaged]
    constructor
    · rw [map_append]
      apply RowLog.nodup_snoc h.ids
      intro hmem
      rcases mem_map.mp hmem with ⟨q, hq, heq⟩
      apply hfresh
      have hissued' := h.issued q hq
      rw [heq] at hissued'
      exact hissued'
    · exact forall_mem_append.mpr ⟨hissued, forall_mem_singleton.mpr (hdraws.issued htime)⟩
    · rw [hsent]
      exact hmarks
    · rw [hbox]
      exact h.outbox.append (List.Sublist.refl _)
    · intro q hq hdone
      rw [hbox, hsent]
      rcases mem_append.mp hq with hold | hnew
      · rcases h.pending q hold hdone with ⟨hmem, hunsent⟩
        exact ⟨mem_append_left _ hmem, hunsent⟩
      · refine ⟨mem_append_right _ hnew, ?_⟩
        rw [mem_singleton.mp hnew, ← Bool.not_eq_true]
        exact fun hmark => hfresh (h.marks rec.id hmark)

variable (h : MemoryAccount sv staged done)
include h

lemma others {ops : List ServiceOp} (hops : RequestsInTime sv staged ops) :
    MemoryAccount (sv.after ops) (staged ++ stagedBy sv ops) done := by
  induction ops generalizing sv staged with
  | nil =>
    unfold stagedBy
    rw [append_nil]
    exact h
  | cons op ops ih =>
    rcases hops with ⟨⟨hop, htime⟩, hrest⟩
    unfold stagedBy
    rw [← append_assoc]
    exact ih (h.step hop htime) hrest

lemma follows (limit : Int) :
    Follows OutboxRecord.key staged done (sv.store.pollOutbox limit) := by
  rcases pollLoop_eq_take sv.store.outboxSent limit [] sv.store.outbox with ⟨n, hn, -⟩
  unfold Store.pollOutbox
  rw [hn, nil_append]
  apply Follows.take
  generalize hunsent : (sv.store.outbox.filter fun rec => !sv.store.outboxSent rec.id) = unsent
  have hsub : unsent.Sublist staged := by
    rw [← hunsent]
    exact filter_sublist.trans h.outbox
  intro before r after heq q hpre hkey
  by_cases hdone : q ∈ done
  · exact .inl hdone
  right
  have hq : q ∈ staged := by
    rcases hpre with ⟨_, _, rfl, hearlier⟩
    exact mem_append_left _ hearlier
  have hmem : q ∈ unsent := by
    rcases h.pending q hq hdone with ⟨hbox, hmark⟩
    rw [← hunsent]
    exact mem_filter.mpr ⟨hbox, by rw [hmark]; rfl⟩
  have hr : r ∈ unsent := by
    rw [heq]
    exact mem_append_right _ mem_cons_self
  exact (hpre.sublist h.nodup hsub hmem hr).mem_left (h.nodup.sublist hsub) heq

lemma mem_staged_of_poll {limit : Int} {r : OutboxRecord} (hr : r ∈ sv.store.pollOutbox limit) :
    r ∈ staged := by
  rcases pollLoop_eq_take sv.store.outboxSent limit [] sv.store.outbox with ⟨n, hn, -⟩
  unfold Store.pollOutbox at hr
  rw [hn, nil_append] at hr
  exact h.outbox.subset (mem_of_mem_filter (mem_of_mem_take hr))

lemma drops {sent : String → Bool} {s : Store} (hmarks : ∀ id, sent id = true → sv.ids.Issued id)
    (hpend : ∀ q ∈ staged, q ∉ done → sent q.id = false)
    (hdrops : Drops sv.store.outbox sent s.outbox s.outboxSent) :
    MemoryAccount { sv with store := s } staged done where
  ids := h.ids
  issued := h.issued
  marks id hid := hmarks id (hdrops.marks id hid)
  outbox := hdrops.sublist.trans h.outbox
  pending q hq hdone := by
    have hunsent := hpend q hq hdone
    refine ⟨hdrops.kept q (h.pending q hq hdone).1 hunsent, ?_⟩
    rw [← Bool.not_eq_true]
    intro hmark
    rw [hdrops.marks q.id hmark] at hunsent
    exact absurd hunsent.symm Bool.false_ne_true

lemma markSent {ids : List String} (hids : ∀ id ∈ ids, ∃ r ∈ done, r ∈ staged ∧ r.id = id) :
    MemoryAccount { sv with store := sv.store.markSent ids } staged done := by
  refine h.drops (fun id hid => ?_) (fun q hq hdone => ?_) (drops_compact _ _)
  · rcases (foldl_marks ids sv.store.outboxSent id).mp hid with hold | hnew
    · exact h.marks id hold
    · rcases hids id hnew with ⟨r, -, hr, rfl⟩
      exact h.issued r hr
  · rw [← Bool.not_eq_true, foldl_marks, not_or, (h.pending q hq hdone).2]
    refine ⟨Bool.false_ne_true, fun hmem => ?_⟩
    rcases hids q.id hmem with ⟨r, hrdone, hr, heq⟩
    exact hdone (inj_on_of_nodup_map h.ids hr hq heq ▸ hrdone)

lemma purgeSent (limit : Int) :
    MemoryAccount { sv with store := (sv.store.purgeSent limit).2 } staged done :=
  h.drops h.marks (fun q hq hdone => (h.pending q hq hdone).2) (drops_purgeLoop limit _ _ 0)

lemma deliver (recs : List OutboxRecord) : MemoryAccount sv staged (done ++ recs) :=
  ⟨h.ids, h.issued, h.marks, h.outbox, fun q hq hdone =>
    h.pending q hq fun hmem => hdone (mem_append_left _ hmem)⟩

end MemoryAccount

theorem memoryBox_lawful (batch : Nat) :
    memoryBox.Lawful batch MemoryAccount RequestsInTime (fun _ _ => True) where
  nodup h := h.nodup
  others _ h hops := h.others hops
  poll _ h _ := by
    refine ⟨h, fun recs hrecs => ?_⟩
    rw [← Option.some.inj hrecs]
    exact ⟨h.follows batch, fun r hr => h.mem_staged_of_poll hr⟩
  deliver recs h := h.deliver recs
  markSent _ _ h hids := h.markSent hids
  purgeSent _ limit h := h.purgeSent limit

/-- A service that has handled no request, and its relay. -/
def memoryWorld (ids : Generator) : World Service := ⟨Service.new ids, [], []⟩

theorem memoryWorld_inOrder (ids : Generator) : Box.InOrder MemoryAccount (memoryWorld ids) where
  account :=
    { ids := nodup_nil
      issued := fun _ h => absurd h not_mem_nil
      marks := fun _ h => absurd h Bool.false_ne_true
      outbox := List.Sublist.refl _
      pending := fun _ h => absurd h not_mem_nil }
  follows := Follows.nil _ _
  staged _ h := absurd h not_mem_nil

end SyncApp.Outbox
