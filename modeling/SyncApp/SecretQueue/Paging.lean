import SyncApp.Messaging.Snowflake
import SyncApp.SecretQueue.Store

/-!
# Reading the queue page by page

A device asks for what comes after the last envelope it was returned; if that one was acknowledged,
pushed out or expired, nothing is found.

Main results:

- `History.kept_step`: what a call keeps of what was queued.
- `page_complete_iff`: when a page has everything that is left.
-/

namespace SyncApp.SecretQueue

open Foundations Messaging List Function

/-! ## Histories -/

/-- The store, the envelopes that were ever queued for a device, and the identifiers of
those that it was returned. -/
structure History where
  store : Store
  enqueued : KeyPart → String → List SecretEnvelope
  returned : KeyPart → String → List String

inductive QueueOp where
  | enqueue (e : SecretEnvelope) (maxPerDevice : Int)
  | pending (user : KeyPart) (deviceID afterID : String) (limit : Int)
  | ack (user : KeyPart) (deviceID : String) (ids : List String)
  | purge (now limit : Int) (visit : List String)

namespace History

variable (h : History)

def queue (user : KeyPart) (deviceID : String) : List SecretEnvelope :=
  h.store.secretQ (secretKey user.text deviceID)

def record {α : Type} (f : KeyPart → String → α) (user : KeyPart) (deviceID : String) (a : α) :
    KeyPart → String → α :=
  update f user (update (f user) deviceID a)

/-- One call. -/
def step : QueueOp → List SecretEnvelope × History
  | .enqueue e maxPerDevice =>
    ([], { h with
      store := h.store.enqueueSecret e maxPerDevice
      enqueued := record h.enqueued e.toUserID e.toDeviceID
        (h.enqueued e.toUserID e.toDeviceID ++ [e]) })
  | .pending user deviceID afterID limit =>
    let page := h.store.pendingSecrets user.text deviceID afterID limit
    (page, { h with
      returned := record h.returned user deviceID (h.returned user deviceID ++ page.map (·.id)) })
  | .ack user deviceID ids =>
    ([], { h with store := (h.store.ackSecrets user.text deviceID ids).2 })
  | .purge now limit visit =>
    ([], { h with store := (h.store.purgeExpiredSecrets now limit visit).2 })

/-- Nothing is queued. -/
def new : History := ⟨⟨fun _ => []⟩, fun _ _ => [], fun _ _ => []⟩

abbrev after (ops : List QueueOp) : History := Machine.final step new ops

/-- Envelopes get identifiers from the generator: never an empty one, and none that the
device had before. -/
def Fresh : QueueOp → Prop
  | .enqueue e _ => e.id ≠ "" ∧ e.id ∉ (h.enqueued e.toUserID e.toDeviceID).map (·.id)
  | _ => True

instance (h : History) (op : QueueOp) : Decidable (h.Fresh op) := by
  unfold Fresh
  split <;> infer_instance

variable {α : Type} {deviceID : String} {user : KeyPart} {h : History} {e : SecretEnvelope}
  {maxPerDevice : Int} (f : KeyPart → String → α)

lemma record_self (user : KeyPart) (deviceID : String) (a : α) :
    record f user deviceID a user deviceID = a := by
  unfold record
  rw [update_self, update_self]

lemma record_other {user' : KeyPart} {deviceID' : String} (a : α)
    (hne : ¬ (user' = user ∧ deviceID' = deviceID)) :
    record f user deviceID a user' deviceID' = f user' deviceID' := by
  unfold record
  rcases eq_or_ne user' user with rfl | huser
  · rw [update_self, update_of_ne fun heq => hne ⟨rfl, heq⟩]
  · rw [update_of_ne huser]

/-- Something holds of what is on record if it holds of what is set and, for every other
device, of what was on record before. -/
lemma forall_record {P : KeyPart → String → α → Prop} {f : KeyPart → String → α} {a : α}
    (hself : P user deviceID a)
    (hother : ∀ user' deviceID', ¬ (user' = user ∧ deviceID' = deviceID) →
      P user' deviceID' (f user' deviceID')) (user' : KeyPart) (deviceID' : String) :
    P user' deviceID' (record f user deviceID a user' deviceID') := by
  by_cases hsame : user' = user ∧ deviceID' = deviceID
  · rcases hsame with ⟨rfl, rfl⟩
    rw [record_self]
    exact hself
  · rw [record_other f a hsame]
    exact hother user' deviceID' hsame

/-- A device's queue is left from what was queued for it, and it has only been returned
such envelopes. -/
structure Kept (h : History) : Prop where
  nodup : ∀ user deviceID, ((h.enqueued user deviceID).map (·.id)).Nodup
  nonempty : ∀ user deviceID, ∀ e ∈ h.enqueued user deviceID, e.id ≠ ""
  queue : ∀ user deviceID, (h.queue user deviceID).Sublist (h.enqueued user deviceID)
  returned : ∀ user deviceID, ∀ id ∈ h.returned user deviceID,
    id ∈ (h.enqueued user deviceID).map (·.id)

lemma kept_new : new.Kept where
  nodup := fun _ _ => nodup_nil
  nonempty := nofun
  queue := fun _ _ => List.Sublist.refl []
  returned := nofun

lemma Kept.shrink (hkept : h.Kept) {store : Store}
    (hstore : ∀ k, (store.secretQ k).Sublist (h.store.secretQ k)) :
    Kept { h with store := store } :=
  { hkept with queue := fun user deviceID => (hstore _).trans (hkept.queue user deviceID) }

lemma kept_enqueue (hkept : h.Kept) (hnew : h.Fresh (.enqueue e maxPerDevice)) :
    (h.step (.enqueue e maxPerDevice)).2.Kept where
  nodup := by
    refine forall_record (P := fun _ _ (all : List SecretEnvelope) => (all.map (·.id)).Nodup) ?_
      fun user deviceID _ => hkept.nodup user deviceID
    rw [map_append, nodup_append]
    refine ⟨hkept.nodup _ _, nodup_cons.mpr ⟨not_mem_nil, nodup_nil⟩, ?_⟩
    intro id hid id' hid' heq
    rw [map_singleton, mem_singleton] at hid'
    exact hnew.2 (hid' ▸ heq ▸ hid)
  nonempty := by
    refine forall_record (P := fun _ _ (all : List SecretEnvelope) => ∀ e ∈ all, e.id ≠ "")
      (fun e' he' => ?_)
      fun user deviceID _ => hkept.nonempty user deviceID
    rcases mem_append.mp he' with he' | he'
    · exact hkept.nonempty _ _ e' he'
    · rw [mem_singleton.mp he']
      exact hnew.1
  queue := by
    refine forall_record (P := fun user deviceID (all : List SecretEnvelope) =>
      (queue _ user deviceID).Sublist all) ?_ fun user deviceID hne => ?_
    · rcases h.store.enqueueSecret_self e maxPerDevice with ⟨_, hsub, heq⟩
      simp only [step, queue, heq]
      exact (hsub.trans (hkept.queue _ _)).append (List.Sublist.refl [e])
    · have hkey : secretKey user.text deviceID ≠ secretKey e.toUserID.text e.toDeviceID :=
        fun heq => hne (joinKey_inj.mp heq)
      simp only [step, queue, Store.enqueueSecret_other _ _ _ hkey]
      exact hkept.queue user deviceID
  returned := by
    refine forall_record (P := fun user deviceID (all : List SecretEnvelope) =>
      ∀ id ∈ h.returned user deviceID, id ∈ all.map (·.id)) (fun id hid => ?_)
      fun user deviceID _ => hkept.returned user deviceID
    rw [map_append]
    exact mem_append_left _ (hkept.returned _ _ id hid)

/-- What is on record as queued: what was, and the new envelope for its device. -/
lemma mem_enqueued_of_enqueue {e' : SecretEnvelope}
    (he' : e' ∈ (h.step (.enqueue e maxPerDevice)).2.enqueued user deviceID) :
    e' ∈ h.enqueued user deviceID ∨ e' = e ∧ user = e.toUserID ∧ deviceID = e.toDeviceID := by
  simp only [step] at he'
  by_cases hsame : user = e.toUserID ∧ deviceID = e.toDeviceID
  · rcases hsame with ⟨rfl, rfl⟩
    rw [record_self, mem_append, mem_singleton] at he'
    exact he'.imp_right fun heq => ⟨heq, rfl, rfl⟩
  · rw [record_other _ _ hsame] at he'
    exact .inl he'

lemma mem_queue_of_mem_page {afterID : String} {limit : Int}
    (he : e ∈ h.store.pendingSecrets user.text deviceID afterID limit) :
    e ∈ h.queue user deviceID := by
  rw [Store.pendingSecrets_eq] at he
  have hleft := mem_of_mem_take he
  by_cases hafter : afterID = ""
  · rw [if_pos hafter] at hleft
    exact hleft
  · rw [if_neg hafter] at hleft
    exact (Cursor.afterCursor_sublist _ _).subset hleft

lemma kept_pending (hkept : h.Kept) (user : KeyPart) (deviceID afterID : String) (limit : Int) :
    (h.step (.pending user deviceID afterID limit)).2.Kept where
  nodup := hkept.nodup
  nonempty := hkept.nonempty
  queue := hkept.queue
  returned := by
    intro user' deviceID' id hid
    simp only [step] at hid ⊢
    by_cases hsame : user' = user ∧ deviceID' = deviceID
    · rcases hsame with ⟨rfl, rfl⟩
      rw [record_self] at hid
      rcases mem_append.mp hid with hid | hid
      · exact hkept.returned user' deviceID' id hid
      · rcases mem_map.mp hid with ⟨e, he, rfl⟩
        exact mem_map_of_mem ((hkept.queue user' deviceID').subset (mem_queue_of_mem_page he))
    · rw [record_other _ _ hsame] at hid
      exact hkept.returned user' deviceID' id hid

theorem kept_step (h : History) (op : QueueOp) (hkept : h.Kept) (hnew : h.Fresh op) :
    (h.step op).2.Kept := by
  cases op with
  | enqueue => exact kept_enqueue hkept hnew
  | pending => exact kept_pending hkept ..
  | ack user deviceID ids =>
    exact hkept.shrink fun k => h.store.ackSecrets_sublist user.text deviceID ids k
  | purge now limit visit => exact hkept.shrink fun k => Store.purgeLoop_sublist now _ 0 visit _ k

lemma kept_after {ops : List QueueOp} (h : Machine.Guarded step Fresh new ops) :
    (after ops).Kept :=
  Machine.guarded_final step kept_step kept_new h

/-- The envelopes in a device's queue that were queued after the cursor's envelope. -/
def later (h : History) (user : KeyPart) (deviceID cursor : String) : List SecretEnvelope :=
  (h.queue user deviceID).filter fun e =>
    e ∈ Cursor.afterCursor (·.id) cursor (h.enqueued user deviceID)

end History

open History in
/-- For every cursor that a device has been returned: a page is the first of the envelopes queued
after the cursor's if and only if that one is still in the queue, or none was queued after it. -/
theorem page_complete_iff (ops : List QueueOp) (h : Machine.Guarded step Fresh new ops)
    (user : KeyPart) (deviceID cursor : String) (limit : Int)
    (hcur : cursor ∈ (after ops).returned user deviceID) :
    (after ops).store.pendingSecrets user.text deviceID cursor limit =
        ((after ops).later user deviceID cursor).take (Store.pageLimit limit) ↔
      cursor ∈ ((after ops).queue user deviceID).map (·.id) ∨
        (after ops).later user deviceID cursor = [] := by
  have hkept := kept_after h
  generalize after ops = w at hcur hkept ⊢
  have hne : cursor ≠ "" := by
    rcases mem_map.mp (hkept.returned user deviceID cursor hcur) with ⟨e, he, rfl⟩
    exact hkept.nonempty user deviceID e he
  rw [Store.pendingSecrets_eq, if_neg hne]
  by_cases hqueued : cursor ∈ (w.queue user deviceID).map (·.id)
  · have hpage := Cursor.afterCursor_eq_filter (hkept.queue user deviceID)
      (hkept.nodup user deviceID) hqueued
    exact iff_of_true (congrArg (take _) hpage) (.inl hqueued)
  · have hnothing : Cursor.remaining (·.id) (w.store.secretQ (secretKey user.text deviceID))
        (some cursor) = [] := Cursor.afterCursor_eq_nil hqueued
    rw [hnothing, take_nil, eq_comm, take_eq_nil_iff]
    constructor
    · rintro (hzero | hnil)
      · exact absurd hzero (Nat.ne_of_gt (Store.pageLimit_pos limit))
      · exact .inr hnil
    · rintro (hmem | hnil)
      · exact absurd hmem hqueued
      · exact .inr hnil

def toPhone (id : String) : SecretEnvelope :=
  ⟨id, ⟨formatInt 7, bar_notMem_formatInt 7⟩, "phone", "8", "web", [], [], 0, 0⟩

/-- Two envelopes are queued, and the phone reads the first one. -/
def readOne : List QueueOp :=
  [.enqueue (toPhone "100") 1000, .enqueue (toPhone "101") 1000,
    .pending (toPhone "").toUserID "phone" "" 1]

theorem page_complete_iff_read_one :
    (History.after readOne).store.pendingSecrets "7" "phone" "100" 1 = [toPhone "101"] := by
  have hpage := page_complete_iff readOne (by decide +kernel) (toPhone "").toUserID "phone" "100" 1
    (by decide +kernel)
  exact (hpage.mpr (.inl (by decide +kernel))).trans (by decide +kernel)

/-- The phone acknowledges what it has read and asks for the rest. -/
theorem page_lost : let ops := readOne ++ [.ack (toPhone "").toUserID "phone" ["100"]]
    "100" ∈ (History.after ops).returned (toPhone "").toUserID "phone" ∧
      (History.after ops).later (toPhone "").toUserID "phone" "100" = [toPhone "101"] ∧
      (History.after ops).store.pendingSecrets "7" "phone" "100" 100 = [] := by
  decide +kernel

end SyncApp.SecretQueue
