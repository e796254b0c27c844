import SyncApp.Messaging.Log

/-!
# Sending the same message twice

The index of dedup keys joins sender and key with a separator that both may contain, and the message
it names is looked up in the chat of the repeated call only.  The ledger of a run lists the messages
stored with a key.

Main results:

- `idempotent_send`: sends are idempotent where neither matters.
-/

namespace SyncApp.Messaging

open Foundations RowLog List
open Store (append dedupIndex stageOutbox_messages)

/-- A message stored with a dedup key: who sent it, under which key, and where it
is in the log. -/
structure Entry where
  senderID : String
  dedupKey : String
  chatID : String
  index : Nat
deriving DecidableEq

structure Tracked where
  store : Store
  ledger : List Entry

namespace Tracked

/-- The ledger after a call: an insert with a key that stores its message adds an
entry for the row it appends. -/
def record (t : Tracked) : StoreOp → List Entry
  | .insertMessage m dedupKey mkOb =>
    match (t.store.insertMessage m dedupKey mkOb).1 with
    | .ok (_, false) =>
      if dedupKey ≠ "" then
        t.ledger ++ [⟨m.senderID, dedupKey, m.chatID, (t.store.messages m.chatID).length⟩]
      else t.ledger
    | _ => t.ledger
  | _ => t.ledger

def step (t : Tracked) (op : StoreOp) : StoreReply × Tracked :=
  ((t.store.step op).1, ⟨(t.store.step op).2, t.record op⟩)

/-- The empty store. -/
def new : Tracked := ⟨.new, []⟩

/-- The store and the ledger after a list of calls. -/
abbrev after (t : Tracked) (ops : List StoreOp) : Tracked := Machine.final step t ops

end Tracked

open Tracked (new)

/-- A call whose message, unless a duplicate, has a new identifier in its chat, and whose key, if
any, is new to the index or there for the same sender, key and chat. -/
def StoreOp.Apart (t : Tracked) : StoreOp → Prop
  | .insertMessage m dedupKey _ =>
    (t.store.duplicateOf m dedupKey = none →
      ∀ row ∈ t.store.messages m.chatID, row.id ≠ m.id) ∧
      (dedupKey ≠ "" → ∀ e ∈ t.ledger,
        dedupIndex e.senderID e.dedupKey = dedupIndex m.senderID dedupKey →
          e.senderID = m.senderID ∧ e.dedupKey = dedupKey ∧ e.chatID = m.chatID)
  | _ => True

instance (t : Tracked) : (op : StoreOp) → Decidable (op.Apart t)
  | .insertMessage .. => inferInstanceAs (Decidable (_ ∧ _))
  | .createUser _ | .createChat _ | .getOrCreatePair .. | .editMessage .. | .deleteMessage ..
  | .expireMessages .. | .deleteAccount .. | .poll _ | .markSent _ | .purgeSent _ => isTrue trivial

/-! ## The index -/

structure Indexed (t : Tracked) : Prop where
  ids : ∀ chatID, ((t.store.messages chatID).map (·.id)).Nodup
  keyed : ∀ e ∈ t.ledger, e.dedupKey ≠ ""
  rows : ∀ e ∈ t.ledger, ∃ row, (t.store.messages e.chatID)[e.index]? = some row ∧
    t.store.dedup (dedupIndex e.senderID e.dedupKey) = some row.id
  nodup : (t.ledger.map fun e => (e.senderID, e.dedupKey)).Nodup

namespace Indexed

variable {t : Tracked}

lemma new : Indexed new where
  ids _ := nodup_nil
  keyed _ h := absurd h not_mem_nil
  rows _ h := absurd h not_mem_nil
  nodup := nodup_nil

lemma duplicateOf (h : Indexed t) {e : Entry} (he : e ∈ t.ledger) {m : Message}
    (hsender : e.senderID = m.senderID) (hchat : e.chatID = m.chatID) :
    ∃ row, (t.store.messages e.chatID)[e.index]? = some row ∧
      t.store.duplicateOf m e.dedupKey = some row := by
  rcases h.rows e he with ⟨row, hrow, hidx⟩
  refine ⟨row, hrow, ?_⟩
  unfold Store.duplicateOf
  rw [if_pos (h.keyed e he), ← hsender, hidx, ← hchat]
  exact find?_of_nodup (h.ids e.chatID) (mem_of_getElem? hrow)

lemma sameRows (h : Indexed t) {s' : Store} (hrows : SameRows t.store s') :
    Indexed ⟨s', t.ledger⟩ where
  ids chatID := by
    have hids := hrows.attr Slot.id chatID
    exact (congrArg List.Nodup hids).mpr (h.ids chatID)
  keyed := h.keyed
  rows e he := by
    rcases h.rows e he with ⟨_, hrow, hidx⟩
    rcases getElem?_of_slots ((hrows.slots _).trans (append_nil _).symm) hrow with
      ⟨row', hrow', hslot⟩
    refine ⟨row', hrow', ?_⟩
    rw [hrows.dedup, hidx]
    exact congrArg (some ∘ Slot.id) hslot.symm
  nodup := h.nodup

section Appended

variable {m : Message} {c : Chat} {dedupKey : String} {mkOb : Option MakeOutbox} {e : Entry}

section

variable (h : Indexed t) (hop : StoreOp.Apart t (.insertMessage m dedupKey mkOb))
include h hop

/-- No entry of the ledger has the key of a message that is about to be stored. -/
lemma fresh (hkey : dedupKey ≠ "") (hdup : t.store.duplicateOf m dedupKey = none)
    (he : e ∈ t.ledger) : dedupIndex e.senderID e.dedupKey ≠ dedupIndex m.senderID dedupKey := by
  intro hidx
  rcases hop.2 hkey e he hidx with ⟨hsender, hdedup, hchat⟩
  rcases h.duplicateOf he hsender hchat with ⟨_, -, hfound⟩
  rw [hdedup, hdup] at hfound
  exact absurd hfound.symm (Option.some_ne_none _)

lemma ids_append (hdup : t.store.duplicateOf m dedupKey = none) (chatID : String) :
    (((t.store.append c m dedupKey).messages chatID).map (·.id)).Nodup := by
  refine (congrArg List.Nodup (attr_of_slots Slot.id
    (t.store.append_slots c m dedupKey chatID))).mpr ?_
  by_cases hchat : chatID = m.chatID
  · rw [if_pos hchat, hchat]
    apply nodup_snoc (h.ids m.chatID)
    intro hmem
    rcases mem_map.mp hmem with ⟨row, hrow, hname⟩
    exact hop.1 hdup row hrow hname
  · rw [if_neg hchat, map_nil, append_nil]
    exact h.ids chatID

/-- Old entries keep their rows, and a new message does not take over their index
key. -/
lemma rows_append (hdup : t.store.duplicateOf m dedupKey = none) (he : e ∈ t.ledger) :
    ∃ row, ((t.store.append c m dedupKey).messages e.chatID)[e.index]? = some row ∧
      (t.store.append c m dedupKey).dedup (dedupIndex e.senderID e.dedupKey) = some row.id := by
  rcases h.rows e he with ⟨row, hrow, hidx⟩
  rcases getElem?_of_slots (t.store.append_slots c m dedupKey e.chatID) hrow with
    ⟨row', hrow', hslot⟩
  refine ⟨row', hrow', ?_⟩
  have hname : some row.id = some row'.id := congrArg (some ∘ Slot.id) hslot.symm
  unfold append
  by_cases hkey : dedupKey ≠ ""
  · simp only [if_pos hkey]
    rw [Function.update_of_ne (h.fresh hop hkey hdup he), hidx, hname]
  · simp only [if_neg hkey]
    rw [hidx, hname]

end

lemma row_append (hkey : dedupKey ≠ "") :
    ∃ row, ((t.store.append c m dedupKey).messages m.chatID)[(t.store.messages m.chatID).length]? =
        some row ∧ (t.store.append c m dedupKey).dedup (dedupIndex m.senderID dedupKey) =
        some row.id := by
  have hlast : (((t.store.append c m dedupKey).messages m.chatID).map
      Message.slot)[(t.store.messages m.chatID).length]? = some (Store.numbered c m).slot := by
    rw [t.store.append_slots, if_pos rfl, getElem?_append_right (by simp)]
    simp
  rw [getElem?_map] at hlast
  rcases Option.map_eq_some_iff.mp hlast with ⟨row, hrow, hslot⟩
  refine ⟨row, hrow, ?_⟩
  unfold append
  simp only [if_pos hkey, Function.update_self]
  exact congrArg (some ∘ Slot.id) hslot.symm

lemma appended (h : Indexed t) (hop : StoreOp.Apart t (.insertMessage m dedupKey mkOb))
    (hdup : t.store.duplicateOf m dedupKey = none) {out : Message} :
    Indexed ⟨(t.store.append c m dedupKey).stageOutbox mkOb out, if dedupKey ≠ "" then
        t.ledger ++ [⟨m.senderID, dedupKey, m.chatID, (t.store.messages m.chatID).length⟩]
      else t.ledger⟩ := by
  have hids := h.ids_append (c := c) hop hdup
  by_cases hkey : dedupKey ≠ ""
  · simp only [if_pos hkey]
    constructor
    · intro chatID
      rw [stageOutbox_messages]
      exact hids chatID
    · exact forall_mem_append.mpr ⟨h.keyed, forall_mem_singleton.mpr hkey⟩
    · intro e he
      rw [stageOutbox_messages, Store.stageOutbox_dedup]
      rcases mem_append.mp he with hmem | hnew
      · exact h.rows_append hop hdup hmem
      · rw [mem_singleton.mp hnew]
        exact row_append hkey
    · rw [map_append]
      apply nodup_snoc h.nodup
      intro hmem
      rcases mem_map.mp hmem with ⟨e, he, hpair⟩
      rw [Prod.mk.injEq] at hpair
      apply h.fresh hop hkey hdup he
      rw [hpair.1, hpair.2]
  · simp only [if_neg hkey]
    constructor
    · intro chatID
      rw [stageOutbox_messages]
      exact hids chatID
    · exact h.keyed
    · intro e he
      rw [stageOutbox_messages, Store.stageOutbox_dedup]
      exact h.rows_append hop hdup he
    · exact h.nodup

end Appended

lemma step (h : Indexed t) {op : StoreOp} (hop : op.Apart t) : Indexed (t.step op).2 := by
  cases op with
  | insertMessage m dedupKey mkOb =>
    unfold Tracked.step Tracked.record
    simp only [Store.step]
    have hcases := t.store.insertMessage_cases m dedupKey mkOb
    generalize t.store.insertMessage m dedupKey mkOb = out at hcases ⊢
    cases hcases with
    | duplicate | noChat => exact h
    | stored hdup => exact h.appended hop hdup
  | _ => exact h.sameRows (t.store.step_sameRows rfl)

end Indexed

/-- Sends are idempotent: at most one message is stored per sender and key, and a call that repeats
both in the chat returns the stored row, marked as a duplicate, and changes nothing. -/
structure Idempotent (t : Tracked) : Prop where
  unique : (t.ledger.map fun e => (e.senderID, e.dedupKey)).Nodup
  repeated : ∀ e ∈ t.ledger, ∀ (m : Message) (mkOb : Option MakeOutbox),
    e.senderID = m.senderID → (StoreOp.insertMessage m e.dedupKey mkOb).Apart t →
      ∃ row, (t.store.messages e.chatID)[e.index]? = some row ∧
        t.store.insertMessage m e.dedupKey mkOb = (.ok (row, true), t.store)

/-- Sends are idempotent after every sequence of calls that keep apart: none reuses an identifier,
repeats a stored key in another chat, or meets one that only looks the same when joined. -/
theorem idempotent_send {ops : List StoreOp}
    (hops : Machine.Guarded Tracked.step (fun t op => op.Apart t) new ops) :
    Idempotent (new.after ops) := by
  have hindexed : Indexed (new.after ops) :=
    Machine.guarded_final _ (fun _ _ h hop => h.step hop) Indexed.new hops
  constructor
  · exact hindexed.nodup
  · intro e he m mkOb hsender hapart
    rcases hapart.2 (hindexed.keyed e he) e he (by rw [hsender]) with ⟨-, -, hchat⟩
    rcases hindexed.duplicateOf he hsender hchat with ⟨row, hrow, hdup⟩
    refine ⟨row, hrow, ?_⟩
    unfold Store.insertMessage
    rw [hdup]

theorem idempotent_send_sample :
    Machine.Guarded Tracked.step (fun t op => op.Apart t) new sampleOps ∧
      (new.after sampleOps).ledger = [⟨"1", "k", "a", 0⟩] ∧
      Idempotent (new.after sampleOps) :=
  ⟨by decide, by decide, idempotent_send (by decide)⟩

def twoChatOps : List StoreOp :=
  [.createChat (groupChat "a"), .createChat (groupChat "b"),
    .insertMessage (draft "11" "a" "1") "k" none, .insertMessage (draft "12" "b" "1") "k" none]

/-- The second call stores a second message for the same sender and key. -/
theorem stored_in_two_chats : ¬ Idempotent (new.after twoChatOps) := by
  intro h
  have htwice : ¬ ((new.after twoChatOps).ledger.map
      fun e => (e.senderID, e.dedupKey)).Nodup := by
    decide
  exact htwice h.unique

end SyncApp.Messaging
