import SyncApp.Messaging.Rows

/-!
# What a request stages

A request of the message service stages at most one record, an event about the message it has just
written.

Main results:

- `Service.send_stages`, `Service.edit_stages`, `Service.forward_stages`: what each request stages.
- `drops_compact`: what compacting the outbox takes away.
-/

namespace SyncApp.Messaging

open Foundations List

/-- At most one record was staged, and it has a property. -/
inductive Stages (P : OutboxRecord → Prop) (s s' : Store) : Prop where
  | nothing (hbox : s'.outbox = s.outbox) (hsent : s'.outboxSent = s.outboxSent)
  | one (rec : OutboxRecord) (hbox : s'.outbox = s.outbox ++ [rec])
      (hsent : s'.outboxSent = s.outboxSent) (hrec : P rec)

namespace Stages

variable {P Q : OutboxRecord → Prop} {s s' : Store}

lemma refl (s : Store) : Stages P s s :=
  .nothing rfl rfl

lemma mono (h : Stages P s s') (hPQ : ∀ rec, P rec → Q rec) : Stages Q s s' := by
  cases h with
  | nothing hbox hsent => exact .nothing hbox hsent
  | one rec hbox hsent hrec => exact .one rec hbox hsent (hPQ rec hrec)

lemma of_outboxFor {written : Store} {m : Message} {id : String} {subject : Subject}
    (hbox : written.outbox = s.outbox) (hsent : written.outboxSent = s.outboxSent)
    (hP : P ⟨id, subject, m.chatID, messageBody (redacted m)⟩) :
    Stages P s (written.stageOutbox (some (outboxFor id subject)) m) := by
  refine .one ⟨id, subject, m.chatID, messageBody (redacted m)⟩ ?_ ?_ hP
  · rw [Store.stageOutbox_outbox, hbox]
    rfl
  · exact hsent

lemma of_mem_drop (h : Stages P s s') {rec : OutboxRecord}
    (hrec : rec ∈ s'.outbox.drop s.outbox.length) : P rec := by
  cases h with
  | nothing hbox =>
    rw [hbox, drop_length] at hrec
    exact absurd hrec not_mem_nil
  | one new hbox hsent hnew =>
    rw [hbox, drop_left, mem_singleton] at hrec
    exact hrec ▸ hnew

end Stages

namespace Service

section Requests

variable (sv : Service)

theorem send_stages (input : SendInput) (canPost : Answer) (now : Int) (clock clockOb : Clock) :
    let sv' := (sv.send input canPost now clock clockOb).2
    Stages (fun rec => sv.ids.Draws sv'.ids rec.data.messageID ∧ sv.ids.Draws sv'.ids rec.id)
      sv.store sv'.store := by
  have hcases := sv.send_cases input canPost now clock clockOb
  generalize sv.send input canPost now clock clockOb = out at hcases ⊢
  cases hcases with
  | refused | spent => exact .refl _
  | @stored c m drawOb hm hdraw =>
    subst hdraw
    refine .of_outboxFor rfl rfl ⟨?_, ?_⟩
    · have hid : (sv.store.newRow c m).id = (sv.ids.nextString clock).1 := by
        rw [hm]
        exact Store.newRow_attr (g := (·.id)) (fun _ => rfl) _ _ _
      have hbody : (messageBody (redacted (sv.store.newRow c m))).messageID =
          (sv.ids.nextString clock).1 := by
        unfold redacted
        split
        · exact hid
        · exact hid
      rw [hbody]
      exact .first (.nextString _ _)
    · exact ⟨⟨_, clockOb, .nextString _ _, rfl, .refl _⟩⟩

theorem forward_stages (userID srcChatID srcMsgID dstChatID dedupKey : String)
    (isMember canPost : Answer) (now : Int) (clock clockOb : Clock) :
    let sv' := (sv.forward userID srcChatID srcMsgID dstChatID dedupKey isMember canPost now clock
      clockOb).2
    Stages (fun rec => sv.ids.Draws sv'.ids rec.data.messageID ∧ sv.ids.Draws sv'.ids rec.id)
      sv.store sv'.store := by
  rcases sv.forward_cases userID srcChatID srcMsgID dstChatID dedupKey isMember canPost now clock
    clockOb with ⟨_, href⟩ | ⟨_, _, -, -, -, hsend⟩
  · rw [href]
    exact .refl _
  · rw [hsend]
    exact sv.send_stages _ canPost now clock clockOb

theorem edit_stages (userID chatID msgID text : String) (now : Int) (clock : Clock) :
    Stages (fun rec => (∃ cur, sv.store.getMessage chatID msgID = some cur ∧
          rec.data = messageBody (redacted (Store.edited text now cur))) ∧
        sv.ids.Draws (sv.edit userID chatID msgID text now clock).2.ids rec.id)
      sv.store (sv.edit userID chatID msgID text now clock).2.store := by
  unfold edit
  cases hget : sv.store.getMessage chatID msgID with
  | none => exact .refl _
  | some =>
    dsimp only
    split
    · exact .refl _
    have hcases := sv.store.rewriteMessage_cases chatID msgID (Store.edited text now)
      (some (outboxFor (sv.ids.nextString clock).1 .messageEdited))
    unfold Store.editMessage
    generalize sv.store.rewriteMessage _ _ _ _ = out at hcases ⊢
    cases hcases with
    | noMessage => exact .refl _
    | rewritten hsome =>
      refine .of_outboxFor rfl rfl ⟨⟨_, ?_, rfl⟩, .first (.refl _)⟩
      rw [← hget, hsome]

lemma delete_stages (userID chatID msgID : String) (canModerate : Answer) (now : Int)
    (clock : Clock) : Stages (fun rec =>
        (rec.data.text = "" ∧ rec.data.mediaRef = "" ∧ rec.data.attachment = none) ∧
        sv.ids.Draws (sv.delete userID chatID msgID canModerate now clock).2.ids rec.id)
      sv.store (sv.delete userID chatID msgID canModerate now clock).2.store := by
  unfold delete
  cases sv.store.getMessage chatID msgID with
  | none => exact .refl _
  | some =>
    dsimp only
    split
    · exact .refl _
    have hcases := sv.store.rewriteMessage_cases chatID msgID (Store.tombstone now)
      (some (outboxFor (sv.ids.nextString clock).1 .messageDeleted))
    unfold Store.deleteMessage
    generalize sv.store.rewriteMessage _ _ _ _ = out at hcases ⊢
    cases hcases with
    | noMessage => exact .refl _
    | rewritten => exact .of_outboxFor rfl rfl ⟨⟨rfl, rfl, rfl⟩, .first (.refl _)⟩

end Requests

lemma expireChats_outbox (now : Int) (cap : Nat) (order : List String) (s : Store) :
    (s.expireChats now cap order).2.outbox = s.outbox ∧
      (s.expireChats now cap order).2.outboxSent = s.outboxSent := by
  induction order generalizing cap s with
  | nil => exact ⟨rfl, rfl⟩
  | cons chatID order ih => exact ih _ _

lemma deleteAccount_outbox (s : Store) (userID : String) (now : Int) :
    (s.deleteAccount userID now).2.outbox = s.outbox ∧
      (s.deleteAccount userID now).2.outboxSent = s.outboxSent := by
  unfold Store.deleteAccount
  cases s.users userID with
  | none | some => exact ⟨rfl, rfl⟩

/-- The calls that the relay makes on the outbox. -/
def isRelayCall : ServiceOp → Bool
  | .markSent _ | .purgeSent _ => true
  | _ => false

/-- A request stages at most one record, under an identifier drawn for it. -/
lemma step_stages (sv : Service) {op : ServiceOp} (hop : isRelayCall op = false) :
    Stages (fun rec => sv.ids.Draws (sv.step op).2.ids rec.id) sv.store (sv.step op).2.store := by
  cases hbeside : isBeside op with
  | true =>
    have h := sv.step_beside hbeside
    exact .nothing h.outbox h.outboxSent
  | false =>
    cases op with
    | send => exact (sv.send_stages ..).mono fun _ h => h.2
    | edit => exact (sv.edit_stages ..).mono fun _ h => h.2
    | delete => exact (sv.delete_stages ..).mono fun _ h => h.2
    | forward => exact (sv.forward_stages ..).mono fun _ h => h.2
    | expireDue now limit order =>
      have h := expireChats_outbox now (if limit ≤ 0 then 200 else limit).toNat order sv.store
      exact .nothing h.1 h.2
    | deleteAccount userID now =>
      have h := deleteAccount_outbox sv.store userID now
      exact .nothing h.1 h.2
    | markSent | purgeSent => exact absurd hop Bool.false_ne_true.symm
    | _ => exact absurd hbeside Bool.false_ne_true.symm

end Service

/-- Some records that are marked go, with their marks. -/
structure Drops (records : List OutboxRecord) (sent : String → Bool)
    (records' : List OutboxRecord) (sent' : String → Bool) : Prop where
  sublist : records'.Sublist records
  kept : ∀ q ∈ records, sent q.id = false → q ∈ records'
  marks : ∀ id, sent' id = true → sent id = true

namespace Drops

variable {rec : OutboxRecord} {records records' : List OutboxRecord} {sent sent' : String → Bool}

lemma refl (records : List OutboxRecord) (sent : String → Bool) :
    Drops records sent records sent :=
  ⟨List.Sublist.refl _, fun _ h _ => h, fun _ h => h⟩

lemma drop (h : Drops records (Function.update sent rec.id false) records' sent')
    (hsent : sent rec.id = true) : Drops (rec :: records) sent records' sent' := by
  constructor
  · exact h.sublist.cons rec
  · intro q hq hunsent
    have hne : q.id ≠ rec.id := fun heq => by
      rw [heq, hsent] at hunsent
      exact absurd hunsent.symm Bool.false_ne_true
    rcases mem_cons.mp hq with rfl | hrest
    · exact absurd rfl hne
    · apply h.kept q hrest
      rw [Function.update_of_ne hne]
      exact hunsent
  · intro id hid
    have hmark := h.marks id hid
    rw [Function.update_apply] at hmark
    split at hmark
    · exact absurd hmark Bool.false_ne_true
    · exact hmark

lemma keep (h : Drops records sent records' sent') :
    Drops (rec :: records) sent (rec :: records') sent' := by
  constructor
  · exact h.sublist.cons_cons rec
  · intro q hq hunsent
    rcases mem_cons.mp hq with rfl | hrest
    · exact mem_cons_self
    · exact mem_cons_of_mem _ (h.kept q hrest hunsent)
  · exact h.marks

end Drops

theorem drops_compact (records : List OutboxRecord) (sent : String → Bool) :
    Drops records sent (Store.compact records sent).1 (Store.compact records sent).2 := by
  induction records generalizing sent with
  | nil => exact .refl _ _
  | cons rec records ih =>
    unfold Store.compact
    split
    · next hsent => exact (ih _).drop hsent
    · exact .refl _ _

lemma drops_purgeLoop (limit : Int) (records : List OutboxRecord) (sent : String → Bool)
    (n : Nat) : Drops records sent (Store.purgeLoop limit records sent n).1
      (Store.purgeLoop limit records sent n).2.1 := by
  induction records generalizing sent n with
  | nil => exact .refl _ _
  | cons rec records ih =>
    unfold Store.purgeLoop
    split
    · next hsent => exact (ih _ _).drop hsent.2
    · exact (ih _ _).keep

end SyncApp.Messaging
