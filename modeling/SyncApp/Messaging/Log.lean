import SyncApp.Foundations.Machine
import SyncApp.Messaging.Store

/-!
# The per-chat log is gap-free

The rows of a chat are numbered from one in the order they were appended.  A call leaves the numbers
alone, opens a chat, or appends one row.  Callers pass a new identifier and a counter at zero for a
new chat, `StoreOp.Promised`.

Main results:

- `Store.step_log`: what one call does to the log.
- `log_gap_free`: the numbers of a chat have no gap.
- `log_append_only`: no row is removed or moved.
-/

namespace SyncApp.Messaging

open Foundations RowLog List
open Function (update update_apply)

namespace Store

lemma setRows_messages (s : Store) (chatID : String) (rows : List Message) (x : String) :
    (s.setRows chatID rows).messages x = if x = chatID then rows else s.messages x :=
  update_apply _ _ _ _

section Staging

variable (s : Store) (mkOb : Option MakeOutbox) (m : Message)

lemma stageOutbox_eq :
    s.stageOutbox mkOb m = { s with outbox := s.outbox ++ (mkOb.bind (· m)).toList } := by
  unfold stageOutbox
  cases mkOb with
  | none => simp
  | some make =>
    simp only [Option.bind_some]
    cases make m with
    | none | some => simp

@[simp]
lemma stageOutbox_messages : (s.stageOutbox mkOb m).messages = s.messages := by
  rw [stageOutbox_eq]

@[simp]
lemma stageOutbox_chats : (s.stageOutbox mkOb m).chats = s.chats := by
  rw [stageOutbox_eq]

@[simp]
lemma stageOutbox_dedup : (s.stageOutbox mkOb m).dedup = s.dedup := by
  rw [stageOutbox_eq]

@[simp]
lemma stageOutbox_outbox :
    (s.stageOutbox mkOb m).outbox = s.outbox ++ (mkOb.bind (· m)).toList := by
  rw [stageOutbox_eq]

end Staging

variable {β : Type} {g : Message → β}

/-- An attribute that counting replies does not change is that of the rows before
and of the appended message. -/
lemma map_appendRow (hg : ∀ a, g (countReply a) = g a) (rows : List Message) (m : Message) :
    (appendRow rows m).map g = rows.map g ++ [g m] := by
  unfold appendRow
  split
  · rw [map_updateFirst fun a _ => hg a, map_append]
    rfl
  · rw [map_append]
    rfl

variable (s : Store) (now : Int)

lemma append_messages (c : Chat) (m : Message) (dedupKey x : String) :
    (s.append c m dedupKey).messages x =
      if x = m.chatID then appendRow (s.messages m.chatID) (numbered c m) else s.messages x :=
  setRows_messages s m.chatID _ x

lemma newRow_attr (hg : ∀ a, g (countReply a) = g a) (s : Store) (c : Chat) (m : Message) :
    g (s.newRow c m) = g (numbered c m) := by
  unfold newRow
  rw [getLastD_eq_getLast?]
  have hlast := congrArg getLast? (map_appendRow hg (s.messages m.chatID) (numbered c m))
  rw [getLast?_map, getLast?_append] at hlast
  cases hrow : (appendRow (s.messages m.chatID) (numbered c m)).getLast? with
  | none => rfl
  | some =>
    rw [hrow] at hlast
    simpa using hlast

/-- The ways an insert can end. -/
inductive InsertOutcome (s : Store) (m : Message) (dedupKey : String)
    (mkOb : Option MakeOutbox) : Except StoreError (Message × Bool) × Store → Prop where
  /-- The message was there already. -/
  | duplicate {ex : Message} (hdup : s.duplicateOf m dedupKey = some ex) :
      InsertOutcome s m dedupKey mkOb (.ok (ex, true), s)
  /-- There is no such chat. -/
  | noChat (hdup : s.duplicateOf m dedupKey = none) (hchat : s.chats m.chatID = none) :
      InsertOutcome s m dedupKey mkOb (.error .notFound, s)
  /-- The message was appended. -/
  | stored {c : Chat} (hdup : s.duplicateOf m dedupKey = none) (hchat : s.chats m.chatID = some c) :
      InsertOutcome s m dedupKey mkOb
        (.ok (s.newRow c m, false), (s.append c m dedupKey).stageOutbox mkOb (s.newRow c m))

lemma insertMessage_cases (m : Message) (dedupKey : String) (mkOb : Option MakeOutbox) :
    InsertOutcome s m dedupKey mkOb (s.insertMessage m dedupKey mkOb) := by
  unfold insertMessage
  cases hdup : s.duplicateOf m dedupKey with
  | some => exact .duplicate hdup
  | none =>
    cases hchat : s.chats m.chatID with
    | none => exact .noChat hdup hchat
    | some => exact .stored hdup hchat

/-! ## Rewriting rows -/

/-- The ways an edit or a deletion can end. -/
inductive RewriteOutcome (s : Store) (chatID id : String) (f : Message → Message)
    (mkOb : Option MakeOutbox) : Except StoreError Message × Store → Prop where
  | noMessage (hnone : s.getMessage chatID id = none) :
      RewriteOutcome s chatID id f mkOb (.error .notFound, s)
  | rewritten {m : Message} (hsome : s.getMessage chatID id = some m) :
      RewriteOutcome s chatID id f mkOb
        (.ok (f m), (s.setRows chatID
          (updateFirst (·.id = id) f (s.messages chatID))).stageOutbox mkOb (f m))

lemma rewriteMessage_cases (chatID id : String) (f : Message → Message)
    (mkOb : Option MakeOutbox) :
    RewriteOutcome s chatID id f mkOb (s.rewriteMessage chatID id f mkOb) := by
  unfold rewriteMessage
  cases hget : s.getMessage chatID id with
  | none => exact .noMessage hget
  | some => exact .rewritten hget

lemma map_expireRows (hg : ∀ a, g (tombstone now a) = g a) (cap : Nat) (rows : List Message) :
    (expireRows now cap rows).1.map g = rows.map g := by
  induction rows generalizing cap with
  | nil =>
    cases cap with
    | zero | succ => rfl
  | cons m rows ih =>
    cases cap with
    | zero => rfl
    | succ =>
      unfold expireRows
      split
      · rw [map_cons, map_cons, ih, hg]
      · rw [map_cons, map_cons, ih]

lemma map_expireChats (hg : ∀ a, g (tombstone now a) = g a) (cap : Nat) (order : List String)
    (s : Store) (chatID : String) :
    ((s.expireChats now cap order).2.messages chatID).map g = (s.messages chatID).map g := by
  induction order generalizing cap s with
  | nil => rfl
  | cons id order ih =>
    rw [expireChats, ih, setRows_messages]
    split
    · next hid => rw [hid, map_expireRows now hg]
    · rfl

lemma expireChats_frame (cap : Nat) (order : List String) (s : Store) :
    (s.expireChats now cap order).2.chats = s.chats ∧
      (s.expireChats now cap order).2.dedup = s.dedup := by
  induction order generalizing cap s with
  | nil => exact ⟨rfl, rfl⟩
  | cons id order ih => exact ih _ _

/-- Anonymising keeps every attribute that a tombstone, the author and the origin
of a forward do not show. -/
lemma anonymised_attr {userID : String} {now : Int}
    (htomb : ∀ a, g { tombstone now a with senderID := "" } = g a)
    (hforward : ∀ a origin, g { a with forward := origin } = g a) (m : Message) :
    g (anonymised userID now m) = g m := by
  have hfirst : g (if m.senderID = userID then { tombstone now m with senderID := "" } else m) =
      g m := by
    split
    · exact htomb m
    · rfl
  unfold anonymised
  dsimp only
  split
  · exact hfirst
  · split
    · rw [hforward, hfirst]
    · exact hfirst

end Store

inductive StoreOp where
  | createUser (u : User)
  | createChat (c : Chat)
  | getOrCreatePair (type : Option ChatType) (userA userB newID : String) (now : Int)
  | insertMessage (m : Message) (dedupKey : String) (mkOb : Option MakeOutbox)
  | editMessage (chatID id text : String) (at_ : Int) (mkOb : Option MakeOutbox)
  | deleteMessage (chatID id : String) (at_ : Int) (mkOb : Option MakeOutbox)
  | expireMessages (now limit : Int) (order : List String)
  | deleteAccount (userID : String) (now : Int)
  | poll (limit : Int)
  | markSent (ids : List String)
  | purgeSent (limit : Int)

/-- What a call returns. -/
inductive StoreReply where
  | done (result : Except StoreError Unit)
  | chat (result : Option Chat)
  | inserted (result : Except StoreError (Message × Bool))
  | message (result : Except StoreError Message)
  | messages (result : List Message)
  | records (result : List OutboxRecord)
  | count (result : Nat)

variable (s : Store)

def Store.step : StoreOp → StoreReply × Store
  | .createUser u => let out := s.createUser u; (.done out.1, out.2)
  | .createChat c => (.done (.ok ()), s.createChat c)
  | .getOrCreatePair type userA userB newID now =>
    let out := s.getOrCreatePair type userA userB newID now
    (.chat out.1, out.2)
  | .insertMessage m dedupKey mkOb =>
    let out := s.insertMessage m dedupKey mkOb
    (.inserted out.1, out.2)
  | .editMessage chatID id text at_ mkOb =>
    let out := s.editMessage chatID id text at_ mkOb
    (.message out.1, out.2)
  | .deleteMessage chatID id at_ mkOb =>
    let out := s.deleteMessage chatID id at_ mkOb
    (.message out.1, out.2)
  | .expireMessages now limit order =>
    let out := s.expireMessages now limit order
    (.messages out.1, out.2)
  | .deleteAccount userID now => let out := s.deleteAccount userID now; (.done out.1, out.2)
  | .poll limit => (.records (s.pollOutbox limit), s)
  | .markSent ids => (.done (.ok ()), s.markSent ids)
  | .purgeSent limit => let out := s.purgeSent limit; (.count out.1, out.2)

abbrev Store.after (ops : List StoreOp) : Store := Machine.final Store.step s ops

/-- What the callers promise: a new chat has an unused identifier and its counter
at zero. -/
def StoreOp.Promised : StoreOp → Prop
  | .createChat c => s.chats c.id = none ∧ c.lastSeq = 0
  | .getOrCreatePair _ _ _ newID _ => s.chats newID = none
  | _ => True

instance (s : Store) (op : StoreOp) : Decidable (op.Promised s) := by
  cases op <;> unfold StoreOp.Promised <;> infer_instance

/-! ## What a call can do to the log -/

/-- The part of a row that is fixed when the row is appended. -/
structure Slot where
  id : String
  chatID : String
  seq : Nat
  threadRoot : String

/-- The fixed part of a row. -/
def Message.slot (m : Message) : Slot where
  id := m.id
  chatID := m.chatID
  seq := m.seq
  threadRoot := m.threadRoot

@[simp]
lemma Message.slot_seq (m : Message) : m.slot.seq = m.seq :=
  rfl

/-- The rows are the same but for what may change in place, and so is the dedup
index. -/
structure SameRows (s s' : Store) : Prop where
  slots : ∀ id, (s'.messages id).map Message.slot = (s.messages id).map Message.slot
  dedup : s'.dedup = s.dedup

lemma SameRows.refl : SameRows s s :=
  ⟨fun _ => rfl, rfl⟩

variable {added : List Slot} {rows rows' : List Message} {β : Type} {i : Nat} {row : Message}
  {id : String} {s s' : Store}

lemma attr_of_slots (g : Slot → β) (h : rows'.map Message.slot = rows.map Message.slot ++ added) :
    (rows'.map fun m => g m.slot) = (rows.map fun m => g m.slot) ++ added.map g := by
  have hg := congrArg (map g) h
  rw [map_append, map_map, map_map] at hg
  exact hg

lemma getElem?_of_slots (h : rows'.map Message.slot = rows.map Message.slot ++ added)
    (hrow : rows[i]? = some row) : ∃ row', rows'[i]? = some row' ∧ row'.slot = row.slot := by
  have hi := (List.getElem?_eq_some_iff.mp hrow).1
  have hslot : (rows'.map Message.slot)[i]? = some row.slot := by
    rw [h, getElem?_append_left (by simpa using hi), getElem?_map, hrow]
    rfl
  rw [getElem?_map] at hslot
  exact Option.map_eq_some_iff.mp hslot

lemma SameRows.attr (g : Slot → β) (h : SameRows s s') (id : String) :
    ((s'.messages id).map fun m => g m.slot) = (s.messages id).map fun m => g m.slot := by
  simpa using attr_of_slots g ((h.slots id).trans (append_nil _).symm)

lemma SameRows.length_eq (h : SameRows s s') (id : String) :
    (s'.messages id).length = (s.messages id).length := by
  simpa using congrArg length (h.slots id)

lemma SameRows.eq_nil (h : SameRows s s') (hnil : s.messages id = []) : s'.messages id = [] := by
  apply eq_nil_of_length_eq_zero
  rw [h.length_eq, hnil]
  rfl

/-- The calls that append a row. -/
def StoreOp.isInsert : StoreOp → Bool
  | .insertMessage _ _ _ => true
  | _ => false

/-- What a call can do to the log. -/
inductive LogStep (s s' : Store) : Prop where
  /-- Rows and counters stay. -/
  | kept (hrows : SameRows s s')
      (hlast : ∀ id, (s'.chats id).map (·.lastSeq) = (s.chats id).map (·.lastSeq))
  /-- A chat is opened. -/
  | opened (hrows : SameRows s s') (id : String) (c : Chat) (hnew : s.chats id = none)
      (hzero : c.lastSeq = 0) (hchats : s'.chats = update s.chats id (some c))
  /-- A row is appended under the next number. -/
  | appended (m : Message) (c : Chat) (hchat : s.chats m.chatID = some c)
      (hchats : s'.chats = update s.chats m.chatID (some { c with lastSeq := c.lastSeq + 1 }))
      (hslots : ∀ id, (s'.messages id).map Message.slot =
        (s.messages id).map Message.slot ++
          if id = m.chatID then [(Store.numbered c m).slot] else [])

namespace Store

lemma append_slots (s : Store) (c : Chat) (m : Message) (dedupKey id : String) :
    ((s.append c m dedupKey).messages id).map Message.slot = (s.messages id).map Message.slot ++
        if id = m.chatID then [(numbered c m).slot] else [] := by
  rw [append_messages]
  split
  · next hid =>
    rw [hid]
    exact map_appendRow (fun _ => rfl) _ _
  · rw [append_nil]

lemma insertMessage_log (s : Store) (m : Message) (dedupKey : String)
    (mkOb : Option MakeOutbox) : LogStep s (s.insertMessage m dedupKey mkOb).2 := by
  have hcases := s.insertMessage_cases m dedupKey mkOb
  generalize s.insertMessage m dedupKey mkOb = out at hcases
  cases hcases with
  | duplicate | noChat => exact .kept (SameRows.refl s) fun _ => rfl
  | stored _ hchat =>
    refine .appended m _ hchat (by simp [append]) fun id => ?_
    rw [stageOutbox_messages]
    exact s.append_slots _ m dedupKey id

lemma rewriteMessage_sameRows (s : Store) (chatID id : String) (f : Message → Message)
    (hf : ∀ a, (f a).slot = a.slot) (mkOb : Option MakeOutbox) :
    SameRows s (s.rewriteMessage chatID id f mkOb).2 := by
  have hcases := s.rewriteMessage_cases chatID id f mkOb
  generalize s.rewriteMessage chatID id f mkOb = out at hcases
  cases hcases with
  | noMessage => exact SameRows.refl s
  | rewritten =>
    constructor
    · intro x
      rw [stageOutbox_messages, setRows_messages]
      split
      · next hx => rw [hx, map_updateFirst fun a _ => hf a]
      · rfl
    · rw [stageOutbox_dedup]
      rfl

lemma deleteAccount_sameRows (s : Store) (userID : String) (now : Int) :
    SameRows s (s.deleteAccount userID now).2 := by
  unfold deleteAccount
  cases s.users userID with
  | none => exact SameRows.refl s
  | some =>
    refine ⟨fun x => ?_, rfl⟩
    simp only [map_map]
    apply map_congr_left
    intro m _
    exact anonymised_attr (g := Message.slot) (fun _ => rfl) (fun _ _ => rfl) m

lemma expireMessages_sameRows (s : Store) (now limit : Int) (order : List String) :
    SameRows s (s.expireMessages now limit order).2 := by
  constructor
  · intro id
    exact map_expireChats now (fun _ => rfl) _ _ _ _
  · exact (expireChats_frame now _ _ _).2

variable {op : StoreOp}

lemma step_sameRows (s : Store) (hop : op.isInsert = false) : SameRows s (s.step op).2 := by
  cases op with
  | createUser u =>
    simp only [step, createUser]
    cases s.usersByName u.username with
    | none => exact ⟨fun _ => rfl, rfl⟩
    | some => exact SameRows.refl s
  | createChat => exact ⟨fun _ => rfl, rfl⟩
  | getOrCreatePair type userA userB =>
    simp only [step, getOrCreatePair]
    cases s.directIndex (pairKey (type.getD .direct) userA userB) with
    | some => exact SameRows.refl s
    | none => exact ⟨fun _ => rfl, rfl⟩
  | insertMessage => exact absurd hop Bool.false_ne_true.symm
  | editMessage chatID id text at_ mkOb =>
    exact s.rewriteMessage_sameRows chatID id (edited text at_) (fun _ => rfl) mkOb
  | deleteMessage chatID id at_ mkOb =>
    exact s.rewriteMessage_sameRows chatID id (tombstone at_) (fun _ => rfl) mkOb
  | expireMessages => exact s.expireMessages_sameRows ..
  | deleteAccount => exact s.deleteAccount_sameRows ..
  | poll => exact SameRows.refl s
  | markSent | purgeSent => exact ⟨fun _ => rfl, rfl⟩

lemma rewriteMessage_chats (s : Store) (chatID id : String) (f : Message → Message)
    (mkOb : Option MakeOutbox) : (s.rewriteMessage chatID id f mkOb).2.chats = s.chats := by
  have hcases := s.rewriteMessage_cases chatID id f mkOb
  generalize s.rewriteMessage chatID id f mkOb = out at hcases
  cases hcases with
  | noMessage => rfl
  | rewritten => rw [stageOutbox_chats]; rfl

theorem step_log (s : Store) (hop : op.Promised s) : LogStep s (s.step op).2 := by
  cases op with
  | createUser u =>
    refine .kept (s.step_sameRows rfl) fun id => ?_
    simp only [step, createUser]
    cases s.usersByName u.username with
    | none | some => rfl
  | createChat c => exact .opened (s.step_sameRows rfl) c.id c hop.1 hop.2 rfl
  | getOrCreatePair type userA userB newID =>
    simp only [step, getOrCreatePair]
    cases s.directIndex (pairKey (type.getD .direct) userA userB) with
    | some => exact .kept (SameRows.refl s) fun _ => rfl
    | none => exact .opened ⟨fun _ => rfl, rfl⟩ newID _ hop rfl rfl
  | insertMessage => exact s.insertMessage_log ..
  | editMessage chatID id text at_ mkOb | deleteMessage chatID id at_ mkOb =>
    refine .kept (s.step_sameRows rfl) fun x => ?_
    exact congrArg (Option.map _) (congrFun (s.rewriteMessage_chats chatID id _ mkOb) x)
  | expireMessages now =>
    refine .kept (s.step_sameRows rfl) fun x => ?_
    exact congrArg (Option.map _) (congrFun (expireChats_frame now _ _ s).1 x)
  | deleteAccount userID =>
    refine .kept (s.step_sameRows rfl) fun x => ?_
    simp only [step, deleteAccount]
    cases s.users userID with
    | none | some => rfl
  | poll | markSent | purgeSent => exact .kept (s.step_sameRows rfl) fun _ => rfl

end Store

/-! ## The invariant -/

/-- Every chat's rows are numbered from one in the order they were appended, and
its counter is the number of its rows. -/
structure Store.GapFree (s : Store) : Prop where
  seqs : ∀ id, (s.messages id).map (·.seq) = range' 1 (s.messages id).length
  lastSeq : ∀ id c, s.chats id = some c → c.lastSeq = (s.messages id).length
  unknown : ∀ id, s.chats id = none → s.messages id = []

namespace Store

lemma gapFree_new : new.GapFree where
  seqs _ := rfl
  lastSeq _ _ h := absurd h (by simp [new])
  unknown _ _ := rfl

namespace GapFree

variable {s s' : Store}

lemma seqs_of_sameRows (h : s.GapFree) (hrows : SameRows s s') (id : String) :
    (s'.messages id).map (·.seq) = range' 1 (s'.messages id).length := by
  rw [hrows.length_eq, ← h.seqs]
  exact hrows.attr Slot.seq id

lemma kept (h : s.GapFree) (hrows : SameRows s s')
    (hlast : ∀ id, (s'.chats id).map (·.lastSeq) = (s.chats id).map (·.lastSeq)) : s'.GapFree where
  seqs := h.seqs_of_sameRows hrows
  lastSeq := by
    intro id c' hc'
    have hc := hlast id
    rw [hc'] at hc
    rcases Option.map_eq_some_iff.mp hc.symm with ⟨c, hsome, heq⟩
    rw [hrows.length_eq, ← h.lastSeq id c hsome]
    exact heq.symm
  unknown := by
    intro id hnone
    have hc := hlast id
    rw [hnone] at hc
    exact hrows.eq_nil (h.unknown id (Option.map_eq_none_iff.mp hc.symm))

variable {c : Chat}

lemma opened (h : s.GapFree) (hrows : SameRows s s') {new : String} (hnew : s.chats new = none)
    (hzero : c.lastSeq = 0) (hchats : s'.chats = update s.chats new (some c)) : s'.GapFree where
  seqs := h.seqs_of_sameRows hrows
  lastSeq := by
    intro id c' hc'
    rw [hchats, update_apply] at hc'
    rw [hrows.length_eq]
    split at hc'
    · next hid => rw [← Option.some.inj hc', hzero, hid, h.unknown new hnew, length_nil]
    · exact h.lastSeq id c' hc'
  unknown := by
    intro id hnone
    rw [hchats, update_apply] at hnone
    split at hnone
    · exact absurd hnone (Option.some_ne_none _)
    · exact hrows.eq_nil (h.unknown id hnone)

lemma appended (h : s.GapFree) {m : Message} (hchat : s.chats m.chatID = some c)
    (hchats : s'.chats = update s.chats m.chatID (some { c with lastSeq := c.lastSeq + 1 }))
    (hslots : ∀ id, (s'.messages id).map Message.slot =
      (s.messages id).map Message.slot ++ if id = m.chatID then [(numbered c m).slot] else []) :
    s'.GapFree := by
  have hlast := h.lastSeq m.chatID c hchat
  have hother : ∀ id, id ≠ m.chatID → (s'.messages id).map (·.seq) =
      (s.messages id).map (·.seq) ∧ (s'.messages id).length = (s.messages id).length := by
    intro id hid
    have hslot := hslots id
    rw [if_neg hid] at hslot
    exact ⟨by simpa using attr_of_slots Slot.seq hslot, by simpa using congrArg length hslot⟩
  have hself := hslots m.chatID
  have hlen : (s'.messages m.chatID).length = (s.messages m.chatID).length + 1 := by
    simpa using congrArg length hself
  constructor
  · intro id
    by_cases hid : id = m.chatID
    · rw [hid, hlen, range'_concat, ← h.seqs]
      refine (attr_of_slots Slot.seq hself).trans ?_
      simp [Message.slot, numbered, hlast, Nat.add_comm]
    · rw [(hother id hid).1, (hother id hid).2, h.seqs]
  · intro id c' hc'
    rw [hchats, update_apply] at hc'
    split at hc'
    · next hid => rw [← Option.some.inj hc', hid, hlen, ← hlast]
    · next hid =>
      rw [(hother id hid).2]
      exact h.lastSeq id c' hc'
  · intro id hnone
    rw [hchats, update_apply] at hnone
    split at hnone
    · exact absurd hnone (Option.some_ne_none _)
    · next hid =>
      apply eq_nil_of_length_eq_zero
      rw [(hother id hid).2, h.unknown id hnone]
      rfl

lemma step (h : s.GapFree) (hstep : LogStep s s') : s'.GapFree := by
  cases hstep with
  | kept hrows hlast => exact h.kept hrows hlast
  | opened hrows new c hnew hzero hchats => exact h.opened hrows hnew hzero hchats
  | appended m c hchat hchats hslots => exact h.appended hchat hchats hslots

end GapFree

variable {s : Store}

/-- An insert that stores nothing changes nothing; one that stores a message takes
the next number and stages the message's record once. -/
def InsertExact (s : Store) (m : Message) (dedupKey : String) (mkOb : Option MakeOutbox) : Prop :=
  match s.insertMessage m dedupKey mkOb with
  | (.error _, s') => s' = s
  | (.ok (_, true), s') => s' = s
  | (.ok (stored, false), s') =>
    stored.seq = (s.messages m.chatID).length + 1 ∧
      s'.outbox = s.outbox ++ (mkOb.bind (· stored)).toList

lemma GapFree.insertExact (h : s.GapFree) (m : Message) (dedupKey : String)
    (mkOb : Option MakeOutbox) : s.InsertExact m dedupKey mkOb := by
  unfold InsertExact
  have hcases := s.insertMessage_cases m dedupKey mkOb
  generalize s.insertMessage m dedupKey mkOb = out at hcases ⊢
  cases hcases with
  | duplicate | noChat => rfl
  | stored _ hchat =>
    constructor
    · rw [← h.lastSeq _ _ hchat]
      exact newRow_attr (g := (·.seq)) (fun _ => rfl) s _ m
    · rw [stageOutbox_outbox]
      rfl

end Store

/-- After every sequence of calls the rows of each chat carry the numbers from one to their count,
the chat's counter.  A duplicate or failed insert takes no number and stages nothing; any other
stages its record once. -/
theorem log_gap_free {ops : List StoreOp}
    (hops : Machine.Guarded Store.step (fun s op => op.Promised s) Store.new ops) :
    (Store.new.after ops).GapFree ∧
      ∀ m dedupKey mkOb, (Store.new.after ops).InsertExact m dedupKey mkOb := by
  have hfree : (Store.new.after ops).GapFree :=
    Machine.guarded_final _ (fun s _ h hop => h.step (s.step_log hop)) Store.gapFree_new hops
  exact ⟨hfree, hfree.insertExact⟩

lemma Store.step_slots (s : Store) (op : StoreOp) (id : String) :
    (s.messages id).map Message.slot <+: ((s.step op).2.messages id).map Message.slot := by
  cases hop : op.isInsert with
  | false => exact ((s.step_sameRows hop).slots id).symm ▸ prefix_rfl
  | true =>
    cases op with
    | insertMessage m dedupKey mkOb =>
      cases s.insertMessage_log m dedupKey mkOb with
      | kept hrows | opened hrows => exact (hrows.slots id).symm ▸ prefix_rfl
      | appended m c hchat hchats hslots => exact hslots id ▸ prefix_append ..
    | _ => cases hop

/-- Whatever is called, no row of a chat is removed or moved, and none gets another identifier,
number or thread. -/
theorem log_append_only (s : Store) (ops : List StoreOp) (id : String) :
    (s.messages id).map Message.slot <+: ((s.after ops).messages id).map Message.slot := by
  induction ops generalizing s with
  | nil => exact prefix_rfl
  | cons op ops ih => exact (s.step_slots op id).trans (ih _)

section Sample

/-- A message before it is stored. -/
def draft (id chatID senderID : String) : Message where
  id := id
  chatID := chatID
  senderID := senderID
  seq := 0
  text := "hello"
  mediaRef := ""
  attachment := none
  replyTo := ""
  threadRoot := ""
  replyCount := 0
  forward := none
  expiresAt := 0
  edited := false
  deleted := false
  createdAt := 0
  editedAt := 0

def groupChat (id : String) : Chat where
  id := id
  type := .group
  title := ""
  ownerID := "1"
  createdAt := 0
  lastSeq := 0
  username := ""

/-- Two messages, one of them sent twice and then deleted, and one for a chat that
does not exist. -/
def sampleOps : List StoreOp :=
  [.createChat (groupChat "a"), .insertMessage (draft "11" "a" "1") "k" none,
    .insertMessage (draft "12" "a" "1") "k" none, .insertMessage (draft "13" "a" "2") "" none,
    .insertMessage (draft "14" "b" "2") "" none, .deleteMessage "a" "11" 5 none]

theorem log_gap_free_sample :
    Machine.Guarded Store.step (fun s op => op.Promised s) Store.new sampleOps ∧
      ((Store.new.after sampleOps).messages "a").map (·.seq) = [1, 2] ∧
      (Store.new.after sampleOps).GapFree ∧
      ∀ m dedupKey mkOb, (Store.new.after sampleOps).InsertExact m dedupKey mkOb :=
  ⟨by decide, by decide, log_gap_free (by decide)⟩

end Sample

end SyncApp.Messaging
