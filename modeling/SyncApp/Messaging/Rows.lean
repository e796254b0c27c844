import SyncApp.Messaging.Service

/-!
# What a request can do to the message log

A request to the services leaves each row where it is, rewrites one row with an edit, or appends one
message under an identifier just drawn.

Main results:

- `Service.step_rows`: which of these it is for each request.
- `Service.DistinctIDs.step`: identifiers stay distinct.
-/

namespace SyncApp.Messaging

open Foundations RowLog List

/-! ## Rows that fade -/

/-- A row without content that is marked as deleted. -/
structure Message.Erased (m : Message) : Prop where
  deleted : m.deleted = true
  text : m.text = ""
  mediaRef : m.mediaRef = ""
  attachment : m.attachment = none

/-- What a deletion, an expiry or the end of an account can do to a row: it keeps place and replies,
and keeps its content or loses all of it. -/
structure Message.Fades (m m' : Message) : Prop where
  slot : m'.slot = m.slot
  replyCount : m'.replyCount = m.replyCount
  content : m'.Erased ∨
    (m'.deleted = m.deleted ∧ m'.text = m.text ∧ m'.mediaRef = m.mediaRef ∧
      m'.attachment = m.attachment)

namespace Message

variable (m : Message) (now : Int)

lemma Fades.refl : m.Fades m :=
  ⟨rfl, rfl, .inr ⟨rfl, rfl, rfl, rfl⟩⟩

lemma Fades.rows (rows : List Message) : List.Forall₂ Fades rows rows :=
  forall₂_same.mpr fun m _ => Fades.refl m

lemma fades_tombstone : m.Fades (Store.tombstone now m) :=
  ⟨rfl, rfl, .inl ⟨rfl, rfl, rfl, rfl⟩⟩

/-- Only the origin of a forward is rewritten after a row was emptied. -/
lemma Fades.forward {m m' : Message} (h : m.Fades m') (origin : Option ForwardOrigin) :
    m.Fades { m' with forward := origin } where
  slot := h.slot
  replyCount := h.replyCount
  content := by
    rcases h.content with hgone | hsame
    · exact .inl { hgone with }
    · exact .inr hsame

lemma fades_anonymised (userID : String) (now : Int) :
    m.Fades (Store.anonymised userID now m) := by
  have hfirst : m.Fades
      (if m.senderID = userID then { Store.tombstone now m with senderID := "" } else m) := by
    split
    · exact ⟨rfl, rfl, .inl ⟨rfl, rfl, rfl, rfl⟩⟩
    · exact Fades.refl m
  unfold Store.anonymised
  dsimp only
  split
  · exact hfirst
  · split
    · exact hfirst.forward _
    · exact hfirst

end Message

/-- The rows of every chat have at most faded. -/
def Store.Faded (s s' : Store) : Prop :=
  ∀ x, List.Forall₂ Message.Fades (s.messages x) (s'.messages x)

namespace Store

lemma Faded.of_messages {s s' : Store} (h : s'.messages = s.messages) : s.Faded s' := by
  intro x
  rw [h]
  exact Message.Fades.rows _

lemma forall₂_expireRows (now : Int) (cap : Nat) (rows : List Message) :
    List.Forall₂ Message.Fades rows (expireRows now cap rows).1 := by
  induction rows generalizing cap with
  | nil =>
    cases cap with
    | zero | succ => exact .nil
  | cons m rows ih =>
    cases cap with
    | zero => exact Message.Fades.rows _
    | succ cap =>
      unfold expireRows
      split
      · exact .cons (m.fades_tombstone now) (ih cap)
      · exact .cons (Message.Fades.refl m) (ih (cap + 1))

end Store

lemma Message.Fades.trans {a b c : Message} (hab : a.Fades b) (hbc : b.Fades c) : a.Fades c where
  slot := hbc.slot.trans hab.slot
  replyCount := hbc.replyCount.trans hab.replyCount
  content := by
    rcases hbc.content with hgone | ⟨hdel, htext, hmedia, hatt⟩
    · exact .inl hgone
    rcases hab.content with hgone | ⟨hdeleted', htext', hmedia', hattachment'⟩
    · exact .inl ⟨hdel.trans hgone.deleted, htext.trans hgone.text,
        hmedia.trans hgone.mediaRef, hatt.trans hgone.attachment⟩
    · exact .inr ⟨hdel.trans hdeleted', htext.trans htext', hmedia.trans hmedia',
        hatt.trans hattachment'⟩

namespace Store

lemma Faded.trans {s s' s'' : Store} (h : s.Faded s') (h' : s'.Faded s'') : s.Faded s'' :=
  fun x => forall₂_trans (fun _ _ _ hab hbc => hab.trans hbc) (h x) (h' x)

lemma faded_expireChats (now : Int) (cap : Nat) (order : List String) (s : Store) :
    s.Faded (s.expireChats now cap order).2 := by
  induction order generalizing cap s with
  | nil => exact Faded.of_messages rfl
  | cons chatID order ih =>
    refine Faded.trans ?_ (ih _ _)
    intro x
    rw [setRows_messages]
    split
    · next hx =>
      rw [hx]
      exact forall₂_expireRows now cap _
    · exact Message.Fades.rows _

lemma faded_deleteAccount (s : Store) (userID : String) (now : Int) :
    s.Faded (s.deleteAccount userID now).2 := by
  unfold deleteAccount
  cases s.users userID with
  | none => exact Faded.of_messages rfl
  | some =>
    intro x
    apply forall₂_map_right_iff.mpr
    exact forall₂_same.mpr fun m _ => m.fades_anonymised userID now

lemma faded_deleteMessage (s : Store) (chatID id : String) (at_ : Int)
    (mkOb : Option MakeOutbox) : s.Faded (s.deleteMessage chatID id at_ mkOb).2 := by
  have hcases := s.rewriteMessage_cases chatID id (tombstone at_) mkOb
  unfold deleteMessage
  generalize s.rewriteMessage chatID id (tombstone at_) mkOb = out at hcases ⊢
  cases hcases with
  | noMessage => exact Faded.of_messages rfl
  | rewritten =>
    intro x
    rw [stageOutbox_messages, setRows_messages]
    split
    · next hx =>
      rw [hx]
      exact forall₂_updateFirst Message.Fades.refl _ fun m _ => m.fades_tombstone at_
    · exact Message.Fades.rows _

end Store

namespace Service

/-- The ways a send can end: it is refused, it takes an identifier and no more, or its message is
stored. -/
inductive SendOutcome (sv : Service) (input : SendInput) (now : Int) (clock clockOb : Clock) :
    Except ServiceError (Message × Bool) × Service → Prop where
  | refused (e : ServiceError) : SendOutcome sv input now clock clockOb (.error e, sv)
  | spent (r : Except ServiceError (Message × Bool)) :
      SendOutcome sv input now clock clockOb (r, ⟨sv.store, (sv.ids.nextString clock).2⟩)
  | stored (c : Chat) {m : Message} {drawOb : String × Generator}
      (hm : m = newMessage sv.store input (sv.ids.nextString clock).1 now)
      (hdraw : drawOb = (sv.ids.nextString clock).2.nextString clockOb) :
      SendOutcome sv input now clock clockOb (.ok (sv.store.newRow c m, false),
        ⟨(sv.store.append c m input.dedupKey).stageOutbox
          (some (outboxFor drawOb.1 .messageCreated)) (sv.store.newRow c m), drawOb.2⟩)

lemma send_cases (sv : Service) (input : SendInput) (canPost : Answer) (now : Int)
    (clock clockOb : Clock) :
    SendOutcome sv input now clock clockOb (sv.send input canPost now clock clockOb) := by
  unfold send
  cases refusal canPost with
  | some e => exact .refused e
  | none =>
    dsimp only
    have hcases := sv.store.insertMessage_cases
      (newMessage sv.store input (sv.ids.nextString clock).1 now) input.dedupKey
      (some (outboxFor ((sv.ids.nextString clock).2.nextString clockOb).1 .messageCreated))
    generalize sv.store.insertMessage _ _ _ = out at hcases ⊢
    cases hcases with
    | duplicate | noChat => exact .spent _
    | stored => exact .stored _ rfl rfl

/-- A forward is refused, or it sends a copy of a message that is not deleted. -/
lemma forward_cases (sv : Service) (userID srcChatID srcMsgID dstChatID dedupKey : String)
    (isMember canPost : Answer) (now : Int) (clock clockOb : Clock) :
    (∃ e, sv.forward userID srcChatID srcMsgID dstChatID dedupKey isMember canPost now clock
        clockOb = (.error e, sv)) ∨
      ∃ src origin, isMember = some true ∧ sv.store.getMessage srcChatID srcMsgID = some src ∧
        src.deleted = false ∧
        sv.forward userID srcChatID srcMsgID dstChatID dedupKey isMember canPost now clock clockOb =
          sv.send ⟨userID, dstChatID, dedupKey, src.text, src.mediaRef, "", src.attachment,
            some origin, 0⟩ canPost now clock clockOb := by
  unfold forward
  match isMember with
  | none | some false => exact .inl ⟨_, rfl⟩
  | some true =>
    cases sv.store.getMessage srcChatID srcMsgID with
    | none => exact .inl ⟨_, rfl⟩
    | some src =>
      dsimp only [refusal]
      split
      · exact .inl ⟨_, rfl⟩
      · next hlive =>
        exact .inr ⟨src, _, rfl, rfl, Bool.eq_false_of_not_eq_true hlive, rfl⟩

end Service

/-! ## The cases -/

/-- What a request can do to the rows and to the generator. -/
inductive RowStep (sv : Service) (op : ServiceOp) (sv' : Service) : Prop where
  /-- Rows stay or fade. -/
  | faded (hrows : sv.store.Faded sv'.store) (hids : sv.ids.Later sv'.ids)
  /-- The sender of a message edits it. -/
  | edited (userID chatID msgID text : String) (now : Int) (clock : Clock) (cur : Message)
      (hop : op = .edit userID chatID msgID text now clock)
      (hget : sv.store.getMessage chatID msgID = some cur) (hsender : cur.senderID = userID)
      (hrows : ∀ x, sv'.store.messages x = if x = chatID then
        updateFirst (·.id = msgID) (Store.edited text now) (sv.store.messages x)
        else sv.store.messages x)
      (hids : sv.ids.Later sv'.ids)
  /-- A message is appended. -/
  | appended (input : SendInput) (now : Int) (clock : Clock) (c : Chat) (m : Message)
      (hm : m = Store.numbered c
        (Service.newMessage sv.store input (sv.ids.nextString clock).1 now))
      (hrows : ∀ x, sv'.store.messages x = if x = input.chatID then
        Store.appendRow (sv.store.messages x) m else sv.store.messages x)
      (hids : (sv.ids.nextString clock).2.Later sv'.ids)

namespace Service

variable (sv : Service) (op : ServiceOp) (userID pollID chatID msgID text : String) (now : Int)
  (clock : Clock)

lemma send_rows (input : SendInput) (canPost : Answer) (now : Int) (clock clockOb : Clock) :
    RowStep sv op (sv.send input canPost now clock clockOb).2 := by
  have hcases := sv.send_cases input canPost now clock clockOb
  generalize sv.send input canPost now clock clockOb = out at hcases ⊢
  cases hcases with
  | refused => exact .faded (.of_messages rfl) (.refl _)
  | spent => exact .faded (.of_messages rfl) (.nextString _ _)
  | @stored c m drawOb hm hdraw =>
    refine .appended input now clock c _ (congrArg _ hm) (fun x => ?_) (hdraw ▸ .nextString _ _)
    have hchat : m.chatID = input.chatID := hm ▸ rfl
    rw [Store.stageOutbox_messages, Store.append_messages, hchat]
    split
    · next hx => rw [hx]
    · rfl

lemma edit_messages {userID chatID msgID : String} {cur : Message}
    (hget : sv.store.getMessage chatID msgID = some cur) (hsender : cur.senderID = userID)
    (x : String) :
    (sv.edit userID chatID msgID text now clock).2.store.messages x =
      if x = chatID then updateFirst (·.id = msgID) (Store.edited text now) (sv.store.messages x)
      else sv.store.messages x := by
  simp only [edit, Store.editMessage, Store.rewriteMessage, hget]
  rw [if_neg (not_not.mpr hsender), Store.stageOutbox_messages, Store.setRows_messages]
  split
  · next hx => rw [hx]
  · rfl

lemma edit_rows : RowStep sv (.edit userID chatID msgID text now clock)
      (sv.edit userID chatID msgID text now clock).2 := by
  cases hget : sv.store.getMessage chatID msgID with
  | none =>
    simp only [edit, hget]
    exact .faded (.of_messages rfl) (.refl _)
  | some cur =>
    by_cases hsender : cur.senderID = userID
    · refine .edited userID chatID msgID text now clock cur rfl hget hsender
        (sv.edit_messages text now clock hget hsender) ?_
      simp only [edit, Store.editMessage, Store.rewriteMessage, hget]
      rw [if_neg (not_not.mpr hsender)]
      exact .nextString _ _
    · simp only [edit, hget]
      rw [if_pos hsender]
      exact .faded (.of_messages rfl) (.refl _)

lemma delete_faded (canModerate : Answer) (now : Int) (clock : Clock) :
    sv.store.Faded (sv.delete userID chatID msgID canModerate now clock).2.store ∧
      sv.ids.Later (sv.delete userID chatID msgID canModerate now clock).2.ids := by
  unfold delete
  cases sv.store.getMessage chatID msgID with
  | none => exact ⟨.of_messages rfl, .refl _⟩
  | some =>
    dsimp only
    split
    · exact ⟨.of_messages rfl, .refl _⟩
    have hfaded := sv.store.faded_deleteMessage chatID msgID now
      (some (outboxFor (sv.ids.nextString clock).1 .messageDeleted))
    generalize sv.store.deleteMessage _ _ _ _ = out at hfaded ⊢
    rcases out with ⟨result, s⟩
    cases result with
    | error => exact ⟨hfaded, .refl _⟩
    | ok => exact ⟨hfaded, .nextString _ _⟩

lemma forward_rows (srcChatID srcMsgID dstChatID dedupKey : String) (isMember canPost : Answer)
    (now : Int) (clock clockOb : Clock) :
    RowStep sv op (sv.forward userID srcChatID srcMsgID dstChatID dedupKey isMember canPost now
      clock clockOb).2 := by
  rcases sv.forward_cases userID srcChatID srcMsgID dstChatID dedupKey isMember canPost now clock
    clockOb with ⟨_, href⟩ | ⟨_, _, -, -, -, hsend⟩
  · rw [href]
    exact .faded (.of_messages rfl) (.refl _)
  · rw [hsend]
    exact sv.send_rows op _ canPost now clock clockOb

lemma vote_frame (s : Store) (pollID userID : String) (option : Int) (multiChoice : Bool) :
    (s.vote pollID userID option multiChoice).2 = s ∨
      ∃ options,
        (s.vote pollID userID option multiChoice).2 = s.putVotes pollID userID options := by
  unfold Store.vote
  cases s.polls pollID with
  | none => exact .inl rfl
  | some =>
    dsimp only
    split
    · exact .inl rfl
    split
    · split
      · exact .inr ⟨_, rfl⟩
      · exact .inr ⟨_, rfl⟩
    · exact .inr ⟨_, rfl⟩

lemma votePoll_frame (userID : String) (option : Int) (isMember : Answer) :
    (sv.votePoll pollID userID option isMember).2 = sv ∨
      ∃ options, (sv.votePoll pollID userID option isMember).2 =
        { sv with store := sv.store.putVotes pollID userID options } := by
  unfold votePoll
  cases sv.store.polls pollID with
  | none => exact .inl rfl
  | some p =>
    dsimp only
    split
    · exact .inl rfl
    split
    · exact .inl rfl
    cases refusal isMember with
    | some => exact .inl rfl
    | none =>
      have hvote := vote_frame sv.store pollID userID option p.multiChoice
      generalize sv.store.vote pollID userID option p.multiChoice = out at hvote ⊢
      rcases out with ⟨result, s⟩
      rcases hvote with hvote | ⟨options, hvote⟩
      · subst hvote
        left
        rcases result with (_ | _ | _) | _ <;> rfl
      · subst hvote
        refine .inr ⟨options, ?_⟩
        rcases result with (_ | _ | _) | _ <;> rfl

lemma closePoll_frame (userID : String) :
    ∃ polls,
      (sv.closePoll pollID userID).2 = { sv with store := { sv.store with polls := polls } } := by
  unfold closePoll Store.closePoll
  cases sv.store.polls pollID with
  | none => exact ⟨_, rfl⟩
  | some =>
    dsimp only
    split
    · exact ⟨_, rfl⟩
    · exact ⟨_, rfl⟩

/-- Rows and outbox are left alone. -/
structure Beside (sv sv' : Service) : Prop where
  messages : sv'.store.messages = sv.store.messages
  outbox : sv'.store.outbox = sv.store.outbox
  outboxSent : sv'.store.outboxSent = sv.store.outboxSent
  ids : sv.ids.Later sv'.ids

lemma Beside.refl (sv : Service) : sv.Beside sv :=
  ⟨rfl, rfl, rfl, .refl _⟩

/-- The requests that have nothing to do with rows or the outbox. -/
def isBeside : ServiceOp → Bool
  | .createUser _ | .createChat _ | .history _ _ _ _ | .thread _ _ _ _ _ | .markRead _ _ _ _ _
  | .toggle _ _ _ _ _ _ | .createPoll _ _ _ _ | .votePoll _ _ _ _ | .closePoll _ _
  | .pollResults _ _ _ | .pollOutbox _ => true
  | _ => false

lemma step_beside {op : ServiceOp} (hop : isBeside op = true) : sv.Beside (sv.step op).2 := by
  cases op with
  | createUser u =>
    simp only [step, Store.createUser]
    cases sv.store.usersByName u.username with
    | none => exact ⟨rfl, rfl, rfl, .refl _⟩
    | some => exact .refl sv
  | createChat => exact ⟨rfl, rfl, rfl, .refl _⟩
  | history | thread => exact .refl sv
  | markRead userID chatID upToSeq isMember =>
    simp only [step, markRead]
    cases refusal isMember with
    | some => exact .refl sv
    | none =>
      simp only [Store.setRead]
      split
      · split
        · exact .refl sv
        · exact ⟨rfl, rfl, rfl, .refl _⟩
      · exact ⟨rfl, rfl, rfl, .refl _⟩
  | toggle chatID messageID userID emoji isMember =>
    simp only [step, toggle]
    split
    · exact .refl sv
    cases refusal isMember with
    | some => exact .refl sv
    | none =>
      simp only [Store.setReaction]
      split
      · exact ⟨rfl, rfl, rfl, .refl _⟩
      · exact ⟨rfl, rfl, rfl, .refl _⟩
  | createPoll input isMember =>
    simp only [step, createPoll]
    split
    · cases refusal isMember with
      | some => exact .refl sv
      | none => exact ⟨rfl, rfl, rfl, .nextString _ _⟩
    · exact .refl sv
  | votePoll pollID userID option isMember =>
    rcases sv.votePoll_frame pollID userID option isMember with hfr | ⟨_, hfr⟩
    · simp only [step, hfr]
      exact .refl sv
    · simp only [step, hfr]
      exact ⟨rfl, rfl, rfl, .refl _⟩
  | closePoll pollID userID =>
    rcases sv.closePoll_frame pollID userID with ⟨_, hfr⟩
    simp only [step, hfr]
    exact ⟨rfl, rfl, rfl, .refl _⟩
  | pollResults | pollOutbox => exact .refl sv
  | _ =>
    exact absurd hop Bool.false_ne_true

theorem step_rows : RowStep sv op (sv.step op).2 := by
  cases hop : isBeside op with
  | true =>
    have hbeside := sv.step_beside hop
    exact .faded (.of_messages hbeside.messages) hbeside.ids
  | false =>
    cases op with
    | send => exact sv.send_rows _ ..
    | edit => exact sv.edit_rows ..
    | delete userID chatID msgID canModerate now clock =>
      have hfaded := sv.delete_faded userID chatID msgID canModerate now clock
      exact .faded hfaded.1 hfaded.2
    | forward => exact sv.forward_rows _ ..
    | expireDue now limit order => exact .faded (Store.faded_expireChats now _ order _) (.refl _)
    | deleteAccount userID now => exact .faded (sv.store.faded_deleteAccount userID now) (.refl _)
    | markSent | purgeSent => exact .faded (.of_messages rfl) (.refl _)
    | _ => exact absurd hop Bool.false_ne_true.symm

end Service

lemma RowStep.later {sv sv' : Service} {op : ServiceOp} (h : RowStep sv op sv') :
    sv.ids.Later sv'.ids := by
  cases h with
  | faded hrows hids | edited userID chatID msgID text now clock cur hop hget hsender hrows hids =>
    exact hids
  | appended input now clock c m hm hrows hids => exact (Generator.Later.nextString _ _).trans hids

/-- Every row has an identifier of its own, drawn from the generator. -/
structure Service.DistinctIDs (sv : Service) : Prop where
  issued : ∀ x, ∀ row ∈ sv.store.messages x, sv.ids.Issued row.id
  nodup : ∀ x, ((sv.store.messages x).map (·.id)).Nodup
  apart : ∀ x y, ∀ row ∈ sv.store.messages x, ∀ row' ∈ sv.store.messages y, row.id = row'.id → x = y

/-- The clock stays within the bits an identifier has for it. -/
def Service.InTime (sv : Service) (op : ServiceOp) : Prop :=
  (sv.step op).2.ids.lastMs < horizon
deriving Decidable

namespace Service.DistinctIDs

variable {sv sv' : Service} {op : ServiceOp}

lemma new (ids : Generator) : (Service.new ids).DistinctIDs where
  issued _ _ h := absurd h not_mem_nil
  nodup _ := nodup_nil
  apart _ _ _ h := absurd h not_mem_nil

variable (h : sv.DistinctIDs)
include h

/-- The rows keep their identifiers, and those of one chat get fresh ones behind them. -/
lemma of_rows (chatID : String) (fresh : List String) (hids : sv.ids.Later sv'.ids)
    (htime : sv'.ids.lastMs < horizon) (hnodup : fresh.Nodup)
    (hfresh : ∀ id ∈ fresh, sv'.ids.Issued id ∧ ¬ sv.ids.Issued id)
    (hrows : ∀ x, (sv'.store.messages x).map (·.id) =
      (sv.store.messages x).map (·.id) ++ if x = chatID then fresh else []) :
    sv'.DistinctIDs := by
  -- A row of the new log is an old one or one of those appended.
  have hold : ∀ x, ∀ row' ∈ sv'.store.messages x,
      (∃ row ∈ sv.store.messages x, row.id = row'.id) ∨ (x = chatID ∧ row'.id ∈ fresh) := by
    intro x row' hrow'
    have hmem : row'.id ∈ (sv'.store.messages x).map (·.id) := mem_map_of_mem hrow'
    rw [hrows] at hmem
    rcases mem_append.mp hmem with hin | hnew
    · exact .inl (mem_map.mp hin)
    right
    split at hnew
    · next hx => exact ⟨hx, hnew⟩
    · exact absurd hnew not_mem_nil
  have hnot : ∀ x, ∀ row ∈ sv.store.messages x, row.id ∉ fresh :=
    fun x row hrow hmem => (hfresh _ hmem).2 (h.issued x row hrow)
  constructor
  · intro x row' hrow'
    rcases hold x row' hrow' with ⟨row, hrow, heq⟩ | ⟨-, hnew⟩
    · exact heq ▸ hids.issued htime _ (h.issued x row hrow)
    · exact (hfresh _ hnew).1
  · intro x
    rw [hrows]
    refine (h.nodup x).append (by split <;> simp [hnodup]) fun id hid hmem => ?_
    rcases mem_map.mp hid with ⟨row, hrow, rfl⟩
    split at hmem
    · exact hnot x row hrow hmem
    · exact not_mem_nil hmem
  · intro x y row hrow row' hrow' heq
    rcases hold x row hrow with ⟨a, ha, haeq⟩ | ⟨hx, hnew⟩
    · rcases hold y row' hrow' with ⟨b, hb, hbeq⟩ | ⟨-, hnew'⟩
      · exact h.apart x y a ha b hb (haeq.trans (heq.trans hbeq.symm))
      · exact absurd (haeq.trans heq ▸ hnew') (hnot x a ha)
    · rcases hold y row' hrow' with ⟨b, hb, hbeq⟩ | ⟨hy, -⟩
      · exact absurd (hbeq.trans heq.symm ▸ hnew) (hnot y b hb)
      · exact hx.trans hy.symm

lemma of_ids (hids : sv.ids.Later sv'.ids) (htime : sv'.ids.lastMs < horizon)
    (hrows : ∀ x, (sv'.store.messages x).map (·.id) = (sv.store.messages x).map (·.id)) :
    sv'.DistinctIDs :=
  h.of_rows "" [] hids htime nodup_nil (by simp) (by simpa using hrows)

theorem step (hstep : RowStep sv op sv') (htime : sv'.ids.lastMs < horizon) : sv'.DistinctIDs := by
  cases hstep with
  | faded hrows hids =>
    refine h.of_ids hids htime fun x => ?_
    exact map_eq_of_forall₂ (fun a b hfade => congrArg Slot.id hfade.slot) (hrows x)
  | edited userID chatID msgID text now clock cur hop hget hsender hrows hids =>
    refine h.of_ids hids htime fun x => ?_
    rw [hrows]
    split
    · apply map_updateFirst
      intro row _
      rfl
    · rfl
  | appended input now clock c m hm hrows hids =>
    have hlate := Generator.Later.nextString sv.ids clock
    refine h.of_rows input.chatID [(sv.ids.nextString clock).1]
      (hlate.trans hids) htime (nodup_singleton _) ?_ ?_
    · intro id hid
      rw [mem_singleton.mp hid]
      exact ⟨hids.issued htime _ (sv.ids.issued_next clock),
        Generator.not_issued_next (lt_of_le_of_lt hids.lastMs_le htime)⟩
    · intro x
      rw [hrows]
      split
      · rw [Store.map_appendRow fun _ => rfl, hm]
        rfl
      · rw [append_nil]

/-- A message that is read by chat and identifier is the only row with that
identifier. -/
lemma eq_of_id {x y : String} {row row' : Message} (hrow : row ∈ sv.store.messages x)
    (hrow' : row' ∈ sv.store.messages y) (heq : row.id = row'.id) : row = row' := by
  have hxy := h.apart x y row hrow row' hrow' heq
  subst hxy
  exact inj_on_of_nodup_map (h.nodup x) hrow hrow' heq

end Service.DistinctIDs

end SyncApp.Messaging
