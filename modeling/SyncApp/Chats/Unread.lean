import SyncApp.Chats.Summaries
import SyncApp.Messaging.Service

/-!
# Unread messages

`MarkRead` stores the number that a client sends, and the list of chats counts from it.  Whether
there is a message with that number is never asked.

Main results:

- `Reading.newer_le_unread`: messages since the last mark are counted as unread if no mark is ahead.
-/

namespace SyncApp.Chats

open Foundations List
open Messaging (Message Service ServiceOp LogStep SameRows)
open Messaging.Store (deleteMessage gapFree_new putRead setRead stageOutbox_eq tombstone)

/-- The message service, and for each member of a chat how many messages the chat had when
`MarkRead` last succeeded for them. -/
structure Reading where
  service : Service
  marks : String → String → Nat

namespace Reading

variable (r : Reading)

def rows (chatID : String) : List Message := r.service.store.messages chatID

def step (r : Reading) (op : ServiceOp) : List Messaging.Event × Reading :=
  ((r.service.step op).1,
    { service := (r.service.step op).2
      marks :=
        match op with
        | .markRead userID chatID _ (some true) _ =>
          Function.update r.marks chatID
            (Function.update (r.marks chatID) userID (r.rows chatID).length)
        | _ => r.marks })

/-- The live messages of others that were sent after the last `MarkRead` of a member. -/
def newer (chatID userID : String) : Nat :=
  ((r.rows chatID).drop (r.marks chatID userID)).countP fun m =>
    !m.deleted && decide (m.senderID ≠ userID)

/-- The requests in question: messages are sent and deleted and chats read, and chats are opened
under new identifiers. -/
def Asked : ServiceOp → Prop
  | .createChat c => r.service.store.chats c.id = none ∧ c.lastSeq = 0
  | .send .. | .delete .. | .markRead .. => True
  | _ => False

/-- A member marks no more as read than is there. -/
def Honest : ServiceOp → Prop
  | .markRead _ chatID upToSeq (some true) _ => upToSeq ≤ (r.rows chatID).length
  | _ => True

/-- How far a member has read. -/
def readOf (s : Messaging.Store) (chatID userID : String) : Nat :=
  ((s.reads chatID userID).map (·.upToSeq)).getD 0

variable {r : Reading} {op : ServiceOp}

/-! ## One request -/

/-- Rows are appended at most, and the cursors stay. -/
structure Grows (s s' : Messaging.Store) : Prop where
  log : LogStep s s'
  reads : s'.reads = s.reads

lemma Grows.refl (s : Messaging.Store) : Grows s s :=
  ⟨.kept (SameRows.refl s) fun _ => rfl, rfl⟩

variable (s : Messaging.Store) (rs : Messaging.ReadState) (sv : Service)

lemma stageOutbox_reads (mkOb : Option Messaging.MakeOutbox) (m : Message) :
    (s.stageOutbox mkOb m).reads = s.reads := by
  rw [stageOutbox_eq]

lemma grows_send (input : Messaging.SendInput) (canPost : Messaging.Answer) (now : Int)
    (clock clockOb : Messaging.Clock) :
    Grows sv.store (sv.send input canPost now clock clockOb).2.store := by
  have hinsert : ∀ m dedupKey mkOb, Grows sv.store (sv.store.insertMessage m dedupKey mkOb).2 := by
    intro m dedupKey mkOb
    refine ⟨sv.store.insertMessage_log m dedupKey mkOb, ?_⟩
    have hcases := sv.store.insertMessage_cases m dedupKey mkOb
    generalize sv.store.insertMessage m dedupKey mkOb = out at hcases
    cases hcases with
    | duplicate | noChat => rfl
    | stored => exact stageOutbox_reads ..
  unfold Service.send
  split
  · exact .refl _
  dsimp only
  split <;> next h => exact (congrArg (fun out => Grows sv.store out.2) h).mp (hinsert ..)

lemma grows_delete (userID chatID msgID : String) (canModerate : Messaging.Answer) (now : Int)
    (clock : Messaging.Clock) :
    Grows sv.store (sv.delete userID chatID msgID canModerate now clock).2.store := by
  have hdelete : ∀ mkOb, Grows sv.store (sv.store.deleteMessage chatID msgID now mkOb).2 := by
    intro mkOb
    have hlog : LogStep sv.store (sv.store.step (.deleteMessage chatID msgID now mkOb)).2 :=
      sv.store.step_log trivial
    refine ⟨hlog, ?_⟩
    have hcases := sv.store.rewriteMessage_cases chatID msgID (tombstone now) mkOb
    unfold deleteMessage
    generalize sv.store.rewriteMessage chatID msgID _ mkOb = out at hcases
    cases hcases with
    | noMessage => rfl
    | rewritten => exact stageOutbox_reads ..
  unfold Service.delete
  split
  · exact .refl _
  split
  · exact .refl _
  dsimp only
  split <;> next h => exact (congrArg (fun out => Grows sv.store out.2) h).mp (hdelete ..)

lemma length_le {s s' : Messaging.Store} (h : LogStep s s') (id : String) :
    (s.messages id).length ≤ (s'.messages id).length := by
  cases h with
  | kept hrows | opened hrows => exact (hrows.length_eq id).ge
  | appended m c _ _ hslots =>
    have hlen := congrArg length (hslots id)
    simp only [length_append, length_map] at hlen
    omega

lemma step_marks (r : Reading) (userID chatID : String) (upToSeq : Nat) (now : Int)
    (c u : String) : (r.step (.markRead userID chatID upToSeq (some true) now)).2.marks c u =
      if chatID = c ∧ userID = u then (r.rows c).length else r.marks c u := by
  dsimp only [step]
  rcases eq_or_ne chatID c with rfl | hc
  · rcases eq_or_ne userID u with rfl | hu
    · simp
    · simp [hu, hu.symm]
  · simp [hc, hc.symm]

/-- No member has read beyond what was there when they last marked it. -/
structure Kept (r : Reading) : Prop where
  gapFree : r.service.store.GapFree
  marked : ∀ chatID userID, r.marks chatID userID ≤ (r.rows chatID).length
  read : ∀ chatID userID, readOf r.service.store chatID userID ≤ r.marks chatID userID

lemma Kept.grows (h : r.Kept) {sv : Service} (hg : Grows r.service.store sv.store) :
    Kept ⟨sv, r.marks⟩ where
  gapFree := h.gapFree.step hg.log
  marked chatID userID := (h.marked chatID userID).trans (length_le hg.log chatID)
  read chatID userID := by
    unfold readOf
    rw [hg.reads]
    exact h.read chatID userID

lemma setRead_eq : s.setRead rs = { s with reads := (s.setRead rs).reads } := by
  unfold setRead
  split
  · split_ifs <;> rfl
  · rfl

/-- A cursor moves to the number that was sent, and never backwards. -/
lemma readOf_setRead (chatID userID : String) :
    readOf (s.setRead rs) chatID userID = if rs.chatID = chatID ∧ rs.userID = userID then
        max (readOf s chatID userID) rs.upToSeq else readOf s chatID userID := by
  unfold setRead readOf
  split_ifs with hkey
  · rw [hkey.1, hkey.2]
    cases hcur : s.reads chatID userID with
    | none => simp [putRead, hkey]
    | some =>
      dsimp only
      split_ifs with hle
      · simp [hcur, hle]
      · simp [putRead, hkey, Nat.le_of_not_le hle]
  · have hput : (s.putRead rs).reads chatID userID = s.reads chatID userID := by
      unfold putRead
      rcases eq_or_ne chatID rs.chatID with rfl | hchat
      · have huser : userID ≠ rs.userID := fun h => hkey ⟨rfl, h.symm⟩
        simp [huser]
      · simp [hchat]
    split
    · split_ifs
      · rfl
      · rw [hput]
    · rw [hput]

lemma Kept.markRead (h : r.Kept) {userID chatID : String} {upToSeq : Nat} {now : Int}
    (hseen : upToSeq ≤ (r.rows chatID).length) :
    (r.step (.markRead userID chatID upToSeq (some true) now)).2.Kept := by
  have heq := setRead_eq r.service.store ⟨chatID, userID, upToSeq, now⟩
  have hrows : ∀ x, (r.step (.markRead userID chatID upToSeq (some true) now)).2.rows x =
      r.rows x := fun x => congrArg (·.messages x) heq
  refine ⟨?_, fun c u => ?_, fun c u => ?_⟩
  · change (r.service.store.setRead ⟨chatID, userID, upToSeq, now⟩).GapFree
    rw [heq]
    exact ⟨h.gapFree.seqs, h.gapFree.lastSeq, h.gapFree.unknown⟩
  · rw [hrows, step_marks]
    split_ifs
    · exact le_rfl
    · exact h.marked c u
  · have hread : readOf (r.step (.markRead userID chatID upToSeq (some true) now)).2.service.store
        c u = _ := readOf_setRead r.service.store ⟨chatID, userID, upToSeq, now⟩ c u
    rw [hread, step_marks]
    split_ifs with hkey
    · rw [← hkey.1]
      exact max_le ((h.read chatID u).trans (h.marked chatID u)) hseen
    · exact h.read c u

lemma Kept.step (h : r.Kept) (hop : r.Asked op) (hhonest : r.Honest op) : (r.step op).2.Kept := by
  cases op with
  | createChat c =>
    have hlog : LogStep r.service.store (r.service.store.step (.createChat c)).2 :=
      r.service.store.step_log hop
    exact h.grows ⟨hlog, rfl⟩
  | send => exact h.grows (grows_send ..)
  | delete => exact h.grows (grows_delete ..)
  | markRead userID chatID upToSeq isMember =>
    rcases isMember with _ | _ | _
    · exact h
    · exact h
    · exact h.markRead hhonest
  | _ => exact hop.elim

/-! ## What is shown -/

/-- Of numbered rows, no more are live after the first `k` than the number of the last live row
is above `k`. -/
lemma live_le {s : Messaging.Store} (h : s.GapFree) {members : AList fun _ => Members}
    (chatID : String) (k : Nat) : ((s.messages chatID).drop k).countP (fun m => !m.deleted) ≤
      (((Store.lastLive ⟨s, members⟩ chatID).map (·.seq)).getD 0) - k := by
  unfold Store.lastLive
  cases hlast : (s.messages chatID).reverse.find? fun m => !m.deleted with
  | none =>
    have hdead := find?_eq_none.mp hlast
    rw [countP_eq_zero.mpr]
    · exact Nat.zero_le _
    · intro m hm
      exact hdead m (mem_reverse.mpr (mem_of_mem_drop hm))
  | some last =>
    rcases find?_eq_some_iff_append.mp hlast with ⟨_, after, before, hsplit, hdead⟩
    have hrows : s.messages chatID = (before.reverse ++ [last]) ++ after.reverse := by
      have hreverse := congrArg reverse hsplit
      simpa using hreverse
    have hseq : last.seq = before.length + 1 := by
      have hseqs := h.seqs chatID
      rw [hrows] at hseqs
      have hat := congrArg (·[before.length]?) hseqs
      simpa [Nat.add_comm] using hat
    have hafter : (after.reverse.drop (k - (before.reverse ++ [last]).length)).countP
        (fun m => !m.deleted) = 0 := by
      apply countP_eq_zero.mpr
      intro m hm
      simpa using hdead m (mem_reverse.mp (mem_of_mem_drop hm))
    have hpre := countP_le_length (l := (before.reverse ++ [last]).drop k)
      (p := fun m : Message => !m.deleted)
    rw [hrows, drop_append, countP_append, hafter]
    simpa [hseq] using hpre

lemma summaryOf_unread {s : Store} {userID chatID : String} {includeArchived : Bool}
    {members : Members} {row : ChatSummary}
    (h : s.summaryOf userID includeArchived chatID members = some row) :
    row.unreadCount =
      (((s.lastLive chatID).map (·.seq)).getD 0 - readOf s.log chatID userID : Nat) := by
  unfold Store.summaryOf at h
  split at h
  · cases h
  split_ifs at h
  split at h
  · cases h
  cases h
  cases s.lastLive chatID with
  | none => simp
  | some =>
    unfold Store.unreadOf readOf
    cases s.log.reads chatID userID with
    | none => simp
    | some =>
      simp only [Option.map_some, Option.getD_some]
      split_ifs <;> omega

variable {members : AList fun _ : String => Members}

lemma Kept.newer_le (h : r.Kept) (chatID userID : String) :
    r.newer chatID userID ≤
      ((Store.lastLive ⟨r.service.store, members⟩ chatID).map (·.seq)).getD 0 -
        readOf r.service.store chatID userID := by
  have hlive : ((r.rows chatID).drop (r.marks chatID userID)).countP (fun m => !m.deleted) ≤
      ((Store.lastLive ⟨r.service.store, members⟩ chatID).map (·.seq)).getD 0 -
        r.marks chatID userID := live_le h.gapFree chatID _
  have hnewer : r.newer chatID userID ≤
      ((r.rows chatID).drop (r.marks chatID userID)).countP fun m => !m.deleted := by
    apply countP_mono_left
    intro m _ hm
    exact (Bool.and_eq_true_iff.mp hm).1
  have hread := h.read chatID userID
  omega

/-- Where no member marks more as read than is there, at least the live messages of others since the
last mark are counted, and the count is never negative. -/
theorem newer_le_unread {ids : Messaging.Generator} {ops : List ServiceOp}
    (hops : Machine.Guarded step (fun r op => r.Asked op ∧ r.Honest op) ⟨.new ids, fun _ _ => 0⟩
      ops) (userID : String) (page : ChatPage) :
    let r := Machine.final step ⟨.new ids, fun _ _ => 0⟩ ops
    ∀ row ∈ userChatPage ⟨r.service.store, members⟩ userID page, ∃ chatID,
      (members.lookup chatID).bind
          (Store.summaryOf ⟨r.service.store, members⟩ userID page.includeArchived chatID) =
        some row ∧
      0 ≤ row.unreadCount ∧ r.newer chatID userID ≤ row.unreadCount := by
  intro r row hrow
  have hkept : r.Kept := by
    refine Machine.guarded_final _ (fun r op h hop => h.step hop.1 hop.2) ?_ hops
    exact ⟨gapFree_new, fun _ _ => Nat.zero_le _, fun _ _ => Nat.zero_le _⟩
  have hlisted := Store.mem_userChatSummaries _ _ hrow
  rw [(Store.listed_perm _ _ _).mem_iff, Store.mem_summaryRows] at hlisted
  rcases hlisted with ⟨chatID, _, hlook, hsummary⟩
  refine ⟨chatID, by rw [hlook]; exact hsummary, ?_⟩
  rw [summaryOf_unread hsummary]
  exact ⟨Int.natCast_nonneg _, Int.ofNat_le.mpr (hkept.newer_le chatID userID)⟩

namespace Sample

open Messaging (sendText groupChat nodeOne)

/-- The account `2` is a member of the chat `a`. -/
def joined : AList fun _ : String => Members :=
  AList.insert "a" (AList.insert "2" ⟨"a", "2", .member, 0, false, 0, false, false⟩ ∅) ∅

/-- A message is sent, `2` marks the chat as read, and another message is sent. -/
def readUpTo (upToSeq : Nat) : List ServiceOp :=
  [.createChat (groupChat "a"), sendText "hello" "", .markRead "2" "a" upToSeq (some true) 0,
    sendText "there" ""]

def firstPage : ChatPage := ⟨0, "", 0, false⟩

end Sample

open Messaging (nodeOne) in
open Sample in
/-- A member who marks message 1000 as read is shown none of the messages that follow. -/
theorem read_ahead_hides : let r := Machine.final step ⟨.new nodeOne, fun _ _ => 0⟩ (readUpTo 1000)
    r.newer "a" "2" = 1 ∧
      (userChatPage ⟨r.service.store, joined⟩ "2" firstPage).map (·.unreadCount) = [0] := by
  decide +kernel

open Messaging (nodeOne) in
open Sample in
/-- A member who marks message 1 as read is shown the one that follows. -/
theorem newer_le_unread_one : let r := Machine.final step ⟨.new nodeOne, fun _ _ => 0⟩ (readUpTo 1)
    let rows := userChatPage ⟨r.service.store, joined⟩ "2" firstPage
    rows.length = 1 ∧ r.newer "a" "2" = 1 ∧ ∀ row ∈ rows, ∃ chatID,
      0 ≤ row.unreadCount ∧ r.newer chatID "2" ≤ row.unreadCount := by
  refine ⟨by decide +kernel, by decide +kernel, fun row hrow => ?_⟩
  have hops : Machine.Guarded step (fun r op => r.Asked op ∧ r.Honest op)
      ⟨.new nodeOne, fun _ _ => 0⟩ (readUpTo 1) := by
    refine ⟨⟨⟨rfl, rfl⟩, trivial⟩, ⟨trivial, trivial⟩, ⟨trivial, ?_⟩, ⟨trivial, trivial⟩, trivial⟩
    change 1 ≤ length _
    decide +kernel
  rcases newer_le_unread hops "2" firstPage row hrow with ⟨chatID, _, h⟩
  exact ⟨chatID, h⟩

end Reading
end SyncApp.Chats
