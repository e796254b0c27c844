import SyncApp.Chats.Store

/-!
# The list of an account's chats

`UserChatSummaries` of the in-memory store and `UserChatPage` of `server/internal/chat/chat.go`:
pages of chats in the order of activity, after a cursor of an activity and an identifier.

Main results:

- `Store.mem_userChatSummaries`, `Store.mem_summaryRows`: the rows of a page.
-/

namespace SyncApp.Chats

open Foundations List
open Messaging (Chat ChatType Message StoreError)

def is1To1 (t : ChatType) : Bool := t = .direct ∨ t = .secret

structure ChatSummary where
  chat : Option Chat
  myRole : MemberRole
  peerID : String
  lastMessage : Option Message
  unreadCount : Int
  lastActivityAt : Int
  flags : MemberFlags

/-- The identifier of the chat of a row. -/
def ChatSummary.chatID (r : ChatSummary) : String :=
  match r.chat with
  | none => ""
  | some c => c.id

/-- The digits of a number in base ten, read one after the other. -/
def parseDigits : List Char → Int → Option Int
  | [], n => some n
  | c :: cs, n => if c.isDigit then parseDigits cs (n * 10 + (c.toNat - 48)) else none

/-- `strconv.ParseInt` in base ten and 64 bits. -/
def parseInt64 (s : String) : Option Int :=
  let value :=
    match s.toList with
    | [] => none
    | '-' :: cs => if cs = [] then none else (parseDigits cs 0).map Int.neg
    | '+' :: cs => if cs = [] then none else parseDigits cs 0
    | cs => parseDigits cs 0
  value.filter fun n => -9223372036854775808 ≤ n ∧ n ≤ 9223372036854775807

def lessChatID (a b : String) : Bool :=
  match parseInt64 a, parseInt64 b with
  | some na, some nb => na < nb
  | _, _ => a < b

namespace Store

variable (s : Store)

def lastLive (chatID : String) : Option Message :=
  (s.log.messages chatID).reverse.find? fun m => !m.deleted

/-- How many messages are above a read cursor. -/
def unreadOf (chatID userID : String) (last : Message) : Int :=
  let read :=
    match s.log.reads chatID userID with
    | none => 0
    | some st => st.upToSeq
  let read := if read > last.seq then last.seq else read
  last.seq - read

variable (userID : String) (includeArchived : Bool)

/-- The row of one chat, if the account has one. -/
def summaryOf (chatID : String) (members : Members) : Option ChatSummary :=
  match members.lookup userID with
  | none => none
  | some me =>
    if me.flags.archived && !includeArchived then none
    else
      match s.log.chats chatID with
      | none => none
      | some c =>
        let last := s.lastLive chatID
        some
          { chat := some c
            myRole := me.role
            peerID :=
              if is1To1 c.type then (members.keys.find? fun uid => uid ≠ userID).getD "" else ""
            lastMessage := last
            unreadCount := (last.map (s.unreadOf chatID userID)).getD 0
            lastActivityAt := (last.map Message.createdAt).getD c.createdAt
            flags := me.flags }

def summaryRows : List ChatSummary :=
  s.members.entries.filterMap fun entry => s.summaryOf userID includeArchived entry.1 entry.2

/-- A row comes before another: the later activity first, and then the larger identifier. -/
def Before (a b : ChatSummary) : Prop :=
  if a.lastActivityAt ≠ b.lastActivityAt then a.lastActivityAt > b.lastActivityAt
  else lessChatID a.chatID b.chatID = false
deriving Decidable

/-- A row is left out by the cursor. -/
def beforeCursor (afterActivity : Int) (afterChatID : String) (r : ChatSummary) : Bool :=
  (afterActivity ≠ 0 || afterChatID ≠ "") &&
    (r.lastActivityAt > afterActivity ||
      r.lastActivityAt = afterActivity && !lessChatID r.chatID afterChatID)

def userChatSummaries (afterActivity : Int) (afterChatID : String)
    (limit : Int) (includeArchived : Bool) : List ChatSummary :=
  let limit := if limit ≤ 0 then 50 else limit.toNat
  let rows := (s.summaryRows userID includeArchived).insertionSort Before
  (rows.filter fun r => !beforeCursor afterActivity afterChatID r).take limit

end Store

structure ChatPage where
  afterActivity : Int
  after : String
  limit : Int
  includeArchived : Bool

def maxChatPage : Int := 200

def defaultChatPage : Int := 100

/-- `UserChatPage`, over a store that reads summaries. -/
def userChatPage (s : Store) (userID : String) (p : ChatPage) : List ChatSummary :=
  let limit := if p.limit ≤ 0 ∨ p.limit > maxChatPage then defaultChatPage else p.limit
  s.userChatSummaries userID p.afterActivity p.after limit p.includeArchived

def userChats (s : Store) (userID after : String) (limit : Int) : List ChatSummary :=
  userChatPage s userID ⟨0, after, limit, false⟩

namespace Store

variable (s : Store) (userID : String) (includeArchived : Bool)

/-- The list that the pages are cut from. -/
def listed : List ChatSummary :=
  (s.summaryRows userID includeArchived).insertionSort Before

lemma listed_perm :
    (s.listed userID includeArchived).Perm (s.summaryRows userID includeArchived) :=
  perm_insertionSort ..

variable {includeArchived : Bool} {limit : Int} {r : ChatSummary} {chatID : String}
  {members : Members}

theorem mem_userChatSummaries {afterActivity : Int} {afterChatID : String}
    (h : r ∈ s.userChatSummaries userID afterActivity afterChatID limit includeArchived) :
    r ∈ s.listed userID includeArchived :=
  (mem_filter.mp (mem_of_mem_take h)).1

lemma first_page (h : 0 < limit) (includeArchived : Bool) :
    s.userChatSummaries userID 0 "" limit includeArchived =
      (s.listed userID includeArchived).take limit.toNat := by
  unfold userChatSummaries
  dsimp only
  rw [if_neg (by omega), filter_eq_self.mpr]
  · rfl
  · intro r _
    simp [beforeCursor]

/-- A cursor without an activity leaves out everything that has one. -/
lemma no_page_after_zero {after : String} (hafter : after ≠ "") (limit : Int)
    (includeArchived : Bool) (h : ∀ r ∈ s.listed userID includeArchived, 0 < r.lastActivityAt) :
    s.userChatSummaries userID 0 after limit includeArchived = [] := by
  unfold userChatSummaries
  dsimp only
  rw [filter_eq_nil_iff.mpr]
  · simp
  · intro r hr
    have hact := h r hr
    simp [beforeCursor, hafter, hact]

theorem mem_summaryRows : r ∈ s.summaryRows userID includeArchived ↔ ∃ chatID members,
      s.members.lookup chatID = some members ∧
        s.summaryOf userID includeArchived chatID members = some r := by
  unfold summaryRows
  rw [mem_filterMap]
  constructor
  · rintro ⟨⟨chatID, members⟩, hentry, hrow⟩
    exact ⟨chatID, members, AList.mem_lookup_iff.mpr hentry, hrow⟩
  · rintro ⟨chatID, members, hlook, hrow⟩
    exact ⟨⟨chatID, members⟩, AList.mem_lookup_iff.mp hlook, hrow⟩

/-- A row is of a chat that is there, and that the account is in and has not archived. -/
lemma summaryOf_eq_some : s.summaryOf userID false chatID members = some r →
      ∃ me c, members.lookup userID = some me ∧ me.flags.archived = false ∧
        s.log.chats chatID = some c ∧ r.chat = some c ∧ r.peerID = (if is1To1 c.type then
          (members.keys.find? fun uid => uid ≠ userID).getD "" else "") ∧
        r.lastActivityAt = ((s.lastLive chatID).map Message.createdAt).getD c.createdAt := by
  intro h
  unfold summaryOf at h
  split at h
  · cases h
  · next me hme =>
    split at h
    · cases h
    · next harch =>
      split at h
      · cases h
      · next c hc =>
        cases h
        exact ⟨me, c, hme, by simpa using harch, hc, rfl, rfl, rfl⟩

end Store
end SyncApp.Chats
