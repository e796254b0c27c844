import Mathlib.Data.List.Sort
import SyncApp.Foundations.RowLog
import SyncApp.Messaging.Model

/-!
# The in-memory store

`server/internal/store/memory`: the message log, its chats and dedup index, the outbox, and the
tables of the services around it.  A Go map is a function from keys, and the order in which it is
visited is an input.  A call runs under the lock and is one step.
-/

namespace SyncApp.Messaging

open Function (update)

open Foundations

structure Store where
  users : String → Option User
  usersByName : String → Option String
  chats : String → Option Chat
  directIndex : String → Option String
  messages : String → List Message
  dedup : String → Option String
  reads : String → String → Option ReadState
  reactions : String → List Reaction
  polls : String → Option Poll
  pollByMsg : String → Option String
  pollVotes : String → List (String × List Int)
  outbox : List OutboxRecord
  outboxSent : String → Bool

namespace Store

/-- `memory.New`: the empty store. -/
def new : Store where
  users _ := none
  usersByName _ := none
  chats _ := none
  directIndex _ := none
  messages _ := []
  dedup _ := none
  reads _ _ := none
  reactions _ := []
  polls _ := none
  pollByMsg _ := none
  pollVotes _ := []
  outbox := []
  outboxSent _ := false

/-! ## The message log -/

variable (s : Store) (chatID : String) (rows : List Message)

def setRows : Store :=
  { s with messages := update s.messages chatID rows }

def dedupIndex (senderID dedupKey : String) : String := senderID ++ "|" ++ dedupKey

/-- The stored message a repeated insert resolves to: the index names a message,
which is then looked for in the chat of the insert. -/
def duplicateOf (m : Message) (dedupKey : String) : Option Message :=
  if dedupKey ≠ "" then
    match s.dedup (dedupIndex m.senderID dedupKey) with
    | some existingID => (s.messages m.chatID).find? (·.id = existingID)
    | none => none
  else none

/-- `stageOutboxLocked`. -/
def stageOutbox (mkOb : Option MakeOutbox) (m : Message) : Store :=
  match mkOb with
  | none => s
  | some make =>
    match make m with
    | none => s
    | some rec => { s with outbox := s.outbox ++ [rec] }

/-- One more reply under a thread root. -/
def countReply (m : Message) : Message := { m with replyCount := toInt32 (m.replyCount + 1) }

/-- The rows of a chat after a message was appended: the new row is last, and the
first row that is its thread root counts one more reply. -/
def appendRow (m : Message) : List Message :=
  let rows := rows ++ [m]
  if m.threadRoot ≠ "" then RowLog.updateFirst (·.id = m.threadRoot) countReply rows else rows

variable (c : Chat) (m : Message)

def numbered : Message := { m with seq := c.lastSeq + 1 }

/-- The new row as it is handed out.  The copy is taken from the row itself after
the replies were counted, so a message that is its own root shows that reply. -/
def newRow : Message :=
  (appendRow (s.messages m.chatID) (numbered c m)).getLastD (numbered c m)

/-- The store after a message was appended, before its event is staged. -/
def append (dedupKey : String) : Store :=
  { s with
    chats := update s.chats m.chatID (some { c with lastSeq := c.lastSeq + 1 })
    messages := update s.messages m.chatID (appendRow (s.messages m.chatID) (numbered c m))
    dedup := if dedupKey ≠ "" then
        update s.dedup (dedupIndex m.senderID dedupKey) (some m.id)
      else s.dedup }

/-- `InsertMessage`: the stored message, and whether it was there already. -/
def insertMessage (dedupKey : String) (mkOb : Option MakeOutbox) :
    Except StoreError (Message × Bool) × Store :=
  match s.duplicateOf m dedupKey with
  | some ex => (.ok (ex, true), s)
  | none =>
    match s.chats m.chatID with
    | none => (.error .notFound, s)
    | some c =>
      let out := s.newRow c m
      (.ok (out, false), (s.append c m dedupKey).stageOutbox mkOb out)

/-- `GetMessage`: the first row with the identifier. -/
def getMessage (chatID id : String) : Option Message :=
  (s.messages chatID).find? (·.id = id)

/-- Rewrite the first row with an identifier and stage an event about it. -/
def rewriteMessage (chatID id : String) (f : Message → Message)
    (mkOb : Option MakeOutbox) : Except StoreError Message × Store :=
  match s.getMessage chatID id with
  | none => (.error .notFound, s)
  | some m =>
    let s := s.setRows chatID (RowLog.updateFirst (·.id = id) f (s.messages chatID))
    (.ok (f m), s.stageOutbox mkOb (f m))

/-- The row after an edit. -/
def edited (text : String) (at_ : Int) (m : Message) : Message :=
  { m with text := text, edited := true, editedAt := at_ }

def editMessage (chatID id text : String) (at_ : Int) (mkOb : Option MakeOutbox) :
    Except StoreError Message × Store :=
  s.rewriteMessage chatID id (edited text at_) mkOb

def tombstone (at_ : Int) (m : Message) : Message :=
  { m with deleted := true, text := "", mediaRef := "", attachment := none, editedAt := at_ }

def deleteMessage (chatID id : String) (at_ : Int) (mkOb : Option MakeOutbox) :
    Except StoreError Message × Store :=
  s.rewriteMessage chatID id (tombstone at_) mkOb

/-- `History`: the rows before a sequence number, newest first. -/
def history (beforeSeq : Nat) (limit : Int) : List Message :=
  let tmp := (s.messages chatID).filter fun m => beforeSeq = 0 ∨ m.seq < beforeSeq
  let tmp := tmp.mergeSort fun a b => b.seq ≤ a.seq
  if 0 < limit ∧ limit < tmp.length then tmp.take limit.toNat else tmp

/-- A row whose deadline has passed and that is no tombstone yet. -/
def expired (now : Int) (m : Message) : Bool :=
  !(m.expiresAt = 0 ∨ now < m.expiresAt ∨ m.deleted = true)

/-- The inner loop of `ExpireMessages`: at most `cap` rows become
tombstones, and are returned. -/
def expireRows (now : Int) : Nat → List Message → List Message × List Message
  | 0, rows => (rows, [])
  | _ + 1, [] => ([], [])
  | cap + 1, m :: rows =>
    if expired now m then
      let out := expireRows now cap rows
      (tombstone now m :: out.1, tombstone now m :: out.2)
    else
      let out := expireRows now (cap + 1) rows
      (m :: out.1, out.2)

/-- The outer loop of `ExpireMessages`, over the chats in the given order. -/
def expireChats (now : Int) : Nat → List String → Store → List Message × Store
  | _, [], s => ([], s)
  | cap, chatID :: order, s =>
    let out := expireRows now cap (s.messages chatID)
    let rest := expireChats now (cap - out.2.length) order (s.setRows chatID out.1)
    (out.2 ++ rest.1, rest.2)

/-- `ExpireMessages`; `order` is the order in which the chats are visited. -/
def expireMessages (now limit : Int) (order : List String) : List Message × Store :=
  let limit := if limit ≤ 0 then 200 else limit
  s.expireChats now limit.toNat order

def createUser (u : User) : Except StoreError Unit × Store :=
  match s.usersByName u.username with
  | some _ => (.error .conflict, s)
  | none =>
    (.ok (), { s with
      users := update s.users u.id (some u)
      usersByName := update s.usersByName u.username (some u.id) })

/-- A row after its author's account was deleted. -/
def anonymised (userID : String) (now : Int) (m : Message) : Message :=
  let m := if m.senderID = userID then { tombstone now m with senderID := "" } else m
  match m.forward with
  | none => m
  | some origin =>
    if origin.senderID = userID then { m with forward := some { origin with senderID := "" } }
    else m

/-- `DeleteAccount`: messages are anonymised in place. -/
def deleteAccount (userID : String) (now : Int) : Except StoreError Unit × Store :=
  match s.users userID with
  | none => (.error .notFound, s)
  | some u =>
    (.ok (), { s with
      usersByName := update s.usersByName u.username none
      users := update s.users userID none
      reads := fun chatID => update (s.reads chatID) userID none
      reactions := fun messageID => (s.reactions messageID).filter (·.userID ≠ userID)
      pollVotes := fun pollID => (s.pollVotes pollID).filter (·.1 ≠ userID)
      messages := fun chatID => (s.messages chatID).map (anonymised userID now) })

def createChat : Store :=
  { s with chats := update s.chats c.id (some c) }

/-- `directKey`: the key of an unordered pair. -/
def directKey (a b : String) : String := if b < a then b ++ "|" ++ a else a ++ "|" ++ b

/-- `pairKey`: direct chats have no type in their key. -/
def pairKey (type : ChatType) (a b : String) : String :=
  if type = .direct then directKey a b else type.text ++ ":" ++ directKey a b

/-- `GetOrCreatePair`; an empty type is a direct chat. -/
def getOrCreatePair (type : Option ChatType) (userA userB newID : String)
    (now : Int) : Option Chat × Store :=
  let type := type.getD .direct
  let key := pairKey type userA userB
  match s.directIndex key with
  | some id => (s.chats id, s)
  | none =>
    let c : Chat := { id := newID, type := type, title := "", ownerID := userA, createdAt := now,
                      lastSeq := 0, username := "" }
    (some c, { s with
      chats := update s.chats newID (some c)
      directIndex := update s.directIndex key (some newID) })

/-- The loop of `Poll`. -/
def pollLoop (sent : String → Bool) (limit : Int) :
    List OutboxRecord → List OutboxRecord → List OutboxRecord
  | out, [] => out
  | out, rec :: rest =>
    if sent rec.id then pollLoop sent limit out rest
    else if limit ≤ (out ++ [rec]).length then out ++ [rec]
    else pollLoop sent limit (out ++ [rec]) rest

/-- `Poll`: the unsent records, oldest first, up to a limit. -/
def pollOutbox (limit : Int) : List OutboxRecord :=
  pollLoop s.outboxSent limit [] s.outbox

/-- The compaction loop of `MarkSent`: leading records that are all sent go. -/
def compact : List OutboxRecord → (String → Bool) → List OutboxRecord × (String → Bool)
  | [], sent => ([], sent)
  | rec :: rest, sent =>
    if sent rec.id then compact rest (update sent rec.id false) else (rec :: rest, sent)

def markSent (ids : List String) : Store :=
  let sent := ids.foldl (fun sent id => update sent id true) s.outboxSent
  let out := compact s.outbox sent
  { s with outbox := out.1, outboxSent := out.2 }

/-- The loop of `PurgeSent`: the records kept, the marks left and the number
of records dropped so far. -/
def purgeLoop (limit : Int) : List OutboxRecord → (String → Bool) → Nat →
    List OutboxRecord × (String → Bool) × Nat
  | [], sent, n => ([], sent, n)
  | rec :: rest, sent, n =>
    if n < limit ∧ sent rec.id = true then
      purgeLoop limit rest (update sent rec.id false) (n + 1)
    else
      let out := purgeLoop limit rest sent n
      (rec :: out.1, out.2)

def purgeSent (limit : Int) : Nat × Store :=
  let out := purgeLoop limit s.outbox s.outboxSent 0
  (out.2.2, { s with outbox := out.1, outboxSent := out.2.1 })

/-- Write a read cursor. -/
def putRead (rs : ReadState) : Store :=
  { s with
    reads := update s.reads rs.chatID (update (s.reads rs.chatID) rs.userID (some rs)) }

/-- `SetRead`: a cursor never moves backwards. -/
def setRead (rs : ReadState) : Store :=
  match s.reads rs.chatID rs.userID with
  | some cur => if rs.upToSeq ≤ cur.upToSeq then s else s.putRead rs
  | none => s.putRead rs

/-- `SetReaction`: the same emoji again removes it, another one replaces it. -/
def setReaction (r : Reaction) : Bool × Store :=
  let byUser := s.reactions r.messageID
  let others := byUser.filter (·.userID ≠ r.userID)
  if byUser.any (fun prev => prev.userID = r.userID ∧ prev.emoji = r.emoji) then
    (false, { s with reactions := update s.reactions r.messageID others })
  else
    (true, { s with reactions := update s.reactions r.messageID (others ++ [r]) })

def createPoll (p : Poll) : Store :=
  { s with
    polls := update s.polls p.id (some p)
    pollByMsg := update s.pollByMsg p.messageID (some p.id) }

def closePoll (id : String) : Except StoreError Unit × Store :=
  match s.polls id with
  | none => (.error .notFound, s)
  | some p => (.ok (), { s with polls := update s.polls id (some { p with closed := true }) })

variable (pollID userID : String)

/-- The options a user has picked, as they were picked. -/
def picked : List Int :=
  match (s.pollVotes pollID).find? (·.1 = userID) with
  | none => []
  | some (_, options) => options

/-- `VotedOptions`, which sorts them. -/
def votedOptions : List Int := (s.picked pollID userID).insertionSort (· ≤ ·)

/-- Replace the options a user has picked. -/
def putVotes (options : List Int) : Store :=
  { s with
    pollVotes := update s.pollVotes pollID
      ((s.pollVotes pollID).filter (·.1 ≠ userID) ++ [(userID, options)]) }

/-- `Vote`: a single choice replaces, several choices toggle. -/
def vote (option : Int) (multiChoice : Bool) : Except StoreError Bool × Store :=
  match s.polls pollID with
  | none => (.error .notFound, s)
  | some p =>
    if p.closed then (.error .pollClosed, s)
    else
      let cur := s.picked pollID userID
      if multiChoice then
        if option ∈ cur then (.ok false, s.putVotes pollID userID (cur.filter (· ≠ option)))
        else (.ok true, s.putVotes pollID userID (cur ++ [option]))
      else (.ok true, s.putVotes pollID userID [option])

/-- `Tally`: the number of votes for an option. -/
def tally (pollID : String) (option : Int) : Nat :=
  (s.pollVotes pollID).countP fun ballot => option ∈ ballot.2

end Store

end SyncApp.Messaging
