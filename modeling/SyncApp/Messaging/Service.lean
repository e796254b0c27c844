import SyncApp.Messaging.Snowflake
import SyncApp.Messaging.Log

/-!
# The services around the message log

The message service of `server/internal/message` over the in-memory store, and the reaction and poll
services.  What the chat service answers about permissions, the clock, and the order in which maps
are visited are inputs of a request.
-/

namespace SyncApp.Messaging

open Foundations

/-- One option of a poll as the wire shows it. -/
structure PollOption where
  index : Nat
  text : String
  votes : Nat

structure PollStateBody where
  pollID : String
  chatID : String
  messageID : String
  question : String
  options : List PollOption
  totalVotes : Nat
  multiChoice : Bool
  anonymous : Bool
  closed : Bool
  myVotes : List Int

inductive Event where
  | message (subject : Subject) (key : String) (body : NewMessageBody)
  | read (chatID userID : String) (upToSeq : Nat)
  | reaction (chatID messageID userID emoji : String) (added : Bool) (counts : String → Nat)
  | pollState (body : PollStateBody)

inductive ServiceError where
  /-- `ErrForbidden`. -/
  | forbidden
  /-- The store's error. -/
  | store (e : StoreError)
  /-- The chat service failed. -/
  | chats
  /-- `ErrBadEmoji`. -/
  | badEmoji
  /-- `ErrClosed`. -/
  | closed
  /-- `ErrBadPoll`. -/
  | badPoll
  /-- `ErrBadOption`. -/
  | badOption

/-- What the chat service answers to a permission question; {lean}`none` if it
fails. -/
abbrev Answer := Option Bool

def refusal : Answer → Option ServiceError
  | none => some .chats
  | some false => some .forbidden
  | some true => none

variable (m : Message)

/-- `Redacted`: a tombstone without its content. -/
def redacted : Message :=
  if m.deleted then { m with text := "", mediaRef := "", attachment := none } else m

def messageBody : NewMessageBody where
  messageID := m.id
  chatID := m.chatID
  senderID := m.senderID
  chatSeq := m.seq
  text := m.text
  mediaRef := m.mediaRef
  replyTo := m.replyTo
  attachment := m.attachment
  forward := m.forward
  expiresAt := m.expiresAt
  threadRoot := m.threadRoot
  replyCount := m.replyCount
  edited := m.edited
  deleted := m.deleted
  timestamp := m.createdAt

/-- `outboxFor`, with the identifier the record draws. -/
def outboxFor (id : String) (subject : Subject) : MakeOutbox := fun m =>
  some { id := id, subject := subject, key := m.chatID, data := messageBody (redacted m) }

/-- `mediaRefsOf`: the blobs a message points at. -/
def mediaRefsOf : List String :=
  [m.mediaRef].filter (· ≠ "") ++
    match m.attachment with
    | none => []
    | some a => [a.mediaRef, a.thumbRef].filter (· ≠ "")

/-! ## The message service -/

structure SendInput where
  senderID : String
  chatID : String
  dedupKey : String
  text : String
  mediaRef : String
  replyTo : String
  attachment : Option Attachment
  forward : Option ForwardOrigin
  ttlSeconds : Int

structure Service where
  store : Store
  ids : Generator

namespace Service

variable (s : Store)

/-- The thread a reply joins: the thread of its parent, or the one its parent
starts.  A parent that is not in the chat leaves the message at top level. -/
def threadRootOf (chatID replyTo : String) : String :=
  if replyTo ≠ "" then
    match s.getMessage chatID replyTo with
    | none => ""
    | some parent => if parent.threadRoot ≠ "" then parent.threadRoot else parent.id
  else ""

def newMessage (input : SendInput) (id : String) (now : Int) : Message where
  id := id
  chatID := input.chatID
  senderID := input.senderID
  seq := 0
  text := input.text
  mediaRef := input.mediaRef
  attachment := input.attachment
  replyTo := input.replyTo
  threadRoot := threadRootOf s input.chatID input.replyTo
  replyCount := 0
  forward := input.forward
  expiresAt := if 0 < input.ttlSeconds then now + input.ttlSeconds * 1000 else 0
  edited := false
  deleted := false
  createdAt := now
  editedAt := 0

variable (sv : Service)

/-- `Send`.  The message draws its identifier first; the event draws one only
if it is staged. -/
def send (input : SendInput) (canPost : Answer) (now : Int)
    (clock clockOb : Clock) : Except ServiceError (Message × Bool) × Service :=
  match refusal canPost with
  | some e => (.error e, sv)
  | none =>
    let draw := sv.ids.nextString clock
    let drawOb := draw.2.nextString clockOb
    let m := newMessage sv.store input draw.1 now
    match sv.store.insertMessage m input.dedupKey (some (outboxFor drawOb.1 .messageCreated)) with
    | (.error e, s) => (.error (.store e), ⟨s, draw.2⟩)
    | (.ok (stored, dup), s) => (.ok (stored, dup), ⟨s, if dup then draw.2 else drawOb.2⟩)

/-- `Edit`: only the original sender may. -/
def edit (userID chatID msgID text : String) (now : Int) (clock : Clock) :
    Except ServiceError Message × Service :=
  match sv.store.getMessage chatID msgID with
  | none => (.error (.store .notFound), sv)
  | some cur =>
    if cur.senderID ≠ userID then (.error .forbidden, sv)
    else
      let draw := sv.ids.nextString clock
      match sv.store.editMessage chatID msgID text now
          (some (outboxFor draw.1 .messageEdited)) with
      | (.error e, s) => (.error (.store e), ⟨s, sv.ids⟩)
      | (.ok m, s) => (.ok m, ⟨s, draw.2⟩)

/-- `Delete`: the sender, or whoever may moderate.  The result also names the
blobs handed to the media collector. -/
def delete (userID chatID msgID : String) (canModerate : Answer) (now : Int)
    (clock : Clock) : Except ServiceError (Message × List String) × Service :=
  match sv.store.getMessage chatID msgID with
  | none => (.error (.store .notFound), sv)
  | some cur =>
    match if cur.senderID ≠ userID then refusal canModerate else none with
    | some e => (.error e, sv)
    | none =>
      let draw := sv.ids.nextString clock
      match sv.store.deleteMessage chatID msgID now
          (some (outboxFor draw.1 .messageDeleted)) with
      | (.error e, s) => (.error (.store e), ⟨s, sv.ids⟩)
      | (.ok m, s) => (.ok (m, mediaRefsOf cur), ⟨s, draw.2⟩)

/-- `Forward`: a copy that remembers where it came from. -/
def forward (sv : Service) (userID srcChatID srcMsgID dstChatID dedupKey : String)
    (isMember canPost : Answer) (now : Int) (clock clockOb : Clock) :
    Except ServiceError (Message × Bool) × Service :=
  match refusal isMember with
  | some e => (.error e, sv)
  | none =>
    match sv.store.getMessage srcChatID srcMsgID with
    | none => (.error (.store .notFound), sv)
    | some src =>
      if src.deleted then (.error (.store .notFound), sv)
      else
        let origin := src.forward.getD
          { chatID := srcChatID, messageID := src.id, senderID := src.senderID }
        sv.send { senderID := userID, chatID := dstChatID, dedupKey := dedupKey,
                  text := src.text, mediaRef := src.mediaRef, replyTo := "",
                  attachment := src.attachment, forward := some origin, ttlSeconds := 0 }
          canPost now clock clockOb

/-- The event `ExpireDue` publishes for a tombstone. -/
def expiredEvent (now : Int) (m : Message) : Event :=
  .message .messageDeleted m.chatID
    { messageID := m.id, chatID := m.chatID, senderID := m.senderID, chatSeq := m.seq, text := "",
      mediaRef := "", replyTo := "", attachment := none, forward := none, expiresAt := 0,
      threadRoot := "", replyCount := 0, edited := false, deleted := true, timestamp := now }

/-- `ExpireDue`: the number of messages and the events published. -/
def expireDue (now limit : Int) (order : List String) : (Nat × List Event) × Service :=
  let out := sv.store.expireMessages now limit order
  ((out.1.length, out.1.map (expiredEvent now)), ⟨out.2, sv.ids⟩)

/-- `MarkRead`: the events published, and the service after it. -/
def markRead (userID chatID : String) (upToSeq : Nat) (isMember : Answer)
    (now : Int) : Except ServiceError (List Event) × Service :=
  match refusal isMember with
  | some e => (.error e, sv)
  | none =>
    let rs : ReadState :=
      { chatID := chatID, userID := userID, upToSeq := upToSeq, updatedAt := now }
    (.ok [.read chatID userID upToSeq], { sv with store := sv.store.setRead rs })

def maxEmojiRunes : Nat := 8

/-- `Toggle`: whether the reaction was added, with the event published. -/
def toggle (chatID messageID userID emoji : String) (isMember : Answer)
    (now : Int) : Except ServiceError (Bool × Event) × Service :=
  if emoji = "" ∨ maxEmojiRunes < emoji.length then (.error .badEmoji, sv)
  else
    match refusal isMember with
    | some e => (.error e, sv)
    | none =>
      let out := sv.store.setReaction
        { chatID := chatID, messageID := messageID, userID := userID, emoji := emoji,
          createdAt := now }
      let counts := fun token => (out.2.reactions messageID).countP (·.emoji = token)
      (.ok (out.1, .reaction chatID messageID userID emoji out.1 counts),
        { sv with store := out.2 })

/-- `CreateInput` of the poll service. -/
structure PollInput where
  chatID : String
  messageID : String
  creatorID : String
  question : String
  options : List String
  multiChoice : Bool
  anonymous : Bool

def isSpace (c : Char) : Bool :=
  c.toNat ∈ [0x09, 0x0a, 0x0b, 0x0c, 0x0d, 0x20, 0x85, 0xa0, 0x1680, 0x2028, 0x2029, 0x202f,
    0x205f, 0x3000] ∨ (0x2000 ≤ c.toNat ∧ c.toNat ≤ 0x200a)

def trimSpace (text : String) : String :=
  String.ofList ((text.toList.dropWhile isSpace).reverse.dropWhile isSpace).reverse

/-- `MaxQuestionLen`, `MaxOptionLen`, `MinOptions` and
`MaxOptions`. -/
def maxQuestionLen : Nat := 300
@[inherit_doc maxQuestionLen] def maxOptionLen : Nat := 100
@[inherit_doc maxQuestionLen] def minOptions : Nat := 2
@[inherit_doc maxQuestionLen] def maxOptions : Nat := 10

/-- `validate` of the poll service. -/
def validPoll (question : String) (options : List String) : Bool :=
  let trimmed := options.map trimSpace
  trimSpace question ≠ "" ∧ (trimSpace question).length ≤ maxQuestionLen ∧
    minOptions ≤ options.length ∧ options.length ≤ maxOptions ∧
    (∀ o ∈ trimmed, o ≠ "" ∧ o.length ≤ maxOptionLen) ∧ trimmed.Nodup

/-- `state`: the wire view of a poll. -/
def pollStateOf (p : Poll) (mine : List Int) : PollStateBody where
  pollID := p.id
  chatID := p.chatID
  messageID := p.messageID
  question := p.question
  options := p.options.mapIdx fun i text => ⟨i, text, s.tally p.id i⟩
  totalVotes := ((s.pollVotes p.id).map fun ballot => ballot.2.length).sum
  multiChoice := p.multiChoice
  anonymous := p.anonymous
  closed := p.closed
  myVotes := mine

/-- `Create` of the poll service. -/
def createPoll (sv : Service) (input : PollInput) (isMember : Answer) (now : Int)
    (clock : Clock) : Except ServiceError (Poll × Event) × Service :=
  if validPoll input.question input.options then
    match refusal isMember with
    | some e => (.error e, sv)
    | none =>
      let draw := sv.ids.nextString clock
      let p : Poll :=
        { id := draw.1, chatID := input.chatID, messageID := input.messageID,
          creatorID := input.creatorID, question := trimSpace input.question,
          options := input.options, multiChoice := input.multiChoice,
          anonymous := input.anonymous, closed := false, createdAt := now }
      let s := sv.store.createPoll p
      (.ok (p, .pollState (pollStateOf s p [])), ⟨s, draw.2⟩)
  else (.error .badPoll, sv)

variable (pollID userID : String)

/-- `Vote` of the poll service. -/
def votePoll (option : Int) (isMember : Answer) : Except ServiceError (Poll × Event) × Service :=
  match sv.store.polls pollID with
  | none => (.error (.store .notFound), sv)
  | some p =>
    if p.closed then (.error .closed, sv)
    else if option < 0 ∨ p.options.length ≤ option then (.error .badOption, sv)
    else
      match refusal isMember with
      | some e => (.error e, sv)
      | none =>
        match sv.store.vote pollID userID option p.multiChoice with
        | (.error .pollClosed, s) => (.error .closed, { sv with store := s })
        | (.error e, s) => (.error (.store e), { sv with store := s })
        | (.ok _, s) => (.ok (p, .pollState (pollStateOf s p [])), { sv with store := s })

/-- `Close` of the poll service. -/
def closePoll (sv : Service) (pollID userID : String) :
    Except ServiceError (Poll × Event) × Service :=
  match sv.store.polls pollID with
  | none => (.error (.store .notFound), sv)
  | some p =>
    if p.creatorID ≠ userID then (.error .forbidden, sv)
    else
      match sv.store.closePoll pollID with
      | (.error e, s) => (.error (.store e), { sv with store := s })
      | (.ok _, s) =>
        let p := { p with closed := true }
        (.ok (p, .pollState (pollStateOf s p [])), { sv with store := s })

/-- `Results` of the poll service. -/
def pollResults (isMember : Answer) : Except ServiceError PollStateBody :=
  match sv.store.polls pollID with
  | none => .error (.store .notFound)
  | some p =>
    match refusal isMember with
    | some e => .error e
    | none => .ok (pollStateOf sv.store p (sv.store.votedOptions pollID userID))

end Service

/-- A request to one of the services, or one of the calls on the store that other
parts of the server make. -/
inductive ServiceOp where
  | createUser (u : User)
  | createChat (c : Chat)
  | send (input : SendInput) (canPost : Answer) (now : Int) (clock clockOb : Clock)
  | edit (userID chatID msgID text : String) (now : Int) (clock : Clock)
  | delete (userID chatID msgID : String) (canModerate : Answer) (now : Int) (clock : Clock)
  | forward (userID srcChatID srcMsgID dstChatID dedupKey : String) (isMember canPost : Answer)
      (now : Int) (clock clockOb : Clock)
  | expireDue (now limit : Int) (order : List String)
  | history (isMember : Answer) (chatID : String) (beforeSeq : Nat) (limit : Int)
  | thread (isMember : Answer) (chatID rootID : String) (afterSeq : Nat) (limit : Int)
  | markRead (userID chatID : String) (upToSeq : Nat) (isMember : Answer) (now : Int)
  | toggle (chatID messageID userID emoji : String) (isMember : Answer) (now : Int)
  | createPoll (input : Service.PollInput) (isMember : Answer) (now : Int) (clock : Clock)
  | votePoll (pollID userID : String) (option : Int) (isMember : Answer)
  | closePoll (pollID userID : String)
  | pollResults (pollID userID : String) (isMember : Answer)
  | deleteAccount (userID : String) (now : Int)
  | pollOutbox (limit : Int)
  | markSent (ids : List String)
  | purgeSent (limit : Int)

namespace Service

/-- The event of a request that publishes one when it succeeds. -/
def publishedBy {α : Type} : Except ServiceError (α × Event) → List Event
  | .ok (_, e) => [e]
  | .error _ => []

variable (sv : Service)

/-- The service after a request, and the events the request publishes. -/
def step : ServiceOp → List Event × Service
  | .createUser u => ([], { sv with store := (sv.store.createUser u).2 })
  | .createChat c => ([], { sv with store := sv.store.createChat c })
  | .send input canPost now clock clockOb => ([], (sv.send input canPost now clock clockOb).2)
  | .edit userID chatID msgID text now clock =>
    ([], (sv.edit userID chatID msgID text now clock).2)
  | .delete userID chatID msgID canModerate now clock =>
    ([], (sv.delete userID chatID msgID canModerate now clock).2)
  | .forward userID srcChatID srcMsgID dstChatID dedupKey isMember canPost now clock clockOb =>
    ([], (sv.forward userID srcChatID srcMsgID dstChatID dedupKey isMember canPost now clock
      clockOb).2)
  | .expireDue now limit order =>
    let out := sv.expireDue now limit order
    (out.1.2, out.2)
  | .history _ _ _ _ => ([], sv)
  | .thread _ _ _ _ _ => ([], sv)
  | .markRead userID chatID upToSeq isMember now =>
    match sv.markRead userID chatID upToSeq isMember now with
    | (.ok events, sv') => (events, sv')
    | (.error _, sv') => ([], sv')
  | .toggle chatID messageID userID emoji isMember now =>
    let out := sv.toggle chatID messageID userID emoji isMember now
    (publishedBy out.1, out.2)
  | .createPoll input isMember now clock =>
    let out := sv.createPoll input isMember now clock
    (publishedBy out.1, out.2)
  | .votePoll pollID userID option isMember =>
    let out := sv.votePoll pollID userID option isMember
    (publishedBy out.1, out.2)
  | .closePoll pollID userID =>
    let out := sv.closePoll pollID userID
    (publishedBy out.1, out.2)
  | .pollResults _ _ _ => ([], sv)
  | .deleteAccount userID now => ([], { sv with store := (sv.store.deleteAccount userID now).2 })
  | .pollOutbox _ => ([], sv)
  | .markSent ids => ([], { sv with store := sv.store.markSent ids })
  | .purgeSent limit => ([], { sv with store := (sv.store.purgeSent limit).2 })

abbrev after (ops : List ServiceOp) : Service := Machine.final step sv ops

/-- The records a request stages: those at the end of the outbox that were not
there before it. -/
def staged (op : ServiceOp) : List OutboxRecord :=
  (sv.step op).2.store.outbox.drop sv.store.outbox.length

/-- All events of a request: published at once, or staged for the relay. -/
def events (op : ServiceOp) : List Event :=
  (sv.step op).1 ++ (sv.staged op).map fun rec => .message rec.subject rec.key rec.data

/-- A service over the empty store. -/
def new (ids : Generator) : Service := ⟨.new, ids⟩

end Service

section Sample

def nodeOne : Generator := ⟨1, 0, 0, by decide, Int.le_refl _, Nat.zero_le _⟩

/-- A clock that stands at the start of the epoch. -/
def atEpoch : Clock := ⟨epoch, 0⟩

variable (text replyTo : String)

/-- A text sent to the chat `a` by the user `1`. -/
def textInput : SendInput where
  senderID := "1"
  chatID := "a"
  dedupKey := ""
  text := text
  mediaRef := ""
  replyTo := replyTo
  attachment := none
  forward := none
  ttlSeconds := 0

/-- A request to send a text, which the chat service allows. -/
def sendText : ServiceOp :=
  .send (textInput text replyTo) (some true) epoch atEpoch atEpoch

end Sample

end SyncApp.Messaging
