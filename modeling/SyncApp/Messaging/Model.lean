import Mathlib.Algebra.Group.Int.Defs
import Mathlib.Algebra.Group.Nat.Defs
import Mathlib.Logic.Function.Basic

/-!
# The domain model of the message log

The records of `server/internal/model` and `server/internal/store` that the message log is built
from, and the body of the events announcing it.  Times are milliseconds.
-/

namespace SyncApp.Messaging

/-- `model.Attachment`, and its wire form, which has the same fields. -/
structure Attachment where
  kind : String
  mediaRef : String
  filename : String
  mime : String
  size : Int
  durationMs : Int
  waveform : List Int
  width : Int
  height : Int
  thumbRef : String
deriving DecidableEq

/-- `model.ForwardOrigin`: where a forwarded copy came from. -/
structure ForwardOrigin where
  chatID : String
  messageID : String
  senderID : String
deriving DecidableEq

/-- `model.Message`: a row of the message log.  A sequence number never passes the length of its
chat's log, which is a slice. -/
structure Message where
  id : String
  chatID : String
  senderID : String
  seq : Nat
  text : String
  mediaRef : String
  attachment : Option Attachment
  replyTo : String
  threadRoot : String
  replyCount : Int
  forward : Option ForwardOrigin
  expiresAt : Int
  edited : Bool
  deleted : Bool
  createdAt : Int
  editedAt : Int

inductive ChatType where
  | direct
  | group
  | channel
  | secret
deriving DecidableEq

def ChatType.text : ChatType → String
  | .direct => "direct"
  | .group => "group"
  | .channel => "channel"
  | .secret => "secret"

structure Chat where
  id : String
  type : ChatType
  title : String
  ownerID : String
  createdAt : Int
  lastSeq : Nat
  username : String

/-- `model.User`, as far as the store's indexes read it. -/
structure User where
  id : String
  username : String

/-- `model.ReadState`: how far a user has read in a chat. -/
structure ReadState where
  chatID : String
  userID : String
  upToSeq : Nat
  updatedAt : Int

/-- `model.Reaction`: one user's emoji on a message. -/
structure Reaction where
  chatID : String
  messageID : String
  userID : String
  emoji : String
  createdAt : Int
deriving DecidableEq

/-- `model.Poll`: a question anchored to a message. -/
structure Poll where
  id : String
  chatID : String
  messageID : String
  creatorID : String
  question : String
  options : List String
  multiChoice : Bool
  anonymous : Bool
  closed : Bool
  createdAt : Int

/-- `wire.NewMessageBody`: the body of the events about one message. -/
structure NewMessageBody where
  messageID : String
  chatID : String
  senderID : String
  chatSeq : Nat
  text : String
  mediaRef : String
  replyTo : String
  attachment : Option Attachment
  forward : Option ForwardOrigin
  expiresAt : Int
  threadRoot : String
  replyCount : Int
  edited : Bool
  deleted : Bool
  timestamp : Int
deriving DecidableEq

/-- The subjects of `server/pkg/eventbus` that the message log uses. -/
inductive Subject where
  | messageCreated
  | messageEdited
  | messageDeleted
  | messageRead
  | reaction
  | pollState
deriving DecidableEq

/-- `store.OutboxRecord`: an event staged for the bus.  The marshalled body is
kept as the body itself; the trace context is left out. -/
structure OutboxRecord where
  id : String
  subject : Subject
  key : String
  data : NewMessageBody
deriving DecidableEq

/-- `store.MakeOutbox`: the record for a row just written, if there is one. -/
abbrev MakeOutbox := Message → Option OutboxRecord

/-- `store.ErrNotFound`, `store.ErrConflict` and `store.ErrPollClosed`. -/
inductive StoreError where
  | notFound
  | conflict
  | pollClosed
deriving DecidableEq

/-- The value of a 32-bit signed counter. -/
def toInt32 (x : Int) : Int := Int.bmod x (2 ^ 32)

end SyncApp.Messaging
