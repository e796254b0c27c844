import SyncApp.Outbox.Postgres

/-!
# The message tables of Postgres

The tables of `server/internal/store/postgres` that the write path uses, its statements, and
`insertOne`, which writes one message.  A statement fails on a conflict of a unique index, on a
number that leaves its column, or for anything else.

Main results:

- `insertOne_of_write`: one message through the statements of a batch.
-/

namespace SyncApp.GroupCommit

open Messaging Outbox

/-- The largest 64-bit natural number. -/
def maxUint64 : Nat := 2 ^ 64 - 1

/-- The loop of `strconv.ParseUint` in base ten.  A number that gets too large
is cut off, whatever follows. -/
def parseUint : Nat → List Char → Option Nat
  | n, [] => some n
  | n, c :: cs =>
    if '0' ≤ c ∧ c ≤ '9' then
      let next := n * 10 + (c.toNat - '0'.toNat)
      if maxUint64 < next then some maxUint64 else parseUint next cs
    else none

/-- `atoi`: the number of an identifier.  A text that is no number counts as
zero, and a number out of range as the nearest one in range. -/
def atoi (s : String) : Int :=
  let parse (digits : List Char) : Nat := if digits = [] then 0 else (parseUint 0 digits).getD 0
  match s.toList with
  | '-' :: digits => if 2 ^ 63 < parse digits then -2 ^ 63 else -(parse digits : Int)
  | '+' :: digits => if 2 ^ 63 ≤ parse digits then 2 ^ 63 - 1 else parse digits
  | digits => if 2 ^ 63 ≤ parse digits then 2 ^ 63 - 1 else parse digits

/-- A signed 64-bit number read as an unsigned one. -/
def toUint64 (n : Int) : Nat := (n % 2 ^ 64).toNat

/-! ## Rows -/

/-- A row of the table `messages`.  The attachment column holds the attachment
as it is. -/
structure MessageRow where
  num : Int
  chatID : Int
  senderID : Int
  seq : Int
  text : String
  mediaRef : String
  replyTo : Int
  edited : Bool
  deleted : Bool
  dedupKey : String
  createdAt : Int
  editedAt : Int
  attachment : Option Attachment
  threadRoot : Int
  replyCount : Int
  fwdChatID : Int
  fwdMsgID : Int
  fwdSenderID : Int
  expiresAt : Int

/-- The tables that the rows of a message go to. -/
structure Log where
  messages : List MessageRow
  outbox : List OutboxRow

/-- The tables of the write path. -/
structure Tables where
  chatSeq : Int → Option Int
  log : Log

/-- What a statement can fail with. -/
inductive DbError where
  | uniqueViolation
  | outOfRange
  /-- Any other complaint of the database, by its code. -/
  | refused (code : Nat)
deriving DecidableEq

/-- What the database has against a row apart from the indexes, if anything. -/
structure Checks where
  message : MessageRow → Option DbError
  outbox : OutboxRow → Option DbError

/-- `writeJob`. -/
structure Job where
  m : Message
  dedupKey : String
  mkOb : Option MakeOutbox

def fwd (field : ForwardOrigin → String) (m : Message) : Int :=
  match m.forward with
  | none => 0
  | some origin => atoi (field origin)

def fwdChat : Message → Int := fwd (·.chatID)

def fwdMsg : Message → Int := fwd (·.messageID)

def fwdSender : Message → Int := fwd (·.senderID)

def Job.row (j : Job) (seq : Int) : MessageRow where
  num := atoi j.m.id
  chatID := atoi j.m.chatID
  senderID := atoi j.m.senderID
  seq := seq
  text := j.m.text
  mediaRef := j.m.mediaRef
  replyTo := if j.m.replyTo ≠ "" then atoi j.m.replyTo else 0
  edited := false
  deleted := false
  dedupKey := j.dedupKey
  createdAt := j.m.createdAt
  editedAt := 0
  attachment := j.m.attachment
  threadRoot := atoi j.m.threadRoot
  replyCount := 0
  fwdChatID := fwdChat j.m
  fwdMsgID := fwdMsg j.m
  fwdSenderID := fwdSender j.m
  expiresAt := j.m.expiresAt

def Job.stored (j : Job) (seq : Int) : Message := { j.m with seq := toUint64 seq }

/-- An identifier column, where zero is no identifier. -/
def optionalID (n : Int) : String := if n ≠ 0 then formatInt n else ""

def scanMsg (row : MessageRow) : Message where
  id := formatInt row.num
  chatID := formatInt row.chatID
  senderID := formatInt row.senderID
  seq := toUint64 row.seq
  text := row.text
  mediaRef := row.mediaRef
  attachment := row.attachment
  replyTo := optionalID row.replyTo
  threadRoot := optionalID row.threadRoot
  replyCount := row.replyCount
  forward :=
    if row.fwdChatID ≠ 0 ∨ row.fwdMsgID ≠ 0 ∨ row.fwdSenderID ≠ 0 then
      some ⟨formatInt row.fwdChatID, formatInt row.fwdMsgID, formatInt row.fwdSenderID⟩
    else none
  expiresAt := row.expiresAt
  edited := row.edited
  deleted := row.deleted
  createdAt := row.createdAt
  editedAt := row.editedAt

/-- `seqBumpSQL`: the next number of a chat, which need not have a row yet. -/
def seqBump (seqs : Int → Option Int) (chatID : Int) : Except DbError (Int × (Int → Option Int)) :=
  match seqs chatID with
  | none => .ok (1, Function.update seqs chatID (some 1))
  | some last =>
    if 2 ^ 63 - 1 ≤ last then .error .outOfRange
    else .ok (last + 1, Function.update seqs chatID (some (last + 1)))

/-- Two rows that the unique indexes do not allow next to each other. -/
def MessageRow.conflicts (row other : MessageRow) : Prop :=
  other.num = row.num ∨ (other.chatID = row.chatID ∧ other.seq = row.seq) ∨
    (row.dedupKey ≠ "" ∧ other.senderID = row.senderID ∧ other.dedupKey = row.dedupKey)
deriving Decidable

variable (checks : Checks) (log : Log)

/-- `INSERT INTO messages`. -/
def insertRow (row : MessageRow) : Except DbError Log :=
  match checks.message row with
  | some e => .error e
  | none =>
    if log.messages.any fun other => row.conflicts other then .error .uniqueViolation
    else .ok { log with messages := log.messages ++ [row] }

/-- `UPDATE messages SET reply_count = reply_count + 1`, for a message in a thread. -/
def countReply (m : Message) : Except DbError Log :=
  if m.threadRoot ≠ "" then
    let isRoot (row : MessageRow) : Bool :=
      row.chatID = atoi m.chatID ∧ row.num = atoi m.threadRoot
    if log.messages.any fun row => isRoot row ∧ 2 ^ 31 - 1 ≤ row.replyCount then
      .error .outOfRange
    else .ok { log with
      messages := log.messages.map fun row =>
        if isRoot row then { row with replyCount := row.replyCount + 1 } else row }
  else .ok log

/-- `stageOutboxTx`.  The notification that wakes the relay is no part of the
tables. -/
def stageOutbox (mkOb : Option MakeOutbox) (m : Message) : Except DbError Log :=
  match mkOb.bind (· m) with
  | none => .ok log
  | some rec =>
    let row : OutboxRow :=
      { num := atoi rec.id, subject := rec.subject, key := rec.key, payload := rec.data,
        sentAt := 0, claimedAt := 0 }
    match checks.outbox row with
    | some e => .error e
    | none =>
      if log.outbox.any (·.num = row.num) then .error .uniqueViolation
      else .ok { log with outbox := log.outbox ++ [row] }

variable (t : Tables)

def getByDedup (senderID dedupKey : String) : Option MessageRow :=
  t.log.messages.find? fun row => row.senderID = atoi senderID ∧ row.dedupKey = dedupKey

/-- The message a job repeats, if its dedup key was used. -/
def existing (j : Job) : Option MessageRow :=
  if j.dedupKey ≠ "" then getByDedup t j.m.senderID j.dedupKey else none

/-- `writeResult`: the stored message and whether it was there already. -/
abbrev WriteResult := Except DbError (Message × Bool)

/-- `insertOne`.  A transaction that fails leaves the tables as they were. -/
def insertOne (j : Job) : WriteResult × Tables :=
  match existing t j with
  | some row => (.ok (scanMsg row, true), t)
  | none =>
    match seqBump t.chatSeq (atoi j.m.chatID) with
    | .error e => (.error e, t)
    | .ok (seq, seqs) =>
      match insertRow checks t.log (j.row seq) with
      | .error e =>
        -- A lost race for the dedup key is resolved to the winner.
        if e = .uniqueViolation then
          match existing t j with
          | some row => (.ok (scanMsg row, true), t)
          | none => (.error e, t)
        else (.error e, t)
      | .ok log =>
        match countReply log j.m with
        | .error e => (.error e, t)
        | .ok log =>
          match stageOutbox checks log j.mkOb (j.stored seq) with
          | .error e => (.error e, t)
          | .ok log => (.ok (j.stored seq, false), ⟨seqs, log⟩)

/-- The statements of a job after its number was taken. -/
def write (j : Job) (seq : Int) : Except DbError Log :=
  match insertRow checks log (j.row seq) with
  | .error e => .error e
  | .ok log =>
    match countReply log j.m with
    | .error e => .error e
    | .ok log => stageOutbox checks log j.mkOb (j.stored seq)

variable {checks : Checks} {j : Job} {log : Log} {seq : Int} {t : Tables}

lemma existing_of_insertRow (h : insertRow checks t.log (j.row seq) = .ok log) :
    existing t j = none := by
  unfold existing
  split
  · next hkey =>
    unfold getByDedup
    rw [List.find?_eq_none]
    intro row hrow hsame
    rw [decide_eq_true_eq] at hsame
    unfold insertRow at h
    split at h
    · exact absurd h (by simp)
    have hconflict : t.log.messages.any (fun other => (j.row seq).conflicts other) = true :=
      List.any_eq_true.mpr ⟨row, hrow, decide_eq_true (.inr (.inr ⟨hkey, hsame⟩))⟩
    rw [if_pos hconflict] at h
    exact absurd h (by simp)
  · rfl

/-- `insertOne` writes what its statements write. -/
theorem insertOne_of_write {seqs : Int → Option Int}
    (hbump : seqBump t.chatSeq (atoi j.m.chatID) = .ok (seq, seqs))
    (hwrite : write checks t.log j seq = .ok log) :
    insertOne checks t j = (.ok (j.stored seq, false), ⟨seqs, log⟩) := by
  unfold write at hwrite
  split at hwrite
  · exact absurd hwrite (by simp)
  · next inserted hinsert =>
    split at hwrite
    · exact absurd hwrite (by simp)
    · next counted hcnt =>
      unfold insertOne
      rw [existing_of_insertRow hinsert, hbump]
      dsimp only
      rw [hinsert]
      dsimp only
      rw [hcnt]
      dsimp only
      rw [hwrite]

end SyncApp.GroupCommit
