import Mathlib.Data.List.AList
import Mathlib.Data.String.Basic

/-!
# Sessions

The authentication service of `server/internal/auth` over the in-memory store, and the handshake of
`server/internal/gateway` that hands out its tokens.  The client is given tokens in plain, the store
keeps their hashes, and a session record has one or the other in the same field.  The clock, the
identifiers and the random tokens come with each call.
-/

namespace SyncApp.Auth

open Function (update)

structure User where
  id : String
  username : String
  displayName : String
  avatarRef : String
  passwordHash : String
  createdAt : Int
deriving DecidableEq

structure Device where
  id : String
  userID : String
  platform : String
  pushToken : String
  createdAt : Int
  lastSeen : Int

structure Session where
  id : String
  userID : String
  deviceID : String
  token : String
  resumeToken : String
  createdAt : Int
  expiresAt : Int
  revokedAt : Int
  prevResumeToken : String
  resumeRotatedAt : Int
deriving DecidableEq

/-- `memory.Store`, with the accounts, their devices and their sessions. -/
structure Store where
  users : String → Option User
  usersByName : String → Option String
  devices : String → Option Device
  sessions : AList fun _ : String => Session
  tokenIndex : String → Option String
  resumeIndex : String → Option String
  prevResumeIndex : String → Option String

namespace Store

def new : Store where
  users := fun _ => none
  usersByName := fun _ => none
  devices := fun _ => none
  sessions := ∅
  tokenIndex := fun _ => none
  resumeIndex := fun _ => none
  prevResumeIndex := fun _ => none

variable (st : Store)

/-- `CreateUser`, where it does not conflict. -/
def createUser (u : User) : Option Store :=
  if (st.usersByName u.username).isSome then none
  else
    some
      { st with
        users := update st.users u.id (some u)
        usersByName := update st.usersByName u.username (some u.id) }

def getUserByUsername (username : String) : Option User :=
  (st.usersByName username).bind st.users

/-- `UpsertDevice`, where it does not conflict. -/
def upsertDevice (d : Device) : Option Store :=
  match st.devices d.id with
  | none => some { st with devices := update st.devices d.id (some d) }
  | some cur =>
    if cur.userID ≠ d.userID then none
    else
      let kept :=
        { d with
          pushToken := if d.pushToken = "" then cur.pushToken else d.pushToken
          createdAt := cur.createdAt }
      some { st with devices := update st.devices d.id (some kept) }

def createSession (sess : Session) : Store :=
  { st with
    sessions := st.sessions.insert sess.id sess
    tokenIndex := update st.tokenIndex sess.token (some sess.id)
    resumeIndex :=
      if sess.resumeToken ≠ "" then update st.resumeIndex sess.resumeToken (some sess.id)
      else st.resumeIndex }

def getSessionByToken (token : String) : Option Session :=
  (st.tokenIndex token).bind fun id => st.sessions.lookup id

def getSessionByResumeToken (resume : String) : Option Session :=
  (st.resumeIndex resume).bind fun id => st.sessions.lookup id

def getSessionByConsumedResumeToken (resume : String) : Option Session :=
  (st.prevResumeIndex resume).bind fun id => st.sessions.lookup id

def setSession (id : String) (sess : Session) : Store :=
  { st with sessions := st.sessions.insert id sess }

/-- `RevokeSession`, where the session is there. -/
def revokeSession (id : String) (at_ : Int) : Option Store :=
  (st.sessions.lookup id).map fun sess => st.setSession id { sess with revokedAt := at_ }

/-- `TouchSession`, where the session is there. -/
def touchSession (now : Int) (id : String) (expiresAt : Int) : Option Store :=
  (st.sessions.lookup id).map fun sess =>
    if sess.revokedAt ≠ 0 ∨ (sess.expiresAt ≠ 0 ∧ sess.expiresAt ≤ now) then st
    else if sess.expiresAt < expiresAt then st.setSession id { sess with expiresAt := expiresAt }
    else st

def listSessions (userID : String) : List Session :=
  (st.sessions.entries.map Sigma.snd).filter fun sess => sess.userID = userID

/-- `RotateResumeToken`, where the session has the old token. -/
def rotateResumeToken (sessionID oldHash newHash : String) (at_ : Int) : Option Store :=
  match st.sessions.lookup sessionID with
  | none => none
  | some sess =>
    if sess.resumeToken ≠ oldHash then none
    else
      some
        { st with
          sessions := st.sessions.insert sessionID
            { sess with
              prevResumeToken := oldHash
              resumeToken := newHash
              resumeRotatedAt := at_ }
          resumeIndex :=
            update (update st.resumeIndex oldHash none) newHash (some sessionID)
          prevResumeIndex := update st.prevResumeIndex oldHash (some sessionID) }

end Store

/-! ## The service -/

/-- The tokens.  A hash is sixty-four hexadecimal digits and a random token forty-three
characters, so a hash is no token. -/
structure Tokens where
  hashToken : String → String
  /-- What `randToken` can return. -/
  IsToken : String → Prop
  not_isToken_hashToken : ∀ text, ¬ IsToken (hashToken text)
  hashToken_ne_empty : ∀ text, hashToken text ≠ ""

/-- What the service leaves to others: how names are folded and passwords hashed. -/
structure Accounts where
  /-- Lower case, without the spaces around it. -/
  fold : String → String
  trimSpace : String → String
  /-- `argon2Key` and its encoding, from the salt and the password. -/
  encode : String → String → String
  verifyPassword : String → String → Bool

/-- What a call reads of the world: the clock, the identifiers it draws, its random bytes (none if
unreadable), the limiter, and what the second factor answers (none if its store fails). -/
structure World where
  now : Int
  userID : String
  deviceID : String
  otherDeviceID : String
  sessionID : String
  salt : Option String
  token : Option String
  resumeToken : Option String
  allowed : Bool
  twoFactorEnabled : Bool
  secondFactor : Option Bool

/-- The errors of the service and of the handshake. -/
inductive AuthError where
  | badCredentials
  | invalidSession
  | badUsername (text : String)
  | badPassword (text : String)
  | usernameTaken
  | twoFactorRequired
  | badTOTPCode
  | resumeReplayed
  | loginThrottled
  | badDisplayName
  | noCredentials
  | notFound
  | conflict
  | unavailable
deriving DecidableEq

/-- `SessionTTL`, in milliseconds. -/
def sessionTTL : Int := 14 * 24 * 60 * 60 * 1000

/-- `SessionRefreshAfter`, in milliseconds. -/
def sessionRefreshAfter : Int := sessionTTL / 2

def minUsernameLen : Nat := 3

def maxUsernameLen : Nat := 32

def minPasswordLen : Nat := 6

def usernameRe (username : String) : Bool :=
  username ≠ "" &&
    username.toList.all fun c =>
      ('a' ≤ c && c ≤ 'z') || c.isDigit || c = '_' || c = '.' || c = '-'

def validateUsername (username : String) : Except AuthError Unit :=
  if username.utf8ByteSize < minUsernameLen ∨ maxUsernameLen < username.utf8ByteSize then
    .error (.badUsername "auth: invalid username: username must be 3..32 characters")
  else if ¬ usernameRe username then
    .error (.badUsername "auth: invalid username: username may contain only a-z, 0-9, and _ . -")
  else .ok ()

/-- The handle that a person means: a leading sign is dropped. -/
def Accounts.handle (A : Accounts) (username : String) : String :=
  match (A.fold username).toList with
  | '@' :: rest => String.ofList rest
  | _ => A.fold username

structure Identity where
  session : Session
  user : User

def validSession (now : Int) (sess : Session) : Bool :=
  sess.revokedAt = 0 ∧ ¬ (sess.expiresAt ≠ 0 ∧ sess.expiresAt < now)

namespace Store

variable (st : Store)

/-- `startSession`, the part that registers the device. -/
def startDevice (u : User) (deviceID platform : String) (w : World) :
    Except AuthError (String × Store) :=
  let asked := if deviceID = "" then w.deviceID else deviceID
  match st.upsertDevice ⟨asked, u.id, platform, "", w.now, w.now⟩ with
  | some st => .ok (asked, st)
  | none =>
    -- The identifier belongs to another account: a fresh one is assigned.
    match st.upsertDevice ⟨w.otherDeviceID, u.id, platform, "", w.now, w.now⟩ with
    | some st => .ok (w.otherDeviceID, st)
    | none => .error .conflict

variable (T : Tokens)

/-- `startSession`.  The session is stored with the hashes and returned with the tokens. -/
def startSession (st : Store) (u : User) (deviceID platform : String) (w : World) :
    Except AuthError Session × Store :=
  match st.startDevice u deviceID platform w with
  | .error e => (.error e, st)
  | .ok (device, st) =>
    match w.token, w.resumeToken with
    | some plainToken, some plainResume =>
      let sess : Session :=
        { id := w.sessionID
          userID := u.id
          deviceID := device
          token := T.hashToken plainToken
          resumeToken := T.hashToken plainResume
          createdAt := w.now
          expiresAt := w.now + sessionTTL
          revokedAt := 0
          prevResumeToken := ""
          resumeRotatedAt := 0 }
      (.ok { sess with token := plainToken, resumeToken := plainResume }, st.createSession sess)
    | _, _ => (.error .unavailable, st)

def register (A : Accounts) (st : Store) (username password displayName deviceID
    platform : String) (w : World) : Except AuthError Identity × Store :=
  let username := A.handle username
  match validateUsername username with
  | .error e => (.error e, st)
  | .ok () =>
    if password.utf8ByteSize < minPasswordLen then
      (.error (.badPassword "store: conflict: password must be at least 6 characters"), st)
    else
      match w.salt with
      | none => (.error .unavailable, st)
      | some salt =>
        let u : User :=
          { id := w.userID
            username := username
            displayName := if displayName = "" then username else displayName
            avatarRef := ""
            passwordHash := A.encode salt password
            createdAt := w.now }
        match st.createUser u with
        | none => (.error .usernameTaken, st)
        | some st =>
          let r := st.startSession T u deviceID platform w
          (r.1.map (⟨·, u⟩), r.2)

def loginWithCode (A : Accounts) (st : Store) (username password code deviceID
    platform : String) (w : World) : Except AuthError Identity × Store :=
  match st.getUserByUsername (A.handle username) with
  | none => (.error .badCredentials, st)
  | some u =>
    if ¬ A.verifyPassword password u.passwordHash then (.error .badCredentials, st)
    else if w.twoFactorEnabled ∧ code = "" then (.error .twoFactorRequired, st)
    else if w.twoFactorEnabled ∧ w.secondFactor = none then (.error .unavailable, st)
    else if w.twoFactorEnabled ∧ w.secondFactor = some false then (.error .badTOTPCode, st)
    else
      let r := st.startSession T u deviceID platform w
      (r.1.map (⟨·, u⟩), r.2)

/-- `refresh`: a session in use is given a new term, at most once in half a term. -/
def refresh (now : Int) (sess : Session) : Session × Store :=
  if sess.expiresAt = 0 then (sess, st)
  else if sessionTTL - sessionRefreshAfter < sess.expiresAt - now then (sess, st)
  else
    let next := now + sessionTTL
    match st.touchSession now sess.id next with
    | some st => ({ sess with expiresAt := next }, st)
    | none => (sess, st)

def authenticate (st : Store) (token : String) (w : World) : Except AuthError Identity × Store :=
  match st.getSessionByToken (T.hashToken token) with
  | none => (.error .invalidSession, st)
  | some sess =>
    if ¬ validSession w.now sess then (.error .invalidSession, st)
    else
      let r := st.refresh w.now sess
      match r.2.users sess.userID with
      | none => (.error .notFound, r.2)
      | some u => (.ok ⟨r.1, u⟩, r.2)

def detectResumeReplay (hashedToken : String) (now : Int) : Bool × Store :=
  match st.getSessionByConsumedResumeToken hashedToken with
  | none => (false, st)
  | some sess =>
    (true, if sess.revokedAt = 0 then (st.revokeSession sess.id now).getD st else st)

def resume (st : Store) (resumeToken : String) (w : World) : Except AuthError Identity × Store :=
  let hashed := T.hashToken resumeToken
  match st.getSessionByResumeToken hashed with
  | none =>
    let r := st.detectResumeReplay hashed w.now
    (.error (if r.1 then .resumeReplayed else .invalidSession), r.2)
  | some sess =>
    if ¬ validSession w.now sess then (.error .invalidSession, st)
    else
      match w.resumeToken with
      | none => (.error .unavailable, st)
      | some plainNext =>
        match st.rotateResumeToken sess.id hashed (T.hashToken plainNext) w.now with
        | none => (.error .resumeReplayed, (st.revokeSession sess.id w.now).getD st)
        | some st =>
          match st.users sess.userID with
          | none => (.error .notFound, st)
          | some u => (.ok ⟨{ sess with resumeToken := plainNext }, u⟩, st)

def revoke (sessionID : String) (w : World) : Except AuthError Unit × Store :=
  match st.revokeSession sessionID w.now with
  | none => (.error .notFound, st)
  | some st => (.ok (), st)

def revokeOwned (userID sessionID : String) (w : World) : Except AuthError Unit × Store :=
  match (st.listSessions userID).find? fun sess => sess.id = sessionID with
  | none => (.error .notFound, st)
  | some sess => if sess.revokedAt ≠ 0 then (.ok (), st) else st.revoke sessionID w

/-- The loop of `RevokeAll`, with the number of sessions it has ended. -/
def revokeEach (now : Int) (keepSessionID : String) :
    List Session → Nat × Store → Nat × Store
  | [], acc => acc
  | sess :: rest, (revoked, st) =>
    if sess.id = keepSessionID then revokeEach now keepSessionID rest (revoked, st)
    else
      match st.revokeSession sess.id now with
      | none => revokeEach now keepSessionID rest (revoked, st)
      | some st => revokeEach now keepSessionID rest (revoked + 1, st)

def revokeAll (userID keepSessionID : String) (w : World) : Nat × Store :=
  revokeEach w.now keepSessionID ((st.listSessions userID).filter (validSession w.now)) (0, st)

end Store

structure AuthBody where
  token : String
  username : String
  password : String
  totpCode : String
  displayName : String
  register : Bool

/-- What the connection said of itself before. -/
structure Hello where
  deviceID : String
  platform : String

structure AuthOKBody where
  userID : String
  deviceID : String
  sessionID : String
  token : String
  resumeToken : String
  username : String
  displayName : String
  avatarRef : String
deriving DecidableEq

structure ResumeOKBody where
  sessionID : String
  fromSeq : Nat
  resumeToken : String
deriving DecidableEq

/-- `wire.ErrorBody`, by its code. -/
inductive ErrCode where
  | rateLimited
  | badArg
  | twoFactorRequired
  | twoFactorInvalid
  | unauthenticated
  | resumeExpired
deriving DecidableEq

def maxDisplayName : Nat := 64

def isControl (c : Char) : Bool := c.val < 0x20 || (0x7f ≤ c.val && c.val ≤ 0x9f)

def validDisplayName (s : String) : Bool :=
  s.utf8ByteSize ≤ maxDisplayName && s.toList.all fun c => c.val ≠ 0xfffd && !isControl c

/-- `authIdentity`, with the token that the client is to hold. -/
def authIdentity (id : Identity) (token : String) : AuthOKBody where
  userID := id.user.id
  deviceID := id.session.deviceID
  sessionID := id.session.id
  token := token
  resumeToken := id.session.resumeToken
  username := id.user.username
  displayName := id.user.displayName
  avatarRef := id.user.avatarRef

variable (T : Tokens)

def authByToken (st : Store) (token : String) (w : World) : Except AuthError AuthOKBody × Store :=
  let r := st.authenticate T token w
  (r.1.map (authIdentity · token), r.2)

def authByPasswordWithCode (A : Accounts) (st : Store) (hello : Hello)
    (body : AuthBody) (w : World) : Except AuthError AuthOKBody × Store :=
  let platform := if hello.platform = "" then "unknown" else hello.platform
  if body.register = false ∧ w.allowed = false then (.error .loginThrottled, st)
  else if body.register then
    let displayName := A.trimSpace body.displayName
    if displayName ≠ "" ∧ ¬ validDisplayName displayName then (.error .badDisplayName, st)
    else
      let r := st.register T A body.username body.password displayName hello.deviceID platform w
      (r.1.map fun id => authIdentity id id.session.token, r.2)
  else
    let r := st.loginWithCode T A body.username body.password body.totpCode hello.deviceID
      platform w
    (r.1.map fun id => authIdentity id id.session.token, r.2)

/-- The error that the client is told. -/
def AuthError.reply : AuthError → ErrCode × String
  | .loginThrottled => (.rateLimited, "too many attempts")
  | .badDisplayName => (.badArg, "invalid display name")
  | .badUsername text => (.badArg, text)
  | .twoFactorRequired => (.twoFactorRequired, "two-factor code required")
  | .badTOTPCode => (.twoFactorInvalid, "that code did not match")
  | _ => (.unauthenticated, "authentication failed")

/-- The device of the connection in `AUTH_OK`: the session's, or the one that the client
named, or the session itself. -/
def connDevice (hello : Hello) (body : AuthOKBody) : String :=
  if body.deviceID ≠ "" then body.deviceID
  else if hello.deviceID ≠ "" then hello.deviceID
  else body.sessionID

def doAuth (A : Accounts) (st : Store) (hello : Hello) (body : AuthBody)
    (w : World) : Except (ErrCode × String) AuthOKBody × Store :=
  let r :=
    if body.token ≠ "" then authByToken T st body.token w
    else if body.username ≠ "" then authByPasswordWithCode T A st hello body w
    else (.error .noCredentials, st)
  match r.1 with
  | .error e => (.error e.reply, r.2)
  | .ok ident => (.ok { ident with deviceID := connDevice hello ident }, r.2)

/-- `doResume`, without the frames that it replays. -/
def doResume (st : Store) (resumeToken : String) (lastAckSeq : Nat) (w : World) :
    Except (ErrCode × String) ResumeOKBody × Store :=
  let r := st.resume T resumeToken w
  match r.1 with
  | .error _ => (.error (.resumeExpired, "resume rejected; re-authenticate"), r.2)
  | .ok id => (.ok ⟨id.session.id, lastAckSeq, id.session.resumeToken⟩, r.2)

end SyncApp.Auth
