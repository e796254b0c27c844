import SyncApp.Auth.Resumption

/-!
# Coming back after a refused resume

A client that holds a resume token presents it first.  If it is refused, the client sends its bearer
token on the same connection; the handler has returned, and the client dials again.

Main results:

- `recovers_iff`: a client with a refused resume token is ready exactly if it does not resume.
-/

namespace SyncApp.Clients

open Foundations
open Auth (AuthBody AuthOKBody ErrCode Tokens Accounts World doAuth doResume)
open Auth.Sample (accounts comesBack tokens world)

inductive Cap where
  | compression
  | batching
  | resume
  | secretChat
  | typingSignals
  | zstd
  | secretQueue
deriving DecidableEq

def serverCaps : List Cap :=
  [.compression, .zstd, .resume, .typingSignals, .batching, .secretQueue]

/-- `wire.WelcomeBody`. -/
structure Welcome where
  caps : List Cap
  resumeSupported : Bool

/-- `handshake`: the agreed capabilities are those of both sides. -/
def handshake (helloCaps : List Cap) : Welcome :=
  let agreed := helloCaps.filter (· ∈ serverCaps)
  ⟨agreed, .resume ∈ agreed⟩

def number : ErrCode → Nat
  | .resumeExpired => 1004
  | .unauthenticated => 2000
  | .twoFactorRequired => 2004
  | .badArg => 3003
  | .twoFactorInvalid => 3004
  | .rateLimited => 4000

/-- What a request fails with: an error frame, or the end of the connection. -/
inductive Failure where
  | protocol (code : ErrCode)
  | closed

/-- `isAuthError`, `isAuthFailure`. -/
def Failure.isAuthFailure : Failure → Bool
  | .protocol code => 2000 ≤ number code && number code < 3000
  | .closed => false

/-- A connection before its client is let in: `run` is about to read a frame, or has returned. -/
inductive Conn where
  | reading
  | closed

/-- `authenticate` reads one frame and answers it.  After a refusal `run` returns and closes the
connection, and what is sent on it is not read. -/
def Conn.authenticate {α : Type} (conn : Conn)
    (answer : Auth.Store → Except (ErrCode × String) α × Auth.Store) (st : Auth.Store) :
    Except (Failure × Conn) α × Auth.Store :=
  match conn with
  | .reading => ((answer st).1.mapError fun e => (.protocol e.1, .closed), (answer st).2)
  | .closed => (.error (.closed, .closed), st)

inductive ConnectionState where
  | idle
  | connecting
  | authenticating
  | ready
  | reconnecting
  | closed
deriving DecidableEq

/-- A client.  The session is what `AUTH_OK` said, and someone may still wait for the first
connection. -/
structure Client where
  state : ConnectionState
  session : Option AuthOKBody
  credentials : Option AuthBody
  deviceID : String
  reconnectAttempts : Nat
  shouldReconnect : Bool
  connectDeferred : Bool

/-- What tells the clients apart. -/
structure Platform where
  platform : String
  caps : List Cap
  /-- A first connection that fails may not be tried again. -/
  givesUp : Client → Bool
  givesUp_session : ∀ c, c.session.isSome → givesUp c = false
  /-- A resumed session puts its bearer token in the place of other credentials. -/
  keepsToken : Bool

def web : Platform where
  platform := "web"
  caps := [.resume, .typingSignals, .batching, .secretQueue]
  givesUp c := c.connectDeferred && c.reconnectAttempts = 0 && c.session.isNone
  givesUp_session c hc := by simp [Option.isNone_eq_false_iff.mpr hc]
  keepsToken := true

def android : Platform where
  platform := "android"
  caps := [.compression, .resume, .typingSignals, .secretChat]
  givesUp c := c.connectDeferred && c.session.isNone
  givesUp_session c hc := by simp [Option.isNone_eq_false_iff.mpr hc]
  keepsToken := true

def ios : Platform where
  platform := "ios"
  caps := [.resume, .typingSignals, .secretQueue, .batching]
  givesUp _ := false
  givesUp_session _ _ := rfl
  keepsToken := false

def bearer (token : String) : AuthBody := ⟨token, "", "", "", "", false⟩

/-- What a client sends in the place where the handler reads one frame. -/
inductive Sent where
  | auth (body : AuthBody)
  | resume (resumeToken : String) (lastAckSeq : Nat)

namespace Client

def onAuthenticated (c : Client) (session : AuthOKBody) (keepsToken : Bool) : Client :=
  { c with
    state := .ready
    session := some session
    credentials :=
      if keepsToken ∧ session.token ≠ "" then some (bearer session.token) else c.credentials
    reconnectAttempts := 0
    connectDeferred := false }

variable (P : Platform)

/-- `handleDisconnect`, the loop of `connect` on Android and `redial` on iOS. -/
def handleDisconnect (c : Client) (e : Failure) : Client :=
  if ¬ c.shouldReconnect then { c with state := .closed }
  else if e.isAuthFailure ∨ P.givesUp c then
    { c with state := .closed, shouldReconnect := false, connectDeferred := false }
  else { c with state := .reconnecting, reconnectAttempts := c.reconnectAttempts + 1 }

variable (T : Tokens) (A : Accounts) (c : Client) (st : Auth.Store)

/-- `authenticate`, with the credentials of the client. -/
def authenticate (conn : Conn) (w : World) : List Sent × Client × Auth.Store :=
  match c.credentials with
  | none => ([], c.handleDisconnect P .closed, st)
  | some body =>
    let r := conn.authenticate (doAuth T A · ⟨c.deviceID, P.platform⟩ body w) st
    match r.1 with
    | .error e => ([.auth body], c.handleDisconnect P e.1, r.2)
    | .ok session =>
      let deviceID := if session.deviceID ≠ "" then session.deviceID else c.deviceID
      ([.auth body], { c with deviceID := deviceID }.onAuthenticated session true, r.2)

/-- `resumeSession`.  A client that is refused goes on with `authenticate` on the connection. -/
def resumeSession (session : AuthOKBody) (lastAckSeq : Nat)
    (w : World) : List Sent × Client × Auth.Store :=
  let r := Conn.reading.authenticate (doResume T · session.resumeToken lastAckSeq w) st
  let sent := Sent.resume session.resumeToken lastAckSeq
  match r.1 with
  | .ok reply =>
    let rotated := reply.resumeToken
    ([sent], c.onAuthenticated
      (if rotated ≠ "" then { session with resumeToken := rotated } else session) P.keepsToken, r.2)
  | .error (e, conn) =>
    if e.isAuthFailure then ([sent], c.handleDisconnect P e, r.2)
    else
      let again := c.authenticate P T A r.2 conn w
      (sent :: again.1, again.2)

/-- `handshakeAndAuth`, with the last number that the client has seen. -/
def handshakeAndAuth (input : Nat × World) : List Sent × Client × Auth.Store :=
  let welcome := handshake P.caps
  match c.session with
  | none => c.authenticate P T A st .reading input.2
  | some session =>
    if session.resumeToken ≠ "" ∧ welcome.resumeSupported ∧ .resume ∈ welcome.caps then
      c.resumeSession P T A st session input.1 input.2
    else c.authenticate P T A st .reading input.2

/-- `dial`: the network does not fail. -/
def dial (g : Client × Auth.Store) (input : Nat × World) : List Sent × Client × Auth.Store :=
  { g.1 with state := .authenticating }.handshakeAndAuth P T A g.2 input

/-! ## Refused resumes -/

/-- A client that dials by itself, with a session that it can resume and a bearer token. -/
structure Holds (c : Client) (session : AuthOKBody) (token : String) : Prop where
  session_eq : c.session = some session
  resumeToken_ne : session.resumeToken ≠ ""
  credentials_eq : c.credentials = some (bearer token)
  reconnects : c.shouldReconnect = true

/-- The server refuses the resume token. -/
abbrev Refused (session : AuthOKBody) (g : Client × Auth.Store) (input : Nat × World) : Prop :=
  (doResume T g.2 session.resumeToken input.1 input.2).1.isOk = false

/-- The server accepts the credentials of the client. -/
abbrev Accepted (token : String) (g : Client × Auth.Store) (input : Nat × World) : Prop :=
  (doAuth T A g.2 ⟨g.1.deviceID, P.platform⟩ (bearer token) input.2).1.isOk = true

/-- The client presents its resume token. -/
abbrev Resumes : Prop := .resume ∈ (handshake P.caps).caps

section Refusals

variable {P T A} {g : Client × Auth.Store} {input : Nat × World} {session : AuthOKBody}
  {token : String} {inputs : List (Nat × World)}

/-- The refusal is no failure of the authentication. -/
lemma doResume_error {st : Auth.Store} {resumeToken : String}
    (h : (doResume T st resumeToken input.1 input.2).1.isOk = false) :
    (doResume T st resumeToken input.1 input.2).1 =
      .error (.resumeExpired, "resume rejected; re-authenticate") := by
  unfold doResume at h ⊢
  dsimp only at h ⊢
  split
  · rfl
  · next hr =>
    rw [hr] at h
    cases h

/-- The handler has returned after a refusal, so the credentials that are sent next are lost. -/
lemma resumeSession_refused {c : Client} {st : Auth.Store}
    (hcredentials : c.credentials = some (bearer token))
    (h : (doResume T st session.resumeToken input.1 input.2).1.isOk = false) :
    c.resumeSession P T A st session input.1 input.2 =
      ([.resume session.resumeToken input.1, .auth (bearer token)], c.handleDisconnect P .closed,
        (doResume T st session.resumeToken input.1 input.2).2) := by
  unfold resumeSession Conn.authenticate
  simp only [doResume_error h, Except.mapError]
  rw [if_neg (by decide), authenticate, hcredentials]
  rfl

/-- The end of a connection leaves a client as it is, but for the count. -/
lemma Holds.handleDisconnect {c : Client} (hc : c.Holds session token) :
    (c.handleDisconnect P .closed).state = .reconnecting ∧
      (c.handleDisconnect P .closed).Holds session token := by
  have hgo : P.givesUp c = false := P.givesUp_session c (by rw [hc.session_eq]; rfl)
  unfold Client.handleDisconnect
  rw [if_neg (not_not.mpr hc.reconnects), if_neg (by simp [Failure.isAuthFailure, hgo])]
  exact ⟨rfl, { hc with }⟩

section

variable (hc : g.1.Holds session token)
include hc

lemma dial_refused (hres : Resumes P) (h : Refused T session g input) :
    (dial P T A g input).1 = [.resume session.resumeToken input.1, .auth (bearer token)] ∧
      (dial P T A g input).2.1.state = .reconnecting ∧
      (dial P T A g input).2.1.Holds session token ∧
      (dial P T A g input).2.2 = (doResume T g.2 session.resumeToken input.1 input.2).2 := by
  have hdials : Holds { g.1 with state := .authenticating } session token :=
    { hc with }
  have hoff : (handshake P.caps).resumeSupported = true := by
    simpa [handshake, Resumes] using hres
  unfold dial
  generalize ({ g.1 with state := .authenticating } : Client) = c at hdials ⊢
  simp only [handshakeAndAuth, hdials.session_eq]
  rw [if_pos ⟨hc.resumeToken_ne, hoff, hres⟩,
    resumeSession_refused hdials.credentials_eq h]
  exact ⟨rfl, hdials.handleDisconnect.1, hdials.handleDisconnect.2, rfl⟩

/-- As long as the token is refused, every dial presents it and none is the last. -/
lemma final_refused (hstate : g.1.state ≠ .ready) (hres : Resumes P)
    (h : Machine.Guarded (dial P T A) (Refused T session) g inputs) :
    (Machine.final (dial P T A) g inputs).1.state ≠ .ready ∧
      ∀ sent ∈ Machine.outputs (dial P T A) g inputs,
        ∃ n, .resume session.resumeToken n ∈ sent := by
  induction inputs generalizing g with
  | nil => exact ⟨hstate, fun _ hsent => absurd hsent List.not_mem_nil⟩
  | cons input inputs ih =>
    obtain ⟨hsent, hstate', hc', -⟩ := dial_refused (A := A) hc hres h.1
    obtain ⟨hready, hlater⟩ := ih hc' (by rw [hstate']; decide) h.2
    refine ⟨hready, fun sent hmem => ?_⟩
    rcases List.mem_cons.mp hmem with rfl | hmem
    · exact ⟨input.1, by rw [hsent]; exact .head _⟩
    · exact hlater sent hmem

/-- A dial without a resume is ready at once. -/
lemma dial_accepted (hres : ¬ Resumes P) (h : Accepted P T A token g input) :
    (dial P T A g input).2.1.state = .ready := by
  unfold dial
  simp only [handshakeAndAuth, hc.session_eq]
  rw [if_neg fun hand => hres hand.2.2, authenticate]
  cases hauth : (doAuth T A g.2 ⟨g.1.deviceID, P.platform⟩ (bearer token) input.2).1 with
  | error =>
    rw [Accepted, hauth] at h
    cases h
  | ok =>
    simp only [hc.credentials_eq, Conn.authenticate, hauth, Except.mapError]
    rfl

end

/-- A client that holds a refused resume token and an accepted bearer token is ready within two
dials exactly if it does not resume. -/
theorem recovers_iff (hc : g.1.Holds session token) (hstate : g.1.state ≠ .ready)
    {again : Nat × World}
    (href : Machine.Guarded (dial P T A) (Refused T session) g [input, again])
    (hacc : Accepted P T A token g input) :
    (∃ n ≤ 2, (Machine.final (dial P T A) g ([input, again].take n)).1.state = .ready) ↔
      ¬ Resumes P := by
  constructor
  · rintro ⟨n, -, hready⟩ hres
    rw [← List.take_append_drop n [input, again], Machine.guarded_append] at href
    exact (final_refused hc hstate hres href.1).1 hready
  · intro hres
    exact ⟨1, by decide, dial_accepted hc hres hacc⟩

end Refusals

namespace Sample

/-- The server after a registration and an authentication by the bearer token. -/
def store : Auth.Store :=
  (Machine.final (Auth.Server.step tokens accounts) Auth.Server.new comesBack).store

/-- What the client was told the second time. -/
def session : AuthOKBody := ⟨"u1", "phone", "s1", "t1", "ht2", "bob", "bob", ""⟩

/-- The client has lost this connection. -/
def client : Client := ⟨.reconnecting, some session, some (bearer "t1"), "phone", 1, true, false⟩

def input : Nat × World := (1, world 3 "s3" "t5" "t6")

def dialled (P : Platform) (inputs : List (Nat × World)) : Client × Auth.Store :=
  Machine.final (dial P tokens accounts) (client, store) inputs

/-- The web client as it would be without this capability. -/
def unresuming : Platform := { web with caps := [.typingSignals, .batching, .secretQueue] }

lemma holds_client : client.Holds session "t1" :=
  ⟨rfl, by decide, rfl, rfl⟩

end Sample

theorem recovers_iff_unresuming :
    (∃ n ≤ 2, (Sample.dialled Sample.unresuming ([Sample.input, Sample.input].take n)).1.state =
      .ready) ↔ ¬ Resumes Sample.unresuming :=
  recovers_iff Sample.holds_client (by decide) ⟨by decide +kernel, by decide +kernel, trivial⟩
    (by decide +kernel)

lemma Sample.guarded_dial (P : Platform) (hres : Resumes P) (inputs : List (Nat × World))
    {c : Client} (hc : c.Holds session "t1") :
    Machine.Guarded (dial P tokens accounts) (Refused tokens session) (c, store) inputs := by
  induction inputs generalizing c with
  | nil => trivial
  | cons input inputs ih =>
    have href : Refused tokens session (c, store) input := by
      rfl
    obtain ⟨-, -, hc', hstore⟩ := dial_refused (A := accounts) hc hres href
    refine ⟨href, ?_⟩
    rw [← Prod.eta (dial P tokens accounts (c, store) input).2, hstore]
    exact ih hc'

lemma Sample.never_ready (P : Platform) (hres : Resumes P) :
    ¬ ∃ inputs, (dialled P inputs).1.state = .ready :=
  fun ⟨inputs, hready⟩ => (final_refused holds_client (by decide) hres
    (guarded_dial P hres inputs holds_client)).1 hready

/-- The reply to the bearer token has given the client a resume token that is refused.  However
often they dial, none of the clients is ready, though the bearer token stays good. -/
theorem refused_resume_repeats :
    let refused := doResume tokens Sample.store "ht2" Sample.input.1 Sample.input.2
    refused.1.isOk = false ∧
      (doAuth tokens accounts refused.2 ⟨"phone", "web"⟩ (bearer "t1")
        Sample.input.2).1.isOk = true ∧
      (¬ ∃ inputs, (Sample.dialled web inputs).1.state = .ready) ∧
      (¬ ∃ inputs, (Sample.dialled android inputs).1.state = .ready) ∧
      ¬ ∃ inputs, (Sample.dialled ios inputs).1.state = .ready :=
  ⟨by decide +kernel, by decide +kernel, Sample.never_ready web (by decide),
    Sample.never_ready android (by decide), Sample.never_ready ios (by decide)⟩

end Client
end SyncApp.Clients
