import SyncApp.Auth.TokenIndex
import SyncApp.Foundations.Machine

/-!
# The resume tokens that are handed out

Any history of registrations, logins, resumptions and revocations, with the tokens drawn, the resume
tokens handed out, each with its session and whether it answered a bearer token, and those used.

Main results:

- `handed_out_resumes_iff`: which resume tokens that were handed out are accepted.
-/

namespace SyncApp.Auth

open Foundations List
open Machine (final)

/-- What the server is asked. -/
inductive Request where
  | auth (hello : Hello) (body : AuthBody)
  | resume (resumeToken : String) (lastAckSeq : Nat)
  | revoke (sessionID : String)
  | revokeOwned (userID sessionID : String)
  | revokeAll (userID keepSessionID : String)

/-- What it answers. -/
inductive Response where
  | authOK (body : AuthOKBody)
  | resumeOK (body : ResumeOKBody)
  | error (code : ErrCode) (text : String)
  | revoked (result : Except AuthError Unit)
  | revokedCount (count : Nat)

/-- The store and the history of the tokens. -/
structure Server where
  store : Store
  drawn : List String
  handedOut : List HandedOut
  consumed : List String

namespace Server

/-- No accounts yet. -/
def new : Server := ⟨.new, [], [], []⟩

/-- The answer to a request and the store after it. -/
def serve (T : Tokens) (A : Accounts) (st : Store) (w : World) : Request → Response × Store
  | .auth hello body =>
    match doAuth T A st hello body w with
    | (.ok reply, st) => (.authOK reply, st)
    | (.error e, st) => (.error e.1 e.2, st)
  | .resume resumeToken lastAckSeq =>
    match doResume T st resumeToken lastAckSeq w with
    | (.ok reply, st) => (.resumeOK reply, st)
    | (.error e, st) => (.error e.1 e.2, st)
  | .revoke sessionID => ((st.revoke sessionID w).map .revoked id)
  | .revokeOwned userID sessionID => ((st.revokeOwned userID sessionID w).map .revoked id)
  | .revokeAll userID keepSessionID => ((st.revokeAll userID keepSessionID w).map .revokedCount id)

def handedOutBy : Request → Response → List HandedOut
  | .auth _ body, .authOK reply => [⟨decide (body.token ≠ ""), reply.sessionID, reply.resumeToken⟩]
  | .resume _ _, .resumeOK reply => [⟨false, reply.sessionID, reply.resumeToken⟩]
  | _, _ => []

def consumedBy : Request → Response → List String
  | .resume resumeToken _, .resumeOK _ => [resumeToken]
  | _, _ => []

def step (T : Tokens) (A : Accounts) (g : Server) (call : Request × World) : Response × Server :=
  let r := serve T A g.store call.2 call.1
  (r.1,
    { store := r.2
      drawn := call.2.token.toList ++ call.2.resumeToken.toList ++ g.drawn
      handedOut := handedOutBy call.1 r.1 ++ g.handedOut
      consumed := consumedBy call.1 r.1 ++ g.consumed })

def presentedBy : Request → List String
  | .resume resumeToken _ => [resumeToken]
  | _ => []

/-- What the call draws is new, and no token in play collides with what is drawn to resume with or
presented. -/
@[mk_iff]
structure Fresh (T : Tokens) (g : Server) (call : Request × World) : Prop where
  sessionID : g.store.sessions.lookup call.2.sessionID = none
  token : ∀ t ∈ call.2.token, T.IsToken t ∧ t ∉ g.drawn
  resumeToken : ∀ t ∈ call.2.resumeToken, T.IsToken t ∧ t ∉ g.drawn
  ne : ∀ t ∈ call.2.token, ∀ r ∈ call.2.resumeToken, t ≠ r
  hash : ∀ t ∈ call.2.resumeToken.toList ++ presentedBy call.1, ∀ u ∈ g.drawn,
    T.hashToken u = T.hashToken t → u = t

instance (T : Tokens) [DecidablePred T.IsToken] (g : Server) (call : Request × World) :
    Decidable (g.Fresh T call) :=
  decidable_of_iff' _ (g.fresh_iff T call)

end Server

/-! ## Histories -/

section Serving

variable {T : Tokens} {A : Accounts} {before now : List String} {st : Store} {w : World}

/-- A token as it is handed out: its session is stored; for a bearer token it is a hash, and
otherwise the token to resume with. -/
structure Store.Issues (T : Tokens) (now : List String) (st : Store) (i : HandedOut) : Prop where
  stored : (st.sessions.lookup i.sessionID).isSome
  bearer : i.forBearer = true → ∃ t ∈ now, i.resumeToken = T.hashToken t
  plain : i.forBearer = false → i.resumeToken ∈ now ∧ st.Live T i

lemma Store.Granted.issues {sess : Session} (h : Store.Granted T now st sess) :
    st.Issues T now ⟨false, sess.id, sess.resumeToken⟩ :=
  ⟨h.stored, nofun, fun _ => ⟨h.drawn, h.live⟩⟩

/-- A login: the store is kept, and the token of its reply is handed out. -/
structure Store.Answers {ε : Type} (T : Tokens) (before now : List String) (st : Store)
    (forBearer : Bool) (r : Except ε AuthOKBody × Store) : Prop where
  kept : st.Kept T before now r.2
  issues : ∀ reply, r.1 = .ok reply →
    r.2.Issues T now ⟨forBearer, reply.sessionID, reply.resumeToken⟩

lemma Store.Answers.refused {ε : Type} (hs : st.Sound T now) (e : ε) (forBearer : Bool) :
    st.Answers T before now forBearer (.error e, st) :=
  ⟨.refl hs, nofun⟩

lemma Store.Grants.answers {r : Except AuthError Identity × Store}
    (h : Store.Grants T before now st Identity.session r) : st.Answers T before now false
      (r.1.map fun id => authIdentity id id.session.token, r.2) := by
  rcases r with ⟨result, _⟩
  refine ⟨h.kept, ?_⟩
  intro reply hreply
  cases result with
  | error => cases hreply
  | ok ident =>
    cases hreply
    exact (h.granted ident rfl).issues

lemma authByPasswordWithCode_answers (hs : st.Sound T now)
    (hdraws : Store.Draws T before now st w) (hello : Hello) (body : AuthBody) :
    st.Answers T before now false (authByPasswordWithCode T A st hello body w) := by
  unfold authByPasswordWithCode
  dsimp only
  split
  · exact .refused hs _ _
  split
  · split
    · exact .refused hs _ _
    · exact (Store.register_grants hs hdraws _ _ _ _ _).answers
  · exact (Store.loginWithCode_grants hs hdraws _ _ _ _ _).answers

lemma authByToken_answers (hs : st.Sound T now) (token : String) :
    st.Answers T before now true (authByToken T st token w) := by
  unfold authByToken
  have hspec : st.Kept T before now (st.authenticate T token w).2 ∧ _ :=
    Store.authenticate_spec hs token
  rcases hspec with ⟨hkept, hident⟩
  refine ⟨hkept, ?_⟩
  intro reply hreply
  dsimp only at hreply ⊢
  cases hr : (st.authenticate T token w).1 with
  | error =>
    rw [hr] at hreply
    cases hreply
  | ok ident =>
    rw [hr] at hreply
    cases hreply
    rcases hident ident hr with ⟨hstored, hhash⟩
    exact ⟨hstored, fun _ => hhash, nofun⟩

lemma doAuth_answers (hs : st.Sound T now) (hdraws : Store.Draws T before now st w)
    (hello : Hello) (body : AuthBody) :
    st.Answers T before now (decide (body.token ≠ "")) (doAuth T A st hello body w) := by
  have hr : st.Answers T before now (decide (body.token ≠ ""))
      (if body.token ≠ "" then authByToken T st body.token w
        else if body.username ≠ "" then authByPasswordWithCode T A st hello body w
        else (.error .noCredentials, st)) := by
    by_cases htok : body.token ≠ ""
    · rw [if_pos htok, decide_eq_true htok]
      exact authByToken_answers hs body.token
    · rw [if_neg htok, decide_eq_false htok]
      split
      · exact authByPasswordWithCode_answers hs hdraws hello body
      · exact .refused hs _ _
  -- The reply differs from the identity in the device only.
  unfold doAuth
  dsimp only
  split
  · exact ⟨hr.kept, nofun⟩
  · next ident hident =>
    refine ⟨hr.kept, ?_⟩
    intro reply hreply
    cases hreply
    exact hr.issues ident hident

structure Server.Served (T : Tokens) (before now : List String) (st : Store) (request : Request)
    (r : Response × Store) : Prop where
  sound : r.2.Sound T now
  live : ∀ i : HandedOut, i.resumeToken ∈ before → st.Live T i →
    i.resumeToken ∈ Server.consumedBy request r.1 ∨ r.2.Live T i
  stays : ∀ id, (st.sessions.lookup id).isSome → (r.2.sessions.lookup id).isSome
  issues : ∀ i ∈ Server.handedOutBy request r.1, r.2.Issues T now i

lemma Server.Served.of_kept {request : Request} {r : Response × Store}
    (hkept : st.Kept T before now r.2)
    (hissues : ∀ i ∈ Server.handedOutBy request r.1, r.2.Issues T now i) :
    Server.Served T before now st request r :=
  ⟨hkept.sound, fun i hi hlive => .inr (hkept.live i hi hlive), hkept.stays, hissues⟩

variable (hs : st.Sound T now)
include hs

variable (hdraws : Store.Draws T before now st w)
include hdraws

lemma Server.serve_auth (hello : Hello) (body : AuthBody) :
    Server.Served T before now st (.auth hello body) (serve T A st w (.auth hello body)) := by
  have hans := doAuth_answers (A := A) hs hdraws hello body
  unfold serve
  dsimp only
  split
  · next reply st' hreply =>
    rw [hreply] at hans
    refine .of_kept hans.kept ?_
    intro i hi
    rw [mem_singleton.mp hi]
    exact hans.issues reply rfl
  · next e st' herror =>
    rw [herror] at hans
    exact .of_kept hans.kept nofun

lemma Server.serve_resume {presented : String} (lastAckSeq : Nat)
    (hhash : ∀ t ∈ before, T.hashToken t = T.hashToken presented → t = presented) :
    Server.Served T before now st (.resume presented lastAckSeq)
      (serve T A st w (.resume presented lastAckSeq)) := by
  unfold serve doResume
  dsimp only
  rcases Store.resume_spec hs hdraws hhash with
    ⟨e, herror, hkept⟩ | ⟨_, hident, hconsumes, hgrant⟩
  · rw [herror]
    exact .of_kept hkept nofun
  rw [hident]
  refine ⟨hconsumes.sound, ?_, hconsumes.stays, ?_⟩
  · intro i hi hlive
    refine (hconsumes.live i hi hlive).imp_left ?_
    rintro rfl
    exact mem_singleton_self _
  · intro i hi
    rw [mem_singleton.mp hi]
    exact hgrant.issues

lemma Server.serve_served (request : Request) (hhash : ∀ p ∈ presentedBy request,
    ∀ t ∈ before, T.hashToken t = T.hashToken p → t = p) :
    Server.Served T before now st request (serve T A st w request) := by
  cases request with
  | auth => exact serve_auth hs hdraws ..
  | resume presented => exact serve_resume hs hdraws _ (hhash presented (mem_singleton_self _))
  | revoke => exact .of_kept (Store.revoke_kept hs ..) nofun
  | revokeOwned => exact .of_kept (Store.revokeOwned_kept hs ..) nofun
  | revokeAll userID keep =>
    exact .of_kept (Store.revokeEach_kept w.now keep _ (0, st) hs) nofun

end Serving

namespace Server

variable {T : Tokens} {A : Accounts}

/-- A token that was handed out: its session is stored; for a bearer token it is a hash, otherwise
used or the token to resume with. -/
structure Accounted (T : Tokens) (g : Server) (i : HandedOut) : Prop where
  stored : (g.store.sessions.lookup i.sessionID).isSome
  bearer : i.forBearer = true → ∃ t ∈ g.drawn, i.resumeToken = T.hashToken t
  plain : i.forBearer = false →
    i.resumeToken ∈ g.drawn ∧ (i.resumeToken ∈ g.consumed ∨ g.store.Live T i)

structure Sound (T : Tokens) (g : Server) : Prop where
  store : g.store.Sound T g.drawn
  tokens : ∀ t ∈ g.drawn, T.IsToken t
  handedOut : ∀ i ∈ g.handedOut, g.Accounted T i

lemma sound_new (T : Tokens) : new.Sound T :=
  ⟨⟨nofun, nofun, nofun⟩, nofun, nofun⟩

lemma Fresh.draws {g : Server} {call : Request × World} (hfresh : g.Fresh T call) :
    Store.Draws T g.drawn (g.step T A call).2.drawn g.store call.2 := by
  refine ⟨hfresh.sessionID, ?_⟩
  intro t ht
  refine ⟨mem_append_left _ (mem_append_right _ (Option.mem_toList.mpr ht)), ?_⟩
  intro u hu heq
  have hsame := hfresh.hash t (mem_append_left _ (Option.mem_toList.mpr ht)) u hu heq
  exact (hfresh.resumeToken t ht).2 (hsame ▸ hu)

lemma Sound.step {g : Server} (hs : g.Sound T) {call : Request × World}
    (hfresh : g.Fresh T call) : (g.step T A call).2.Sound T := by
  have hsub : g.drawn ⊆ (g.step T A call).2.drawn := subset_append_right _ _
  have hserved := serve_served (A := A) (hs.store.mono hsub) hfresh.draws call.1
    fun p hp => hfresh.hash p (mem_append_right _ hp)
  refine ⟨hserved.sound, ?_, ?_⟩
  · intro t ht
    rcases mem_append.mp ht with hnew | hold
    · rcases mem_append.mp hnew with htok | hresume
      · exact (hfresh.token t (Option.mem_toList.mp htok)).1
      · exact (hfresh.resumeToken t (Option.mem_toList.mp hresume)).1
    · exact hs.tokens t hold
  · intro i hi
    rcases mem_append.mp hi with hnew | hold
    · have hissued := hserved.issues i hnew
      exact ⟨hissued.stored, hissued.bearer, fun hplain => (hissued.plain hplain).imp_right .inr⟩
    have hold := hs.handedOut i hold
    refine ⟨hserved.stays _ hold.stored, ?_, ?_⟩
    · intro hbearer
      rcases hold.bearer hbearer with ⟨t, ht, heq⟩
      exact ⟨t, hsub ht, heq⟩
    · intro hplain
      rcases hold.plain hplain with ⟨hdrawn, hcons | hlive⟩
      · exact ⟨hsub hdrawn, .inl (mem_append_right _ hcons)⟩
      refine ⟨hsub hdrawn, (hserved.live i hdrawn hlive).imp_left ?_⟩
      exact mem_append_left _

lemma sound_final {calls : List (Request × World)}
    (hfresh : Machine.Guarded (step T A) (Fresh T) new calls) :
    (final (step T A) new calls).Sound T :=
  Machine.guarded_final _ (fun _ _ hs hcall => hs.step hcall) (sound_new T) hfresh

end Server

open Server (Fresh Served new step)

/-- The session of a token that was handed out is stored.  While it is live and the token unused,
`RESUME` gives that session exactly if the token was not handed out for a bearer token.  Only the
tokens in play must have different hashes. -/
theorem handed_out_resumes_iff (T : Tokens) (A : Accounts) {calls : List (Request × World)}
    (hfresh : Machine.Guarded (step T A) (Fresh T) new calls)
    {i : HandedOut} (hi : i ∈ (final (step T A) new calls).handedOut)
    (hhash : ∀ t ∈ (final (step T A) new calls).drawn,
      T.hashToken t = T.hashToken i.resumeToken → t = i.resumeToken)
    {w : World} {next : String} (hnext : w.resumeToken = some next) (lastAckSeq : Nat) :
    ∃ sess, (final (step T A) new calls).store.sessions.lookup i.sessionID =
        some sess ∧ (sess.revokedAt = 0 → sess.expiresAt = 0 ∨ w.now ≤ sess.expiresAt →
        i.resumeToken ∉ (final (step T A) new calls).consumed →
        ((doResume T (final (step T A) new calls).store i.resumeToken
            lastAckSeq w).1 = .ok ⟨i.sessionID, lastAckSeq, next⟩ ↔ i.forBearer = false)) := by
  have hs := Server.sound_final hfresh
  have haccounted := hs.handedOut i hi
  rcases Option.isSome_iff_exists.mp haccounted.stored with ⟨sess, hsess⟩
  refine ⟨sess, hsess, ?_⟩
  intro hrevoked hexp hcons
  unfold doResume
  dsimp only
  cases hbearer : i.forBearer with
  | true =>
    rcases haccounted.bearer hbearer with ⟨t, _, heq⟩
    rw [heq] at hhash
    rcases Store.resume_of_hash (w := w) hs.store hs.tokens hhash with ⟨e, herror⟩
    rw [heq, herror]
    exact ⟨nofun, nofun⟩
  | false =>
    have hlive := (haccounted.plain hbearer).2.resolve_left hcons
    have hval : validSession w.now sess = true := by
      unfold validSession
      rw [decide_eq_true_eq]
      refine ⟨hrevoked, ?_⟩
      rintro ⟨hnonzero, _⟩
      rcases hexp with hzero | hlater
      · exact hnonzero hzero
      · omega
    rcases Store.resume_of_live hs.store hlive hsess hval hnext with ⟨u, hok, hid⟩
    rw [hok, ← hid]
    exact ⟨fun _ => rfl, fun _ => rfl⟩

namespace Sample

/-- Tokens begin with one letter and hashes with another. -/
def tokens : Tokens where
  hashToken text := "h" ++ text
  IsToken text := text.toList.head? = some 't'
  not_isToken_hashToken := by
    intro text h
    rw [String.toList_append] at h
    cases h
  hashToken_ne_empty := by
    intro text h
    have hlist := congrArg String.toList h
    rw [String.toList_append] at hlist
    cases hlist

instance : DecidablePred tokens.IsToken :=
  fun text => inferInstanceAs (Decidable (text.toList.head? = some 't'))

/-- Passwords are kept with their salt. -/
def accounts : Accounts where
  fold := id
  trimSpace := id
  encode salt password := salt ++ password
  verifyPassword password encoded := encoded.endsWith password

/-- A call that draws these tokens. -/
def world (now : Int) (sessionID token resumeToken : String) : World where
  now := now
  userID := "u1"
  deviceID := "d1"
  otherDeviceID := "d2"
  sessionID := sessionID
  salt := some "salt"
  token := some token
  resumeToken := some resumeToken
  allowed := true
  twoFactorEnabled := false
  secondFactor := none

/-- An account is registered and comes back with its bearer token. -/
def comesBack : List (Request × World) :=
  [(.auth ⟨"phone", "web"⟩ ⟨"", "bob", "secret", "", "", true⟩, world 1 "s1" "t1" "t2"),
    (.auth ⟨"phone", "web"⟩ ⟨"t1", "", "", "", "", false⟩, world 2 "s2" "t3" "t4")]

end Sample

/-- The token given at the registration resumes the session, also after the bearer token was
used. -/
theorem handed_out_resumes_iff_registered : (doResume Sample.tokens
        (final (step Sample.tokens Sample.accounts) new
          Sample.comesBack).store "t2" 0 (Sample.world 3 "s3" "t5" "t6")).1 =
      .ok ⟨"s1", 0, "t6"⟩ := by
  have hfresh : Machine.Guarded (step Sample.tokens Sample.accounts)
      (Fresh Sample.tokens) new Sample.comesBack := by decide +kernel
  rcases handed_out_resumes_iff Sample.tokens Sample.accounts hfresh
    (i := ⟨false, "s1", "t2"⟩) (by decide +kernel) (by decide +kernel)
    (w := Sample.world 3 "s3" "t5" "t6") rfl 0 with
    ⟨sess, hsess, hiff⟩
  cases hsess
  exact (hiff rfl (.inr (by decide)) (by decide +kernel)).mpr rfl

/-- The reply to the bearer token holds the hash of the session's token, which is refused though
nothing was resumed. -/
theorem bearer_reply_not_resumable :
    let g := final (step Sample.tokens Sample.accounts) new Sample.comesBack
    Machine.Guarded (step Sample.tokens Sample.accounts) (Fresh Sample.tokens)
        new Sample.comesBack ∧
      ⟨true, "s1", "ht2"⟩ ∈ g.handedOut ∧
      g.store.sessions.lookup "s1" =
        some ⟨"s1", "u1", "phone", "ht1", "ht2", 1, 1 + sessionTTL, 0, "", 0⟩ ∧
      g.consumed = [] ∧
      (doResume Sample.tokens g.store "ht2" 0 (Sample.world 3 "s3" "t5" "t6")).1 =
        .error (.resumeExpired, "resume rejected; re-authenticate") := by
  decide +kernel

end SyncApp.Auth
