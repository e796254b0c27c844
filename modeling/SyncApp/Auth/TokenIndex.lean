import SyncApp.Auth.Service
import SyncApp.Foundations.Tables

/-!
# Resume tokens and their sessions

The store finds a session by the hash of its resume token.  Each call of the service keeps every
token of its session, or uses the one presented and gives another.

Main results:

- `Store.resume_spec`, `Store.authenticate_spec`: what a resumption and a bearer token do to the
  index.
- `Store.register_grants`, `Store.loginWithCode_grants`: what a new session does to it.
-/

namespace SyncApp.Auth

open Foundations (update_cases)
open Function (update update_of_ne update_self)
open AList (lookup_insert lookup_insert_ne)

/-- A resume token that the server has handed out. -/
structure HandedOut where
  forBearer : Bool
  sessionID : String
  resumeToken : String
deriving DecidableEq

/-! ## What the store keeps -/

/-- The resume index lists each session under its own token and nothing else; these are hashes of
drawn tokens, and the accounts exist. -/
structure Store.Sound (T : Tokens) (drawn : List String) (st : Store) : Prop where
  account : ∀ id u, st.users id = some u → u.id = id
  session : ∀ id sess, st.sessions.lookup id = some sess →
    sess.id = id ∧ (st.users sess.userID).isSome ∧ ∃ t ∈ drawn, sess.resumeToken = T.hashToken t
  indexed : ∀ h id, st.resumeIndex h = some id →
    (∃ t ∈ drawn, h = T.hashToken t) ∧
      ∃ sess, st.sessions.lookup id = some sess ∧ sess.resumeToken = h

/-- The token is the one that its session is resumed with. -/
def Store.Live (T : Tokens) (st : Store) (i : HandedOut) : Prop :=
  st.resumeIndex (T.hashToken i.resumeToken) = some i.sessionID

/-- The store after a call: sound for the tokens drawn by now, with earlier tokens keeping their
sessions and no session gone. -/
structure Store.Kept (T : Tokens) (before now : List String) (st st' : Store) : Prop where
  sound : st'.Sound T now
  live : ∀ i : HandedOut, i.resumeToken ∈ before → st.Live T i → st'.Live T i
  stays : ∀ id, (st.sessions.lookup id).isSome → (st'.sessions.lookup id).isSome

namespace Store

variable {T : Tokens} {A : Accounts} {before now : List String} {st st' st'' : Store} {w : World}

lemma Sound.mono (hsound : st.Sound T before) (hsub : before ⊆ now) : st.Sound T now where
  account := hsound.account
  session id sess hsess := by
    rcases hsound.session id sess hsess with ⟨hid, huser, t, ht, htoken⟩
    exact ⟨hid, huser, t, hsub ht, htoken⟩
  indexed h id hidx := by
    rcases hsound.indexed h id hidx with ⟨⟨t, ht, htoken⟩, hsess⟩
    exact ⟨⟨t, hsub ht, htoken⟩, hsess⟩

lemma Kept.refl (hsound : st.Sound T now) : st.Kept T before now st :=
  ⟨hsound, fun _ _ hlive => hlive, fun _ hsome => hsome⟩

lemma Kept.trans (h : st.Kept T before now st') (h' : st'.Kept T before now st'') :
    st.Kept T before now st'' where
  sound := h'.sound
  live i hi hlive := h'.live i hi (h.live i hi hlive)
  stays id hsome := h'.stays id (h.stays id hsome)

variable {next : String} {sess : Session} {at_ : Int} {u : User}

lemma isSome_lookup_insert {id id' : String} (h : (st.sessions.lookup id').isSome) :
    ((st.sessions.insert id sess).lookup id').isSome := by
  rcases eq_or_ne id' id with rfl | hne
  · rw [lookup_insert]
    rfl
  · rwa [lookup_insert_ne hne]

section

variable (hsound : st.Sound T now)
include hsound

variable {id : String}

lemma Sound.write (hsessions : st'.sessions = st.sessions.insert id sess)
    (husers : st'.users = st.users) (hid : sess.id = id) (huser : (st.users sess.userID).isSome)
    (htoken : ∃ t ∈ now, sess.resumeToken = T.hashToken t)
    (hidx : ∀ h id', st'.resumeIndex h = some id' →
      id' = id ∧ h = sess.resumeToken ∨ id' ≠ id ∧ st.resumeIndex h = some id') :
    st'.Sound T now := by
  refine ⟨husers ▸ hsound.account, ?_, ?_⟩
  · intro id' s hs
    rw [hsessions] at hs
    rw [husers]
    rcases eq_or_ne id' id with rfl | hne
    · rw [lookup_insert] at hs
      cases hs
      exact ⟨hid, huser, htoken⟩
    · rw [lookup_insert_ne hne] at hs
      exact hsound.session id' s hs
  · intro h id' hentry
    rw [hsessions]
    rcases hidx h id' hentry with ⟨rfl, rfl⟩ | ⟨hne, hold⟩
    · exact ⟨htoken, sess, lookup_insert _, rfl⟩
    · rw [lookup_insert_ne hne]
      exact hsound.indexed h id' hold

/-- A session may be written again with the same account and the same resume token. -/
lemma Kept.setSession {sess' : Session} (hsess : st.sessions.lookup id = some sess)
    (hid : sess'.id = sess.id) (huser : sess'.userID = sess.userID)
    (hresume : sess'.resumeToken = sess.resumeToken) :
    st.Kept T before now (st.setSession id sess') where
  sound := by
    rcases hsound.session id sess hsess with ⟨hsame, hacct, hdrawn⟩
    refine hsound.write rfl rfl (hid.trans hsame) (huser ▸ hacct) (hresume ▸ hdrawn) ?_
    intro h id' hidx
    rcases eq_or_ne id' id with rfl | hne
    · rcases hsound.indexed h id' hidx with ⟨_, s, hs, htoken⟩
      rw [hs] at hsess
      cases hsess
      exact .inl ⟨rfl, htoken.symm.trans hresume.symm⟩
    · exact .inr ⟨hne, hidx⟩
  live _ _ hlive := hlive
  stays _ hsome := isSome_lookup_insert hsome

lemma Kept.revokeSession (h : st.revokeSession id at_ = some st') : st.Kept T before now st' := by
  rcases Option.map_eq_some_iff.mp h with ⟨_, hsess, rfl⟩
  exact Kept.setSession hsound hsess rfl rfl rfl

lemma Kept.revokeSession_getD (id : String) (at_ : Int) :
    st.Kept T before now ((st.revokeSession id at_).getD st) := by
  cases h : st.revokeSession id at_ with
  | none => exact .refl hsound
  | some => exact .revokeSession hsound h

lemma Kept.touchSession {clock expiresAt : Int}
    (h : st.touchSession clock id expiresAt = some st') : st.Kept T before now st' := by
  rcases Option.map_eq_some_iff.mp h with ⟨_, hsess, rfl⟩
  split
  · exact .refl hsound
  · split
    · exact .setSession hsound hsess rfl rfl rfl
    · exact .refl hsound

lemma Kept.accounts {users : String → Option User}
    (hacct : ∀ id u, users id = some u → u.id = id)
    (husers : ∀ id, (st.users id).isSome → (users id).isSome) (usersByName : String → Option String)
    (devices : String → Option Device) : st.Kept T before now
      { st with users := users, usersByName := usersByName, devices := devices } where
  sound :=
    { account := hacct
      session := by
        intro id sess hsess
        rcases hsound.session id sess hsess with ⟨hid, huser, htoken⟩
        exact ⟨hid, husers _ huser, htoken⟩
      indexed := hsound.indexed }
  live _ _ hlive := hlive
  stays _ hsome := hsome

lemma Kept.createUser (h : st.createUser u = some st') :
    st.Kept T before now st' ∧ st'.users u.id = some u ∧ st'.sessions = st.sessions := by
  unfold Store.createUser at h
  split at h
  · cases h
  cases h
  refine ⟨.accounts hsound ?_ ?_ _ _, update_self _ _ _, rfl⟩
  · intro id u' hu'
    rcases update_cases hu' with ⟨rfl, hnew⟩ | ⟨-, hold⟩
    · cases hnew
      rfl
    · exact hsound.account id u' hold
  · intro id hsome
    rcases eq_or_ne id u.id with rfl | hne
    · rw [update_self]
      rfl
    · rwa [update_of_ne hne]

lemma Kept.upsertDevice {d : Device} (h : st.upsertDevice d = some st') :
    st.Kept T before now st' ∧ st'.users = st.users ∧ st'.sessions = st.sessions := by
  unfold Store.upsertDevice at h
  split at h
  · cases h
    exact ⟨.accounts hsound hsound.account (fun _ h => h) _ _, rfl, rfl⟩
  split at h
  · cases h
  cases h
  exact ⟨.accounts hsound hsound.account (fun _ h => h) _ _, rfl, rfl⟩

lemma Kept.startDevice {deviceID platform device : String}
    (h : st.startDevice u deviceID platform w = .ok (device, st')) :
    st.Kept T before now st' ∧ st'.users = st.users ∧ st'.sessions = st.sessions := by
  unfold Store.startDevice at h
  dsimp only at h
  split at h
  · next hdev =>
    cases h
    exact Kept.upsertDevice hsound hdev
  · split at h
    · next hdev =>
      cases h
      exact Kept.upsertDevice hsound hdev
    · cases h

lemma Kept.createSession {resume : String} (hfresh : st.sessions.lookup sess.id = none)
    (huser : (st.users sess.userID).isSome) (htoken : sess.resumeToken = T.hashToken resume)
    (hnow : resume ∈ now) (hpre : ∀ t ∈ before, T.hashToken t ≠ T.hashToken resume) :
    st.Kept T before now (st.createSession sess) ∧
      (st.createSession sess).Live T ⟨false, sess.id, resume⟩ ∧
      ((st.createSession sess).sessions.lookup sess.id).isSome := by
  have hidx : (st.createSession sess).resumeIndex =
      update st.resumeIndex (T.hashToken resume) (some sess.id) := by
    unfold Store.createSession
    rw [htoken, if_pos (T.hashToken_ne_empty resume)]
  have hlook : (st.createSession sess).sessions = st.sessions.insert sess.id sess := rfl
  refine ⟨⟨hsound.write hlook rfl rfl huser ⟨resume, hnow, htoken⟩ ?_, ?_, ?_⟩, ?_, ?_⟩
  · intro h id hentry
    rw [hidx] at hentry
    rcases update_cases hentry with ⟨rfl, hnew⟩ | ⟨-, hold⟩
    · exact .inl ⟨(Option.some.inj hnew).symm, htoken.symm⟩
    refine .inr ⟨?_, hold⟩
    rintro rfl
    rcases hsound.indexed h _ hold with ⟨_, s, hs, _⟩
    rw [hfresh] at hs
    cases hs
  · intro i hi hlive
    unfold Live
    rw [hidx, update_of_ne (hpre _ hi)]
    exact hlive
  · intro id hsome
    exact isSome_lookup_insert hsome
  · unfold Live
    rw [hidx, update_self]
  · rw [hlook, lookup_insert]
    rfl

end

/-- The session is stored, and the token that its holder is given is the one to resume with. -/
structure Granted (T : Tokens) (now : List String) (st : Store) (sess : Session) : Prop where
  drawn : sess.resumeToken ∈ now
  live : st.Live T ⟨false, sess.id, sess.resumeToken⟩
  stored : (st.sessions.lookup sess.id).isSome

/-- What a call draws is new to the store, and so is its hash. -/
structure Draws (T : Tokens) (before now : List String) (st : Store) (w : World) : Prop where
  sessionID : st.sessions.lookup w.sessionID = none
  resumeToken : ∀ t ∈ w.resumeToken, t ∈ now ∧ ∀ u ∈ before, T.hashToken u ≠ T.hashToken t

/-- A call that may grant a session: the store is kept, and what is granted is granted. -/
structure Grants {α : Type} (T : Tokens) (before now : List String) (st : Store)
    (session : α → Session) (r : Except AuthError α × Store) : Prop where
  kept : st.Kept T before now r.2
  granted : ∀ a, r.1 = .ok a → Granted T now r.2 (session a)

lemma Grants.refused {α : Type} {session : α → Session} (hsound : st.Sound T now)
    (e : AuthError) : Grants T before now st session (.error e, st) :=
  ⟨.refl hsound, nofun⟩

lemma Grants.identity (hkept : st.Kept T before now st') {r : Except AuthError Session × Store}
    (h : Grants T before now st' id r) :
    Grants T before now st Identity.session (r.1.map (⟨·, u⟩), r.2) := by
  refine ⟨hkept.trans h.kept, ?_⟩
  intro ident hident
  cases hr : r.1 with
  | error =>
    rw [hr] at hident
    cases hident
  | ok sess =>
    rw [hr] at hident
    cases hident
    exact h.granted sess hr

section

variable (hsound : st.Sound T now)
include hsound

section

variable (hdraws : Draws T before now st w)
include hdraws

lemma startSession_grants (huser : (st.users u.id).isSome) (deviceID platform : String) :
    Grants T before now st id (st.startSession T u deviceID platform w) := by
  unfold startSession
  split
  · exact .refused hsound _
  · next device st' hdev =>
    have hregistered : st.Kept T before now st' ∧ _ := Kept.startDevice hsound hdev
    rcases hregistered with ⟨hkept, husers, hsessions⟩
    split
    · next plainToken plainResume _ hresume =>
      rcases hdraws.resumeToken plainResume hresume with ⟨hnow, hpre⟩
      let sess : Session := ⟨w.sessionID, u.id, device, T.hashToken plainToken,
        T.hashToken plainResume, w.now, w.now + sessionTTL, 0, "", 0⟩
      have hfresh : st'.sessions.lookup sess.id = none := hsessions ▸ hdraws.sessionID
      rcases Kept.createSession hkept.sound hfresh (husers ▸ huser) rfl hnow hpre with
        ⟨hcreated, hlive, hstored⟩
      refine ⟨hkept.trans hcreated, ?_⟩
      intro sess hsess
      cases hsess
      exact ⟨hnow, hlive, hstored⟩
    · exact ⟨hkept, nofun⟩

theorem register_grants (username password displayName deviceID platform : String) :
    Grants T before now st Identity.session
      (st.register T A username password displayName deviceID platform w) := by
  unfold register
  dsimp only
  split
  · exact .refused hsound _
  split
  · exact .refused hsound _
  split
  · exact .refused hsound _
  split
  · exact .refused hsound _
  · next st' hcreated =>
    have hadded : st.Kept T before now st' ∧ _ := Kept.createUser hsound hcreated
    rcases hadded with ⟨hkept, huser, hsessions⟩
    have hdraws' : Draws T before now st' w :=
      ⟨hsessions ▸ hdraws.sessionID, hdraws.resumeToken⟩
    exact (startSession_grants hkept.sound hdraws' (Option.isSome_of_eq_some huser)
      deviceID platform).identity hkept

theorem loginWithCode_grants (username password code deviceID platform : String) :
    Grants T before now st Identity.session
      (st.loginWithCode T A username password code deviceID platform w) := by
  unfold loginWithCode
  split
  · exact .refused hsound _
  · next u hu =>
    have huser : (st.users u.id).isSome := by
      rcases Option.bind_eq_some_iff.mp hu with ⟨id, _, hid⟩
      rw [hsound.account id u hid, hid]
      rfl
    split
    · exact .refused hsound _
    split
    · exact .refused hsound _
    split
    · exact .refused hsound _
    split
    · exact .refused hsound _
    · exact (startSession_grants hsound hdraws huser deviceID platform).identity
        (.refl hsound)

end

lemma refresh_spec (clock : Int) (sess : Session) :
    st.Kept T before now (st.refresh clock sess).2 ∧ (st.refresh clock sess).1.id = sess.id ∧
      (st.refresh clock sess).1.resumeToken = sess.resumeToken := by
  unfold refresh
  split
  · exact ⟨.refl hsound, rfl, rfl⟩
  split
  · exact ⟨.refl hsound, rfl, rfl⟩
  dsimp only
  split
  · next htouched => exact ⟨.touchSession hsound htouched, rfl, rfl⟩
  · exact ⟨.refl hsound, rfl, rfl⟩

/-- A bearer token opens a stored session, and the record that comes with it has the hash of a
resume token. -/
theorem authenticate_spec (token : String) : st.Kept T before now (st.authenticate T token w).2 ∧
      ∀ ident, (st.authenticate T token w).1 = .ok ident →
        ((st.authenticate T token w).2.sessions.lookup ident.session.id).isSome ∧
          ∃ t ∈ now, ident.session.resumeToken = T.hashToken t := by
  unfold authenticate
  split
  · exact ⟨.refl hsound, nofun⟩
  · next sess hsess =>
    rcases Option.bind_eq_some_iff.mp hsess with ⟨id, _, hid⟩
    rcases hsound.session id sess hid with ⟨rfl, _, hhash⟩
    have hrefreshed : st.Kept T before now _ ∧ _ := refresh_spec hsound w.now sess
    rcases hrefreshed with ⟨hkept, hsame, hresume⟩
    split
    · exact ⟨.refl hsound, nofun⟩
    dsimp only
    split
    · exact ⟨hkept, nofun⟩
    refine ⟨hkept, ?_⟩
    intro ident hident
    cases hident
    rw [hsame, hresume]
    exact ⟨hkept.stays _ (Option.isSome_of_eq_some hid), hhash⟩

lemma detectResumeReplay_kept (hashed : String) (clock : Int) :
    st.Kept T before now (st.detectResumeReplay hashed clock).2 := by
  unfold detectResumeReplay
  split
  · exact .refl hsound
  · split
    · exact .revokeSession_getD hsound _ _
    · exact .refl hsound

end

/-- The store after a token was used: as `Kept`, but for that token. -/
structure Consumes (T : Tokens) (before now : List String) (presented : String)
    (st st' : Store) : Prop where
  sound : st'.Sound T now
  live : ∀ i : HandedOut, i.resumeToken ∈ before → st.Live T i →
    i.resumeToken = presented ∨ st'.Live T i
  stays : ∀ id, (st.sessions.lookup id).isSome → (st'.sessions.lookup id).isSome

section

variable (hsound : st.Sound T now)
include hsound

/-- After a rotation the session has the new token, and every other token its session. -/
lemma rotateResumeToken_spec {id presented : String} (hnow : next ∈ now)
    (hpre : ∀ t ∈ before, T.hashToken t ≠ T.hashToken next)
    (hhash : ∀ t ∈ before, T.hashToken t = T.hashToken presented → t = presented)
    (h : st.rotateResumeToken id (T.hashToken presented) (T.hashToken next) at_ = some st') :
    Consumes T before now presented st st' ∧ st'.users = st.users ∧
      st'.Live T ⟨false, id, next⟩ ∧ (st'.sessions.lookup id).isSome := by
  unfold rotateResumeToken at h
  split at h
  · cases h
  · next sess hsess =>
    rcases hsound.session id sess hsess with ⟨hid, huser, _⟩
    split at h
    · cases h
    · next htoken =>
      rw [not_not] at htoken
      cases h
      refine ⟨⟨hsound.write rfl rfl hid huser ⟨next, hnow, rfl⟩ ?_, ?_, ?_⟩, rfl, ?_, ?_⟩
      · intro h id' hidx
        rcases update_cases hidx with ⟨rfl, hnew⟩ | ⟨-, hkept⟩
        · exact .inl ⟨(Option.some.inj hnew).symm, rfl⟩
        rcases update_cases hkept with ⟨-, hnone⟩ | ⟨hold, hentry⟩
        · cases hnone
        refine .inr ⟨?_, hentry⟩
        rintro rfl
        rcases hsound.indexed h id' hentry with ⟨_, s, hs, hresume⟩
        rw [hs] at hsess
        cases hsess
        exact hold (hresume.symm.trans htoken)
      · intro i hi hlive
        by_cases hpresented : i.resumeToken = presented
        · exact .inl hpresented
        have hold : T.hashToken i.resumeToken ≠ T.hashToken presented :=
          fun heq => hpresented (hhash _ hi heq)
        refine .inr ?_
        unfold Live
        dsimp only
        rw [update_of_ne (hpre _ hi), update_of_ne hold]
        exact hlive
      · intro id' hsome
        exact isSome_lookup_insert hsome
      · exact update_self _ _ _
      · rw [lookup_insert]
        rfl

lemma getSessionByResumeToken_eq_some {h : String}
    (hget : st.getSessionByResumeToken h = some sess) :
    st.sessions.lookup sess.id = some sess ∧ sess.resumeToken = h := by
  rcases Option.bind_eq_some_iff.mp hget with ⟨id, hidx, hsess⟩
  rcases hsound.session id sess hsess with ⟨rfl, -, -⟩
  rcases hsound.indexed h _ hidx with ⟨_, s, hs, htoken⟩
  rw [hsess] at hs
  cases hs
  exact ⟨hsess, htoken⟩

/-- A resumption is refused and keeps the tokens, or it uses one and gives one. -/
theorem resume_spec (hdraws : Draws T before now st w) {presented : String}
    (hhash : ∀ t ∈ before, T.hashToken t = T.hashToken presented → t = presented) :
    (∃ e, (st.resume T presented w).1 = .error e ∧
        st.Kept T before now (st.resume T presented w).2) ∨
      ∃ ident, (st.resume T presented w).1 = .ok ident ∧
        Consumes T before now presented st (st.resume T presented w).2 ∧
        Granted T now (st.resume T presented w).2 ident.session := by
  unfold resume
  dsimp only
  split
  · exact .inl ⟨_, rfl, detectResumeReplay_kept hsound _ _⟩
  · next sess hget =>
    rcases getSessionByResumeToken_eq_some hsound hget with ⟨hsess, _⟩
    rcases hsound.session _ sess hsess with ⟨_, huser, _⟩
    split
    · exact .inl ⟨_, rfl, .refl hsound⟩
    split
    · exact .inl ⟨_, rfl, .refl hsound⟩
    · next next hnext =>
      rcases hdraws.resumeToken next hnext with ⟨hnow, hpre⟩
      split
      · exact .inl ⟨_, rfl, .revokeSession_getD hsound _ _⟩
      · next st' hrotated =>
        rcases rotateResumeToken_spec hsound hnow hpre hhash hrotated with
          ⟨hcons, husers, hlive, hstored⟩
        split
        · next hnone =>
          rw [husers] at hnone
          rw [hnone] at huser
          cases huser
        · exact .inr ⟨_, rfl, hcons, hnow, hlive, hstored⟩

lemma resume_of_live {i : HandedOut} (hlive : st.Live T i)
    (hsess : st.sessions.lookup i.sessionID = some sess) (hval : validSession w.now sess = true)
    (hnext : w.resumeToken = some next) :
    ∃ u, (st.resume T i.resumeToken w).1 = .ok ⟨{ sess with resumeToken := next }, u⟩ ∧
      sess.id = i.sessionID := by
  have hget : st.getSessionByResumeToken (T.hashToken i.resumeToken) = some sess :=
    Option.bind_eq_some_iff.mpr ⟨_, hlive, hsess⟩
  rcases getSessionByResumeToken_eq_some hsound hget with ⟨hstored, htoken⟩
  rcases hsound.session _ sess hsess with ⟨hid, huser, _⟩
  rcases Option.isSome_iff_exists.mp huser with ⟨u, hu⟩
  refine ⟨u, ?_, hid⟩
  unfold resume rotateResumeToken
  simp [hget, hval, hnext, hstored, htoken, hu]

/-- The hash of a drawn token resumes nothing, unless it has the hash of a token. -/
lemma resume_of_hash (htok : ∀ t ∈ now, T.IsToken t) {text : String}
    (hhash : ∀ t ∈ now, T.hashToken t = T.hashToken (T.hashToken text) → t = T.hashToken text) :
    ∃ e, (st.resume T (T.hashToken text) w).1 = .error e := by
  have hget : st.getSessionByResumeToken (T.hashToken (T.hashToken text)) = none := by
    refine Option.eq_none_iff_forall_ne_some.mpr ?_
    intro sess hsome
    rcases Option.bind_eq_some_iff.mp hsome with ⟨id, hidx, _⟩
    rcases hsound.indexed _ id hidx with ⟨⟨t, ht, heq⟩, _⟩
    exact T.not_isToken_hashToken text (hhash t ht heq.symm ▸ htok t ht)
  unfold resume
  dsimp only
  rw [hget]
  exact ⟨_, rfl⟩

lemma revoke_kept (sessionID : String) : st.Kept T before now (st.revoke sessionID w).2 := by
  unfold revoke
  split
  · exact .refl hsound
  · next h => exact .revokeSession hsound h

lemma revokeOwned_kept (userID sessionID : String) :
    st.Kept T before now (st.revokeOwned userID sessionID w).2 := by
  unfold revokeOwned
  split
  · exact .refl hsound
  · split
    · exact .refl hsound
    · exact revoke_kept hsound sessionID

end

lemma revokeEach_kept (clock : Int) (keep : String) (rows : List Session) (acc : Nat × Store)
    (hsound : acc.2.Sound T now) : acc.2.Kept T before now (revokeEach clock keep rows acc).2 := by
  induction rows generalizing acc with
  | nil => exact .refl hsound
  | cons sess rows ih =>
    unfold revokeEach
    split
    · exact ih _ hsound
    split
    · exact ih _ hsound
    · next st' h =>
      have hkept : acc.2.Kept T before now st' := .revokeSession hsound h
      exact hkept.trans (ih (acc.1 + 1, st') hkept.sound)

end Store

end SyncApp.Auth
