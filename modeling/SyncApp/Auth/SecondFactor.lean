import SyncApp.Auth.Service
import SyncApp.Foundations.Interleaving

/-!
# The second factor

`server/internal/auth/twofactor.go` and the part of `LoginWithCode` that asks for the factor, over
any store.  A store call may fail, before it has done its work or after.

Main results:

- `second_factor_fails_closed`: if the look-up of the factor is answered, a confirmed factor needs
  its code.
-/

namespace SyncApp.Auth
namespace Concurrent

open Foundations.Interleaving
open Function (update)

/-- The row of an account's factor. -/
structure TwoFactor where
  secretEnc : String
  confirmedAt : Int
  recoveryHashes : List String

/-- `Enabled`. -/
def TwoFactor.enabled (tf : TwoFactor) : Bool := tf.confirmedAt ≠ 0

/-- The errors of the calls. -/
inductive FactorError where
  | badCredentials
  | twoFactorRequired
  | badTOTPCode
  | noTOTPKey
  | notFound
  | unavailable
deriving DecidableEq

/-- What the factor rests on: the server's key, if configured, the secrets it opens, one-time codes,
and how recovery codes are read. -/
structure Factor where
  totpKey : Bool
  openSecret : String → Option String
  verify : String → String → Int → Bool
  normalizeRecoveryCode : String → String

/-- The calls of `store.TwoFactorStore` and `store.UserStore` that a login makes. -/
structure FactorStore (σ : Type) where
  getUserByUsername : σ → String → Except FactorError User
  getTwoFactor : σ → String → Except FactorError TwoFactor
  consumeRecoveryCode : String → String → σ → Except FactorError Bool × σ

/-- The accounts and factors of the in-memory store. -/
structure MemoryFactors where
  accounts : Store
  twoFactor : String → Option TwoFactor

/-- What is not there is `store.ErrNotFound`. -/
def orNotFound {α : Type} : Option α → Except FactorError α
  | some a => .ok a
  | none => .error .notFound

/-- The calls of the in-memory store. -/
def memoryFactors : FactorStore MemoryFactors where
  getUserByUsername st username := orNotFound (st.accounts.getUserByUsername username)
  getTwoFactor st userID := orNotFound (st.twoFactor userID)
  consumeRecoveryCode userID hash st :=
    match st.twoFactor userID with
    | none => (.ok false, st)
    | some tf =>
      if hash ∈ tf.recoveryHashes then
        let left := { tf with recoveryHashes := tf.recoveryHashes.erase hash }
        (.ok true, { st with twoFactor := update st.twoFactor userID (some left) })
      else (.ok false, st)

/-- What a store call meets: it is answered, it is refused, or it is carried out and the answer is
lost. -/
inductive Outage where
  | answered
  | refused
  | lost

/-- The clock, which is past its origin. -/
structure Instant where
  ms : Int
  pos : 0 < ms

/-- The store and the clock. -/
structure Server (σ : Type) where
  store : σ
  clock : Instant

section Calls

variable {σ α β : Type}

/-- One action of a call; the rest of it knows the answer and the time. -/
def perform (action : Server σ → α × Server σ) (rest : α → Instant → Task (Server σ) β) :
    Task (Server σ) β :=
  .act (fun s => (action s).2) fun s => rest (action s).1 s.clock

/-- A store call. -/
def ask (o : Outage) (op : σ → Except FactorError α × σ) (s : Server σ) :
    Except FactorError α × Server σ :=
  match o with
  | .answered => ((op s.store).1, { s with store := (op s.store).2 })
  | .refused => (.error .unavailable, s)
  | .lost => (.error .unavailable, { s with store := (op s.store).2 })

/-- A store call that only reads. -/
def fetch (o : Outage) (f : σ → Except FactorError α) : Server σ →
    Except FactorError α × Server σ :=
  ask o fun st => (f st, st)

variable (F : Factor) (A : Accounts) (B : FactorStore σ)

/-- The code is one of the factor's secret, now. -/
def live (tf : TwoFactor) (code : String) (now : Instant) : Bool :=
  F.totpKey && (F.openSecret tf.secretEnc).any fun secret => F.verify secret code now.ms

/-- `TwoFactorEnabled`: an error of the look-up counts as no factor. -/
def twoFactorEnabled (o : Outage) (userID : String) : Task (Server σ) Bool :=
  perform (fetch o fun st => B.getTwoFactor st userID) fun found _ =>
    match found with
    | .error _ => .done false
    | .ok tf => .done tf.enabled

/-- A live code, or a recovery code that the store then uses up. -/
def verifySecondFactor (outage : Nat → Outage) (userID code : String) :
    Task (Server σ) (Except FactorError Bool) :=
  let text := F.normalizeRecoveryCode code
  perform (fetch (outage 0) fun st => B.getTwoFactor st userID) fun found now =>
    match found with
    | .error e => .done (.error e)
    | .ok tf =>
      if ¬ F.totpKey then .done (.error .noTOTPKey)
      else if live F tf code now then .done (.ok true)
      else
        match tf.recoveryHashes.find? fun h => A.verifyPassword text h with
        | none => .done (.ok false)
        | some h =>
          perform (ask (outage 1) (B.consumeRecoveryCode userID h)) fun spent _ => .done spent

/-- `LoginWithCode`; the calls that `startSession` makes are taken for one. -/
def loginWithCode (startSession : User → String → String → σ → Except FactorError Session × σ)
    (outage : Nat → Outage) (username password code deviceID platform : String) :
    Task (Server σ) (Except FactorError (Session × User)) :=
  perform (fetch (outage 0) fun st => B.getUserByUsername st (A.handle username)) fun found _ =>
    match found with
    | .error .notFound => .done (.error .badCredentials)
    | .error e => .done (.error e)
    | .ok u =>
      if ¬ A.verifyPassword password u.passwordHash then .done (.error .badCredentials)
      else
        let start := perform (ask (outage 4) (startSession u deviceID platform)) fun r _ =>
          .done (r.map fun sess => (sess, u))
        (twoFactorEnabled B (outage 1) u.id).bind fun enabled =>
          if ¬ enabled then start
          else if code = "" then .done (.error .twoFactorRequired)
          else
            (verifySecondFactor F A B (fun n => outage (n + 2)) u.id code).bind fun r =>
              match r with
              | .error e => .done (.error e)
              | .ok false => .done (.error .badTOTPCode)
              | .ok true => start

end Calls

/-! ## Logins -/

section Logins

variable {σ : Type} (F : Factor) (A : Accounts) (B : FactorStore σ)

/-- The code is verified against a factor: it is live, or the store uses up the recovery code of
the factor that it is. -/
def Verified (st : σ) (tf : TwoFactor) (userID code : String) (now : Instant) : Prop :=
  live F tf code now ∨ ∃ h ∈ tf.recoveryHashes,
    A.verifyPassword (F.normalizeRecoveryCode code) h ∧
      (B.consumeRecoveryCode userID h st).1 = .ok true

variable {F A B} {s : Server σ} {code : String}

/-- A code that is accepted is verified. -/
lemma alone_verifySecondFactor {outage : Nat → Outage} {userID : String} {tf : TwoFactor}
    (hfactor : B.getTwoFactor s.store userID = .ok tf)
    (h : ((verifySecondFactor F A B outage userID code).alone s).1 = .ok true) :
    Verified F A B s.store tf userID code s.clock := by
  unfold verifySecondFactor at h
  cases hread : outage 0 with
  | refused | lost => simp [perform, fetch, ask, hread] at h
  | answered =>
    simp only [perform, fetch, ask, hread, hfactor, Task.alone_act] at h
    split at h
    · simp at h
    split at h
    · next hlive => exact .inl hlive
    split at h
    · simp at h
    · next hash hfound =>
      refine .inr ⟨hash, List.mem_of_find?_eq_some hfound, List.find?_some hfound, ?_⟩
      cases hconsume : outage 1 with
      | refused | lost => simp [hconsume] at h
      | answered => simpa [hconsume] using h

/-- Whatever the history and whichever other store calls fail: if the look-up of `TwoFactorEnabled`
is answered, a login to an account with a confirmed factor needs a code that is verified. -/
theorem second_factor_fails_closed
    (startSession : User → String → String → σ → Except FactorError Session × σ)
    (outage : Nat → Outage) (username password deviceID platform : String) {u : User}
    {tf : TwoFactor} (huser : B.getUserByUsername s.store (A.handle username) = .ok u)
    (hfactor : B.getTwoFactor s.store u.id = .ok tf) (henabled : tf.enabled = true)
    (hans : outage 1 = .answered) {granted : Session × User}
    (hgrant : ((loginWithCode F A B startSession outage username password code deviceID
      platform).alone s).1 = .ok granted) : Verified F A B s.store tf u.id code s.clock := by
  unfold loginWithCode at hgrant
  cases hread : outage 0 with
  | refused | lost => simp [perform, fetch, ask, hread] at hgrant
  | answered =>
    simp only [perform, fetch, ask, hread, huser, Task.alone_act] at hgrant
    split at hgrant
    · simp at hgrant
    simp only [twoFactorEnabled, perform, fetch, ask, hans, hfactor, Task.alone_bind,
      Task.alone_act, Task.alone_done, henabled] at hgrant
    split at hgrant
    · simp at *
    split at hgrant
    · simp at hgrant
    simp only [Task.alone_bind] at hgrant
    split at hgrant
    · simp at hgrant
    · simp at hgrant
    · next hverified => exact alone_verifySecondFactor hfactor hverified

end Logins

namespace Sample

/-- A time. -/
def noon : Instant := ⟨1, Int.one_pos⟩

/-- Hashes that show the password. -/
def plainAccounts : Accounts where
  fold := id
  trimSpace := id
  encode _ password := "h" ++ password
  verifyPassword password encoded := encoded = "h" ++ password

/-- A secret is its own sealed form and its only code. -/
def factor : Factor where
  totpKey := true
  openSecret := some
  verify secret code _ := secret = code
  normalizeRecoveryCode := id

/-- An account with a password. -/
def carol : User := ⟨"c", "carol", "", "", "hpw", 0⟩

def carolStore : Store :=
  { Store.new with
    users := update (fun _ => none) "c" (some carol)
    usersByName := update (fun _ => none) "carol" (some "c") }

def confirmedServer : Server MemoryFactors :=
  ⟨⟨carolStore, update (fun _ => none) "c" (some ⟨"k", 1, ["hr"]⟩)⟩, noon⟩

def startSession (u : User) (deviceID _platform : String) (st : MemoryFactors) :
    Except FactorError Session × MemoryFactors :=
  let sess : Session := ⟨"s", u.id, deviceID, "ht", "htt", 1, 1 + sessionTTL, 0, "", 0⟩
  (.ok sess, { st with accounts := st.accounts.createSession sess })

def login (outage : Nat → Outage) (code : String) :
    Task (Server MemoryFactors) (Except FactorError (Session × User)) :=
  loginWithCode factor plainAccounts memoryFactors startSession outage "carol" "pw" code "phone"
    "web"

end Sample

/-- A login with a recovery code is granted, and the code is verified. -/
theorem second_factor_fails_closed_recovery :
    Verified Sample.factor Sample.plainAccounts memoryFactors Sample.confirmedServer.store
      ⟨"k", 1, ["hr"]⟩ "c" "r" Sample.noon := by
  have hgrant : ((Sample.login (fun _ => .answered) "r").alone Sample.confirmedServer).1 =
      .ok (⟨"s", "c", "phone", "ht", "htt", 1, 1 + sessionTTL, 0, "", 0⟩, Sample.carol) := by
    decide +kernel
  exact second_factor_fails_closed Sample.startSession (fun _ => .answered) "carol" "pw" "phone"
    "web" (u := Sample.carol) rfl rfl rfl rfl hgrant

/-- The look-up of `TwoFactorEnabled` alone fails: the login returns a session for the password
only. -/
theorem failed_lookup_skips_factor :
    let outage (n : Nat) : Outage := if n = 1 then .refused else .answered
    (Sample.confirmedServer.store.twoFactor "c").any TwoFactor.enabled = true ∧
      ((Sample.login outage "").alone Sample.confirmedServer).1.toOption.isSome = true ∧
      live Sample.factor ⟨"k", 1, ["hr"]⟩ "" Sample.noon = false ∧
      Sample.plainAccounts.verifyPassword "" "hr" = false := by
  decide +kernel

end Concurrent
end SyncApp.Auth
