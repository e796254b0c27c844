import SyncApp.SecretChats.Model

/-!
# Secret chats on the web client

`useSecretChat`, `useSecretChatEngine`, `useSecretStore` and `useTrustStore` of `client/src`.  A
call gives way only where it waits for `hydrate` and for the directory.  `persist` queues what the
vault is to hold, and each write lands by itself.  Pins are in memory only: `load` of the trust
store is never called.

Main results:

- `Web.safe_task`: each call keeps a page consistent, whatever the others do.
- `Web.consistent_run`: what holds after schedules that stop the page with no write queued.
-/

namespace SyncApp.SecretChats

open Foundations Foundations.Interleaving List Function

variable (S : Suite)

structure Vault where
  sessions : String → Option (Agreed S)
  keys : Prekeys S

inductive VaultWrite where
  | sessions (sessions : String → Option (Agreed S))
  | keys (keys : Prekeys S)

/-- The page and its vault.  The last two fields note whether a message was opened under another
identity than the pin, and whether a pin was set over a session with another. -/
structure Web where
  hydrated : Bool
  sessions : String → Option (Agreed S)
  keys : Prekeys S
  pins : String → Option Pin
  vault : Vault S
  queue : List (VaultWrite S)
  draws : Nat
  frames : List (Frame S)
  intruded : Bool
  repinned : Bool

variable {S}

def Vault.write (v : Vault S) : VaultWrite S → Vault S
  | .sessions sessions => { v with sessions }
  | .keys keys => { v with keys }

namespace Web

/-- A page that was just opened on what the vault holds. -/
def new (keys : Prekeys S) : Web S where
  hydrated := false
  sessions := fun _ => none
  keys := keys
  pins := fun _ => none
  vault := ⟨fun _ => none, keys⟩
  queue := []
  draws := 0
  frames := []
  intruded := false
  repinned := false

variable (s : Web S)

/-- The sessions that count: those in memory, or before they are loaded those of the vault. -/
def stored : String → Option (Agreed S) :=
  if s.hydrated then s.sessions else s.vault.sessions

/-- `hydrate`: nothing to do if it is done. -/
def hydrate : Web S :=
  if s.hydrated then s
  else
    { s with
      hydrated := true
      sessions := s.vault.sessions
      keys := s.vault.keys
      queue := s.queue ++ [.keys s.vault.keys] }

variable (key : String)

def saveSession (σ : Agreed S) : Web S :=
  let next := update s.sessions key (some σ)
  { s with sessions := next, queue := s.queue ++ [.sessions next] }

def dropOneTimePreKey (consumed : Option S.Pair) : Web S :=
  match consumed with
  | none => s
  | some _ =>
    let next := s.keys.drop consumed
    { s with keys := next, queue := s.queue ++ [.keys next] }

def accept (pin : Pin) : Web S :=
  { s with
    pins := update s.pins key (some pin)
    repinned := s.repinned || Pin.foreign (some pin) (s.stored key) }

/-- The one-time prekey of a bundle: none if the directory had none left. -/
def oneTimePreKey (S : Suite) (b : Bundle) : Option (Option S.Key) :=
  if b.oneTimePrekey = "" then some none else (S.decode b.oneTimePrekey).map some

/-- The session for a bundle: the stored one, or a new one with its ephemeral key. -/
def sessionFor (b : Bundle) : Option (Agreed S × Option String) :=
  match s.sessions key with
  | some σ => some (σ, none)
  | none =>
    match startSession S b (oneTimePreKey S b) s.draws with
    | .session σ ephemeral => some (σ, some ephemeral)
    | .malformed => none
    | .refused => none

/-- Seal a message for the device of a bundle, send it and save the session. -/
def sealFor (key text : String) (b : Bundle) : Option (Web S) :=
  match s.sessionFor key b with
  | none => none
  | some (σ, ephemeral) =>
    match sealWith key text (s.pins key) ephemeral σ with
    | none => none
    | some (frame, σ') =>
      some ({ s with draws := s.draws + 1, frames := s.frames ++ [frame] }.saveSession key σ')

/-- One bundle of a message.  The flag says whether the loop goes on: anything that goes wrong is
thrown. -/
def sendOne (peerUserId text : String) (b : Bundle) : Bool × Web S :=
  let key := sessionKey (b.owner peerUserId) b.deviceId
  match verify S s.pins key b.pin with
  | .changed => (false, s)
  | .known =>
    match s.sealFor key text b with
    | none => (false, s)
    | some s' => (true, s')
  | .firstUse =>
    match s.sealFor key text b with
    | none => (false, s)
    | some s' => (true, s'.accept key b.pin)

/-- The loop over the bundles. -/
def sendAll (peerUserId text : String) : List Bundle → Web S → Web S
  | [], s => s
  | b :: rest, s =>
    match s.sendOne peerUserId text b with
    | (false, s') => s'
    | (true, s') => sendAll peerUserId text rest s'

/-- What `useSecretChatEngine` does with an inbound message. -/
def receive (m : Inbound S) : Web S :=
  let key := sessionKey m.fromUserId m.fromDeviceId
  match openSecret s.keys (s.sessions key) m s.draws with
  | none => s
  | some o =>
    ({ s with
        draws := s.draws + 1
        intruded := s.intruded || Pin.foreign (s.pins key) (some o.session) }.saveSession
      key o.session).dropOneTimePreKey o.consumed

def land : Web S :=
  match s.queue with
  | [] => s
  | w :: rest => { s with vault := s.vault.write w, queue := rest }

/-- The page is closed and opened again. -/
def restart : Web S :=
  { s with hydrated := false, sessions := fun _ => none, pins := fun _ => none, queue := [] }

end Web

/-- What happens on a page. -/
inductive WebCall (S : Suite) where
  | send (peerUserId text : String) (bundles : List Bundle)
  | receive (m : Inbound S)
  | accept (userId deviceId : String) (pin : Pin)
  | land

/-- The calls, as they wait. -/
def WebCall.task : WebCall S → Task (Web S) Unit
  | .send peerUserId text bundles =>
    .write Web.hydrate <|
      -- The directory is asked, and answers with the bundles.
      .read fun _ => .write (Web.sendAll peerUserId text bundles) (.done ())
  | .receive m => .write Web.hydrate <| .write (fun s => s.receive m) (.done ())
  | .accept userId deviceId pin =>
    .write (fun s => s.accept (sessionKey userId deviceId) pin) (.done ())
  | .land => .write Web.land (.done ())

namespace Web

variable (keys : Prekeys S)

/-- The page after a schedule. -/
def run (events : List (Event (WebCall S))) : Web S :=
  (Pool.after WebCall.task restart ⟨new keys, []⟩ events).state

/-- The page is stopped only when no write is queued. -/
def Stops (keys : Prekeys S) (events : List (Event (WebCall S))) : Prop :=
  Machine.Guarded (Pool.step WebCall.task restart)
    (Pool.Stops fun s => s.queue.isEmpty = true) ⟨new keys, []⟩ events
deriving Decidable

/-! ## What holds on a page -/

/-- No message and no pin brought in an identity other than the pinned one. -/
def Clean (s : Web S) : Prop := s.intruded = false ∧ s.repinned = false
deriving Decidable

/-- The positions of the sessions, and those used. -/
def ledger (s : Web S) : Ledger String := ⟨s.draws, positions s.stored, s.frames.map Frame.position⟩

/-- The sessions the vault will hold once the queue has landed. -/
def landed (vault : Vault S) (queue : List (VaultWrite S)) : Vault S :=
  queue.foldl Vault.write vault

/-- What holds on a page at any time. -/
structure Consistent (s : Web S) : Prop where
  valid : s.ledger.Valid
  saved : s.hydrated = true → (landed s.vault s.queue).sessions = s.sessions
  fresh : s.hydrated = false → s.queue = []
  pinned : s.Clean → ∀ key, Pin.foreign (s.pins key) (s.stored key) = false
  frames : s.Clean → ∀ f ∈ s.frames, ∀ p, f.pin = some p → S.decode p.identityKey = some f.peer

variable {s : Web S}

lemma consistent_new : (new keys).Consistent where
  valid := Ledger.valid_empty
  saved h := nomatch h
  fresh _ := rfl
  pinned _ _ := rfl
  frames _ := by simp [new]

lemma stored_of_hydrated (h : s.hydrated = true) : s.stored = s.sessions := by
  rw [stored, if_pos h]

lemma landed_append (vault : Vault S) (queue : List (VaultWrite S)) (w : VaultWrite S) :
    landed vault (queue ++ [w]) = (landed vault queue).write w := by
  rw [landed, foldl_append, foldl_cons, foldl_nil, landed]

lemma hydrated_hydrate (s : Web S) : s.hydrate.hydrated = true := by
  unfold hydrate
  split
  · next h => exact h
  · rfl

lemma Consistent.hydrate (h : s.Consistent) : s.hydrate.Consistent := by
  unfold Web.hydrate
  split
  · exact h
  · next hcold =>
    have hcold : s.hydrated = false := by simpa using hcold
    have hstored : s.stored = s.vault.sessions := by rw [stored, hcold, if_neg Bool.false_ne_true]
    have hval := h.valid
    have hpinned := h.pinned
    rw [ledger, hstored] at hval
    rw [hstored] at hpinned
    refine ⟨hval, fun _ => ?_, (fun hfalse => nomatch hfalse), hpinned, h.frames⟩
    rw [h.fresh hcold]
    rfl

/-- A page on which a session was saved is consistent if the session is on a new position and
agrees with the pin, and what was sent is in order. -/
lemma Consistent.save (h : s.Consistent) (hwarm : s.hydrated = true) {key : String}
    {σ : Agreed S} {draws : Nat} {frames : List (Frame S)} {intruded : Bool}
    (hval : (⟨draws, update (positions s.sessions) key σ.position,
      frames.map Frame.position⟩ : Ledger String).Valid)
    (hclean : intruded = false → s.intruded = false)
    (hpin : intruded = false → s.Clean → Pin.foreign (s.pins key) (some σ) = false)
    (hframes : s.Clean → ∀ f ∈ frames, ∀ p, f.pin = some p → S.decode p.identityKey = some f.peer) :
    ({ s with draws, frames, intruded }.saveSession key σ).Consistent := by
  have hstored : ({ s with draws, frames, intruded }.saveSession key σ).stored =
      update s.sessions key (some σ) := stored_of_hydrated hwarm
  have hpre : intruded = false ∧ s.repinned = false → s.Clean := fun hb => ⟨hclean hb.1, hb.2⟩
  refine ⟨?_, ?_, ?_, ?_, ?_⟩
  · rw [ledger, hstored, positions_update]
    exact hval
  · intro _
    simp only [saveSession]
    rw [landed_append]
    rfl
  · intro hcold
    exact absurd (hcold.symm.trans hwarm) Bool.false_ne_true
  · intro hc
    have hold := h.pinned (hpre hc)
    rw [stored_of_hydrated hwarm] at hold
    rw [hstored]
    exact foreign_update_session hold (hpin hc.1 (hpre hc))
  · intro hc
    exact hframes (hpre hc)

lemma Consistent.dropOneTimePreKey (h : s.Consistent) (hwarm : s.hydrated = true)
    (consumed : Option S.Pair) : (s.dropOneTimePreKey consumed).Consistent := by
  cases consumed with
  | none => exact h
  | some =>
    refine ⟨h.valid, ?_, ?_, h.pinned, h.frames⟩
    · intro _
      simp only [Web.dropOneTimePreKey]
      rw [landed_append]
      exact h.saved hwarm
    · intro hcold
      exact absurd (hcold.symm.trans hwarm) Bool.false_ne_true

lemma Consistent.accept (h : s.Consistent) (key : String) (pin : Pin) :
    (s.accept key pin).Consistent := by
  refine ⟨h.valid, h.saved, h.fresh, ?_, ?_⟩
  · rintro ⟨hintr, hrepin⟩
    rcases Bool.or_eq_false_iff.mp hrepin with ⟨hpre, hfor⟩
    exact foreign_update_pin (h.pinned ⟨hintr, hpre⟩) hfor
  · rintro ⟨hintr, hrepin⟩
    exact h.frames ⟨hintr, (Bool.or_eq_false_iff.mp hrepin).1⟩

/-- The session for a bundle is the stored one, or was agreed with the bundle's identity. -/
lemma sessionFor_eq_some {key : String} {b : Bundle} {σ : Agreed S}
    {ephemeral : Option String} (h : s.sessionFor key b = some (σ, ephemeral)) :
    s.sessions key = some σ ∨
      S.decode b.identityKey = some σ.peer ∧ σ.position = some (s.draws, 0) := by
  unfold sessionFor at h
  split at h
  · next hsome =>
    cases h
    exact .inl hsome
  · split at h
    · next hstart =>
      cases h
      exact .inr (startSession_eq_session hstart)
    · cases h
    · cases h

section

variable (h : s.Consistent) (hwarm : s.hydrated = true)
include h hwarm

lemma Consistent.sealFor {key text : String} {b : Bundle}
    (hverd : verify S s.pins key b.pin ≠ .changed) {s' : Web S}
    (hseal : s.sealFor key text b = some s') :
    s'.Consistent ∧ s'.hydrated = true ∧ s'.pins = s.pins := by
  unfold Web.sealFor at hseal
  split at hseal
  · cases hseal
  · next σ ephemeral hsess =>
    split at hseal
    · cases hseal
    · next frame σ' hsealed =>
      cases hseal
      rcases sealWith_eq_some hsealed with ⟨-, hpeer, hpin, hpeer', -, -⟩
      have hagrees : s.Clean → ∀ p, s.pins key = some p →
          S.decode p.identityKey = some σ.peer := by
        intro hclean p hp
        have hpinned := h.pinned hclean key
        rw [stored_of_hydrated hwarm] at hpinned
        exact agrees_of_passed hp hverd hpinned
          ((sessionFor_eq_some hsess).imp_right And.left)
      refine ⟨h.save hwarm ?_ id ?_ ?_, hwarm, rfl⟩
      · have hval := h.valid
        rw [ledger, stored_of_hydrated hwarm] at hval
        rw [map_append, map_singleton]
        refine valid_sealWith hval ?_ hsealed
        rcases sessionFor_eq_some hsess with hstored | ⟨-, hnew⟩
        · left
          simp [positions, hstored]
        · exact .inr hnew
      · intro _ hclean
        rw [Pin.foreign_eq_false]
        intro p τ hp hτ
        cases hτ
        rw [hpeer']
        exact hagrees hclean p hp
      · intro hclean f hf p hp
        rcases mem_append.mp hf with hold | hnew
        · exact h.frames hclean f hold p hp
        · rw [mem_singleton.mp hnew] at hp ⊢
          rw [hpeer]
          exact hagrees hclean p (hpin ▸ hp)

variable (peerUserId text : String)

lemma Consistent.sendOne (b : Bundle) : (s.sendOne peerUserId text b).2.Consistent ∧
      (s.sendOne peerUserId text b).2.hydrated = true := by
  unfold Web.sendOne
  dsimp only
  split
  · exact ⟨h, hwarm⟩
  · next hknown =>
    split
    · exact ⟨h, hwarm⟩
    · next hseal =>
      rcases h.sealFor hwarm (by rw [hknown]; simp) hseal with ⟨hs', hwarm', -⟩
      exact ⟨hs', hwarm'⟩
  · next hfirst =>
    split
    · exact ⟨h, hwarm⟩
    · next hseal =>
      rcases h.sealFor hwarm (by rw [hfirst]; simp) hseal with ⟨hs', hwarm', -⟩
      exact ⟨hs'.accept .., hwarm'⟩

lemma Consistent.sendAll (bundles : List Bundle) :
    (Web.sendAll peerUserId text bundles s).Consistent ∧
      (Web.sendAll peerUserId text bundles s).hydrated = true := by
  induction bundles generalizing s with
  | nil => exact ⟨h, hwarm⟩
  | cons b rest ih =>
    rcases h.sendOne hwarm peerUserId text b with ⟨hs', hwarm'⟩
    rw [Web.sendAll]
    generalize s.sendOne peerUserId text b = r at hs' hwarm'
    rcases r with ⟨_ | _, _⟩
    · exact ⟨hs', hwarm'⟩
    · exact ih hs' hwarm'

lemma Consistent.receive (m : Inbound S) : (s.receive m).Consistent := by
  unfold Web.receive
  dsimp only
  split
  · exact h
  · next o hopen =>
    refine Consistent.dropOneTimePreKey (h.save hwarm ?_ ?_ ?_ ?_) hwarm _
    · have hval := h.valid
      rw [ledger, stored_of_hydrated hwarm] at hval
      exact valid_openSecret hval rfl hopen
    · exact fun hor => (Bool.or_eq_false_iff.mp hor).1
    · exact fun hor _ => (Bool.or_eq_false_iff.mp hor).2
    · exact h.frames

end

lemma Consistent.land (h : s.Consistent) : s.land.Consistent := by
  unfold Web.land
  split
  · exact h
  · next w rest hqueue =>
    -- Before the page is loaded nothing is queued.
    have hwarm : s.hydrated = true := by
      by_contra hcold
      have hemp := h.fresh (by simpa using hcold)
      rw [hqueue] at hemp
      cases hemp
    have hval := h.valid
    have hpinned := h.pinned
    have hsaved := h.saved hwarm
    rw [ledger, stored_of_hydrated hwarm] at hval
    rw [stored_of_hydrated hwarm] at hpinned
    rw [hqueue] at hsaved
    have hstored : ∀ v : Vault S, stored { s with vault := v, queue := rest } = s.sessions :=
      fun v => stored_of_hydrated hwarm
    refine ⟨?_, fun _ => hsaved, ?_, ?_, h.frames⟩
    · rw [ledger, hstored]
      exact hval
    · intro hcold
      exact absurd (hcold.symm.trans hwarm) Bool.false_ne_true
    · rw [hstored]
      exact hpinned

/-- A page that is stopped with an empty queue comes back with the sessions it had. -/
lemma Consistent.restart (h : s.Consistent) (hqueue : s.queue = []) : s.restart.Consistent := by
  have hstored : s.stored = s.vault.sessions := by
    unfold stored
    split
    · next hwarm =>
      have hsaved := h.saved hwarm
      rw [hqueue] at hsaved
      exact hsaved.symm
    · rfl
  have hval := h.valid
  rw [ledger, hstored] at hval
  exact ⟨hval, (fun hwarm => nomatch hwarm), fun _ => rfl, fun _ _ => rfl, h.frames⟩

/-- What calls on a page keep to: once loaded, it stays so. -/
def discipline : Discipline (Web S) where
  inv := Consistent
  rel s t := s.hydrated = true → t.hydrated = true
  refl _ := id
  trans hst htu h := htu (hst h)

lemma hydrated_land (s : Web S) (h : s.hydrated = true) : s.land.hydrated = true := by
  unfold Web.land
  split
  · exact h
  · exact h

lemma hydrated_receive (s : Web S) (m : Inbound S) (h : s.hydrated = true) :
    (s.receive m).hydrated = true := by
  unfold Web.receive
  dsimp only
  split
  · exact h
  · next o _ =>
    unfold Web.dropOneTimePreKey
    split
    · exact h
    · exact h

theorem safe_task (call : WebCall S) (s : Web S) :
    Safe discipline (fun _ _ => True) call.task s := by
  cases call with
  | send peerUserId text bundles =>
    refine .write fun t _ ht => ⟨fun _ => t.hydrated_hydrate, ht.hydrate, ?_⟩
    refine .read fun u htu _ => ?_
    refine .write fun v huv hv => ?_
    have hwarm := huv (htu t.hydrated_hydrate)
    rcases hv.sendAll hwarm peerUserId text bundles with ⟨hcons, hhydrated⟩
    exact ⟨fun _ => hhydrated, hcons, .done fun _ _ _ => trivial⟩
  | receive m =>
    refine .write fun t _ ht => ⟨fun _ => t.hydrated_hydrate, ht.hydrate, ?_⟩
    refine .write fun u htu hu => ?_
    have hwarm := htu t.hydrated_hydrate
    exact ⟨u.hydrated_receive m, hu.receive hwarm m, .done fun _ _ _ => trivial⟩
  | accept userId deviceId pin =>
    exact .write fun t _ ht => ⟨id, ht.accept _ pin, .done fun _ _ _ => trivial⟩
  | land => exact .write fun t _ ht => ⟨t.hydrated_land, ht.land, .done fun _ _ _ => trivial⟩

/-- What holds after every schedule that stops the page only when no write is queued. -/
theorem consistent_run {events : List (Event (WebCall S))}
    (h : Stops keys events) : (run keys events).Consistent := by
  have hstart : Pool.Safe discipline (fun _ _ => True) (⟨new keys, []⟩ : Pool (Web S) Unit) :=
    ⟨consistent_new keys, by simp⟩
  exact (safe_guarded safe_task
    (fun s hs hstop => hs.restart (List.isEmpty_iff.mp hstop)) hstart h).inv

end Web
end SyncApp.SecretChats
