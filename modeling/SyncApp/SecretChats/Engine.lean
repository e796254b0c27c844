import SyncApp.SecretChats.IdealSuite

/-!
# The chain of handlers on the web

`useSecretChatEngine` and `openSecretMessage` of `client/src/features/secret-chats`.  Each message
puts a handler at the end of one promise chain, and one that throws leaves it rejected: at a
handshake key that is not base64, and at a confirmation while the client is not ready.

Main results:

- `openSecretMessage_isOk_iff`: when opening throws.
- `engine_unharmed`: what holds exactly as long as nothing throws.
-/

namespace SyncApp.SecretChats

open Foundations
open Ratchet (Bytes)
open Ratchet.Web (toBase64 fromBase64)

/-- A JSON value, as far as the code looks: whether it counts as true, and the text it is turned
into. -/
structure Value where
  truthy : Bool
  text : String

/-- `InitEnvelope`: fields may be missing, and hold any value. -/
structure InitEnvelope where
  ik : Option Value
  ek : Option Value
  rh : Option Value

/-- A field that is there and counts as true. -/
def present (field : Option Value) : Option String :=
  field.bind fun v => if v.truthy then some v.text else none

/-- What the page calls: each call gives {lean}`none` where it throws. -/
structure Calls (S : Suite) where
  /-- `JSON.parse`; a value without properties has no fields. -/
  parse : String → Option InitEnvelope
  /-- `fromUtf8`, which never throws. -/
  fromUtf8 : Bytes → String
  /-- `unmarshalHeader` after `fromBase64`. -/
  header : String → Option S.Header
  /-- `fromBase64` of a ciphertext. -/
  cipher : String → Option S.Cipher

/-- `SecretMsg`.  The binary fields are octets that the codec hands over as base64. -/
structure SecretMsg where
  fromUserId : String
  fromDeviceId : String
  queueId : String
  ratchetHeaderBin : Bytes
  ciphertextBin : Bytes
  ratchetHeader : String
  ciphertext : String

variable {S : Suite} (C : Calls S)

/-- `readSecretPayload`: the header's text and the ciphertext; {lean}`none` where it throws. -/
def readSecretPayload (m : SecretMsg) : Option (String × String) :=
  let bin := toBase64 m.ratchetHeaderBin
  let cipherBin := toBase64 m.ciphertextBin
  if bin ≠ [] ∨ cipherBin ≠ [] then
    (fromBase64 bin).map fun bytes => (C.fromUtf8 bytes, String.ofList cipherBin)
  else some (m.ratchetHeader, m.ciphertext)

/-- `openSecretMessage`: a result or null, or an exception of `atob`. -/
def openSecretMessage (keys : Prekeys S) (existing : Option (Agreed S)) (draw : Nat)
    (ratchetHeader ciphertext : String) : Except Unit (Option (Opened S)) :=
  match C.parse ratchetHeader with
  | none => .ok none
  | some init =>
    match present init.rh with
    | none => .ok none
    | some rh =>
      match C.header rh, C.cipher ciphertext with
      | some header, some cipher =>
        match existing.bind fun σ => openExisting σ header cipher draw with
        | some opened => .ok (some opened)
        | none =>
          match present init.ik, present init.ek with
          | some ik, some ek =>
            -- The two calls of fromBase64 stand outside any try.
            match S.decode ik, S.decode ek with
            | some ik, some ek => .ok (openAsResponder keys ik ek header cipher draw)
            | _, _ => .error ()
          | _, _ => .ok none
      | _, _ => .ok none

/-- A message as far as it parses. -/
def SecretMsg.inbound (m : SecretMsg) : Inbound S :=
  let payload := (readSecretPayload C m).getD ("", "")
  let init := (C.parse payload.1).getD ⟨none, none, none⟩
  let rh := present init.rh
  { fromUserId := m.fromUserId
    fromDeviceId := m.fromDeviceId
    ik := present init.ik
    ek := present init.ek
    header := rh.bind C.header
    ciphertext := rh.bind fun _ => C.cipher payload.2 }

/-- The keys of the handshake decode if they are looked at: the message has both, a header and a
ciphertext, and the stored session does not open it. -/
def SecretMsg.Readable (m : SecretMsg) (existing : Option (Agreed S)) (draw : Nat) : Prop :=
  let inbound := m.inbound C
  ∀ header ∈ inbound.header, ∀ cipher ∈ inbound.ciphertext,
    (existing.bind fun σ => openExisting σ header cipher draw).isNone →
      ∀ ik ∈ inbound.ik, ∀ ek ∈ inbound.ek, (S.decode ik).isSome ∧ (S.decode ek).isSome

instance (m : SecretMsg) (existing : Option (Agreed S)) (draw : Nat) :
    Decidable (m.Readable C existing draw) := by
  unfold SecretMsg.Readable
  infer_instance

/-- `SecretMessage`: an entry of a transcript. -/
structure Entry where
  peerId : String
  text : String
  failed : Bool
deriving DecidableEq

/-- The page, its transcripts, the messages it has confirmed, and the chain: the messages whose
handlers have not run, and whether it is rejected. -/
structure Engine (S : Suite) where
  page : Web S
  transcript : List Entry
  confirmed : List String
  waiting : List SecretMsg
  rejected : Bool
  /-- The client is ready and its socket open. -/
  ready : Bool

/-- What can happen. -/
inductive EngineEvent (S : Suite) where
  | arrive (m : SecretMsg)
  /-- The keys are loaded and the first handler of the chain runs. -/
  | turn
  /-- The connection is lost or comes back. -/
  | connection (ready : Bool)
  /-- The page does something else. -/
  | elsewhere (change : Web S → Web S)

/-- `saveSession` and `dropOneTimePreKey` for an opened message. -/
def Web.keep (s : Web S) (key : String) (o : Opened S) : Web S :=
  ({ s with
      draws := s.draws + 1
      intruded := s.intruded || Pin.foreign (s.pins key) (some o.session) }.saveSession
    key o.session).dropOneTimePreKey o.consumed

namespace Engine

variable (e : Engine S) (m : SecretMsg)

/-- What `openSecretMessage` makes of a message, or nothing if the payload cannot be read. -/
def opening : Except Unit (Option (Opened S)) :=
  let page := e.page.hydrate
  match readSecretPayload C m with
  | none => .error ()
  | some (ratchetHeader, ciphertext) =>
    openSecretMessage C page.keys (page.sessions (sessionKey m.fromUserId m.fromDeviceId))
      page.draws ratchetHeader ciphertext

def noted (opened : Option (Opened S)) : Entry :=
  ⟨m.fromUserId, (opened.map Opened.plaintext).getD "", opened.isNone⟩

def handle : Engine S :=
  let page := e.page.hydrate
  match e.opening C m with
  | .error _ => { e with page, rejected := true }
  | .ok opened =>
    let transcript := e.transcript ++ [noted m opened]
    if m.queueId ≠ "" ∧ e.ready = false then
      -- The send throws, and what comes after it does not happen.
      { e with page, transcript, rejected := true }
    else
      { e with
        page := match opened with
          | none => page
          | some o => page.keep (sessionKey m.fromUserId m.fromDeviceId) o
        transcript
        confirmed := if m.queueId = "" then e.confirmed else e.confirmed ++ [m.queueId] }

/-- One step.  The handlers of a rejected chain are passed over. -/
def step : EngineEvent S → Unit × Engine S
  | .arrive m => ((), { e with waiting := e.waiting ++ [m] })
  | .turn =>
    match e.waiting with
    | [] => ((), e)
    | m :: rest =>
      if e.rejected then ((), { e with waiting := rest })
      else ((), { e with waiting := rest }.handle C m)
  | .connection ready => ((), { e with ready })
  | .elsewhere change => ((), { e with page := change e.page })

/-- The page after a history. -/
abbrev after (events : List (EngineEvent S)) : Engine S :=
  Machine.final (step C) e events

/-- The keys of a message decode if they are looked at, and the client is ready if it is queued. -/
def Safe : Prop :=
  m.Readable C (e.page.hydrate.sessions (sessionKey m.fromUserId m.fromDeviceId))
    e.page.hydrate.draws ∧ (m.queueId ≠ "" → e.ready = true)

/-- Only handlers that do not throw run. -/
def Unharmed : EngineEvent S → Prop
  | .turn => ∀ m ∈ e.waiting.head?, e.Safe C m
  | _ => True

instance (e : Engine S) : ∀ event, Decidable (e.Unharmed C event)
  | .turn => inferInstanceAs (Decidable (∀ m ∈ e.waiting.head?, _ ∧ _))
  | .arrive _ | .connection _ | .elsewhere _ => isTrue trivial

end Engine

def arrivals : List (EngineEvent S) → List SecretMsg
  | [] => []
  | .arrive m :: rest => m :: arrivals rest
  | .turn :: rest => arrivals rest
  | .connection _ :: rest => arrivals rest
  | .elsewhere _ :: rest => arrivals rest

section Calls

variable {C} {m : SecretMsg} {keys : Prekeys S} {existing : Option (Agreed S)} {draw : Nat}
  {ratchetHeader ciphertext : String}

/-- A payload can always be read: what the codec hands over is base64. -/
lemma readSecretPayload_isSome (C : Calls S) (m : SecretMsg) :
    ∃ payload, readSecretPayload C m = some payload := by
  unfold readSecretPayload
  dsimp only
  split
  · rw [Ratchet.Web.fromBase64_toBase64]
    exact ⟨_, rfl⟩
  · exact ⟨_, rfl⟩

/-- Where it does not throw, `openSecretMessage` opens the message that was parsed. -/
lemma openSecretMessage_eq_ok {opened : Option (Opened S)}
    (hload : readSecretPayload C m = some (ratchetHeader, ciphertext))
    (h : openSecretMessage C keys existing draw ratchetHeader ciphertext = .ok opened) :
    opened = openSecret keys existing (m.inbound C) draw := by
  unfold openSecretMessage at h
  unfold openSecret SecretMsg.inbound
  simp only [hload, Option.getD_some]
  split at h
  · next hparse =>
    cases h
    simp [hparse, present]
  · next init hparse =>
    simp only [hparse, Option.getD_some]
    split at h
    · next hrh =>
      cases h
      simp [hrh]
    · next rh hrh =>
      simp only [hrh, Option.bind_some]
      split at h
      · next header cipher hhdr hciph =>
        simp only [hhdr, hciph]
        cases hopen : existing.bind fun σ => openExisting σ header cipher draw with
        | some =>
          rw [hopen] at h
          cases h
          rfl
        | none =>
          rw [hopen] at h
          unfold openFirst
          dsimp only at h ⊢
          split at h
          · next ik ek hik hek =>
            simp only [hik, hek, Option.bind_some]
            cases hkey : S.decode ik with
            | none =>
              rw [hkey] at h
              cases h
            | some =>
              cases hkey' : S.decode ek with
              | none =>
                rw [hkey, hkey'] at h
                cases h
              | some =>
                rw [hkey, hkey'] at h
                cases h
                rfl
          · next hmissing =>
            cases h
            cases hik : present init.ik with
            | none => simp
            | some ik =>
              cases hek : present init.ek with
              | none => simp
              | some ek => exact absurd hek (hmissing ik ek hik)
      · next hmissing =>
        cases h
        cases hhdr : C.header rh with
        | none => simp
        | some header =>
          cases hciph : C.cipher ciphertext with
          | none => simp
          | some cipher => exact absurd hciph (hmissing header cipher hhdr)

/-- The keys of the handshake decode, if a message has both. -/
def SecretMsg.Legible (C : Calls S) (m : SecretMsg) : Prop :=
  ∀ ik ek, (m.inbound C).ik = some ik → (m.inbound C).ek = some ek →
    (S.decode ik).isSome ∧ (S.decode ek).isSome

/-- `openSecretMessage` throws exactly where it looks at keys that do not decode. -/
theorem openSecretMessage_isOk_iff
    (hload : readSecretPayload C m = some (ratchetHeader, ciphertext)) :
    (openSecretMessage C keys existing draw ratchetHeader ciphertext).isOk = true ↔
      m.Readable C existing draw := by
  unfold openSecretMessage SecretMsg.Readable SecretMsg.inbound
  simp only [hload, Option.getD_some]
  cases hparse : C.parse ratchetHeader with
  | none => exact iff_of_true rfl (by simp [present])
  | some init =>
    simp only [Option.getD_some]
    cases hrh : present init.rh with
    | none => exact iff_of_true rfl (by simp)
    | some rh =>
      simp only [Option.bind_some]
      cases hhdr : C.header rh with
      | none => exact iff_of_true rfl (by simp)
      | some header =>
        cases hciph : C.cipher ciphertext with
        | none => exact iff_of_true rfl (by simp)
        | some cipher =>
          simp only [Option.mem_def, Option.some.injEq, forall_eq']
          cases existing.bind fun σ => openExisting σ header cipher draw with
          | some => exact iff_of_true rfl (by simp)
          | none =>
            simp only [Option.isNone_none, forall_const]
            cases present init.ik with
            | none => exact iff_of_true rfl nofun
            | some ik =>
              cases present init.ek with
              | none => exact iff_of_true rfl nofun
              | some ek =>
                simp only [Option.some.injEq, forall_eq']
                cases S.decode ik with
                | none => exact iff_of_false nofun (by simp)
                | some =>
                  cases S.decode ek with
                  | none => exact iff_of_false nofun (by simp)
                  | some => exact iff_of_true rfl (by simp)

end Calls

/-! ## Handlers -/

namespace Engine

variable {C} {e : Engine S} {m : SecretMsg}

lemma opening_eq_ok {opened : Option (Opened S)} (h : e.opening C m = .ok opened) :
    opened = openSecret e.page.hydrate.keys
      (e.page.hydrate.sessions (sessionKey m.fromUserId m.fromDeviceId)) (m.inbound C)
      e.page.hydrate.draws := by
  rcases readSecretPayload_isSome C m with ⟨⟨_, _⟩, hload⟩
  unfold opening at h
  simp only [hload] at h
  exact openSecretMessage_eq_ok hload h

lemma opening_isOk_iff : (e.opening C m).isOk = true ↔
    m.Readable C (e.page.hydrate.sessions (sessionKey m.fromUserId m.fromDeviceId))
      e.page.hydrate.draws := by
  rcases readSecretPayload_isSome C m with ⟨⟨_, _⟩, hload⟩
  unfold opening
  simp only [hload]
  exact openSecretMessage_isOk_iff hload

lemma safe_of_legible (h : m.Legible C) (hready : m.queueId ≠ "" → e.ready = true) :
    e.Safe C m :=
  ⟨fun _ _ _ _ _ ik hik ek hek => h ik ek hik hek, hready⟩

/-- A handler that does not throw: the session is saved, the message is in the transcript, and it is
confirmed if it was queued. -/
lemma handle_of_safe (h : e.Safe C m) :
    ∃ opened, e.opening C m = .ok opened ∧
      e.handle C m =
        { e with
          page := e.page.hydrate.receive (m.inbound C)
          transcript := e.transcript ++ [noted m opened]
          confirmed := if m.queueId = "" then e.confirmed else e.confirmed ++ [m.queueId] } := by
  rcases h with ⟨hreadable, hready⟩
  have hok := opening_isOk_iff.mpr hreadable
  cases hopening : e.opening C m with
  | error =>
    rw [hopening] at hok
    cases hok
  | ok opened =>
    refine ⟨opened, rfl, ?_⟩
    have hconn : ¬ (m.queueId ≠ "" ∧ e.ready = false) := by
      rintro ⟨hqueued, hdown⟩
      rw [hready hqueued] at hdown
      cases hdown
    unfold handle
    simp only [hopening, if_neg hconn, Web.receive]
    rw [opening_eq_ok hopening]
    rfl

lemma rejected_handle (h : ¬ e.Safe C m) : (e.handle C m).rejected = true := by
  unfold handle
  split
  · rfl
  · next opened hopening =>
    have hdown : m.queueId ≠ "" ∧ e.ready = false := by
      by_contra hconn
      refine h ⟨opening_isOk_iff.mp (by rw [hopening]; rfl), ?_⟩
      intro hqueued
      by_contra hready
      exact hconn ⟨hqueued, Bool.eq_false_iff.mpr hready⟩
    rw [if_pos hdown]

variable {rest : List SecretMsg}

lemma step_turn (h : e.rejected = false) (hwait : e.waiting = m :: rest) :
    (e.step C .turn).2 = { e with waiting := rest }.handle C m := by
  unfold step
  simp only [hwait]
  rw [if_neg (by simp [h])]

lemma rejected_step (h : e.rejected = false) (event : EngineEvent S) :
    (e.step C event).2.rejected = false ↔ e.Unharmed C event := by
  cases event with
  | arrive | connection | elsewhere => exact iff_of_true h trivial
  | turn =>
    cases hwait : e.waiting with
    | nil =>
      unfold step Unharmed
      simp [hwait, h]
    | cons m rest =>
      have hsafe : e.Unharmed C .turn ↔ { e with waiting := rest }.Safe C m := by
        unfold Unharmed
        rw [hwait]
        simp [Safe]
      rw [step_turn h hwait, hsafe]
      constructor
      · intro hkept
        by_contra hharmed
        rw [rejected_handle hharmed] at hkept
        cases hkept
      · intro hunharmed
        rcases handle_of_safe hunharmed with ⟨_, -, heq⟩
        rw [heq]
        exact h

lemma rejected_step_of_rejected (h : e.rejected = true) (event : EngineEvent S) :
    (e.step C event).2.rejected = true := by
  cases event with
  | arrive | connection | elsewhere => exact h
  | turn =>
    unfold step
    dsimp only
    split
    · exact h
    rw [if_pos h]
    exact h

lemma rejected_after (h : e.rejected = true) (events : List (EngineEvent S)) :
    (e.after C events).rejected = true := by
  have hstep : ∀ (e : Engine S) event, e.rejected = true → (e.step C event).2.rejected = true :=
    fun _ event hs => rejected_step_of_rejected hs event
  exact Machine.invariant_final (step C) hstep h events

lemma rejected_after_iff (h : e.rejected = false) (events : List (EngineEvent S)) :
    (e.after C events).rejected = false ↔ Machine.Guarded (step C) (Unharmed C) e events := by
  induction events generalizing e with
  | nil => exact iff_of_true h trivial
  | cons event rest ih =>
    cases hnext : (e.step C event).2.rejected with
    | false =>
      have hev := (rejected_step h event).mp hnext
      exact (ih hnext).trans ⟨fun hrest => ⟨hev, hrest⟩, fun hall => hall.2⟩
    | true =>
      have hend : (e.after C (event :: rest)).rejected = true := rejected_after hnext rest
      constructor
      · intro hkept
        rw [hend] at hkept
        cases hkept
      · rintro ⟨hev, -⟩
        rw [(rejected_step h event).mpr hev] at hnext
        cases hnext

lemma turn_of_unharmed (h : e.rejected = false)
    (hwait : e.waiting = m :: rest) (hunharmed : e.Unharmed C .turn) :
    ∃ opened, e.opening C m = .ok opened ∧
      (e.step C .turn).2 =
        { e with
          waiting := rest
          page := e.page.hydrate.receive (m.inbound C)
          transcript := e.transcript ++ [noted m opened]
          confirmed := if m.queueId = "" then e.confirmed else e.confirmed ++ [m.queueId] } := by
  have hsafe : { e with waiting := rest }.Safe C m := hunharmed m (by rw [hwait]; rfl)
  rcases handle_of_safe hsafe with ⟨opened, hopening, heq⟩
  exact ⟨opened, hopening, (step_turn h hwait).trans heq⟩

/-- The senders of the messages that were handled, and of those whose handlers have not run. -/
def senders (e : Engine S) : List String :=
  e.transcript.map Entry.peerId ++ e.waiting.map SecretMsg.fromUserId

lemma senders_step (h : e.rejected = false) {event : EngineEvent S}
    (hunharmed : e.Unharmed C event) : (e.step C event).2.senders =
      e.senders ++ (arrivals [event]).map SecretMsg.fromUserId := by
  cases event with
  | arrive | connection | elsewhere => simp [step, senders, arrivals]
  | turn =>
    cases hwait : e.waiting with
    | nil => simp [step, senders, arrivals, hwait]
    | cons =>
      rcases turn_of_unharmed h hwait hunharmed with ⟨_, -, heq⟩
      rw [heq]
      simp [senders, arrivals, hwait, noted]

lemma senders_after (h : e.rejected = false) {events : List (EngineEvent S)}
    (hunharmed : Machine.Guarded (step C) (Unharmed C) e events) :
    (e.after C events).senders = e.senders ++ (arrivals events).map SecretMsg.fromUserId := by
  induction events generalizing e with
  | nil => simp [arrivals]
  | cons event rest ih =>
    rcases hunharmed with ⟨hev, hrest⟩
    have hnext := (rejected_step h event).mpr hev
    have hsplit : arrivals (event :: rest) = arrivals [event] ++ arrivals rest := by
      cases event <;> simp [arrivals]
    rw [hsplit, List.map_append, ← List.append_assoc, ← senders_step h hev]
    exact ih hnext hrest

end Engine

/-- For every sequence of messages and losses of the connection: the chain is rejected exactly if
some handler throws; else every message is in a transcript or waits, in order, with its session
saved, if opened, and confirmed, if queued.  No handler throws whose message has keys that decode,
while the client is ready if it is queued. -/
theorem engine_unharmed {e : Engine S} (he : e.rejected = false) (events : List (EngineEvent S)) :
    ((e.after C events).rejected = false ↔
        Machine.Guarded (Engine.step C) (Engine.Unharmed C) e events) ∧
      (Machine.Guarded (Engine.step C) (Engine.Unharmed C) e events →
        (e.after C events).senders = e.senders ++ (arrivals events).map SecretMsg.fromUserId ∧
        ∀ before later m rest, events = before ++ .turn :: later →
          (e.after C before).waiting = m :: rest → (e.after C (before ++ [.turn])).page =
                (e.after C before).page.hydrate.receive (m.inbound C) ∧
              (m.queueId ≠ "" → m.queueId ∈ (e.after C (before ++ [.turn])).confirmed)) ∧
      ∀ (e' : Engine S) (m : SecretMsg), m.Legible C → (m.queueId ≠ "" → e'.ready = true) →
        e'.Safe C m := by
  refine ⟨Engine.rejected_after_iff he events, ?_, fun _ _ => Engine.safe_of_legible⟩
  intro hunharmed
  refine ⟨Engine.senders_after he hunharmed, ?_⟩
  intro before later m rest hevents hwait
  subst hevents
  rw [Machine.guarded_append] at hunharmed
  rcases hunharmed with ⟨hpre, hturn, -⟩
  have hkept := (Engine.rejected_after_iff he before).mpr hpre
  rcases Engine.turn_of_unharmed hkept hwait hturn with ⟨_, -, heq⟩
  have hsplit := Machine.final_append (Engine.step C) e before [.turn]
  have hafter : e.after C (before ++ [.turn]) = ((e.after C before).step C .turn).2 := hsplit
  rw [hafter, heq]
  refine ⟨rfl, ?_⟩
  intro hqueued
  simp [hqueued]

namespace Engine

/-- The suite of a device whose keys are texts, of which one is not base64. -/
abbrev strict : Suite :=
  { ideal "alice" with decode := fun text => if text ∈ ["", "*"] then none else some text }

/-- Two messages of another device. -/
def posts : List (Posted (ideal "bob")) :=
  Mailbox.sendAll .web () (SecretChats.entry "alice" "alice.spk" "")
    (vacant Unit ⟨"bob.spk", none, []⟩) 0 ["one", "two"]

/-- The message that a text names. -/
def numbered (text : String) : Option (Posted (ideal "bob")) :=
  if text = "0" then posts[0]? else if text = "1" then posts[1]? else none

/-- Payloads are named: the two messages, and one whose identity key is not base64. -/
def calls : Calls strict where
  parse text :=
    if text = "first" then
      some ⟨some ⟨true, "bob"⟩, some ⟨true, ephemeralKey "bob" 0⟩, some ⟨true, "0"⟩⟩
    else if text = "second" then some ⟨none, none, some ⟨true, "1"⟩⟩
    else if text = "hostile" then some ⟨some ⟨true, "*"⟩, some ⟨true, "bob"⟩, some ⟨true, "0"⟩⟩
    else none
  fromUtf8 _ := ""
  header text := (numbered text).map fun p => p.header
  cipher text := (numbered text).map fun p => p.ciphertext

/-- A message with a payload as text. -/
def message (queueId ratchetHeader ciphertext : String) : SecretMsg :=
  ⟨"bob", "phone", queueId, [], [], ratchetHeader, ciphertext⟩

/-- A page that has just been opened. -/
def fresh : Engine strict where
  page := Web.new ⟨"alice.spk", none, []⟩
  transcript := []
  confirmed := []
  waiting := []
  rejected := false
  ready := true

/-- A message that does not parse, and then two that do, the first of them queued. -/
def mixed : List (EngineEvent strict) :=
  [.arrive (message "" "nonsense" "0"), .arrive (message "7" "first" "0"), .turn, .turn,
    .connection false, .arrive (message "" "second" "1"), .turn]

/-- All three are handled, in order. -/
theorem engine_unharmed_mixed : (fresh.after calls mixed).rejected = false ∧
      (fresh.after calls mixed).senders = ["bob", "bob", "bob"] ∧
      (fresh.after calls mixed).transcript =
        [⟨"bob", "", true⟩, ⟨"bob", "one", false⟩, ⟨"bob", "two", false⟩] := by
  have hunharmed : Machine.Guarded (step calls) (Unharmed calls) fresh mixed := by
    decide +kernel
  have h := engine_unharmed calls (e := fresh) rfl mixed
  exact ⟨h.1.mpr hunharmed, (h.2.1 hunharmed).1, by decide +kernel⟩

/-- A message whose identity key is not base64, and then one that could be opened. -/
def hostile : List (EngineEvent strict) :=
  [.arrive (message "" "hostile" "0"), .arrive (message "" "first" "0"), .turn, .turn]

/-- A queued message is handled while the connection is down, and another one when it is back. -/
def dropped : List (EngineEvent strict) :=
  [.arrive (message "7" "first" "0"), .connection false, .turn, .connection true,
    .arrive (message "" "second" "1"), .turn]

/-- The first message stops the chain, and the one after it is in no transcript.  In the second run
the message is in the transcript but its session is not saved, and the one after it is dropped. -/
theorem engine_stopped :
    ((fresh.after calls hostile).rejected = true ∧ (fresh.after calls hostile).waiting.length = 0 ∧
      (fresh.after calls hostile).transcript = []) ∧
    (fresh.after calls dropped).rejected = true ∧ (fresh.after calls dropped).waiting.length = 0 ∧
      (fresh.after calls dropped).transcript = [⟨"bob", "one", false⟩] ∧
      ((fresh.after calls dropped).page.sessions "bob:phone").isNone = true := by
  decide +kernel

end Engine

end SyncApp.SecretChats
