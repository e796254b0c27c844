import SyncApp.SecretChats.Android
import SyncApp.SecretChats.Ios
import SyncApp.SecretChats.Web

/-!
# Secret chats under ideal ciphers

A suite that can be evaluated.  Keys are names, a secret lists the keys that went into it, a
signature names what it signs, and a ciphertext opens under its own secret only.  A new ratchet key
of the other side begins a new sending chain.
-/

namespace SyncApp.SecretChats
namespace Symbolic

open Foundations.Interleaving

/-- A shared secret: the keys of both sides that X3DH mixes. -/
structure Agreement where
  initiator : String
  ephemeral : String
  responder : String
  signedPreKey : String
  oneTimePreKey : Option String
deriving DecidableEq

/-- A session: its secret, the ratchet key the other side showed last, and the sending chain. -/
structure Line where
  secret : Agreement
  remote : Option String
  sending : Option (Nat × Nat)

/-- A ciphertext. -/
structure Sealed where
  secret : Agreement
  text : String

def signature (signingKey signedPreKey : String) : String := signingKey ++ " signs " ++ signedPreKey

/-- The public key of a draw. -/
def fresh (own : String) (draw : Nat) : String := own ++ String.ofList (List.replicate draw '+')

namespace Line

/-- Seal a message, if there is a sending chain. -/
def encrypt (own : String) (line : Line) (text : String) : Option ((String × Sealed) × Line) :=
  match line.sending with
  | none => none
  | some (c, n) =>
    some ((fresh own c, ⟨line.secret, text⟩), { line with sending := some (c, n + 1) })

/-- Open a message; a new ratchet key on the other side begins a new sending chain. -/
def decrypt (line : Line) (draw : Nat) (header : String) (ciphertext : Sealed) :
    Option (String × Line) :=
  if ciphertext.secret = line.secret then
    if line.remote = some header then some (ciphertext.text, line)
    else
      some (ciphertext.text, { line with remote := some header, sending := some (draw, 0) })
  else none

lemma encrypt_sending {own text : String} {line line' : Line} {out : String × Sealed}
    (h : line.encrypt own text = some (out, line')) :
    ∃ c n, line.sending = some (c, n) ∧ line'.sending = some (c, n + 1) := by
  unfold encrypt at h
  split at h
  · cases h
  · next c n hsend =>
    cases h
    exact ⟨c, n, hsend, rfl⟩

lemma encrypt_isSome (own : String) {line : Line} (text : String) (h : line.sending ≠ none) :
    (line.encrypt own text).isSome := by
  unfold encrypt
  split
  · next hnone => exact absurd hnone h
  · rfl

lemma decrypt_sending {line line' : Line} {draw : Nat} {header text : String}
    {ciphertext : Sealed} (h : line.decrypt draw header ciphertext = some (text, line')) :
    line'.sending = line.sending ∨ line'.sending = some (draw, 0) := by
  unfold decrypt at h
  split at h
  · split at h
    · cases h
      exact .inl rfl
    · cases h
      exact .inr rfl
  · cases h

end Line

/-- The suite of the device with a given identity key. -/
def symbolic (own : String) : Suite where
  Key := String
  Pair := String
  Secret := Agreement
  Session := Line
  Header := String
  Cipher := Sealed
  decode text := if text = "" then none else some text
  pub := id
  x3dhInitiator ik sk spk sig otk draw :=
    if sig = signature sk spk then some (⟨own, fresh own draw, ik, spk, otk⟩, fresh own draw)
    else none
  x3dhResponder spk otk ik ek := some ⟨ik, ek, own, spk, otk⟩
  initiator secret spk draw := some ⟨secret, some spk, some (draw, 0)⟩
  responder secret _ := ⟨secret, none, none⟩
  encrypt := Line.encrypt own
  decrypt := Line.decrypt
  position := Line.sending
  initiator_position h := by
    cases h
    rfl
  responder_position _ _ := rfl
  encrypt_isSome := Line.encrypt_isSome own
  encrypt_position := Line.encrypt_sending
  decrypt_position := Line.decrypt_sending

/-- The suite of the device that is followed. -/
abbrev alice : Suite := symbolic "alice"

def aliceKeys : Prekeys alice := ⟨"alice.spk", none, ["alice.otk"]⟩

def bobBundle : Bundle where
  userId := "bob"
  deviceId := "phone"
  identityKey := "bob.ik"
  signingKey := "bob.sk"
  signedPrekey := "bob.spk"
  signedPrekeySig := signature "bob.sk" "bob.spk"
  oneTimePrekey := ""

/-- The device's answer to the first message. -/
def fromBob : Inbound alice where
  fromUserId := "bob"
  fromDeviceId := "phone"
  ik := none
  ek := none
  header := some "bob.rk"
  ciphertext := some ⟨⟨"alice", fresh "alice" 0, "bob.ik", "bob.spk", none⟩, "hi"⟩

/-- A first message from a device with another identity key, which the relay gives out as the
device's. -/
def fromMallory : Inbound alice where
  fromUserId := "bob"
  fromDeviceId := "phone"
  ik := some "mallory.ik"
  ek := some "mallory.ek"
  header := some "mallory.rk"
  ciphertext := some ⟨⟨"mallory.ik", "mallory.ek", "alice", "alice.spk", none⟩, "hello"⟩

/-- The account and device on iOS. -/
def bob : UserID := ⟨⟨"bob", by decide⟩, by decide⟩

def bobPhone : Peer := ⟨bob, "phone"⟩

variable (text : String)

/-- A message to the device, on each client. -/
def webSend : WebCall alice := .send "bob" text [bobBundle]

def androidSend : AndroidCall alice := .send "bob" text [bobBundle]

def iosSend : IosCall alice := .send bob text [bobBundle]

/-- A call that is started and takes some of its actions. -/
def started {C : Type} (index actions : Nat) (call : C) : List (Event C) :=
  .start call :: List.replicate actions (.run index)

end Symbolic
end SyncApp.SecretChats
