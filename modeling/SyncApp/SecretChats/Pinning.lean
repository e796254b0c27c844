import SyncApp.SecretChats.Symbolic

/-!
# Pinned identities

The sending path compares every bundle with the pin.  The receiving path does not: a first message
that opens replaces the session, whoever it was agreed with.

Main results:

- `sealed_under_pin`: when a pinned device is written to under its pin only.
-/

namespace SyncApp.SecretChats

open Foundations Foundations.Interleaving
open Android (run)

variable {S : Suite}

/-- If the device had a pin when the message was sealed, the session was agreed with it. -/
def Frame.KeepsPin (f : Frame S) : Prop :=
  ∀ p, f.pin = some p → S.decode p.identityKey = some f.peer

/-- On the web whatever goes on at once, and on the phones one call after the other, every message
to a pinned device is sealed under its pin, unless a message opened or a pin set brought in another
identity. -/
theorem sealed_under_pin (S : Suite) (keys : Prekeys S) :
    (∀ events, Web.Stops keys events → (Web.run keys events).Clean →
      ∀ f ∈ (Web.run keys events).frames, f.KeepsPin) ∧
    (∀ events, Android.Serial keys events → (run keys events).Clean →
      ∀ f ∈ (run keys events).frames, f.KeepsPin) ∧
    (∀ deviceID events, Ios.Serial deviceID keys events → (Ios.run deviceID keys events).Clean →
      ∀ f ∈ (Ios.run deviceID keys events).sealed, f.KeepsPin) := by
  refine ⟨?_, ?_, ?_⟩
  · intro events hstops hclean
    exact (Web.consistent_run keys hstops).frames hclean
  · intro events hserial hclean
    exact (Android.consistent_run keys hserial).frames hclean
  · intro deviceID events hserial hclean
    exact (Ios.consistent_run deviceID keys hserial).agreed hclean

namespace Symbolic

variable (m : Inbound alice)

/-- A message to the device, its answer, and another message. -/
def webTalk : List (Event (WebCall alice)) :=
  started 0 3 (webSend "one") ++ started 1 2 (.receive m) ++ started 2 3 (webSend "two")

def androidTalk : List (Event (AndroidCall alice)) :=
  started 0 7 (androidSend "one") ++ started 1 4 (.receive m) ++ started 2 6 (androidSend "two")

def iosTalk : List (Event (IosCall alice)) :=
  started 0 9 (iosSend "one") ++ started 1 4 (.receive bobPhone m) ++ started 2 7 (iosSend "two")

/-- What a message says, under which pin and for which identity it was sealed. -/
def addressed (f : Frame alice) : String × Option Pin × String := (f.plaintext, f.pin, f.peer)

/-- The device answers, and is written to again under its pin. -/
theorem sealed_under_pin_answer : (∀ frames ∈ [(Web.run aliceKeys (webTalk fromBob)).frames,
        (run aliceKeys (androidTalk fromBob)).frames,
        (Ios.run "tablet" aliceKeys (iosTalk fromBob)).sealed], frames.map addressed =
        [("one", none, "bob.ik"), ("two", some bobBundle.pin, "bob.ik")]) ∧
    (∀ f ∈ (Web.run aliceKeys (webTalk fromBob)).frames, f.KeepsPin) ∧
    (∀ f ∈ (run aliceKeys (androidTalk fromBob)).frames, f.KeepsPin) ∧
    (∀ f ∈ (Ios.run "tablet" aliceKeys (iosTalk fromBob)).sealed, f.KeepsPin) := by
  rcases sealed_under_pin alice aliceKeys with ⟨hweb, handroid, hios⟩
  refine ⟨by decide +kernel, ?_, ?_, ?_⟩
  · exact hweb _ (by decide +kernel) (by decide +kernel)
  · exact handroid _ (by decide +kernel) (by decide +kernel)
  · exact hios _ _ (by decide +kernel) (by decide +kernel)

/-- Somebody else's first message is given out as the device's.  It opens, and the next message to
the device, whose bundle passes the pin, is sealed for the other identity. -/
theorem first_message_replaces_session : (Web.Stops aliceKeys (webTalk fromMallory) ∧
      Android.Serial aliceKeys (androidTalk fromMallory) ∧
      Ios.Serial "tablet" aliceKeys (iosTalk fromMallory)) ∧
    (Web.run aliceKeys (webTalk fromMallory)).frames.map addressed =
      [("one", none, "bob.ik"), ("two", some bobBundle.pin, "mallory.ik")] ∧
    (run aliceKeys (androidTalk fromMallory)).frames.map addressed =
      [("one", none, "bob.ik"), ("two", some bobBundle.pin, "mallory.ik")] ∧
    (Ios.run "tablet" aliceKeys (iosTalk fromMallory)).frames.map addressed =
      [("one", none, "bob.ik"), ("two", some bobBundle.pin, "mallory.ik")] := by
  decide +kernel

end Symbolic
end SyncApp.SecretChats
