import SyncApp.SecretChats.Symbolic

/-!
# Message keys are used once

Whether two messages of a device are sealed at one position of a chain, so under one key and nonce.
On the web the vault learns of a message later; on the phones a session is read, used and saved in
separate actions.

Main results:

- `positions_once`: when no position is used twice, on each client.
-/

namespace SyncApp.SecretChats

open Foundations Foundations.Interleaving
open Android (run)

/-- The positions of the messages that left a device are all different: on the web whatever goes on
at once, on the phones one call after the other; on iOS with kills anywhere. -/
theorem positions_once (S : Suite) (keys : Prekeys S) : (∀ events, Web.Stops keys events →
      ((Web.run keys events).frames.map Frame.position).Nodup) ∧
    (∀ events, Android.Serial keys events → ((run keys events).frames.map Frame.position).Nodup) ∧
    (∀ deviceID events, Ios.Serial deviceID keys events →
      ((Ios.run deviceID keys events).frames.map Frame.position).Nodup) := by
  refine ⟨?_, ?_, ?_⟩
  · intro events hstops
    exact (Web.consistent_run keys hstops).valid.once
  · intro events hserial
    exact (Android.consistent_run keys hserial).once
  · intro deviceID events hserial
    exact (Ios.consistent_run deviceID keys hserial).valid.once

namespace Symbolic

/-- What a message says, and where it was sealed. -/
def placed (f : Frame alice) : String × Nat × Nat := (f.plaintext, f.position)

/-- The page is closed once its writes have landed, and opened again. -/
def webReopened : List (Event (WebCall alice)) :=
  started 0 3 (webSend "one") ++ started 1 1 .land ++ started 2 1 .land ++ [.restart] ++
    started 0 3 (webSend "two")

/-- The process dies between two messages. -/
def androidReopened : List (Event (AndroidCall alice)) :=
  started 0 7 (androidSend "one") ++ [.restart] ++ started 0 6 (androidSend "two")

/-- The process dies when a message has been sealed and its session saved, but before it leaves. -/
def iosReopened : List (Event (IosCall alice)) :=
  started 0 9 (iosSend "one") ++ started 1 6 (iosSend "lost") ++ [.restart] ++
    started 0 8 (iosSend "two")

theorem positions_once_reopened :
    ((Web.run aliceKeys webReopened).frames.map placed = [("one", 0, 0), ("two", 0, 1)] ∧
      ((Web.run aliceKeys webReopened).frames.map Frame.position).Nodup) ∧
    ((run aliceKeys androidReopened).frames.map placed = [("one", 0, 0), ("two", 0, 1)] ∧
      ((run aliceKeys androidReopened).frames.map Frame.position).Nodup) ∧
    ((Ios.run "tablet" aliceKeys iosReopened).frames.map placed = [("one", 0, 0), ("two", 0, 2)] ∧
      ((Ios.run "tablet" aliceKeys iosReopened).frames.map Frame.position).Nodup) := by
  rcases positions_once alice aliceKeys with ⟨hweb, handroid, hios⟩
  refine ⟨⟨by decide +kernel, ?_⟩, ⟨by decide +kernel, ?_⟩, by decide +kernel, ?_⟩
  · exact hweb _ (by decide +kernel)
  · exact handroid _ (by decide +kernel)
  · exact hios _ _ (by decide +kernel)

/-- The page is closed while the write of the second message's session is queued. -/
def webKilled : List (Event (WebCall alice)) :=
  started 0 3 (webSend "one") ++ started 1 1 .land ++ started 2 1 .land ++
    started 3 3 (webSend "two") ++ [.restart] ++ started 0 3 (webSend "three")

/-- The process dies between sending the second message and saving its session. -/
def androidKilled : List (Event (AndroidCall alice)) :=
  started 0 7 (androidSend "one") ++ started 1 4 (androidSend "two") ++ [.restart] ++
    started 0 6 (androidSend "three")

/-- A message is sealed before the session of the one before it is saved. -/
def androidOverlap : List (Event (AndroidCall alice)) :=
  started 0 7 (androidSend "one") ++ started 1 4 (androidSend "two") ++
    started 2 6 (androidSend "three") ++ List.replicate 2 (.run 1)

/-- After a restart two messages find no session in memory and wait for the row on disk; both get
it before either has saved it. -/
def iosOverlap : List (Event (IosCall alice)) :=
  started 0 9 (iosSend "one") ++ [.restart] ++ started 0 4 (iosSend "two") ++
    started 1 4 (iosSend "three") ++
    List.replicate 2 (.run 0) ++ List.replicate 2 (.run 1) ++
    List.replicate 2 (.run 0) ++ List.replicate 2 (.run 1)

/-- On each client the second and the third message leave the device at one position. -/
theorem positions_reused : (Web.run aliceKeys webKilled).frames.map placed =
      [("one", 0, 0), ("two", 0, 1), ("three", 0, 1)] ∧
    (run aliceKeys androidKilled).frames.map placed =
      [("one", 0, 0), ("two", 0, 1), ("three", 0, 1)] ∧
    (run aliceKeys androidOverlap).frames.map placed =
      [("one", 0, 0), ("two", 0, 1), ("three", 0, 1)] ∧
    (Ios.run "tablet" aliceKeys iosOverlap).frames.map placed =
      [("one", 0, 0), ("two", 0, 1), ("three", 0, 1)] := by
  decide +kernel

end Symbolic
end SyncApp.SecretChats
