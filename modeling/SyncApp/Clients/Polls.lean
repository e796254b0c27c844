import SyncApp.Messaging.Rows

/-!
# The polls that a web client shows

A vote is answered with the state of the poll, with the options of the one who asks, and the state
is sent to all members, with none.  The web client shows what comes last.

Main results:

- `Polling.own_choice_survives`: the choice shown is the one stored if the reply is applied last.
-/

namespace SyncApp.Clients

open Foundations Messaging Function List
open Machine (Guarded final final_append final_cons)

/-- `usePollStore`.  A poll is kept as the wire has it. -/
structure PollStore where
  byId : String → Option PollStateBody
  byMessage : String → Option String

/-- `applyWirePoll`. -/
def PollStore.apply (s : PollStore) (poll : PollStateBody) : PollStore where
  byId := update s.byId poll.pollID (some poll)
  byMessage := if poll.messageID = "" then s.byMessage
    else update s.byMessage poll.messageID (some poll.pollID)

/-- The services, the web client of one user, and the states sent to it, which it applies in any
order, some again or not at all. -/
structure Polling where
  service : Service
  client : PollStore
  sent : List PollStateBody

/-- A vote and the reply to it are two steps (`handlePollVote`). -/
inductive PollEvent where
  | vote (pollID userID : String) (option : Int) (isMember : Answer)
  | close (pollID userID : String)
  | reply (pollID : String) (isMember : Answer)
  | apply (index : Nat)

/-- What `broadcast` sends. -/
def broadcastOf : Except ServiceError (Poll × Messaging.Event) → List PollStateBody
  | .ok (_, .pollState body) => [body]
  | _ => []

namespace Polling

def step (user : String) (w : Polling) : PollEvent → Unit × Polling
  | .vote pollID userID option isMember =>
    let out := w.service.votePoll pollID userID option isMember
    ((), { w with service := out.2, sent := w.sent ++ broadcastOf out.1 })
  | .close pollID userID =>
    let out := w.service.closePoll pollID userID
    ((), { w with service := out.2, sent := w.sent ++ broadcastOf out.1 })
  | .reply pollID isMember =>
    let out := w.service.pollResults pollID user isMember
    ((), { w with sent := w.sent ++ out.toOption.toList })
  | .apply index =>
    ((), { w with client := (w.sent[index]?).elim w.client w.client.apply })

variable {user pollID shown : String} {w : Polling} {e : PollEvent}

/-- The user does not vote on the poll. -/
def Foreign (user pollID : String) (_ : Polling) : PollEvent → Prop
  | .vote pollID' userID _ _ => pollID' ≠ pollID ∨ userID ≠ user
  | _ => True

/-- Nor is a state of it applied. -/
def Still (user pollID shown : String) (w : Polling) (e : PollEvent) : Prop :=
  Foreign user pollID w e ∧
    ∀ index, e = .apply index → ∀ poll ∈ w.sent[index]?, poll.pollID ≠ shown

lemma votedOptions_putVotes {s : Store} {poll voter : String}
    (h : poll ≠ pollID ∨ voter ≠ user) (options : List Int) :
    (s.putVotes poll voter options).votedOptions pollID user = s.votedOptions pollID user := by
  refine congrArg (insertionSort (· ≤ ·)) ?_
  unfold Store.picked Store.putVotes
  by_cases hpoll : pollID = poll
  · subst hpoll
    have hne : voter ≠ user := h.resolve_left fun h => h rfl
    have hsame : (fun ballot : String × List Int => !decide (ballot.1 = voter) &&
        decide (ballot.1 = user)) = fun ballot => decide (ballot.1 = user) := by
      funext ballot
      by_cases hballot : ballot.1 = user
      · simp [hballot, hne.symm]
      · simp [hballot]
    simp [find?_append, find?_filter, hsame, hne]
  · simp [update_of_ne hpoll]

/-- Votes of others, and closing, leave the options that the user has picked. -/
lemma votedOptions_step (h : Foreign user pollID w e) :
    (step user w e).2.service.store.votedOptions pollID user =
      w.service.store.votedOptions pollID user := by
  cases e with
  | vote poll voter option isMember =>
    rcases w.service.votePoll_frame poll voter option isMember with hfr | ⟨options, hfr⟩
    · simp only [step, hfr]
    · simp only [step, hfr]
      exact votedOptions_putVotes h options
  | close poll userID =>
    rcases w.service.closePoll_frame poll userID with ⟨_, hfr⟩
    simp only [step, hfr]
    rfl
  | reply | apply => rfl

variable {events : List PollEvent}

lemma votedOptions_final (h : Guarded (step user) (Foreign user pollID) w events) :
    (final (step user) w events).service.store.votedOptions pollID user =
      w.service.store.votedOptions pollID user := by
  induction events generalizing w with
  | nil => rfl
  | cons e events ih => exact (ih h.2).trans (votedOptions_step h.1)

lemma prefix_final (user : String) (w : Polling) (events : List PollEvent) :
    w.sent <+: (final (step user) w events).sent := by
  induction events generalizing w with
  | nil => exact prefix_rfl
  | cons e events ih =>
    refine IsPrefix.trans ?_ (ih _)
    cases e with
    | vote | close | reply => exact prefix_append ..
    | apply => exact prefix_rfl

lemma still_final (h : Guarded (step user) (Still user pollID shown) w events) :
    (final (step user) w events).client.byId shown = w.client.byId shown ∧
      Guarded (step user) (Foreign user pollID) w events := by
  induction events generalizing w with
  | nil => exact ⟨rfl, trivial⟩
  | cons e events ih =>
    refine ⟨(ih h.2).1.trans ?_, h.1.1, (ih h.2).2⟩
    cases e with
    | vote | close | reply => rfl
    | apply index =>
      cases hpoll : w.sent[index]? with
      | none => simp [step, hpoll]
      | some poll => simp [step, hpoll, PollStore.apply, (h.1.2 index rfl poll hpoll).symm]

/-- If the reply to the user's last vote is the last state that the client applies, it shows the
options stored, whatever others vote. -/
theorem own_choice_survives {isMember : Answer} {body : PollStateBody}
    (hreply : w.service.pollResults pollID user isMember = .ok body) (before after : List PollEvent)
    (hpre : Guarded (step user) (Foreign user pollID) w (.reply pollID isMember :: before))
    (hafter : Guarded (step user) (Still user pollID body.pollID)
      (final (step user) w (.reply pollID isMember :: before ++ [.apply w.sent.length])) after) :
    let w' := final (step user) w
      (.reply pollID isMember :: before ++ .apply w.sent.length :: after)
    ∃ poll, w'.client.byId body.pollID = some poll ∧
      poll.myVotes = w'.service.store.votedOptions pollID user := by
  have hmine : body.myVotes = w.service.store.votedOptions pollID user := by
    unfold Service.pollResults at hreply
    split at hreply
    · cases hreply
    split at hreply
    · cases hreply
    · cases hreply
      rfl
  -- The reply is still in its place when the client applies it.
  have hwaits : (final (step user) w (.reply pollID isMember :: before)).sent[w.sent.length]? =
      some body := by
    rcases prefix_final user (step user w (.reply pollID isMember)).2 before with ⟨later, hlater⟩
    rw [final_cons, ← hlater]
    simp [step, hreply, Except.toOption]
  have hstored := votedOptions_final hpre
  rw [final_append] at hafter ⊢
  generalize final (step user) w (.reply pollID isMember :: before) = t at hwaits hstored hafter
  rcases still_final hafter with ⟨hshown, hfor⟩
  refine ⟨body, hshown.trans ?_,
    hmine.trans <| hstored.symm.trans (votedOptions_final hfor).symm⟩
  simp [step, hwaits, PollStore.apply]

/-- A poll that nobody has voted on. -/
def opened : Polling where
  service := ⟨Store.new.createPoll
    ⟨"p", "c", "m", "bob", "Lunch?", ["yes", "no"], false, false, false, 0⟩, nodeOne⟩
  client := ⟨fun _ => none, fun _ => none⟩
  sent := []

theorem own_choice_survives_vote :
    let w := (step "alice" opened (.vote "p" "alice" 0 (some true))).2
    let w' := final (step "alice") w [.reply "p" (some true), .vote "p" "bob" 1 (some true),
      .apply 0, .apply 1]
    ∃ poll, w'.client.byId "p" = some poll ∧
      poll.myVotes = w'.service.store.votedOptions "p" "alice" := by
  intro w
  have hreply : w.service.pollResults "p" "alice" (some true) = .ok _ := rfl
  exact own_choice_survives hreply [.vote "p" "bob" 1 (some true), .apply 0] []
    ⟨trivial, .inr (by decide), trivial, trivial⟩ trivial

/-- The broadcast of another vote takes the choice away. -/
theorem own_choice_vanishes :
    let w := final (step "alice") opened [.vote "p" "alice" 0 (some true), .reply "p" (some true),
      .apply 1, .vote "p" "bob" 1 (some true), .apply 2]
    (w.client.byId "p").map (·.myVotes) = some [] ∧
      w.service.store.votedOptions "p" "alice" = [0] := by
  decide

end Polling

end SyncApp.Clients
