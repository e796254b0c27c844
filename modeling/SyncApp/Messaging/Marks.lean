import SyncApp.Messaging.Service

/-!
# Reactions and pins

`Toggle` and `Pin` ask for rights in the chat that a request names, and write a row for the message
that it names.  Nothing compares the two.

Main results:

- `Board.marks_of_their_chat`: marks are of messages of their chat if requests name such.
-/

namespace SyncApp.Messaging

open Foundations List Function
open Machine (final)

structure PinnedMessage where
  chatID : String
  messageID : String
  pinnedBy : String
  pinnedAt : Int
deriving DecidableEq

/-- The services, and the pins of each chat by message. -/
structure Board where
  service : Service
  pins : String → String → Option PinnedMessage

/-- A request, with what the chat service answers: whether the user is a member, or may pin. -/
inductive Mark where
  | toggle (chatID messageID userID emoji : String) (isMember : Answer) (now : Int)
  | pin (chatID messageID userID : String) (canPin : Answer) (now : Int)
  | unpin (chatID messageID : String) (canPin : Answer)

namespace Board

variable (b : Board) (chatID messageID : String)

/-- Write the pin of a message, or remove it. -/
def setPin (p : Option PinnedMessage) : Board :=
  { b with pins := update b.pins chatID (update (b.pins chatID) messageID p) }

def pin (chatID messageID userID : String) (canPin : Answer) (now : Int) :
    Except ServiceError Unit × Board :=
  match refusal canPin with
  | some e => (.error e, b)
  | none => (.ok (), b.setPin chatID messageID (some ⟨chatID, messageID, userID, now⟩))

def unpin (canPin : Answer) : Except ServiceError Unit × Board :=
  match refusal canPin with
  | some e => (.error e, b)
  | none =>
    match b.pins chatID messageID with
    | none => (.error (.store .notFound), b)
    | some _ => (.ok (), b.setPin chatID messageID none)

def step : Mark → List Event × Board
  | .toggle chatID messageID userID emoji isMember now =>
    let out := b.service.toggle chatID messageID userID emoji isMember now
    (Service.publishedBy out.1, { b with service := out.2 })
  | .pin chatID messageID userID canPin now => ([], (b.pin chatID messageID userID canPin now).2)
  | .unpin chatID messageID canPin => ([], (b.unpin chatID messageID canPin).2)

/-- The message is one of the chat. -/
abbrev Holds : Prop :=
  (b.service.store.getMessage chatID messageID).isSome = true

/-- A request that is not refused names a message of its chat. -/
def Named : Mark → Prop
  | .toggle chatID messageID _ _ allowed _ | .pin chatID messageID _ allowed _ =>
    allowed = some true → b.Holds chatID messageID
  | .unpin .. => True

/-- Every row goes back to a request by someone who had the right, and no user has two reactions on
a message. -/
structure Traced (marks : List Mark) (b : Board) : Prop where
  once : ∀ id, (b.service.store.reactions id).Pairwise (·.userID ≠ ·.userID)
  reactions : ∀ id, ∀ r ∈ b.service.store.reactions id, r.messageID = id ∧
    .toggle r.chatID id r.userID r.emoji (some true) r.createdAt ∈ marks
  pins : ∀ chatID id p, b.pins chatID id = some p → p.chatID = chatID ∧ p.messageID = id ∧
    .pin chatID id p.pinnedBy (some true) p.pinnedAt ∈ marks

variable {marks : List Mark} {b : Board}

lemma Traced.setPin (h : b.Traced marks) {chatID messageID : String} {p : Option PinnedMessage}
    (hp : ∀ q ∈ p, q.chatID = chatID ∧ q.messageID = messageID ∧
      .pin chatID messageID q.pinnedBy (some true) q.pinnedAt ∈ marks) :
    (b.setPin chatID messageID p).Traced marks := by
  refine ⟨h.once, h.reactions, fun c id q hq => ?_⟩
  unfold Board.setPin at hq
  rcases eq_or_ne c chatID with rfl | hc
  · rcases eq_or_ne id messageID with rfl | hid
    · simp only [update_self] at hq
      exact hp q hq
    · simp only [update_self, update_of_ne hid] at hq
      exact h.pins c id q hq
  · simp only [update_of_ne hc] at hq
    exact h.pins c id q hq

lemma setReaction_eq (s : Store) (r : Reaction) (id : String) :
    (s.setReaction r).2.reactions id = s.reactions id ∨
      ∃ last, (last = [] ∨ last = [r]) ∧ id = r.messageID ∧ (s.setReaction r).2.reactions id =
        (s.reactions id).filter (·.userID ≠ r.userID) ++ last := by
  unfold Store.setReaction
  rcases eq_or_ne id r.messageID with rfl | hid
  · right
    dsimp only
    split
    · exact ⟨[], .inl rfl, rfl, by simp⟩
    · exact ⟨[r], .inr rfl, rfl, by simp⟩
  · left
    dsimp only
    split <;> simp [hid]

lemma Traced.toggle (h : b.Traced marks) {r : Reaction}
    (hr : .toggle r.chatID r.messageID r.userID r.emoji (some true) r.createdAt ∈ marks) :
    Traced marks
      { b with service := { b.service with store := (b.service.store.setReaction r).2 } } := by
  refine ⟨fun id => ?_, fun id r' hr' => ?_, h.pins⟩
  · rcases setReaction_eq b.service.store r id with heq | ⟨last, hlast, rfl, heq⟩
    · exact heq ▸ h.once id
    rw [heq, pairwise_append]
    refine ⟨(h.once _).filter _, ?_, fun a ha c hc => ?_⟩
    · rcases hlast with rfl | rfl <;> simp
    · rcases hlast with rfl | rfl
      · cases hc
      · rw [mem_singleton.mp hc]
        exact of_decide_eq_true (mem_filter.mp ha).2
  · rcases setReaction_eq b.service.store r id with heq | ⟨last, hlast, rfl, heq⟩
    · exact h.reactions id r' (heq ▸ hr')
    rw [heq] at hr'
    rcases mem_append.mp hr' with hold | hnew
    · exact h.reactions _ r' (mem_of_mem_filter hold)
    rcases hlast with rfl | rfl
    · cases hnew
    rw [mem_singleton.mp hnew]
    exact ⟨rfl, hr⟩

lemma traced_step (h : b.Traced marks) {mark : Mark} (hmark : mark ∈ marks) :
    (b.step mark).2.Traced marks := by
  cases mark with
  | toggle chatID messageID userID emoji isMember =>
    simp only [step, Service.toggle]
    split
    · exact h
    · match isMember with
      | none | some false => exact h
      | some true => exact h.toggle hmark
  | pin chatID messageID userID canPin =>
    match canPin with
    | none | some false => exact h
    | some true =>
      refine h.setPin fun q hq => ?_
      obtain rfl := Option.some.inj hq
      exact ⟨rfl, rfl, hmark⟩
  | unpin chatID messageID canPin =>
    match canPin with
    | none | some false => exact h
    | some true =>
      simp only [step, unpin, refusal]
      split
      · exact h
      · exact h.setPin fun q hq => nomatch hq

lemma messages_step (b : Board) (mark : Mark) :
    (b.step mark).2.service.store.messages = b.service.store.messages := by
  cases mark with
  | toggle =>
    simp only [step, Service.toggle, Store.setReaction]
    repeat' split
    all_goals rfl
  | pin =>
    simp only [step, Board.pin]
    split <;> rfl
  | unpin =>
    simp only [step, unpin]
    repeat' split
    all_goals rfl

lemma holds_final (b : Board) (marks : List Mark) (chatID id : String) :
    (final step b marks).Holds chatID id ↔ b.Holds chatID id := by
  induction marks generalizing b with
  | nil => rfl
  | cons mark marks ih =>
    rw [Machine.final_cons, ih]
    simp only [Holds, Store.getMessage, messages_step]

lemma traced_final (h : b.Traced marks) {run : List Mark} (hrun : run ⊆ marks) :
    (final step b run).Traced marks := by
  induction run generalizing b with
  | nil => exact h
  | cons mark run ih =>
    rw [cons_subset] at hrun
    exact ih (traced_step h hrun.1) hrun.2

/-- The counts of a published reaction are those of the rows after the request. -/
lemma counts_step {mark : Mark} {chatID id userID emoji : String} {added : Bool}
    {counts : String → Nat}
    (h : .reaction chatID id userID emoji added counts ∈ (b.step mark).1) (token : String) :
    counts token = ((b.step mark).2.service.store.reactions id).countP (·.emoji = token) := by
  cases mark with
  | toggle _ _ _ _ isMember =>
    simp only [step, Service.toggle] at h ⊢
    split at h
    · cases h
    rename_i hemoji
    rw [if_neg hemoji]
    match isMember with
    | none | some false => cases h
    | some true =>
      obtain ⟨⟩ := mem_singleton.mp h
      rfl
  | pin | unpin => cases h

/-- Where every request names a message of its chat, so does every row; it goes back to a request
by someone with the right to make it. -/
theorem marks_of_their_chat (b : Board) (hreactions : ∀ id, b.service.store.reactions id = [])
    (hpins : ∀ chatID id, b.pins chatID id = none) (marks : List Mark)
    (hnamed : ∀ mark ∈ marks, b.Named mark) :
    let b' := final step b marks
    b'.Traced marks ∧ (∀ id, ∀ r ∈ b'.service.store.reactions id, b'.Holds r.chatID id) ∧
      (∀ chatID id p, b'.pins chatID id = some p → b'.Holds p.chatID id) ∧
      ∀ mark chatID id userID emoji added counts,
        .reaction chatID id userID emoji added counts ∈ (b'.step mark).1 → ∀ token,
        counts token = ((b'.step mark).2.service.store.reactions id).countP (·.emoji = token) := by
  have hstart : b.Traced marks := by
    refine ⟨fun id => ?_, fun id r hr => ?_, fun chatID id p hp => ?_⟩
    · rw [hreactions]
      exact .nil
    · rw [hreactions] at hr
      cases hr
    · rw [hpins] at hp
      cases hp
  have hend := traced_final hstart (List.Subset.refl marks)
  refine ⟨hend, fun id r hr => ?_, fun chatID id p hp => ?_, fun _ _ _ _ _ _ _ => counts_step⟩
  · exact (holds_final ..).mpr (hnamed _ (hend.reactions id r hr).2 rfl)
  · obtain ⟨rfl, -, hmem⟩ := hend.pins chatID id p hp
    exact (holds_final ..).mpr (hnamed _ hmem rfl)

/-- Chat "b" has one message, "1". -/
def sample : Board where
  service := ⟨Store.new.setRows "b" [⟨"1", "b", "u", 1, "", "", none, "", "", 0, none, 0, false,
    false, 0, 0⟩], nodeOne⟩
  pins _ _ := none

theorem marks_of_their_chat_one :
    let marks := [.toggle "b" "1" "u" "+" (some true) 4, .pin "b" "1" "u" (some true) 5]
    (∀ mark ∈ marks, sample.Named mark) ∧ (final step sample marks).Traced marks := by
  have hnamed : ∀ mark ∈ [.toggle "b" "1" "u" "+" (some true) 4, .pin "b" "1" "u" (some true) 5],
      sample.Named mark :=
    forall_mem_cons.mpr ⟨fun _ => rfl, forall_mem_singleton.mpr fun _ => rfl⟩
  exact ⟨hnamed, (marks_of_their_chat sample (fun _ => rfl) (fun _ _ => rfl) _ hnamed).1⟩

/-- A member of chat "a" reacts to a message of chat "b" and pins it in "a": both rows are written.
-/
theorem marked_elsewhere :
    let b := final step sample
      [.toggle "a" "1" "v" "+" (some true) 5, .pin "a" "1" "v" (some true) 6]
    b.service.store.reactions "1" = [⟨"a", "1", "v", "+", 5⟩] ∧
      b.pins "a" "1" = some ⟨"a", "1", "v", 6⟩ ∧ ¬ b.Holds "a" "1" ∧ b.Holds "b" "1" := by
  decide +kernel

end Board
end SyncApp.Messaging
