import SyncApp.Messaging.Staging

/-!
# A deleted message stays deleted

A row that is marked as deleted is so for good.  But `EditMessage` of the in-memory store does not
look at the mark, and the poll service announces the question of a poll whose message is gone.

Main results:

- `deleted_stays_deleted`: deleted messages stay empty and unannounced but for these two.
-/

namespace SyncApp.Messaging

open Foundations RowLog List
open Service (InTime new step)

/-- The event carries content of the message.  The state of a poll always does: it repeats the
question and the options. -/
def Event.Reveals (id : String) : Event → Prop
  | .message _ _ body =>
    body.messageID = id ∧ (body.text ≠ "" ∨ body.mediaRef ≠ "" ∨ body.attachment ≠ none)
  | .read _ _ _ => False
  | .reaction _ _ _ _ _ _ => False
  | .pollState body => body.messageID = id

/-- Some row with this identifier is marked as deleted. -/
def Service.Dead (sv : Service) (id : String) : Prop :=
  ∃ x, ∃ row ∈ sv.store.messages x, row.id = id ∧ row.deleted = true

def Service.TombstonesEmpty (sv : Service) : Prop :=
  ∀ x, ∀ row ∈ sv.store.messages x, row.deleted = true → row.Erased

/-- The poll of a successful answer. -/
def pollOf : Except ServiceError (Poll × Event) → Option Poll
  | .ok (p, _) => some p
  | .error _ => none

namespace Service

/-- The poll that a successful request to the poll service is about. -/
def changedPoll (sv : Service) : ServiceOp → Option Poll
  | .createPoll input isMember now clock => pollOf (sv.createPoll input isMember now clock).1
  | .votePoll pollID userID option isMember =>
    pollOf (sv.votePoll pollID userID option isMember).1
  | .closePoll pollID userID => pollOf (sv.closePoll pollID userID).1
  | _ => none

/-- A request that gives no tombstone a text and changes no poll anchored to a
tombstone. -/
def Quiet (sv : Service) : ServiceOp → Prop
  | .edit userID chatID msgID text _ _ =>
    ∀ cur ∈ sv.store.getMessage chatID msgID, cur.senderID = userID → cur.deleted = true → text = ""
  | op => ∀ p ∈ sv.changedPoll op, ¬ sv.Dead p.messageID

/-- A row that keeps its identifier and its mark. -/
def Marked (m m' : Message) : Prop := m'.id = m.id ∧ (m.deleted = true → m'.deleted = true)

lemma Marked.refl (m : Message) : Marked m m :=
  ⟨rfl, fun h => h⟩

lemma Marked.trans (a b c : Message) (hab : Marked a b) (hbc : Marked b c) : Marked a c :=
  ⟨hbc.1.trans hab.1, fun h => hbc.2 (hab.2 h)⟩

variable {m : Message} {op : ServiceOp} {sv : Service} {e : Event} {ops : List ServiceOp}

lemma marked_of_fades {m' : Message} (h : m.Fades m') : Marked m m' := by
  constructor
  · exact congrArg Slot.id h.slot
  · intro hdel
    rcases h.content with hgone | ⟨hsame, -, -, -⟩
    · exact hgone.deleted
    · exact hsame.trans hdel

lemma extends_appendRow (rows : List Message) (m : Message) :
    Extends Marked rows (Store.appendRow rows m) := by
  have happend : Extends Marked rows (rows ++ [m]) := Extends.append rows [m] Marked.refl
  unfold Store.appendRow
  split
  · apply happend.trans Marked.trans
    exact .of_forall₂ (forall₂_updateFirst Marked.refl _ fun a _ => ⟨rfl, fun h => h⟩)
  · exact happend

lemma step_marked (sv : Service) (op : ServiceOp) (x : String) :
    Extends Marked (sv.store.messages x) ((sv.step op).2.store.messages x) := by
  cases sv.step_rows op with
  | faded hrows => exact .of_forall₂ ((hrows x).imp fun _ _ h => marked_of_fades h)
  | edited userID chatID msgID text now clock cur hop hget hsender hrows =>
    rw [hrows]
    split
    · exact .of_forall₂ (forall₂_updateFirst Marked.refl _ fun a _ => ⟨rfl, fun h => h⟩)
    · exact .refl Marked.refl _
  | appended input now clock c m hm hrows =>
    rw [hrows]
    split
    · exact extends_appendRow _ m
    · exact .refl Marked.refl _

lemma mem_appendRow {rows : List Message} {row' : Message} (h : row' ∈ Store.appendRow rows m) :
    ∃ row ∈ rows ++ [m], row' = row ∨ row' = Store.countReply row := by
  unfold Store.appendRow at h
  split at h
  · rcases mem_updateFirst h with hin | ⟨row, hfind, hcnt⟩
    · exact ⟨row', hin, .inl rfl⟩
    · exact ⟨row, mem_of_find?_eq_some hfind, .inr hcnt⟩
  · exact ⟨row', h, .inl rfl⟩

lemma TombstonesEmpty.step (h : sv.TombstonesEmpty) (hquiet : sv.Quiet op) :
    (sv.step op).2.TombstonesEmpty := by
  intro x row' hrow' hdel
  cases sv.step_rows op with
  | faded hrows =>
    rcases exists_of_mem_right (hrows x) hrow' with ⟨row, hrow, hfade⟩
    rcases hfade.content with hgone | ⟨hmark, htext, hmedia, hatt⟩
    · exact hgone
    · have hgone := h x row hrow (hmark ▸ hdel)
      exact ⟨hdel, htext.trans hgone.text, hmedia.trans hgone.mediaRef,
        hatt.trans hgone.attachment⟩
  | edited userID chatID msgID text now clock cur hop hget hsender hrows =>
    rw [hrows] at hrow'
    split at hrow'
    · next hx =>
      rcases mem_updateFirst hrow' with hin | ⟨row, hfind, rfl⟩
      · exact h x row' hin hdel
      subst hop hx
      have hgone := h x row (mem_of_find?_eq_some hfind) hdel
      have hcur : row = cur := Option.some.inj (hfind.symm.trans hget)
      subst hcur
      exact ⟨hdel, hquiet row hget hsender hdel, hgone.mediaRef, hgone.attachment⟩
    · exact h x row' hrow' hdel
  | appended input now clock c m hm hrows =>
    rw [hrows] at hrow'
    split at hrow'
    · rcases mem_appendRow hrow' with ⟨row, hrow, hrow'⟩
      have hfrom : row ∈ sv.store.messages x := by
        rcases mem_append.mp hrow with hin | hnew
        · exact hin
        · -- The appended message is not deleted.
          rw [mem_singleton.mp hnew, hm] at hrow'
          rcases hrow' with rfl | rfl <;> exact absurd hdel Bool.false_ne_true
      rcases hrow' with rfl | rfl
      · exact h x _ hfrom hdel
      · have hgone := h x row hfrom hdel
        exact { hgone with }
    · exact h x row' hrow' hdel

/-! ## Events -/

/-- What an event of a request can be. -/
inductive Announced (sv : Service) (op : ServiceOp) : Event → Prop where
  /-- A message under an identifier just drawn. -/
  | created {subject : Subject} {key : String} {body : NewMessageBody}
      (hid : sv.ids.Draws (sv.step op).2.ids body.messageID) :
      Announced sv op (.message subject key body)
  /-- An edited message, without its content if it is deleted. -/
  | edited {subject : Subject} {key chatID msgID text : String} {now : Int} {cur : Message}
      (hget : sv.store.getMessage chatID msgID = some cur) :
      Announced sv op (.message subject key (messageBody (redacted (Store.edited text now cur))))
  /-- A message that is gone. -/
  | withdrawn {subject : Subject} {key : String} {body : NewMessageBody} (htext : body.text = "")
      (hmedia : body.mediaRef = "") (hatt : body.attachment = none) :
      Announced sv op (.message subject key body)
  | read {chatID userID : String} {upToSeq : Nat} : Announced sv op (.read chatID userID upToSeq)
  | reaction {chatID messageID userID emoji : String} {added : Bool} {counts : String → Nat} :
      Announced sv op (.reaction chatID messageID userID emoji added counts)
  /-- The state of a poll that was changed. -/
  | pollState {p : Poll} {body : PollStateBody} (hpoll : sv.changedPoll op = some p)
      (hid : body.messageID = p.messageID) : Announced sv op (.pollState body)

/-- The records a request stages are events it may announce. -/
lemma staged_announced (sv : Service) {rec : OutboxRecord} (hrec : rec ∈ sv.staged op) :
    Announced sv op (.message rec.subject rec.key rec.data) := by
  have hnothing : ¬ (sv.step op).2.store.outbox.length ≤ sv.store.outbox.length := by
    intro h
    rw [staged, drop_eq_nil_of_le h] at hrec
    exact absurd hrec not_mem_nil
  cases op with
  | send => exact .created ((sv.send_stages ..).of_mem_drop hrec).1
  | edit userID chatID msgID text now clock =>
    rcases ((sv.edit_stages userID chatID msgID text now clock).of_mem_drop hrec).1 with
      ⟨_, hget, hbody⟩
    rw [hbody]
    exact .edited hget
  | delete userID chatID msgID canModerate now clock =>
    rcases ((sv.delete_stages userID chatID msgID canModerate now clock).of_mem_drop hrec).1 with
      ⟨htext, hmedia, hatt⟩
    exact .withdrawn htext hmedia hatt
  | forward => exact .created ((sv.forward_stages ..).of_mem_drop hrec).1
  | expireDue now limit order =>
    refine absurd (le_of_eq (congrArg length ?_)) hnothing
    exact (expireChats_outbox now _ order _).1
  | deleteAccount userID now =>
    refine absurd (le_of_eq (congrArg length ?_)) hnothing
    exact (deleteAccount_outbox _ userID now).1
  | markSent => exact absurd (drops_compact _ _).sublist.length_le hnothing
  | purgeSent limit => exact absurd (drops_purgeLoop limit _ _ 0).sublist.length_le hnothing
  | _ =>
    exact absurd (le_of_eq (congrArg length (sv.step_beside rfl).outbox)) hnothing

section Polls

/-- A successful answer of the poll service announces the poll it is about. -/
def Shown (out : Except ServiceError (Poll × Event)) : Prop :=
  ∀ p e, out = .ok (p, e) → ∃ s mine, e = .pollState (pollStateOf s p mine)

lemma Shown.error (e : ServiceError) : Shown (.error e) :=
  fun _ _ h => absurd h (by simp)

lemma Shown.ok (s : Store) (p : Poll) (mine : List Int) :
    Shown (.ok (p, .pollState (pollStateOf s p mine))) := by
  intro q e h
  rw [Except.ok.injEq, Prod.mk.injEq] at h
  exact ⟨s, mine, h.1 ▸ h.2.symm⟩

variable (sv : Service)

lemma createPoll_shown (input : PollInput) (isMember : Answer) (now : Int) (clock : Clock) :
    Shown (sv.createPoll input isMember now clock).1 := by
  unfold createPoll
  split
  · cases refusal isMember with
    | some e => exact .error e
    | none => exact .ok _ _ _
  · exact .error _

variable (pollID userID : String)

lemma votePoll_shown (option : Int) (isMember : Answer) :
    Shown (sv.votePoll pollID userID option isMember).1 := by
  unfold votePoll
  cases sv.store.polls pollID with
  | none => exact .error _
  | some =>
    dsimp only
    split
    · exact .error _
    split
    · exact .error _
    cases refusal isMember with
    | some e => exact .error e
    | none =>
      dsimp only
      split
      · exact .error _
      · exact .error _
      · exact .ok _ _ _

lemma closePoll_shown : Shown (sv.closePoll pollID userID).1 := by
  unfold closePoll
  cases sv.store.polls pollID with
  | none => exact .error _
  | some =>
    dsimp only
    split
    · exact .error _
    · split
      · exact .error _
      · exact .ok _ _ _

/-- What the poll service publishes is about the poll it changed. -/
lemma announced_of_shown {out : Except ServiceError (Poll × Event)} (hout : Shown out)
    (hop : sv.changedPoll op = pollOf out) (he : e ∈ publishedBy out) : Announced sv op e := by
  cases out with
  | error => exact absurd he not_mem_nil
  | ok answer =>
    rcases answer with ⟨p, e'⟩
    rcases hout p e' rfl with ⟨s, _, rfl⟩
    rw [mem_singleton.mp he]
    exact .pollState hop rfl

end Polls

lemma published_announced (sv : Service) (he : e ∈ (sv.step op).1) : Announced sv op e := by
  cases op with
  | expireDue =>
    rcases mem_map.mp he with ⟨m, -, rfl⟩
    exact .withdrawn rfl rfl rfl
  | markRead userID chatID upToSeq isMember =>
    simp only [step, markRead] at he
    cases hans : refusal isMember with
    | some =>
      rw [hans] at he
      exact absurd he not_mem_nil
    | none =>
      rw [hans] at he
      rw [mem_singleton.mp he]
      exact .read
  | toggle chatID messageID userID emoji isMember =>
    simp only [step, toggle] at he
    split at he
    · exact absurd he not_mem_nil
    cases hans : refusal isMember with
    | some =>
      rw [hans] at he
      exact absurd he not_mem_nil
    | none =>
      rw [hans] at he
      rw [mem_singleton.mp he]
      exact .reaction
  | createPoll input isMember now clock =>
    refine sv.announced_of_shown (sv.createPoll_shown input isMember now clock) ?_ he
    rw [changedPoll]
  | votePoll pollID userID option isMember =>
    refine sv.announced_of_shown (sv.votePoll_shown pollID userID option isMember) ?_ he
    rw [changedPoll]
  | closePoll pollID userID =>
    refine sv.announced_of_shown (sv.closePoll_shown pollID userID) ?_ he
    rw [changedPoll]
  | _ => exact absurd he not_mem_nil

lemma announced_of_mem (sv : Service) (he : e ∈ sv.events op) : Announced sv op e := by
  rcases mem_append.mp he with hnow | hlater
  · exact sv.published_announced hnow
  · rcases mem_map.mp hlater with ⟨_, hrec, rfl⟩
    exact sv.staged_announced hrec

lemma not_reveals (hids : sv.DistinctIDs) (hquiet : sv.Quiet op) (htime : sv.InTime op)
    (he : e ∈ sv.events op) {id : String} (hdead : sv.Dead id) : ¬ e.Reveals id := by
  rcases hdead with ⟨x, row, hrow, hid, hdel⟩
  intro hrev
  cases sv.announced_of_mem he with
  | created hnew =>
    -- The identifier of the event has not been issued before.
    apply hnew.not_issued htime
    rw [hrev.1, ← hid]
    exact hids.issued x row hrow
  | @edited _ _ chatID _ text now cur hget =>
    have hcur := mem_of_find?_eq_some hget
    unfold redacted at hrev
    split at hrev
    · rcases hrev with ⟨-, htext | hmedia | hatt⟩
      · exact htext rfl
      · exact hmedia rfl
      · exact hatt rfl
    · next hlive =>
      have hsame : row = cur := hids.eq_of_id hrow hcur (hid.trans hrev.1.symm)
      exact hlive (hsame ▸ hdel)
  | withdrawn htext hmedia hatt =>
    rcases hrev with ⟨-, h | h | h⟩
    · exact h htext
    · exact h hmedia
    · exact h hatt
  | read | reaction => exact hrev
  | @pollState p _ hpoll hmsg =>
    have hquiet' : ∀ p ∈ sv.changedPoll op, ¬ sv.Dead p.messageID := by
      cases op with
      | edit => exact absurd hpoll (by simp [changedPoll])
      | _ => exact hquiet
    apply hquiet' p hpoll
    rw [← hmsg, hrev]
    exact ⟨x, row, hrow, hid, hdel⟩

lemma reveals_of_changedPoll (sv : Service) {p : Poll} (hpoll : sv.changedPoll op = some p) :
    ∃ e ∈ sv.events op, e.Reveals p.messageID := by
  have hshown : ∀ out : Except ServiceError (Poll × Event), Shown out → pollOf out = some p →
      ∃ e ∈ publishedBy out, e.Reveals p.messageID := by
    intro out hout hp
    cases out with
    | error => exact absurd hp (by simp [pollOf])
    | ok answer =>
      rcases answer with ⟨q, e⟩
      rcases hout q e rfl with ⟨s, _, rfl⟩
      rw [pollOf, Option.some.injEq] at hp
      exact ⟨_, mem_singleton_self _, congrArg Poll.messageID hp⟩
  have hnow : ∃ e ∈ (sv.step op).1, e.Reveals p.messageID := by
    cases op with
    | createPoll input isMember now clock =>
      exact hshown _ (sv.createPoll_shown input isMember now clock) hpoll
    | votePoll pollID userID option isMember =>
      exact hshown _ (sv.votePoll_shown pollID userID option isMember) hpoll
    | closePoll pollID userID =>
      exact hshown _ (sv.closePoll_shown pollID userID) hpoll
    | _ => exact absurd hpoll (by simp [changedPoll])
  rcases hnow with ⟨e, he, hrev⟩
  exact ⟨e, mem_append_left _ he, hrev⟩

/-! ## Whole runs -/

def eventsOf : Service → List ServiceOp → List Event
  | _, [] => []
  | sv, op :: ops => sv.events op ++ eventsOf (sv.step op).2 ops

/-- Whatever is deleted at some point of the run is in its place and empty at every
later point, and no event in between carries content for it. -/
def StaysDeleted (sv : Service) (ops : List ServiceOp) : Prop :=
  ∀ before later rest, ops = before ++ later ++ rest →
    ∀ (x : String) (i : Nat) (row : Message),
      ((sv.after before).store.messages x)[i]? = some row → row.deleted = true →
        (∃ row', ((sv.after (before ++ later)).store.messages x)[i]? = some row' ∧
          row'.id = row.id ∧ row'.Erased) ∧
        ∀ e ∈ (sv.after before).eventsOf later, ¬ e.Reveals row.id

/-- A tombstone through a run of quiet requests. -/
lemma run_keeps (hids : sv.DistinctIDs) (hemp : sv.TombstonesEmpty)
    (hquiet : Machine.Guarded step Quiet sv ops) (htime : Machine.Guarded step InTime sv ops)
    {x : String} {i : Nat} {row : Message} (hrow : (sv.store.messages x)[i]? = some row)
    (hdel : row.deleted = true) :
    (∃ row', ((sv.after ops).store.messages x)[i]? = some row' ∧ row'.id = row.id ∧
      row'.Erased) ∧ ∀ e ∈ sv.eventsOf ops, ¬ e.Reveals row.id := by
  induction ops generalizing sv row with
  | nil =>
    have hgone := hemp x row (mem_of_getElem? hrow) hdel
    exact ⟨⟨row, hrow, rfl, hgone⟩, fun _ he => absurd he not_mem_nil⟩
  | cons op ops ih =>
    rcases hquiet with ⟨hnow, hlater⟩
    rcases htime with ⟨htime, htimes⟩
    rcases sv.step_marked op x i row hrow with ⟨_, hnext, hid, hmark⟩
    have hids' := hids.step (sv.step_rows op) htime
    rcases ih hids' (hemp.step hnow) hlater htimes hnext (hmark hdel) with
      ⟨⟨row', hrow', hid', hgone⟩, hevents⟩
    refine ⟨⟨row', hrow', hid'.trans hid, hgone⟩, fun e he => ?_⟩
    rcases mem_append.mp he with hfirst | hrest
    · exact not_reveals hids hnow htime hfirst
        ⟨x, row, mem_of_getElem? hrow, rfl, hdel⟩
    · rw [← hid]
      exact hevents e hrest

/-- The first request of a run that keeps tombstones is quiet. -/
lemma StaysDeleted.quiet (h : sv.StaysDeleted (op :: ops)) : sv.Quiet op := by
  have hstep := h [] [op] ops rfl
  have hpolls : ∀ p ∈ sv.changedPoll op, ¬ sv.Dead p.messageID := by
    rintro p hp ⟨x, row, hrow, hid, hdel⟩
    rcases getElem?_of_mem hrow with ⟨i, hi⟩
    rcases sv.reveals_of_changedPoll hp with ⟨e, he, hrev⟩
    apply (hstep x i row hi hdel).2 e
    · exact mem_append_left _ he
    · rw [hid]
      exact hrev
  cases op with
  | edit userID chatID msgID text now clock =>
    intro cur hget hsender hdel
    rcases getElem?_updateFirst (f := Store.edited text now) hget with ⟨i, hrow, hrow'⟩
    rcases (hstep chatID i cur hrow hdel).1 with ⟨_, hafter, -, hgone⟩
    have hedited : (((sv.after ([] ++
        [.edit userID chatID msgID text now clock])).store.messages chatID))[i]? =
          some (Store.edited text now cur) := by
      refine Eq.trans ?_ hrow'
      exact congrArg (·[i]?) ((sv.edit_messages text now clock hget hsender chatID).trans
        (if_pos rfl))
    rw [hedited, Option.some.injEq] at hafter
    rw [← hafter] at hgone
    exact hgone.text
  | _ => exact hpolls

lemma StaysDeleted.tail (h : sv.StaysDeleted (op :: ops)) : (sv.step op).2.StaysDeleted ops := by
  intro before later rest hops
  exact h (op :: before) later rest (by rw [hops]; rfl)

end Service

/-- What is deleted stays deleted along a run exactly if no request gives a tombstone a text or
changes a poll anchored to one. -/
theorem deleted_stays_deleted (ids : Generator) {ops : List ServiceOp}
    (htime : Machine.Guarded step InTime (new ids) ops) : (new ids).StaysDeleted ops ↔
      Machine.Guarded step Service.Quiet (new ids) ops := by
  constructor
  · intro h
    clear htime
    generalize new ids = sv at h ⊢
    induction ops generalizing sv with
    | nil => trivial
    | cons op ops ih => exact ⟨h.quiet, ih _ h.tail⟩
  · intro hquiet before later rest hops x i row hrow hdel
    subst hops
    rw [Machine.guarded_append, Machine.guarded_append] at hquiet htime
    rcases hquiet with ⟨⟨hquiet, hquiet'⟩, -⟩
    rcases htime with ⟨⟨htime, htime'⟩, -⟩
    have hids : ((new ids).after before).DistinctIDs :=
      Machine.guarded_final _ (fun sv op h hop => h.step (sv.step_rows op) hop)
        (Service.DistinctIDs.new ids) htime
    have hemp : ((new ids).after before).TombstonesEmpty :=
      Machine.guarded_final _ (fun _ _ h hop => h.step hop)
        (fun _ _ h => absurd h not_mem_nil) hquiet
    rw [Service.after, Machine.final_append]
    exact Service.run_keeps hids hemp hquiet' htime' hrow hdel

section Sample

/-- A message is sent and deleted. -/
def deletedOps : List ServiceOp :=
  [.createChat (groupChat "a"), sendText "hello" "",
    .delete "1" "a" "4096" (some true) epoch atEpoch]

/-- The message is deleted again, a stranger tries to edit it, it is replied and
reacted to, and swept for expiry. -/
def harmlessOps : List ServiceOp :=
  deletedOps ++
    [.delete "2" "a" "4096" (some true) epoch atEpoch,
      .edit "2" "a" "4096" "again" epoch atEpoch, sendText "why?" "4096",
      .toggle "a" "4096" "2" "?" (some true) epoch, .expireDue epoch 10 ["a"]]

theorem deleted_stays_deleted_harmless : Machine.Guarded step InTime (new nodeOne) harmlessOps ∧
      ((new nodeOne).after harmlessOps).store.messages "a" ≠ [] ∧
      (new nodeOne).StaysDeleted harmlessOps := by
  have htime : Machine.Guarded step InTime (new nodeOne) harmlessOps := by
    decide +kernel
  refine ⟨htime, by decide +kernel, (deleted_stays_deleted nodeOne htime).mpr ?_⟩
  refine ⟨nofun, nofun, nofun, nofun, ?_, nofun, nofun, nofun, trivial⟩
  simp only [Service.Quiet]
  decide +kernel

/-- The sender of a deleted message gives it a text again. -/
theorem edit_restores_text : ¬ (new nodeOne).StaysDeleted
      (deletedOps ++ [.edit "1" "a" "4096" "again" epoch atEpoch]) := by
  intro h
  have hdel : (((new nodeOne).after deletedOps).store.messages "a")[0]?.map
      (·.deleted) = some true := by
    decide +kernel
  have hrestored : (((new nodeOne).after (deletedOps ++
      [.edit "1" "a" "4096" "again" epoch atEpoch])).store.messages "a")[0]?.map (·.text) =
        some "again" := by
    decide +kernel
  rcases Option.map_eq_some_iff.mp hdel with ⟨row, hrow, hmark⟩
  rcases (h deletedOps _ [] (append_nil _).symm "a" 0 row hrow hmark).1 with
    ⟨_, hrow', -, hgone⟩
  rw [hrow', Option.map_some, Option.some.injEq, hgone.text] at hrestored
  exact absurd hrestored (by decide)

end Sample

end SyncApp.Messaging
