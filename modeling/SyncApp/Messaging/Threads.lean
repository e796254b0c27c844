import SyncApp.Messaging.Rows

/-!
# Threads

A reply joins the thread of its parent, so a thread is one message and the replies directly under
it.  The root is found by the service and counted up by the store, in 32 bits.

Main results:

- `threads_flat_and_counted`: threads are flat and their counts right up to wrapping around.
-/

namespace SyncApp.Messaging

open Foundations RowLog List
open Service (InTime new)

def replies (rows : List Message) (id : String) : Nat := rows.countP (·.threadRoot = id)

/-- Roots of threads are rows at top level. -/
def Rooted (rows : List Message) (threadRoot : String) : Prop :=
  threadRoot ≠ "" → ∃ root ∈ rows, root.id = threadRoot ∧ root.threadRoot = ""

/-- The threads of a chat are flat, and their roots count the replies. -/
structure Threaded (rows : List Message) : Prop where
  flat : ∀ row ∈ rows, Rooted rows row.threadRoot
  counted : ∀ row ∈ rows, row.replyCount = toInt32 (replies rows row.id)

/-- A row that keeps its place and its count. -/
structure KeepsThread (m m' : Message) : Prop where
  slot : m'.slot = m.slot
  replyCount : m'.replyCount = m.replyCount

variable {rows : List Message} {m : Message}

lemma replies_eq_of_slots {rows' : List Message}
    (h : rows'.map Message.slot = rows.map Message.slot) (id : String) :
    replies rows' id = replies rows id := by
  have hcount := congrArg (countP fun slot => slot.threadRoot = id) h
  rw [countP_map, countP_map] at hcount
  exact hcount

namespace Threaded

variable {rows rows' : List Message}

lemma keeps (h : Threaded rows) (hrows : List.Forall₂ KeepsThread rows rows') :
    Threaded rows' := by
  have hslots : rows'.map Message.slot = rows.map Message.slot :=
    map_eq_of_forall₂ (fun _ _ hkeep => hkeep.slot) hrows
  constructor
  · intro row' hrow' hroot
    rcases exists_of_mem_right hrows hrow' with ⟨row, hrow, hkeep⟩
    have hthr : row'.threadRoot = row.threadRoot := congrArg Slot.threadRoot hkeep.slot
    rw [hthr] at hroot ⊢
    rcases h.flat row hrow hroot with ⟨root, hmem, hid, htop⟩
    rcases getElem?_of_mem hmem with ⟨i, hi⟩
    rcases Extends.of_forall₂ hrows i root hi with ⟨root', hi', hkeep'⟩
    refine ⟨root', mem_of_getElem? hi', ?_, ?_⟩
    · exact (congrArg Slot.id hkeep'.slot).trans hid
    · exact (congrArg Slot.threadRoot hkeep'.slot).trans htop
  · intro row' hrow'
    rcases exists_of_mem_right hrows hrow' with ⟨row, hrow, hkeep⟩
    have hid : row'.id = row.id := congrArg Slot.id hkeep.slot
    rw [hkeep.replyCount, h.counted row hrow, hid, replies_eq_of_slots hslots]

lemma replies_eq_zero (h : Threaded rows) {id : String} (hne : id ≠ "")
    (hnew : ∀ row ∈ rows, row.id ≠ id) : replies rows id = 0 := by
  apply countP_eq_zero.mpr
  intro row hrow hthr
  have hroot : row.threadRoot = id := by simpa using hthr
  rcases h.flat row hrow (hroot ▸ hne) with ⟨root, hmem, hid, -⟩
  exact hnew root hmem (hid.trans hroot)

end Threaded

/-! ## Inserts -/

/-- A row after a reply to a thread was appended. -/
def counting (threadRoot : String) (row : Message) : Message :=
  if threadRoot ≠ "" ∧ row.id = threadRoot then Store.countReply row else row

lemma counting_slot (threadRoot : String) (row : Message) :
    (counting threadRoot row).slot = row.slot := by
  unfold counting
  split
  · rfl
  · rfl

lemma appendRow_eq_map (hnodup : ((rows ++ [m]).map (·.id)).Nodup) :
    Store.appendRow rows m = (rows ++ [m]).map (counting m.threadRoot) := by
  unfold Store.appendRow
  by_cases hroot : m.threadRoot ≠ ""
  · rw [if_pos hroot, updateFirst_eq_map hnodup]
    apply map_congr_left
    intro row _
    unfold counting
    simp only [hroot, ne_eq, not_false_eq_true, true_and]
  · rw [if_neg hroot]
    refine Eq.symm (Eq.trans (map_congr_left fun row _ => ?_) (map_id _))
    exact if_neg fun h => hroot h.1

lemma replies_append (rows : List Message) (m : Message) (id : String) :
    replies (rows ++ [m]) id = replies rows id + if m.threadRoot = id then 1 else 0 := by
  unfold replies
  simp

lemma toInt32_succ (n : Nat) : toInt32 (toInt32 n + 1) = toInt32 ((n + 1 : Nat) : Int) := by
  unfold toInt32
  rw [Int.bmod_add_bmod]
  rfl

/-- Appending a message with a new identifier to a thread that has a root. -/
lemma Threaded.appendRow (h : Threaded rows) (hnodup : ((rows ++ [m]).map (·.id)).Nodup)
    (hne : ∀ row ∈ rows ++ [m], row.id ≠ "") (hroot : Rooted rows m.threadRoot)
    (hcount : m.replyCount = 0) : Threaded (Store.appendRow rows m) := by
  have hrows := appendRow_eq_map hnodup
  have hslots : (Store.appendRow rows m).map Message.slot = (rows ++ [m]).map Message.slot := by
    rw [hrows, map_map]
    exact map_congr_left fun row _ => counting_slot _ row
  have hfresh : ∀ row ∈ rows, row.id ≠ m.id := by
    intro row hrow heq
    rw [map_append] at hnodup
    exact (nodup_append.mp hnodup).2.2 row.id (mem_map_of_mem hrow) m.id
      (mem_singleton_self _) heq
  constructor
  · intro row' hrow'
    rw [hrows] at hrow'
    rcases mem_map.mp hrow' with ⟨row, hrow, rfl⟩
    have hthr : (counting m.threadRoot row).threadRoot = row.threadRoot :=
      congrArg Slot.threadRoot (counting_slot _ row)
    have hrooted : Rooted rows row.threadRoot := by
      rcases mem_append.mp hrow with hin | hnew
      · exact h.flat row hin
      · rw [mem_singleton.mp hnew]
        exact hroot
    rw [hthr]
    intro hthreaded
    rcases hrooted hthreaded with ⟨root, hmem, hid, htop⟩
    refine ⟨counting m.threadRoot root, ?_, ?_, ?_⟩
    · rw [hrows]
      exact mem_map_of_mem (mem_append_left _ hmem)
    · exact (congrArg Slot.id (counting_slot _ root)).trans hid
    · exact (congrArg Slot.threadRoot (counting_slot _ root)).trans htop
  · intro row' hrow'
    rw [hrows] at hrow'
    rcases mem_map.mp hrow' with ⟨row, hrow, rfl⟩
    have hid : (counting m.threadRoot row).id = row.id := congrArg Slot.id (counting_slot _ row)
    rw [hid, replies_eq_of_slots hslots, replies_append]
    rcases mem_append.mp hrow with hin | hnew
    · have hold := h.counted row hin
      by_cases hself : m.threadRoot = row.id
      · have hnonempty : m.threadRoot ≠ "" := hself ▸ hne row hrow
        rw [if_pos hself, counting, if_pos ⟨hnonempty, hself.symm⟩, Store.countReply]
        rw [hold, toInt32_succ]
      · rw [if_neg hself, counting, if_neg fun hcnt => hself hcnt.2.symm, hold,
          Nat.add_zero]
    · -- The new message starts without replies and is not its own root.
      rw [mem_singleton.mp hnew]
      have hself : m.threadRoot ≠ m.id := by
        intro hself
        rcases hroot (hself ▸ hne m (mem_append_right _ (mem_singleton_self m))) with
          ⟨root, hmem, hrootID, -⟩
        exact hfresh root hmem (hrootID.trans hself)
      have hzero := h.replies_eq_zero
        (hne m (mem_append_right _ (mem_singleton_self m))) hfresh
      rw [if_neg hself, hzero, counting, if_neg fun hcnt => hself hcnt.2.symm, hcount]
      rfl

namespace Service

lemma rooted_threadRootOf {s : Store} {chatID : String} (h : Threaded (s.messages chatID))
    (replyTo : String) : Rooted (s.messages chatID) (threadRootOf s chatID replyTo) := by
  unfold threadRootOf
  split
  · cases hget : s.getMessage chatID replyTo with
    | none => exact fun hne => absurd rfl hne
    | some parent =>
      have hparent := mem_of_find?_eq_some hget
      dsimp only
      split
      · exact h.flat parent hparent
      · next htop => exact fun _ => ⟨parent, hparent, rfl, not_not.mp htop⟩
  · exact fun hne => absurd rfl hne

variable {sv : Service} {canPost : Answer} {clock clockOb : Clock} {m : Message} {now : Int}

lemma step_threaded {op : ServiceOp} (hids : sv.DistinctIDs) (htime : sv.InTime op)
    (h : ∀ x, Threaded (sv.store.messages x)) (x : String) :
    Threaded ((sv.step op).2.store.messages x) := by
  have hids' := hids.step (sv.step_rows op) htime
  cases sv.step_rows op with
  | faded hrows => exact (h x).keeps ((hrows x).imp fun _ _ hfade => ⟨hfade.slot, hfade.replyCount⟩)
  | edited userID chatID msgID text now clock cur hop hget hsender hrows =>
    rw [hrows]
    split
    · exact (h x).keeps (forall₂_updateFirst (fun _ => ⟨rfl, rfl⟩) _ fun _ _ => ⟨rfl, rfl⟩)
    · exact h x
  | appended input now clock c m hm hrows =>
    have hnodup := hids'.nodup x
    rw [hrows] at hnodup ⊢
    by_cases hx : x = input.chatID
    · rw [if_pos hx] at hnodup ⊢
      have hnames : ((sv.store.messages x ++ [m]).map (·.id)).Nodup := by
        rw [Store.map_appendRow fun _ => rfl] at hnodup
        rw [map_append]
        exact hnodup
      refine (h x).appendRow hnames ?_ ?_ ?_
      · intro row hrow
        rcases mem_append.mp hrow with hin | hnew
        · exact (hids.issued x row hin).ne_empty
        · rw [mem_singleton.mp hnew, hm]
          exact (sv.ids.issued_next clock).ne_empty
      · rw [hm, hx]
        exact rooted_threadRootOf (h input.chatID) input.replyTo
      · rw [hm]
        rfl
    · rw [if_neg hx]
      exact h x

lemma send_duplicate {input : SendInput}
    (h : (sv.send input canPost now clock clockOb).1 = .ok (m, true)) :
    (sv.send input canPost now clock clockOb).2.store = sv.store := by
  have hcases := sv.send_cases input canPost now clock clockOb
  generalize sv.send input canPost now clock clockOb = out at hcases h ⊢
  cases hcases with
  | refused | spent => rfl
  | stored => exact absurd h (by simp)

lemma forward_duplicate {userID srcChatID srcMsgID dstChatID dedupKey : String}
    {isMember : Answer}
    (h : (sv.forward userID srcChatID srcMsgID dstChatID dedupKey isMember canPost now clock
      clockOb).1 = .ok (m, true)) :
    (sv.forward userID srcChatID srcMsgID dstChatID dedupKey isMember canPost now clock
      clockOb).2.store = sv.store := by
  rcases sv.forward_cases userID srcChatID srcMsgID dstChatID dedupKey isMember canPost now clock
    clockOb with ⟨_, href⟩ | ⟨_, _, -, -, -, hsend⟩
  · rw [href]
  · rw [hsend] at h ⊢
    exact send_duplicate h

/-- Every thread root is a message of the chat at top level, every message shows the number of
messages under it as `shown` has it, and duplicates change nothing. -/
structure FlatThreads (shown : Nat → Int) (sv : Service) : Prop where
  flat : ∀ x, ∀ row ∈ sv.store.messages x, row.threadRoot ≠ "" →
    ∃ root ∈ sv.store.messages x, root.id = row.threadRoot ∧ root.threadRoot = ""
  counted : ∀ x, ∀ row ∈ sv.store.messages x,
    row.replyCount = shown (replies (sv.store.messages x) row.id)
  sameChat : ∀ x y, ∀ row ∈ sv.store.messages x, ∀ reply ∈ sv.store.messages y,
    reply.threadRoot = row.id → y = x
  duplicate : ∀ input canPost now clock clockOb m,
    (sv.send input canPost now clock clockOb).1 = .ok (m, true) →
      (sv.send input canPost now clock clockOb).2.store = sv.store
  duplicateForward : ∀ userID srcChatID srcMsgID dstChatID dedupKey isMember canPost now clock
      clockOb m,
    (sv.forward userID srcChatID srcMsgID dstChatID dedupKey isMember canPost now clock
      clockOb).1 = .ok (m, true) →
      (sv.forward userID srcChatID srcMsgID dstChatID dedupKey isMember canPost now clock
        clockOb).2.store = sv.store

/-- Identifiers are distinct and threads are flat and counted. -/
structure WellThreaded (sv : Service) : Prop where
  ids : sv.DistinctIDs
  threads : ∀ x, Threaded (sv.store.messages x)

namespace WellThreaded

lemma new (ids : Generator) : (new ids).WellThreaded where
  ids := DistinctIDs.new ids
  threads _ := ⟨fun _ h => absurd h not_mem_nil, fun _ h => absurd h not_mem_nil⟩

variable {sv : Service}

lemma step (h : sv.WellThreaded) {op : ServiceOp} (htime : sv.InTime op) :
    (sv.step op).2.WellThreaded where
  ids := h.ids.step (sv.step_rows op) htime
  threads := step_threaded h.ids htime h.threads

lemma flatThreads (h : sv.WellThreaded) : sv.FlatThreads fun n => toInt32 n where
  flat x := (h.threads x).flat
  counted x := (h.threads x).counted
  sameChat := by
    intro x y row hrow reply hreply hthr
    have hne : reply.threadRoot ≠ "" := hthr ▸ (h.ids.issued x row hrow).ne_empty
    rcases (h.threads y).flat reply hreply hne with ⟨root, hroot, hid, -⟩
    exact h.ids.apart y x root hroot row hrow (hid.trans hthr)
  duplicate _ _ _ _ _ _ := send_duplicate
  duplicateForward _ _ _ _ _ _ _ _ _ _ _ := forward_duplicate

end WellThreaded

end Service

lemma toInt32_of_lt {n : Nat} (h : n < 2 ^ 31) : toInt32 n = n := by
  apply Int.bmod_eq_of_le_mul_two
  · omega
  · omega

lemma toInt32_two_pow : toInt32 ((2 ^ 31 : Nat) : Int) = -2 ^ 31 := by
  unfold toInt32 Int.bmod
  norm_num

/-- After every sequence of requests the threads are flat, and a message's count is that of the
messages under it, wrapped to 32 bits. -/
theorem threads_flat_and_counted (ids : Generator) {ops : List ServiceOp}
    (htime : Machine.Guarded Service.step InTime (new ids) ops) :
    ((new ids).after ops).FlatThreads (fun n => toInt32 n) ∧
      ∀ x, ∀ row ∈ ((new ids).after ops).store.messages x,
        replies (((new ids).after ops).store.messages x) row.id < 2 ^ 31 →
          row.replyCount = replies (((new ids).after ops).store.messages x) row.id := by
  have hthreads : ((new ids).after ops).WellThreaded :=
    Machine.guarded_final _ (fun _ _ h hop => h.step hop) (Service.WellThreaded.new ids) htime
  refine ⟨hthreads.flatThreads, fun x row hrow hfew => ?_⟩
  rw [(hthreads.threads x).counted row hrow, toInt32_of_lt hfew]

/-! ## Wrapping around -/

section Wrapping

/-- A message is sent. -/
def rootOps : List ServiceOp := [.createChat (groupChat "a"), sendText "hello" ""]

/-- A message is sent, and then a number of replies to it. -/
def repliedOps (k : Nat) : List ServiceOp := rootOps ++ replicate k (sendText "hi" "4096")

theorem threads_flat_and_counted_replied :
    Machine.Guarded Service.step InTime (new nodeOne) (repliedOps 2) ∧
      (((new nodeOne).after (repliedOps 2)).store.messages "a").map
        (fun m => (m.threadRoot, m.replyCount)) = [("", 2), ("4096", 0), ("4096", 0)] ∧
      ((new nodeOne).after (repliedOps 2)).FlatThreads fun n => toInt32 n := by
  have htime : Machine.Guarded Service.step InTime (new nodeOne) (repliedOps 2) := by
    decide +kernel
  exact ⟨htime, by decide +kernel, (threads_flat_and_counted nodeOne htime).1⟩

lemma advance_atEpoch {g : Generator} {bound : Int} (h : g.lastMs ≤ bound)
    (hep : epoch ≤ bound) : (g.advance atEpoch).lastMs ≤ bound + 1 := by
  have htick : (g.advance atEpoch).lastMs = (g.tick atEpoch).1 := rfl
  rw [htick]
  unfold Generator.tick atEpoch
  dsimp only
  split_ifs <;> omega

namespace Service

/-- A send that is neither refused nor a duplicate, to a chat that exists. -/
lemma send_stored (sv : Service) (input : SendInput) (hkey : input.dedupKey = "") (now : Int)
    (clock clockOb : Clock) {c : Chat} (hchat : sv.store.chats input.chatID = some c) :
    ∃ out mkOb, (sv.send input (some true) now clock clockOb).2 =
      ⟨(sv.store.append c (newMessage sv.store input (sv.ids.nextString clock).1 now)
        "").stageOutbox mkOb out, ((sv.ids.nextString clock).2.nextString clockOb).2⟩ := by
  have hchat' : sv.store.chats
      (newMessage sv.store input (sv.ids.nextString clock).1 now).chatID = some c := hchat
  simp only [send, refusal, Store.insertMessage, Store.duplicateOf, hkey, ne_eq, not_true_eq_false,
    if_false, hchat']
  exact ⟨_, _, rfl⟩

/-- A state in which one message has a number of replies. -/
structure Replied (k : Nat) (sv : Service) : Prop where
  threads : sv.WellThreaded
  chat : ∃ c, sv.store.chats "a" = some c
  root : ∃ root ∈ sv.store.messages "a", root.id = "4096" ∧ root.threadRoot = ""
  count : replies (sv.store.messages "a") "4096" = k
  clock : sv.ids.lastMs ≤ epoch + 2 * k + 2

variable {k : Nat} {sv : Service}

lemma Replied.step (h : sv.Replied k) (hk : k < 2 ^ 31) :
    sv.InTime (sendText "hi" "4096") ∧ (sv.step (sendText "hi" "4096")).2.Replied (k + 1) := by
  rcases h.chat with ⟨c, hchat⟩
  rcases h.root with ⟨root, hroot, hid, htop⟩
  rcases sv.send_stored (textInput "hi" "4096") rfl epoch atEpoch atEpoch hchat with
    ⟨_, _, hsend⟩
  have hstep : (sv.step (sendText "hi" "4096")).2 = _ := hsend
  -- The reply finds its parent, which is a root.
  have hget : sv.store.getMessage "a" "4096" = some root := by
    rw [← hid]
    exact find?_of_nodup (h.threads.ids.nodup "a") hroot
  have hthr : threadRootOf sv.store "a" "4096" = "4096" := by
    simp only [threadRootOf, hget, htop]
    simpa using hid
  generalize hm : newMessage sv.store (textInput "hi" "4096") (sv.ids.nextString atEpoch).1 epoch =
    m at hstep
  have hmchat : m.chatID = "a" := by
    rw [← hm]
    rfl
  have hslots : ((sv.step (sendText "hi" "4096")).2.store.messages "a").map Message.slot =
      (sv.store.messages "a" ++ [Store.numbered c m]).map Message.slot := by
    rw [hstep, Store.stageOutbox_messages, Store.append_slots, if_pos hmchat.symm, map_append]
    rfl
  have hclock : (sv.step (sendText "hi" "4096")).2.ids.lastMs ≤ epoch + 2 * (k + 1 : Nat) + 2 := by
    have honce := advance_atEpoch h.clock (by omega)
    have htwice := advance_atEpoch honce (by omega)
    rw [hstep]
    refine le_trans htwice ?_
    omega
  have htime : sv.InTime (sendText "hi" "4096") := by
    refine lt_of_le_of_lt hclock ?_
    unfold horizon
    omega
  refine ⟨htime, h.threads.step htime, ?_, ?_, ?_, hclock⟩
  · rw [hstep, Store.stageOutbox_chats, ← hmchat]
    exact ⟨_, Function.update_self m.chatID _ _⟩
  · have hmem : root.slot ∈
        ((sv.step (sendText "hi" "4096")).2.store.messages "a").map Message.slot := by
      rw [hslots]
      exact mem_map_of_mem (mem_append_left _ hroot)
    rcases mem_map.mp hmem with ⟨root', hroot', hslot⟩
    exact ⟨root', hroot', (congrArg Slot.id hslot).trans hid,
      (congrArg Slot.threadRoot hslot).trans htop⟩
  · have hjoins : (Store.numbered c m).threadRoot = "4096" := by
      rw [← hm]
      exact hthr
    rw [replies_eq_of_slots hslots, replies_append, h.count, if_pos hjoins]

/-- Any number of replies that the count can still show. -/
lemma Replied.run {j : Nat} (h : sv.Replied j) (k : Nat) (hjk : j + k ≤ 2 ^ 31) :
    Machine.Guarded Service.step InTime sv (replicate k (sendText "hi" "4096")) ∧
      (sv.after (replicate k (sendText "hi" "4096"))).Replied (j + k) := by
  induction k generalizing sv j with
  | zero => exact ⟨trivial, h⟩
  | succ k ih =>
    rcases h.step (by omega) with ⟨htime, hnext⟩
    rcases ih hnext (by omega) with ⟨htimes, hlast⟩
    rw [replicate_succ]
    refine ⟨⟨htime, htimes⟩, ?_⟩
    rw [Nat.add_comm k 1, ← Nat.add_assoc]
    exact hlast

/-- A count that has wrapped around is not the number of replies. -/
lemma Replied.not_exact (h : sv.Replied k) (hk : toInt32 k ≠ k) :
    ¬ sv.FlatThreads fun n => n := by
  intro hexact
  rcases h.root with ⟨root, hmem, hid, -⟩
  have hshown := hexact.counted "a" root hmem
  have hwrapped := (h.threads.threads "a").counted root hmem
  rw [hid, h.count] at hshown hwrapped
  exact hk (hwrapped.symm.trans hshown)

lemma replied_rootOps : ((new nodeOne).after rootOps).Replied 0 where
  threads := Machine.guarded_final _ (fun _ _ h hop => h.step hop) (WellThreaded.new nodeOne)
    (by decide +kernel : Machine.Guarded step InTime (new nodeOne) rootOps)
  chat := Option.isSome_iff_exists.mp (by decide +kernel)
  root := by decide +kernel
  count := by decide +kernel
  clock := by decide +kernel

end Service

/-- With enough replies the count of a message is negative. -/
theorem reply_count_wraps :
    Machine.Guarded Service.step InTime (new nodeOne) (repliedOps (2 ^ 31)) ∧
      ¬ ((new nodeOne).after (repliedOps (2 ^ 31))).FlatThreads fun n => n := by
  rcases Service.replied_rootOps.run (2 ^ 31) (le_of_eq (Nat.zero_add _)) with ⟨htime, hreplied⟩
  have hroot : Machine.Guarded Service.step InTime (new nodeOne) rootOps := by
    decide +kernel
  unfold repliedOps
  constructor
  · rw [Machine.guarded_append]
    exact ⟨hroot, htime⟩
  · rw [Service.after, Machine.final_append]
    refine hreplied.not_exact ?_
    rw [Nat.zero_add, toInt32_two_pow]
    omega

end Wrapping

end SyncApp.Messaging
