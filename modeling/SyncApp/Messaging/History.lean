import SyncApp.Messaging.Log

/-!
# Reading a chat page by page

`handleHistory` (`server/internal/gateway/handlers_message.go`) answers with a page, newest first,
and with where the next one starts.  The store may take calls between two pages.

Main results:

- `history_read_once`: a reader reads every message of its first page's chat once.
-/

namespace SyncApp.Messaging

open Foundations List

/-- `HistoryPageBody`. -/
structure HistoryPage where
  messages : List Message
  nextBefore : Nat
  done : Bool

def pageSize (limit : Int) : Nat := if limit ≤ 0 ∨ 100 < limit then 50 else limit.toNat

/-- `handleHistory`, for a member of the chat. -/
def handleHistory (s : Store) (chatID : String) (beforeSeq : Nat) (limit : Int) : HistoryPage :=
  let msgs := s.history chatID beforeSeq (pageSize limit)
  { messages := msgs
    nextBefore := msgs.foldl (fun _ m => m.seq) 0
    done := msgs.length < pageSize limit }

/-- `useChatHistory`: what a client reads, and whether it came to the last page.  Between a page and
the next the store takes the calls of a round. -/
def readHistory (chatID : String) (limit : Int) (s : Store) (before : Nat) :
    List (List StoreOp) → List Message × Bool
  | [] =>
    let page := handleHistory s chatID before limit
    (page.messages, page.done)
  | ops :: rounds =>
    let page := handleHistory s chatID before limit
    if page.done then (page.messages, true)
    else
      let rest := readHistory chatID limit (s.after ops) page.nextBefore rounds
      (page.messages ++ rest.1, rest.2)

lemma pageSize_pos (limit : Int) : 0 < pageSize limit := by
  unfold pageSize
  split <;> omega

/-- The fixed parts of the rows of a chat. -/
abbrev Store.slots (s : Store) (chatID : String) : List Slot := (s.messages chatID).map Message.slot

/-- There are `k` rows before the cursor. -/
def Store.At (s : Store) (chatID : String) (before k : Nat) : Prop :=
  k ≤ (s.messages chatID).length ∧ (before = k + 1 ∨ before = 0 ∧ k = (s.messages chatID).length)

variable {s : Store} {chatID : String} {k before : Nat} {limit : Int}

namespace Store.GapFree

variable (h : s.GapFree)
include h

lemma seq_getElem (i : Nat) (hi : i < (s.messages chatID).length) :
    (s.messages chatID)[i].seq = i + 1 := by
  have hseq := congrArg (·[i]?) (h.seqs chatID)
  simp only [getElem?_map, getElem?_range' hi, getElem?_eq_getElem hi, Option.map_some,
    Option.some.injEq] at hseq
  omega

variable (hat : s.At chatID before k)
include hat

lemma history_eq {size : Nat} (hsize : 0 < size) :
    s.history chatID before size = ((s.messages chatID).take k).reverse.take size := by
  have hseq (i) (hi : i < (s.messages chatID).length) := h.seq_getElem i hi
  unfold At at hat
  unfold history
  generalize s.messages chatID = rows at *
  have hbelow : rows.filter (fun m => before = 0 ∨ m.seq < before) = rows.take k := by
    conv_lhs => rw [← take_append_drop k rows]
    rw [filter_append, filter_eq_self.mpr, filter_eq_nil_iff.mpr, append_nil]
    · grind [mem_drop_iff_getElem]
    · grind [mem_take_iff_getElem]
  have hsort : ((rows.take k).mergeSort fun a b => b.seq ≤ a.seq).Pairwise
      fun a b => decide (b.seq ≤ a.seq) = true :=
    pairwise_mergeSort (by grind) (by grind) _
  -- The rows are numbered in their order, so sorting them by number reverses them.
  have hreverse : (rows.take k).mergeSort (fun a b => b.seq ≤ a.seq) = (rows.take k).reverse := by
    refine Perm.eq_of_pairwise ?_ hsort ?_ ((mergeSort_perm ..).trans (reverse_perm _).symm)
    · grind [mem_mergeSort, mem_take_iff_getElem]
    · rw [pairwise_reverse, pairwise_iff_getElem]
      grind
  dsimp only
  rw [hbelow, hreverse]
  split
  · rw [Int.toNat_natCast]
  · exact (take_of_length_le (by omega)).symm

lemma page_slots : (handleHistory s chatID before limit).messages.map Message.slot =
    ((s.slots chatID).take k).reverse.take (pageSize limit) := by
  simp only [handleHistory, slots, h.history_eq hat (pageSize_pos limit), map_take, map_reverse]

lemma done_iff : (handleHistory s chatID before limit).done ↔ k < pageSize limit := by
  have hk := hat.1
  unfold handleHistory
  simp only [h.history_eq hat (pageSize_pos limit), length_take, length_reverse, decide_eq_true_eq]
  omega

lemma last_slots (hlast : k < pageSize limit) :
    (handleHistory s chatID before limit).messages.map Message.slot =
      ((s.slots chatID).take k).reverse := by
  rw [h.page_slots hat, take_of_length_le]
  grind

/-- A full page says that the next one starts at its last number. -/
lemma nextBefore_eq (hfull : pageSize limit ≤ k) :
    (handleHistory s chatID before limit).nextBefore = k - pageSize limit + 1 := by
  have hpos := pageSize_pos limit
  have hk := hat.1
  unfold handleHistory
  dsimp only
  rw [h.history_eq hat hpos, take_reverse, foldl_reverse, length_take, Nat.min_eq_left hk,
    drop_eq_getElem_cons (by grind), foldr_cons, getElem_take, h.seq_getElem]

end Store.GapFree

lemma readHistory_eq {rounds : List (List StoreOp)} (h : s.GapFree) (hat : s.At chatID before k)
    (hops : Machine.Guarded Store.step (fun s op => op.Promised s) s rounds.flatten)
    (hrounds : k < pageSize limit * (rounds.length + 1)) :
    (readHistory chatID limit s before rounds).1.map Message.slot =
        ((s.slots chatID).take k).reverse ∧
      (readHistory chatID limit s before rounds).2 = true := by
  induction rounds generalizing s before k with
  | nil =>
    have hlast : k < pageSize limit := by simpa using hrounds
    exact ⟨h.last_slots hat hlast, (h.done_iff hat).mpr hlast⟩
  | cons ops rounds ih =>
    unfold readHistory
    dsimp only
    split
    · next hdone => exact ⟨h.last_slots hat ((h.done_iff hat).mp hdone), rfl⟩
    · next hfull =>
      rw [h.done_iff hat, Nat.not_lt] at hfull
      rw [flatten_cons, Machine.guarded_append] at hops
      have hfree : (s.after ops).GapFree :=
        Machine.guarded_final _ (fun s _ h hop => h.step (s.step_log hop)) h hops.1
      have hkept : s.slots chatID <+: (s.after ops).slots chatID :=
        @Machine.invariant_final _ _ _ Store.step (s.slots chatID <+: ·.slots chatID) _
          (fun t op ht => ht.trans (t.step_slots op chatID)) prefix_rfl ops
      have hlen := hkept.length_le
      rw [length_map, length_map] at hlen
      have hk := hat.1
      rw [length_cons, Nat.mul_succ] at hrounds
      rw [h.nextBefore_eq hat hfull]
      rcases ih (k := k - pageSize limit) hfree ⟨by omega, .inl rfl⟩ hops.2 (by omega) with
        ⟨hrest, hend⟩
      refine ⟨?_, hend⟩
      have hsame := prefix_iff_eq_take.mp hkept
      have hleft : ((s.after ops).slots chatID).take (k - pageSize limit) =
          ((s.slots chatID).take k).take (k - pageSize limit) := by
        rw [hsame, length_map, take_take, take_take]
        congr 1
        omega
      rw [map_append, hrest, h.page_slots hat, hleft]
      conv_rhs => rw [← take_append_drop (pageSize limit) (reverse _), drop_reverse, length_take,
        length_map, Nat.min_eq_left hk]

/-- A client that follows the pages reads what the chat had at the first page, every message once,
newest first, whatever reaches the store meanwhile. -/
theorem history_read_once (ops : List StoreOp) (rounds : List (List StoreOp)) (chatID : String)
    (limit : Int) (hops : Machine.Guarded Store.step (fun s op => op.Promised s) Store.new
      (ops ++ rounds.flatten))
    (hrounds : ((Store.new.after ops).messages chatID).length <
      pageSize limit * (rounds.length + 1)) :
    let s := Store.new.after ops
    (readHistory chatID limit s 0 rounds).1.map Message.slot =
        (s.slots chatID).reverse ∧
      (readHistory chatID limit s 0 rounds).2 = true := by
  intro s
  rw [Machine.guarded_append] at hops
  have hfree : s.GapFree :=
    Machine.guarded_final _ (fun s _ h hop => h.step (s.step_log hop)) Store.gapFree_new hops.1
  have hread := readHistory_eq hfree ⟨Nat.le_refl _, .inr ⟨rfl, rfl⟩⟩ hops.2 hrounds
  rw [← map_take, take_length] at hread
  exact hread

theorem history_read_once_deleted : (readHistory "a" 1 (Store.new.after sampleOps) 0
    [[.deleteMessage "a" "13" 6 none], []]).2 = true :=
  (history_read_once sampleOps _ "a" 1 (by decide) (by decide)).2

end SyncApp.Messaging
