import SyncApp.Contacts.AddressBook
import SyncApp.Foundations.Keyset

/-!
# Replicas of the address book

A client keeps the rows of all pages and the time it has synced them to, and `Sync` looks for rows
with a later time.

Main results:

- `replica_follows`: a client follows changes that leave a row with a later time.
-/

namespace SyncApp.Contacts

open Foundations List Machine

/-- The rows that a client has of an owner's contacts, and the cursor it has synced them to. -/
structure Replica where
  since : Int
  contacts : String → Option Contact

/-- The rows of a page replace those of their accounts. -/
def Replica.apply (r : Replica) (page : List Contact × Int) : Replica :=
  ⟨page.2, fun u => (page.1.find? (·.userID = u)).or (r.contacts u)⟩

inductive Event where
  | call (e : Users × Call)
  | sync

/-- One event, with the rows that are sent. -/
def follow (owner : String) (w : Book × Replica) : Event → List Contact × (Book × Replica)
  | .call e => ([], ((w.1.step e).2, w.2))
  | .sync =>
    let page := sync w.1.store owner w.2.since
    (page.1, (w.1, w.2.apply page))

def rows (s : Store) (owner : String) : List Contact := (s owner).entries.map (·.2)

/-- No millisecond has more of the owner's rows than a page. -/
def Fits (s : Store) (owner : String) : Prop :=
  ∀ t, (rows s owner).countP (·.updatedAt = t) ≤ syncPageSize

/-- Calls leave the owner's rows with later times than was synced; removals and changes in the
millisecond synced do not. -/
def Follows (owner : String) (w : Book × Replica) : Event → Prop
  | .call e => ∀ u, acts e = some (owner, u) →
    ∃ c, e.2.writes owner u (w.1.store.getContact owner u) = some c ∧ w.2.since < c.updatedAt
  | .sync => Fits w.1.store owner

variable {s : Store} {owner : String} {since : Int} {c : Contact}

lemma le_foldl_max (cs : List Contact) (since : Int) :
    since ≤ cs.foldl (fun high c => max high c.updatedAt) since ∧
      ∀ c ∈ cs, c.updatedAt ≤ cs.foldl (fun high c => max high c.updatedAt) since := by
  induction cs generalizing since with
  | nil => simp
  | cons c cs ih =>
    have h := ih (max since c.updatedAt)
    simp only [foldl_cons, forall_mem_cons]
    exact ⟨(le_max_left ..).trans h.1, (le_max_right ..).trans h.1, h.2⟩

/-- The rows to be sent, in the order of their times. -/
def pending (s : Store) (owner : String) (since : Int) : List Contact :=
  ((rows s owner).filter fun c => since < c.updatedAt).insertionSort fun a b =>
    a.updatedAt ≤ b.updatedAt

lemma mem_pending : c ∈ pending s owner since ↔ c ∈ rows s owner ∧ since < c.updatedAt := by
  simp [pending]

/-- A page holds the rows up to its cursor, and is empty only if there is nothing to send. -/
lemma sync_spec (hfits : Fits s owner) (since : Int) : since ≤ (sync s owner since).2 ∧
    (∀ c, c ∈ (sync s owner since).1 ↔
      c ∈ pending s owner since ∧ c.updatedAt ≤ (sync s owner since).2) ∧
    ((sync s owner since).1 = [] → pending s owner since = []) := by
  have hsort : (pending s owner since).Pairwise fun a b => a.updatedAt ≤ b.updatedAt :=
    pairwise_insertionSort _ _
  have hrows : s.listContacts owner since (syncPageSize + 1) =
    (pending s owner since).take (syncPageSize + 1) := rfl
  unfold sync
  dsimp only
  rw [hrows, drop_take, take_take, Nat.min_eq_left (Nat.le_succ _), Nat.add_sub_cancel_left]
  cases hdrop : (pending s owner since).drop syncPageSize with
  | nil =>
    have hall : (pending s owner since).length ≤ syncPageSize := drop_eq_nil_iff.mp hdrop
    have hle := le_foldl_max (pending s owner since) since
    rw [take_of_length_le (hall.trans (Nat.le_succ _)), take_nil]
    exact ⟨hle.1, fun c => ⟨fun hc => ⟨hc, hle.2 c hc⟩, And.left⟩, id⟩
  | cons next tail =>
    have hfew : (pending s owner since).countP (·.updatedAt = next.updatedAt) ≤ syncPageSize := by
      rw [pending, (perm_insertionSort _ _).countP_eq]
      exact filter_sublist.countP_le.trans (hfits _)
    rcases Keyset.cut_page hsort hdrop rfl hfew with ⟨last, rest, hlast, heq, hpage, hrest⟩
    simp only [take_succ_cons, hlast]
    have hmem := mem_of_getLast? hlast
    have hsub : ∀ c ∈ ((pending s owner since).take syncPageSize).rdropWhile
        (·.updatedAt = next.updatedAt), c ∈ pending s owner since := fun c hc =>
      heq ▸ mem_append_left rest hc
    refine ⟨(mem_pending.mp (hsub last hmem)).2.le,
      fun c => ⟨fun hc => ⟨hsub c hc, hpage c hc⟩, ?_⟩,
      fun hnil => absurd hmem (hnil ▸ not_mem_nil)⟩
    rintro ⟨hc, hle⟩
    rw [heq] at hc
    exact (mem_append.mp hc).resolve_right fun hin => (hrest c hin).not_ge hle

/-! ## Runs -/

/-- The replica has every row up to its cursor, and rows of accounts that have one. -/
structure Tracks (owner : String) (w : Book × Replica) : Prop where
  blocks : w.1.Blocks
  held : ∀ u c, w.2.contacts u = some c →
    c.updatedAt ≤ w.2.since ∧ w.1.store.getContact owner u ≠ none
  synced : ∀ u c, w.1.store.getContact owner u = some c → c.updatedAt ≤ w.2.since →
    w.2.contacts u = some c

lemma mem_rows {b : Book} (hblocks : b.Blocks) :
    c ∈ rows b.store owner ↔ b.store.getContact owner c.userID = some c := by
  constructor
  · intro hc
    rcases mem_map.mp hc with ⟨⟨u, _⟩, hentry, rfl⟩
    have hu := AList.mem_lookup_iff.mpr hentry
    rwa [(hblocks.keyed owner u _ hu).2]
  · intro hc
    exact mem_map.mpr ⟨_, AList.mem_lookup_iff.mp hc, rfl⟩

namespace Tracks

variable {w : Book × Replica} {event : Event} (h : Tracks owner w)
include h

lemma mem_page (hfits : Fits w.1.store owner) : c ∈ (sync w.1.store owner w.2.since).1 ↔
    w.1.store.getContact owner c.userID = some c ∧ w.2.since < c.updatedAt ∧
      c.updatedAt ≤ (sync w.1.store owner w.2.since).2 := by
  rw [(sync_spec hfits _).2.1, mem_pending, mem_rows h.blocks, and_assoc]

lemma call {e : Users × Call} (hguard : Follows owner w (.call e)) :
    Tracks owner ((w.1.step e).2, w.2) := by
  have hrow := getContact_serve w.1.store e owner
  refine ⟨h.blocks.step e, fun u c hc => ⟨(h.held u c hc).1, ?_⟩, fun u c hc hle => ?_⟩
  all_goals
    dsimp only [Book.step] at *
    rw [hrow] at *
    by_cases hacts : acts e = some (owner, u)
  · rcases hguard u hacts with ⟨_, hwrites, -⟩
    simp [hacts, hwrites]
  · rw [if_neg hacts]
    exact (h.held u c hc).2
  · rcases hguard u hacts with ⟨_, hwrites, hlt⟩
    rw [if_pos hacts, hwrites] at hc
    cases hc
    exact absurd hlt hle.not_gt
  · rw [if_neg hacts] at hc
    exact h.synced u c hc hle

lemma sync (hfits : Fits w.1.store owner) :
    Tracks owner (w.1, w.2.apply (sync w.1.store owner w.2.since)) := by
  refine ⟨h.blocks, fun u c hc => ?_, fun u c hc hle => ?_⟩
  all_goals
    dsimp only [Replica.apply] at *
    cases hfind : (Contacts.sync w.1.store owner w.2.since).1.find? (·.userID = u)
  · have hold := h.held u c (by simpa [hfind] using hc)
    exact ⟨hold.1.trans (sync_spec hfits _).1, hold.2⟩
  · next c' =>
    obtain rfl : c' = c := by simpa [hfind] using hc
    have hsent := (h.mem_page hfits).mp (mem_of_find?_eq_some hfind)
    have hu : c'.userID = u := by simpa using find?_some hfind
    exact ⟨hsent.2.2, by simp [← hu, hsent.1]⟩
  · refine h.synced u c hc (not_lt.mp fun hlt => ?_)
    have hu := (h.blocks.keyed owner u c hc).2
    have hsent := (h.mem_page hfits).mpr ⟨hu ▸ hc, hlt, hle⟩
    simpa [hu] using find?_eq_none.mp hfind c hsent
  · next c' =>
    have hsent := (h.mem_page hfits).mp (mem_of_find?_eq_some hfind)
    have hu : c'.userID = u := by simpa using find?_some hfind
    exact (hu ▸ hsent.1).symm.trans hc

/-- After an empty page the replica is the book. -/
lemma settled (hfits : Fits w.1.store owner)
    (hnil : (Contacts.sync w.1.store owner w.2.since).1 = []) :
    w.2.contacts = w.1.store.getContact owner := by
  funext u
  cases hrow : w.1.store.getContact owner u with
  | none =>
    by_contra hne
    rcases Option.ne_none_iff_exists'.mp hne with ⟨c, hc⟩
    exact (h.held u c hc).2 hrow
  | some c =>
    refine h.synced u c hrow (not_lt.mp fun hlt => ?_)
    have hu := (h.blocks.keyed owner u c hrow).2
    have hpend := mem_pending.mpr ⟨(mem_rows h.blocks).mpr (hu ▸ hrow), hlt⟩
    rw [(sync_spec hfits _).2.2 hnil] at hpend
    cases hpend

end Tracks

/-- A client follows such calls: it misses no row, and a page that fits has no row that it has,
moves the cursor on unless it is empty, and is empty only where the replica is the book. -/
theorem replica_follows (owner : String) (events : List Event)
    (hrun : Guarded (follow owner) (Follows owner) (.empty, ⟨0, fun _ => none⟩) events) :
    let w := final (follow owner) (.empty, ⟨0, fun _ => none⟩) events
    let page := sync w.1.store owner w.2.since
    (∀ u c, w.1.store.getContact owner u = some c → c.updatedAt ≤ w.2.since →
      w.2.contacts u = some c) ∧
    (Fits w.1.store owner → (∀ c ∈ page.1, w.2.contacts c.userID ≠ some c) ∧
      (page.1 ≠ [] → w.2.since < page.2) ∧
      (page.1 = [] → w.2.contacts = w.1.store.getContact owner)) := by
  intro w page
  have h : Tracks owner w := by
    refine guarded_final (follow owner) (fun w event hw hguard => ?_)
      ⟨Book.blocks_final [], nofun, nofun⟩ hrun
    cases event with
    | call => exact hw.call hguard
    | sync => exact hw.sync hguard
  refine ⟨h.synced, fun hfits => ⟨fun c hc hheld => ?_, fun hne => ?_, h.settled hfits⟩⟩
  · exact (h.held _ c hheld).1.not_gt ((h.mem_page hfits).mp hc).2.1
  · rcases exists_mem_of_ne_nil _ hne with ⟨c, hc⟩
    have hsent := (h.mem_page hfits).mp hc
    exact hsent.2.1.trans_le hsent.2.2

namespace Sample

def replicated (events : List Event) : Book × Replica :=
  final (follow "alice") (.empty, ⟨0, fun _ => none⟩) events

def addBob : Event := .call (users, .add "alice" "bob" "Bob" 1)

def busy : List Event :=
  [addBob, .sync, .call (users, .setBlocked "alice" "bob" true 2),
    .call (users, .add "alice" "carol" "Carol" 3), .sync]

lemma follows_call {w : Book × Replica} {call : Call} {u : String}
    (hacts : acts (users, call) = some ("alice", u))
    (h : ∃ c, call.writes "alice" u (w.1.store.getContact "alice" u) = some c ∧
      w.2.since < c.updatedAt) : Follows "alice" w (.call (users, call)) := by
  intro v hv
  cases hacts.symm.trans hv
  exact h

end Sample

open Sample in
/-- A contact is blocked after it was synced, and another is added: both are sent. -/
theorem replica_follows_later :
    let w := replicated busy
    w.2.contacts "bob" = some ⟨"alice", "bob", "Bob", true, 1, 2⟩ ∧
      w.2.contacts "carol" = some ⟨"alice", "carol", "Carol", false, 3, 3⟩ ∧
      w.2.contacts = w.1.store.getContact "alice" := by
  have h := replica_follows "alice" busy
    ⟨follows_call (u := "bob") rfl ⟨_, rfl, by decide⟩,
      fun t => countP_le_length.trans (by decide +kernel),
      follows_call (u := "bob") rfl ⟨_, rfl, by decide +kernel⟩,
      follows_call (u := "carol") rfl ⟨_, rfl, by decide +kernel⟩,
      fun t => countP_le_length.trans (by decide +kernel), trivial⟩
  exact ⟨h.1 "bob" _ (by decide +kernel) (by decide +kernel),
    h.1 "carol" _ (by decide +kernel) (by decide +kernel),
    (h.2 fun t => countP_le_length.trans (by decide +kernel)).2.2 (by decide +kernel)⟩

open Sample in
/-- A contact that is removed after it was synced, and one that is added in the millisecond that
was synced, are not sent. -/
theorem removal_not_sent :
    (let w := replicated [addBob, .sync, .call (users, .remove "alice" "bob")]
     sync w.1.store "alice" w.2.since = ([], 1) ∧ (w.2.contacts "bob").isSome ∧
       w.1.store.getContact "alice" "bob" = none) ∧
    (let w := replicated [addBob, .sync, .call (users, .add "alice" "carol" "Carol" 1)]
     sync w.1.store "alice" w.2.since = ([], 1) ∧ w.2.contacts "carol" = none ∧
       (w.1.store.getContact "alice" "carol").isSome) := by
  decide +kernel

end SyncApp.Contacts
