import Mathlib.Data.List.Sort
import SyncApp.Foundations.RowLog
import SyncApp.Messaging.Snowflake
import SyncApp.Outbox.Relay

/-!
# The relay over Postgres

The outbox table of `server/internal/store/postgres`.  A poll claims its rows for a minute,
published or not, so a later record can overtake a claimed one.

Main results:

- `postgresBox_lawful`: the table keeps to the laws that the relay relies on.
- `postgresWorld_inOrder`: records are handed out in order if no poll meets a claimed one before
  them.
-/

namespace SyncApp.Outbox

open Foundations OrderedDelivery Messaging List

/-- A row of the table `outbox`.  When it was created is written and never
read. -/
structure OutboxRow where
  num : Int
  subject : Subject
  key : String
  payload : NewMessageBody
  sentAt : Int
  claimedAt : Int
deriving DecidableEq

/-- The record of a row, as `Poll` scans it. -/
def OutboxRow.record (row : OutboxRow) : OutboxRecord where
  id := formatInt row.num
  subject := row.subject
  key := row.key
  data := row.payload

/-- What `stageOutboxTx` inserts. -/
structure Insert where
  num : Int
  subject : Subject
  key : String
  payload : NewMessageBody

/-- A row that was just inserted: the two times have their defaults. -/
def Insert.row (ins : Insert) : OutboxRow where
  num := ins.num
  subject := ins.subject
  key := ins.key
  payload := ins.payload
  sentAt := 0
  claimedAt := 0

/-- The transactions that commit, one after the other.  One whose number is taken
does not commit. -/
def insertAll : List OutboxRow → List Insert → List OutboxRecord × List OutboxRow
  | table, [] => ([], table)
  | table, ins :: rest =>
    if table.any (·.num = ins.num) then insertAll table rest
    else
      let out := insertAll (table ++ [ins.row]) rest
      (ins.row.record :: out.1, out.2)

/-- How a statement went, as its caller sees it. -/
inductive Outcome where
  /-- It was executed and answered. -/
  | answered
  /-- It was not executed. -/
  | failed
  /-- It was executed, but the answer was an error. -/
  | unheard
deriving DecidableEq

/-- The circumstances of the statements of one turn. -/
structure Conditions where
  pollAt : Int
  pollOutcome : Outcome
  /-- The order in which `RETURNING` hands rows back is up to the database. -/
  arrange : List OutboxRow → List OutboxRow
  markAt : Int
  markOutcome : Outcome
  /-- The limit of `PurgeSent`. -/
  purgeBefore : Int

def reclaimAfterMs : Int := 60000

variable (now : Int)

/-- An unsent row without a claim that is still good. -/
def claimable (row : OutboxRow) : Bool :=
  row.sentAt = 0 ∧ row.claimedAt < now - reclaimAfterMs

variable (limit : Nat)

def firstByNum (rows : List OutboxRow) : List OutboxRow :=
  (rows.insertionSort fun a b => a.num ≤ b.num).take limit

variable (table : List OutboxRow)

def selected : List OutboxRow :=
  firstByNum limit (table.filter (claimable now))

/-- The table after a poll has claimed its rows. -/
def claim : List OutboxRow :=
  table.map fun row =>
    if row.num ∈ (selected now limit table).map (·.num) then { row with claimedAt := now } else row

/-- The table after rows were marked.  The identifiers are texts that a poll made
from the numbers of its rows. -/
def mark (ids : List String) (table : List OutboxRow) : List OutboxRow :=
  table.map fun row => if formatInt row.num ∈ ids then { row with sentAt := now } else row

/-- The table after old published rows were deleted. -/
def purge (before : Int) (limit : Nat) (table : List OutboxRow) : List OutboxRow :=
  let old := firstByNum limit (table.filter fun row => 0 < row.sentAt ∧ row.sentAt < before)
  table.filter fun row => row.num ∉ old.map (·.num)

def postgresBox : Box (List OutboxRow) (List Insert) Conditions where
  others table inserts := insertAll table inserts
  poll table e limit :=
    match e.pollOutcome with
    | .answered =>
      (some ((e.arrange (selected e.pollAt limit table)).map (·.record)),
        claim e.pollAt limit table)
    | .failed => (none, table)
    | .unheard => (none, claim e.pollAt limit table)
  markSent table e ids :=
    match e.markOutcome with
    | .answered => (true, mark e.markAt ids table)
    | .failed => (false, table)
    | .unheard => (false, mark e.markAt ids table)
  purgeSent table e limit := purge e.purgeBefore limit table

/-- A record has a smaller number than another one. -/
def Ascends (q r : OutboxRecord) : Prop :=
  ∃ m n : Int, q.id = formatInt m ∧ r.id = formatInt n ∧ m < n

/-- Numbers grow in the order in which transactions commit. -/
def Ascending : List OutboxRecord → List Insert → Prop
  | _, [] => True
  | staged, ins :: rest =>
    (∀ q ∈ staged, Ascends q ins.row.record) ∧ Ascending (staged ++ [ins.row.record]) rest

/-- A poll that is answered hands its rows back by number, and passes over no
unsent row of the same key with a smaller number. -/
def PassesNone (batch : Nat) (table : List OutboxRow) (e : Conditions) : Prop :=
  e.pollOutcome = .answered →
    e.arrange (selected e.pollAt batch table) = selected e.pollAt batch table ∧
      ∀ r ∈ selected e.pollAt batch table, ∀ q ∈ table,
        q.sentAt = 0 → q.key = r.key → q.num < r.num → claimable e.pollAt q = true

/-! ## The account -/

lemma Ascends.num_lt {a b : OutboxRow} (h : Ascends a.record b.record) : a.num < b.num := by
  rcases h with ⟨m, n, hm, hn, _⟩
  have ha : a.num = m := formatInt_injective hm
  have hb : b.num = n := formatInt_injective hn
  omega

lemma mem_of_firstByNum {limit : Nat} {rows : List OutboxRow} {row : OutboxRow}
    (h : row ∈ firstByNum limit rows) : row ∈ rows :=
  (mem_insertionSort _).mp (mem_of_mem_take h)

/-- A row with a smaller number than one of the first stands to the left of it. -/
lemma mem_left_of_firstByNum {limit : Nat} {rows left right : List OutboxRow}
    {q row : OutboxRow} (heq : firstByNum limit rows = left ++ row :: right) (hq : q ∈ rows)
    (hlt : q.num < row.num) : q ∈ left := by
  have hsort := pairwise_insertionSort (fun a b : OutboxRow => a.num ≤ b.num) rows
  have hmem : q ∈ rows.insertionSort fun a b => a.num ≤ b.num := (mem_insertionSort _).mpr hq
  rw [← take_append_drop limit (rows.insertionSort _)] at hsort hmem
  unfold firstByNum at heq
  rw [heq, append_assoc, cons_append] at hsort hmem
  rcases mem_append.mp hmem with hleft | hrest
  · exact hleft
  rcases mem_cons.mp hrest with rfl | hright
  · exact absurd hlt (lt_irrefl _)
  · have hle := (pairwise_cons.mp (pairwise_append.mp hsort).2.1).1 q hright
    omega

/-- The table has every record that was not published as an unsent row, and
numbers grow in the order in which records were staged. -/
structure PostgresAccount (table : List OutboxRow) (staged done : List OutboxRecord) : Prop where
  ascending : staged.Pairwise Ascends
  nums : (table.map (·.num)).Nodup
  rows : ∀ row ∈ table, row.record ∈ staged
  pending : ∀ q ∈ staged, q ∉ done → ∃ row ∈ table, row.record = q ∧ row.sentAt = 0

namespace PostgresAccount

variable {table : List OutboxRow} {staged done : List OutboxRecord}

section

variable (h : PostgresAccount table staged done)
include h

lemma ids : (staged.map (·.id)).Nodup := by
  apply pairwise_map.mpr
  refine h.ascending.imp fun {q r} hasc heq => ?_
  rcases hasc with ⟨m, n, hm, hn, _⟩
  have hsame : m = n := formatInt_injective (hm.symm.trans (heq.trans hn))
  omega

lemma nodup : staged.Nodup :=
  List.Nodup.of_map _ h.ids

lemma map (f : OutboxRow → OutboxRow) (hrec : ∀ row, (f row).record = row.record)
    (hsent : ∀ row ∈ table, row.record ∉ done → row.sentAt = 0 → (f row).sentAt = 0) :
    PostgresAccount (table.map f) staged done where
  ascending := h.ascending
  nums := by
    have hnum : ∀ row, (f row).num = row.num := fun row =>
      formatInt_injective (congrArg OutboxRecord.id (hrec row))
    have hnums : (table.map f).map (·.num) = table.map (·.num) := by
      rw [map_map]
      exact map_congr_left fun row _ => hnum row
    rw [hnums]
    exact h.nums
  rows := by
    intro row' hrow'
    rcases mem_map.mp hrow' with ⟨row, hrow, rfl⟩
    rw [hrec]
    exact h.rows row hrow
  pending := by
    intro q hq hdone
    rcases h.pending q hq hdone with ⟨row, hrow, rfl, hunsent⟩
    exact ⟨f row, mem_map_of_mem hrow, hrec row, hsent row hrow hdone hunsent⟩

end

variable (h : PostgresAccount table staged done)
include h

lemma claim (now : Int) (limit : Nat) : PostgresAccount (claim now limit table) staged done := by
  apply h.map
  · intro row
    split
    · rfl
    · rfl
  · intro row _ _ hunsent
    split
    · exact hunsent
    · exact hunsent

lemma mark (now : Int) {ids : List String}
    (hids : ∀ id ∈ ids, ∃ r ∈ done, r ∈ staged ∧ r.id = id) :
    PostgresAccount (mark now ids table) staged done := by
  apply h.map
  · intro row
    split
    · rfl
    · rfl
  · intro row hrow hdone hunsent
    rw [if_neg]
    · exact hunsent
    · intro hmarked
      rcases hids _ hmarked with ⟨r, hr, hrstaged, hid⟩
      exact hdone (inj_on_of_nodup_map h.ids hrstaged (h.rows row hrow) hid ▸ hr)

lemma purge (before : Int) (limit : Nat) :
    PostgresAccount (purge before limit table) staged done where
  ascending := h.ascending
  nums := h.nums.sublist (filter_sublist.map _)
  rows row hrow := h.rows row (mem_of_mem_filter hrow)
  pending := by
    intro q hq hdone
    rcases h.pending q hq hdone with ⟨row, hrow, hrec, hunsent⟩
    refine ⟨row, mem_filter.mpr ⟨hrow, decide_eq_true ?_⟩, hrec, hunsent⟩
    intro hold
    -- A row with the number of a deleted one is that row, and that one was sent.
    rcases mem_map.mp hold with ⟨old, holdmem, hnum⟩
    rcases mem_filter.mp (mem_of_firstByNum holdmem) with ⟨hmem, hsent⟩
    have hsame : old = row := inj_on_of_nodup_map h.nums hmem hrow hnum
    rw [hsame, decide_eq_true_eq, hunsent] at hsent
    exact absurd hsent.1 (lt_irrefl 0)

lemma insert {ins : Insert} (hasc : ∀ q ∈ staged, Ascends q ins.row.record) :
    PostgresAccount (table ++ [ins.row]) (staged ++ [ins.row.record]) done where
  ascending := by
    apply pairwise_append.mpr
    refine ⟨h.ascending, pairwise_singleton _ _, fun q hq r hr => ?_⟩
    rw [mem_singleton.mp hr]
    exact hasc q hq
  nums := by
    rw [map_append]
    apply RowLog.nodup_snoc h.nums
    intro hmem
    rcases mem_map.mp hmem with ⟨row, hrow, hnum⟩
    exact absurd hnum (ne_of_lt (hasc _ (h.rows row hrow)).num_lt)
  rows := by
    exact forall_mem_append.mpr ⟨fun row hrow => mem_append_left _ (h.rows row hrow),
      forall_mem_singleton.mpr (mem_append_right _ (mem_singleton_self _))⟩
  pending := by
    intro q hq hdone
    rcases mem_append.mp hq with hold | hnew
    · rcases h.pending q hold hdone with ⟨row, hrow, hrec, hunsent⟩
      exact ⟨row, mem_append_left _ hrow, hrec, hunsent⟩
    · refine ⟨ins.row, mem_append_right _ (mem_singleton_self _), ?_, rfl⟩
      exact (mem_singleton.mp hnew).symm

lemma others {inserts : List Insert} (hinserts : Ascending staged inserts) :
    PostgresAccount (insertAll table inserts).2 (staged ++ (insertAll table inserts).1) done := by
  induction inserts generalizing table staged with
  | nil =>
    unfold insertAll
    rw [append_nil]
    exact h
  | cons ins inserts ih =>
    rcases hinserts with ⟨hasc, hrest⟩
    have hfree : table.any (·.num = ins.num) = false := by
      rw [← Bool.not_eq_true, any_eq_true]
      rintro ⟨row, hrow, hnum⟩
      have hlt := (hasc _ (h.rows row hrow)).num_lt
      exact absurd (of_decide_eq_true hnum) (ne_of_lt hlt)
    unfold insertAll
    rw [hfree]
    have hnext := ih (h.insert hasc) hrest
    rw [append_assoc] at hnext
    exact hnext

lemma follows {now : Int} {limit : Nat}
    (hpasses : ∀ r ∈ selected now limit table, ∀ q ∈ table, q.sentAt = 0 → q.key = r.key →
      q.num < r.num → claimable now q = true) :
    Follows OutboxRecord.key staged done ((selected now limit table).map (·.record)) := by
  intro before r after heq q hpre hkey
  by_cases hdone : q ∈ done
  · exact .inl hdone
  right
  rcases map_eq_append_iff.mp heq with ⟨_, _, hselected, rfl, hrest⟩
  rcases map_eq_cons_iff.mp hrest with ⟨row, _, rfl, rfl, -⟩
  have hrow : row ∈ selected now limit table := by
    rw [hselected]
    exact mem_append_right _ mem_cons_self
  rcases hpre with ⟨_, _, hstaged, hearlier⟩
  have hq : q ∈ staged := by
    rw [hstaged]
    exact mem_append_left _ hearlier
  rcases h.pending q hq hdone with ⟨qrow, hqrow, rfl, hunsent⟩
  have hlt : qrow.num < row.num := by
    have hascending := h.ascending
    rw [hstaged] at hascending
    exact ((pairwise_append.mp hascending).2.2 _ hearlier _ mem_cons_self).num_lt
  have hclaimable : qrow ∈ table.filter (claimable now) :=
    mem_filter.mpr ⟨hqrow, hpasses row hrow qrow hqrow hunsent hkey hlt⟩
  exact mem_map_of_mem (mem_left_of_firstByNum hselected hclaimable hlt)

lemma deliver (recs : List OutboxRecord) : PostgresAccount table staged (done ++ recs) :=
  ⟨h.ascending, h.nums, h.rows, fun q hq hdone =>
    h.pending q hq fun hmem => hdone (mem_append_left _ hmem)⟩

end PostgresAccount

/-- Records stay in order over Postgres while numbers grow as records are staged
and no poll passes over an unsent record of the same key. -/
theorem postgresBox_lawful (batch : Nat) :
    postgresBox.Lawful batch PostgresAccount (fun _ => Ascending) (PassesNone batch) where
  nodup h := h.nodup
  others _ h hinserts := h.others hinserts
  poll {table _ _} e h he := by
    simp only [postgresBox]
    cases houtcome : e.pollOutcome with
    | answered =>
      rcases he houtcome with ⟨harrange, hpasses⟩
      refine ⟨h.claim e.pollAt batch, fun recs hrecs => ?_⟩
      rw [Option.some.injEq, harrange] at hrecs
      rw [← hrecs]
      refine ⟨h.follows hpasses, fun r hr => ?_⟩
      rcases mem_map.mp hr with ⟨row, hrow, rfl⟩
      exact h.rows row (mem_of_mem_filter (mem_of_firstByNum hrow))
    | failed => exact ⟨h, fun _ hrecs => absurd hrecs (by simp)⟩
    | unheard => exact ⟨h.claim e.pollAt batch, fun _ hrecs => absurd hrecs (by simp)⟩
  deliver recs h := h.deliver recs
  markSent e ids h hids := by
    simp only [postgresBox]
    cases e.markOutcome with
    | answered => exact h.mark e.markAt hids
    | failed => exact h
    | unheard => exact h.mark e.markAt hids
  purgeSent e limit h := h.purge e.purgeBefore limit

/-- An empty table, and the relay. -/
def postgresWorld : World (List OutboxRow) := ⟨[], [], []⟩

theorem postgresWorld_inOrder : Box.InOrder PostgresAccount postgresWorld where
  account :=
    { ascending := List.Pairwise.nil
      nums := nodup_nil
      rows := fun _ h => absurd h not_mem_nil
      pending := fun _ h => absurd h not_mem_nil }
  follows := Follows.nil _ _
  staged _ h := absurd h not_mem_nil

end SyncApp.Outbox
