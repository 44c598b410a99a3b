import BackendCore.Lib.Paging
import BackendCore.Lib.Table
import BackendCore.Python.Uuid

/-!
# Retention

`purge_expired_audit`, `purge_expired_notifications` and `purge_expired_usage` delete the oldest
expired rows, one batch a run; rows of one age are taken in any order.  A backlog is gone after
as many runs as it has batches, even though later runs look for younger rows too.
-/

set_option autoImplicit false

namespace BackendCore.Retention

open BackendCore.Python BackendCore.Paging

inductive Job where
  | audit
  | notifications
  | usage

/-- `created_at` in microseconds or the day of `bucket`, and `status IN ('sent', 'dead')`. -/
structure Stored where
  id : Uuid
  stamp : Int
  terminal : Bool

def sweepBatch : Nat := 1000

/-- `datetime.now(UTC) - timedelta(days=...)`, for the usage counters its day. -/
def Job.cutoff (job : Job) (retentionDays : Nat) (now : Int) : Int :=
  match job with
  | .usage => (now - retentionDays * 86400000000) / 86400000000
  | _ => now - retentionDays * 86400000000

/-- The rest of the `WHERE` clause. -/
def Job.covers (job : Job) (row : Stored) : Bool :=
  match job with
  | .notifications => row.terminal
  | _ => true

def Job.expired (job : Job) (cutoff : Int) (row : Stored) : Bool :=
  job.covers row && row.stamp < cutoff

/-- `DELETE ... WHERE id IN (...)` with what the ordered subquery lists. -/
def purge (table : Table Stored.id) (listing : List Stored) : Table Stored.id :=
  table.deleteWhere fun row => row.id ∈ (listing.take sweepBatch).map Stored.id

/-- Runs of the job with cutoffs between two bounds.  In between, rows the lower one spares are
added, or change their status. -/
inductive History (job : Job) (lower upper : Int) (start : Table Stored.id) :
    Nat → Table Stored.id → Prop where
  | start : History job lower upper start 0 start
  | stored (count : Nat) (table : Table Stored.id) (row : Stored)
      (before : History job lower upper start count table) (young : lower ≤ row.stamp)
      (kept : ∀ old, table.get row.id = some old → old.stamp = row.stamp) :
      History job lower upper start count (table.store row)
  | purged (count : Nat) (table : Table Stored.id) (retentionDays : Nat) (now : Int)
      (listing : List Stored) (before : History job lower upper start count table)
      (bounded : lower ≤ job.cutoff retentionDays now ∧ job.cutoff retentionDays now ≤ upper)
      (listed : Listed Stored.stamp (table.select (job.expired (job.cutoff retentionDays now)))
        listing) :
      History job lower upper start (count + 1) (purge table listing)

/-- Where what is wanted comes first, a batch is taken from it as long as there is any. -/
theorem countP_drop {α : Type} {wanted : α → Bool} {listing : List α} (count : Nat)
    (first : listing.Pairwise fun left right => wanted right = true → wanted left = true) :
    (listing.drop count).countP wanted = listing.countP wanted - count := by
  induction count generalizing listing with
  | zero => rfl
  | succ count hypothesis =>
    cases listing with
    | nil => simp
    | cons head rest =>
      obtain ⟨ahead, sorted⟩ := List.pairwise_cons.mp first
      rw [List.drop_succ_cons, hypothesis sorted, List.countP_cons]
      by_cases here : wanted head = true
      · rw [if_pos here]
        omega
      · have none : rest.countP wanted = 0 :=
          List.countP_eq_zero.mpr fun row member found => here (ahead row member found)
        rw [if_neg here, none]
        omega

theorem expired_mono {job : Job} {lower cutoff : Int} (below : lower ≤ cutoff) {row : Stored}
    (old : job.expired lower row = true) : job.expired cutoff row = true := by
  simp only [Job.expired, Bool.and_eq_true, decide_eq_true_eq] at old ⊢
  exact ⟨old.1, old.2.trans_le below⟩

theorem backlog_store {job : Job} {lower : Int} {table : Table Stored.id} {row : Stored}
    (young : lower ≤ row.stamp)
    (kept : ∀ old, table.get row.id = some old → old.stamp = row.stamp) :
    ((table.store row).select (job.expired lower)).length =
      (table.select (job.expired lower)).length := by
  refine ((List.perm_ext_iff_of_nodup ((table.store row).nodup.of_map.filter _)
    (table.nodup.of_map.filter _)).mpr ?_).length_eq
  intro other
  rw [List.mem_filter, List.mem_filter]
  refine and_congr_left fun old => ?_
  have early : other.stamp < lower := of_decide_eq_true (Bool.and_eq_true_iff.mp old).2
  have found : ∀ rows : Table Stored.id, other ∈ rows.rows ↔ rows.get other.id = some other :=
    fun rows => ⟨rows.get_of_mem other, Table.mem_of_get⟩
  rw [found, found, Table.get_store]
  by_cases here : other.id = row.id
  · rw [if_pos here]
    constructor
    · rintro ⟨⟩
      omega
    · intro stored
      have same := kept other (here ▸ stored)
      omega
  · rw [if_neg here]

section Purge

variable {job : Job} {lower cutoff : Int} {table : Table Stored.id} {listing : List Stored}
variable (listed : Listed Stored.stamp (table.select (job.expired cutoff)) listing)

include listed

theorem mem_listing (row : Stored) :
    row ∈ listing ↔ row ∈ table.rows ∧ job.expired cutoff row = true :=
  listed.perm.mem_iff.trans (Table.mem_select table _ row)

theorem listing_distinct : (listing.map Stored.id).Nodup :=
  ((listed.perm.map Stored.id).nodup_iff).mpr
    (table.nodup.sublist (List.filter_sublist.map Stored.id))

theorem mem_purge (row : Stored) :
    row ∈ (purge table listing).rows ↔
      row ∈ table.rows ∧ (job.expired cutoff row = true → row ∈ listing.drop sweepBatch) := by
  have distinct := listing_distinct listed
  have cut := List.take_append_drop sweepBatch listing
  rw [purge, Table.mem_deleteWhere, decide_eq_false_iff_not]
  refine and_congr_right fun stored => ⟨?_, ?_⟩
  · intro kept old
    have inside := (mem_listing listed row).mpr ⟨stored, old⟩
    rw [← cut] at inside
    exact (List.mem_append.mp inside).resolve_left fun taken =>
      kept (List.mem_map_of_mem taken)
  · intro later taken
    obtain ⟨other, chosen, same⟩ := List.mem_map.mp taken
    have there := (mem_listing listed other).mp (List.mem_of_mem_take chosen)
    have equal := List.inj_on_of_nodup_map table.nodup there.1 stored same
    rw [equal] at chosen there
    rw [← cut, List.map_append] at distinct
    exact List.disjoint_of_nodup_append distinct (List.mem_map_of_mem chosen)
      (List.mem_map_of_mem (later there.2))

theorem backlog_purge (below : lower ≤ cutoff) :
    ((purge table listing).select (job.expired lower)).length =
      (table.select (job.expired lower)).length - sweepBatch := by
  have nodup : listing.Nodup := (listing_distinct listed).of_map
  have left : ((purge table listing).select (job.expired lower)).Perm
      ((listing.drop sweepBatch).filter (job.expired lower)) := by
    refine (List.perm_ext_iff_of_nodup ((purge table listing).nodup.of_map.filter _)
      ((nodup.sublist (List.drop_sublist _ _)).filter _)).mpr ?_
    intro row
    rw [← Table.select, Table.mem_select, mem_purge listed, List.mem_filter]
    constructor
    · rintro ⟨⟨_, later⟩, old⟩
      exact ⟨later (expired_mono below old), old⟩
    · rintro ⟨later, old⟩
      exact ⟨⟨((mem_listing listed row).mp (List.mem_of_mem_drop later)).1, fun _ => later⟩, old⟩
  have whole : (table.select (job.expired lower)).Perm (listing.filter (job.expired lower)) := by
    refine (List.perm_ext_iff_of_nodup (table.nodup.of_map.filter _) (nodup.filter _)).mpr ?_
    intro row
    rw [← Table.select, Table.mem_select, List.mem_filter, mem_listing listed]
    exact ⟨fun ⟨stored, old⟩ => ⟨⟨stored, expired_mono below old⟩, old⟩,
      fun ⟨⟨stored, _⟩, old⟩ => ⟨stored, old⟩⟩
  have first : listing.Pairwise fun left right =>
      job.expired lower right = true → job.expired lower left = true := by
    refine listed.sorted.imp_of_mem ?_
    intro older younger inside _ ordered old
    have due := ((mem_listing listed older).mp inside).2
    simp only [Job.expired, Bool.and_eq_true, decide_eq_true_eq] at old due ⊢
    exact ⟨due.1, lt_of_le_of_lt ordered old.2⟩
  rw [left.length_eq, whole.length_eq, ← List.countP_eq_length_filter,
    ← List.countP_eq_length_filter, countP_drop sweepBatch first]

end Purge

/-- Each run takes a whole batch off what the lower bound has expired, while there is as much;
no row as young as the upper bound is ever deleted. -/
theorem purge_runs_drain_backlog {job : Job} {lower upper : Int} {start table : Table Stored.id}
    {count : Nat} (history : History job lower upper start count table) :
    (table.select (job.expired lower)).length =
        (start.select (job.expired lower)).length - count * sweepBatch ∧
      ∀ row ∈ start.rows, upper ≤ row.stamp →
        ∃ kept, table.get row.id = some kept ∧ kept.stamp = row.stamp := by
  induction history with
  | start => exact ⟨by simp, fun row member _ => ⟨row, start.get_of_mem row member, rfl⟩⟩
  | stored count table row before young kept hypothesis =>
    refine ⟨(backlog_store young kept).trans hypothesis.1, ?_⟩
    intro other member late
    obtain ⟨held, found, same⟩ := hypothesis.2 other member late
    rw [Table.get_store]
    by_cases here : other.id = row.id
    · rw [if_pos here]
      exact ⟨row, rfl, (kept held (here ▸ found)).symm.trans same⟩
    · rw [if_neg here]
      exact ⟨held, found, same⟩
  | purged count table retentionDays now listing before bounded listed hypothesis =>
    refine ⟨?_, ?_⟩
    · rw [backlog_purge listed bounded.1, hypothesis.1, Nat.add_mul]
      omega
    · intro row member late
      obtain ⟨held, found, same⟩ := hypothesis.2 row member late
      have stays : held ∈ (purge table listing).rows := by
        refine (mem_purge listed held).mpr ⟨Table.mem_of_get found, ?_⟩
        intro old
        have early := of_decide_eq_true (Bool.and_eq_true_iff.mp old).2
        omega
      rw [← Table.key_of_get found]
      exact ⟨held, (purge table listing).get_of_mem held stays, same⟩

namespace Sample

/-- Two rows of the audit log, of which a run at the end of the second day deletes one. -/
def journal : Table Stored.id := ⟨[⟨1, 5, false⟩, ⟨2, 86400000005, false⟩], by decide⟩

theorem old_row_is_purged :
    ((purge journal [⟨1, 5, false⟩]).select (Job.expired .audit 10)).length = 0 := by
  have listed : Listed Stored.stamp
      (journal.select (Job.expired .audit (Job.cutoff .audit 1 86400000010))) [⟨1, 5, false⟩] :=
    ⟨.refl _, List.pairwise_singleton _ _⟩
  have history := History.purged 0 journal 1 86400000010 _ .start ⟨le_refl _, le_refl _⟩ listed
  exact (purge_runs_drain_backlog history).1

end Sample

end BackendCore.Retention
