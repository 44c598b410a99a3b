import Mathlib
import BackendCore.Files.Service

/-!
# Stored files and their bytes

Between two requests every committed row of `files` should have its bytes in the
backend.  That holds along every run in which no request fails once it has deleted
bytes: the deletion cannot be taken back, the rollback restores the row.
-/

set_option autoImplicit false

namespace BackendCore.Files

open BackendCore.Python

/-! ## Keys -/

theorem storageKey_injective {tenantId otherTenant fileId otherFile : Uuid}
    (same : storageKey tenantId fileId = storageKey otherTenant otherFile) :
    fileId = otherFile := by
  have chars := congrArg String.toList same
  simp only [storageKey, String.toList_append, List.append_assoc] at chars
  have widths : (Uuid.toStr tenantId).toList.length = (Uuid.toStr otherTenant).toList.length := by
    rw [Uuid.toStr_length, Uuid.toStr_length]
  have rest := List.append_inj_right chars widths
  exact Uuid.toStr_injective _ _ (String.toList_inj.mp (List.append_cancel_left rest))

theorem StoredFile.id_of_key {left right : StoredFile}
    (same : left.storageKey = right.storageKey) : left.id = right.id := by
  rw [left.keyed, right.keyed] at same
  exact storageKey_injective same

/-! ## Rows with their bytes -/

section Integrity

variable (env : Env)

/-- What the row says about the bytes of its upload. -/
def Describes (row : StoredFile) (data : Bytes) : Prop :=
  row.byteSize = data.length ∧ row.checksumSha256 = env.sha256 data

def Backed (uploaded : Uuid → Option Bytes) (objects : String → Option Bytes)
    (row : StoredFile) : Prop :=
  ∃ data, uploaded row.id = some data ∧ objects row.storageKey = some data ∧
    Describes env row data

/-- Rows are stored with their bytes put right after, and deleted with their bytes deleted
right after. -/
def Flow.Whole : Flow → Prop
  | .done => True
  | .raise _ => True
  | .guard _ next => next.Whole
  | .ensureExists _ next => next.Whole
  | .getFile _ next => ∀ row, (next row).Whole
  | .addFile row data (.put key bytes rest) =>
    key = row.storageKey ∧ bytes = data ∧ Describes env row data ∧ rest.Whole
  | .addFile _ _ _ => False
  | .deleteFile row (.remove key rest) => key = row.storageKey ∧ rest.Whole
  | .deleteFile _ _ => False
  | .getImage _ next => ∀ row, (next row).Whole
  | .addImage _ next => next.Whole
  | .deleteImage _ next => next.Whole
  | .put _ _ _ => False
  | .fetch _ next => ∀ data, (next data).Whole
  | .remove _ _ => False
  | .generate _ _ next => ∀ data contentType, (next data contentType).Whole

section Calls

variable {env} {tenantId : Uuid}

theorem upload_whole (fileId : Uuid) (filename : Option String) (data : Bytes)
    {next : StoredFile → Flow} (rest : ∀ row, (next row).Whole env) :
    (upload env tenantId fileId filename data next).Whole env := by
  unfold upload
  simp only [Flow.Whole]
  split
  · trivial
  split
  · trivial
  split
  · trivial
  split
  · trivial
  · exact ⟨rfl, rfl, ⟨rfl, rfl⟩, rest _⟩

theorem createThumbnail_whole (fileId sourceFileId : Uuid) (maxEdge : Option Int)
    {next : StoredFile → Flow} (rest : ∀ row, (next row).Whole env) :
    (createThumbnail env tenantId fileId sourceFileId maxEdge next).Whole env :=
  fun _ _ _ _ => upload_whole fileId none _ rest

theorem delete_whole (fileId : Uuid) {next : Flow} (rest : next.Whole env) :
    (delete fileId next).Whole env :=
  fun _ => ⟨rfl, rest⟩

theorem attach_whole (fileId thumbnailId imageId productId : Uuid) (filename : Option String)
    (data : Bytes) (altText : Option String) (position : Int) {next : Flow}
    (rest : next.Whole env) :
    (attach env tenantId fileId thumbnailId imageId productId filename data altText position
      next).Whole env := by
  unfold attach
  simp only [Flow.Whole]
  refine upload_whole fileId filename data fun stored => ?_
  exact createThumbnail_whole thumbnailId stored.id none fun _ => rest

theorem removeImage_whole (imageId : Uuid) {next : Flow} (rest : next.Whole env) :
    (removeImage imageId next).Whole env := by
  intro image
  simp only [Flow.Whole]
  split
  · exact delete_whole _ rest
  · exact delete_whole _ (delete_whole _ rest)

theorem Call.flow_whole (call : Call) {next : Flow} (rest : next.Whole env) :
    (call.flow env tenantId next).Whole env := by
  cases call with
  | upload fileId filename data => exact upload_whole fileId filename data fun _ => rest
  | createThumbnail fileId sourceFileId maxEdge =>
    exact createThumbnail_whole fileId sourceFileId maxEdge fun _ => rest
  | delete fileId => exact delete_whole fileId rest
  | attach fileId thumbnailId imageId productId filename data altText position =>
    exact attach_whole fileId thumbnailId imageId productId filename data altText position rest
  | remove imageId => exact removeImage_whole imageId rest

theorem requestFlow_whole (calls : List Call) : (requestFlow env tenantId calls).Whole env := by
  induction calls with
  | nil => trivial
  | cons call calls ih => exact call.flow_whole ih

end Calls

/-! ## Invariant -/

/-- Every row the request sees has its bytes. -/
def Seen (world : World) (live : Live) : Prop :=
  ∀ id row, live.tables.files.get id = some row → Backed env live.uploaded world.objects row

/-- The request sees every committed row whose bytes it has not deleted. -/
def Kept (world : World) (live : Live) : Prop :=
  ∀ id row, world.tables.files.get id = some row →
    row.storageKey ∈ live.removed ∨ live.tables.files.get id = some row

/-- The rows a request sees at a step, and what becomes of the committed ones. -/
inductive Shape (world : World) (live : Live) : Prop where
  | whole (whole : live.flow.Whole env)
      (view : Seen env world live) (kept : Kept world live)
  | putting (row : StoredFile) (data : Bytes) (next : Flow)
      (flow : live.flow = .put row.storageKey data next) (whole : next.Whole env)
      (there : live.tables.files.get row.id = some row)
      (uploaded : live.uploaded row.id = some data) (describes : Describes env row data)
      (view : ∀ id other, live.tables.files.get id = some other → id ≠ row.id →
        Backed env live.uploaded world.objects other)
      (kept : ∀ id other, world.tables.files.get id = some other →
        other.storageKey ∈ live.removed ∨
          id ≠ row.id ∧ live.tables.files.get id = some other)
  | removing (row : StoredFile) (next : Flow) (flow : live.flow = .remove row.storageKey next)
      (whole : next.Whole env) (gone : live.tables.files.get row.id = none)
      (view : Seen env world live)
      (kept : ∀ id other, world.tables.files.get id = some other →
        other.storageKey ∈ live.removed ∨ other.storageKey = row.storageKey ∨
          live.tables.files.get id = some other)

/-- Committed rows whose bytes the open request has not deleted have them. -/
def Committed (world : World) (removed : List String) : Prop :=
  ∀ id row, world.tables.files.get id = some row →
    row.storageKey ∈ removed ∨ Backed env world.uploaded world.objects row

def Sound (world : World) : Prop :=
  match world.live with
  | none => Committed env world []
  | some live => Committed env world live.removed ∧ Shape env world live

end Integrity

/-- A request that has deleted bytes does not fail any more, and a deletion that fails
leaves the bytes. -/
def Careful (world : World) (event : Event) : Prop :=
  ∀ live, world.live = some live →
    match event with
    | .begin _ _ => True
    | .advance _ => ∀ error, live.flow = .raise error → live.removed = []
    | .fail left => live.removed = [] ∧ ∀ key next, live.flow = .remove key next → left ≠ none

def CarefulRun (env : Env) : World → List Event → Prop
  | _, [] => True
  | world, event :: rest => Careful world event ∧ CarefulRun env (world.step env event) rest

/-- `Careful` as a check. -/
def isCareful (world : World) (event : Event) : Bool :=
  match world.live, event with
  | none, _ => true
  | some _, .begin _ _ => true
  | some live, .advance _ =>
    match live.flow with
    | .raise _ => live.removed.isEmpty
    | _ => true
  | some live, .fail left =>
    live.removed.isEmpty &&
      match live.flow with
      | .remove _ _ => left.isSome
      | _ => true

theorem careful_of_isCareful {world : World} {event : Event}
    (checked : isCareful world event = true) : Careful world event := by
  intro live opened
  rw [isCareful.eq_def, opened] at checked
  cases event with
  | begin tenantId calls => trivial
  | advance image =>
    intro error flow
    simp only [flow] at checked
    exact List.isEmpty_iff.mp checked
  | fail left =>
    obtain ⟨early, harmless⟩ := Bool.and_eq_true_iff.mp checked
    refine ⟨List.isEmpty_iff.mp early, ?_⟩
    intro key next flow
    simp only [flow] at harmless
    exact Option.isSome_iff_ne_none.mp harmless

/-- The check at every event of a run. -/
def runIsCareful (env : Env) : World → List Event → Bool
  | _, [] => true
  | world, event :: rest => isCareful world event && runIsCareful env (world.step env event) rest

theorem carefulRun_of_checks {env : Env} {events : List Event} {world : World}
    (checked : runIsCareful env world events = true) : CarefulRun env world events := by
  induction events generalizing world with
  | nil => trivial
  | cons event events ih =>
    obtain ⟨here, rest⟩ := Bool.and_eq_true_iff.mp checked
    exact ⟨careful_of_isCareful here, ih rest⟩

/-! ## One step -/

section Steps

variable {env : Env} {world : World} {live : Live}

theorem Backed.of_other {uploaded : Uuid → Option Bytes} {objects : String → Option Bytes}
    {row other : StoredFile} (backed : Backed env uploaded objects row)
    (differs : row.id ≠ other.id) (left : Option Bytes) :
    Backed env uploaded (Function.update objects other.storageKey left) row := by
  obtain ⟨data, known, stored, described⟩ := backed
  refine ⟨data, known, ?_, described⟩
  rw [Function.update_of_ne fun same => differs (StoredFile.id_of_key same)]
  exact stored

theorem Backed.after_upload {uploaded : Uuid → Option Bytes} {objects : String → Option Bytes}
    {row : StoredFile} {id : Uuid} (backed : Backed env uploaded objects row)
    (differs : row.id ≠ id) (data : Option Bytes) :
    Backed env (Function.update uploaded id data) objects row := by
  obtain ⟨bytes, known, stored, described⟩ := backed
  refine ⟨bytes, ?_, stored, described⟩
  rw [Function.update_of_ne differs]
  exact known

theorem sound_goto {flow : Flow} (committed : Committed env world live.removed)
    (whole : flow.Whole env)
    (view : Seen env world live) (kept : Kept world live) :
    Sound env (world.goto live flow) :=
  ⟨committed, .whole whole view kept⟩

theorem sound_rollback (committed : Committed env world live.removed)
    (careful : live.removed = []) : Sound env world.rollback := by
  rw [careful] at committed
  exact committed

theorem sound_addFile {row : StoredFile} {data : Bytes} {rest : Flow}
    (committed : Committed env world live.removed) (whole : rest.Whole env)
    (describes : Describes env row data) (free : live.tables.files.get row.id = none)
    (view : Seen env world live) (kept : Kept world live) :
    Sound env { world with live := some { live with
      flow := .put row.storageKey data rest
      tables := { live.tables with files := live.tables.files.insertNew row }
      uploaded := Function.update live.uploaded row.id (some data) } } := by
  have seen := live.tables.files.get_insertNew_of_fresh row free
  refine ⟨committed, .putting row data rest rfl whole ?_ (Function.update_self ..) describes
    ?_ ?_⟩
  · exact (seen row.id).trans (if_pos rfl)
  · intro id other found differs
    have old : live.tables.files.get id = some other := by
      rw [← found]
      exact ((seen id).trans (if_neg differs)).symm
    have named : other.id ≠ row.id := by
      rw [Table.key_of_get old]
      exact differs
    exact (view id other old).after_upload named _
  · intro id other found
    rcases kept id other found with removed | there
    · exact .inl removed
    · have differs : id ≠ row.id := by
        rintro rfl
        rw [free] at there
        nomatch there
      exact .inr ⟨differs, ((seen id).trans (if_neg differs)).trans there⟩

theorem sound_deleteFile {row : StoredFile} {rest : Flow}
    (committed : Committed env world live.removed) (whole : rest.Whole env)
    (there : live.tables.files.get row.id = some row)
    (view : Seen env world live) (kept : Kept world live) :
    Sound env { world with live := some { live with
      flow := .remove row.storageKey rest
      tables := { live.tables with files := live.tables.files.erase row.id } } } := by
  have seen := live.tables.files.get_erase row.id
  refine ⟨committed, .removing row rest rfl whole ((seen row.id).trans (if_pos rfl)) ?_ ?_⟩
  · intro id other found
    change (live.tables.files.erase row.id).get id = some other at found
    rw [seen] at found
    split at found
    · cases found
    · exact view id other found
  · intro id other found
    rcases kept id other found with removed | stands
    · exact .inl removed
    · right
      by_cases here : id = row.id
      · rw [here, there] at stands
        cases stands
        exact .inl rfl
      · exact .inr (((seen id).trans (if_neg here)).trans stands)

theorem sound_advance_whole (image : Bytes × String)
    (committed : Committed env world live.removed) (whole : live.flow.Whole env)
    (view : Seen env world live) (kept : Kept world live)
    (careful : ∀ error, live.flow = .raise error → live.removed = []) :
    Sound env (world.advance image live) := by
  rw [World.advance.eq_def]
  cases flow : live.flow with
  | done => exact fun id row found => .inr (view id row found)
  | raise error => exact sound_rollback committed (careful error flow)
  | guard permission next =>
    rw [flow] at whole
    exact sound_goto committed whole view kept
  | ensureExists productId next =>
    rw [flow] at whole
    exact sound_goto committed whole view kept
  | getFile fileId next =>
    rw [flow] at whole
    simp only
    split
    · exact sound_goto committed trivial view kept
    · exact sound_goto committed (whole _) view kept
  | addFile row data next =>
    rw [flow] at whole
    simp only
    split
    · exact sound_goto committed trivial view kept
    · rename_i free
      cases next with
      | put key bytes rest =>
        obtain ⟨rfl, rfl, describes, wholeRest⟩ := whole
        exact sound_addFile committed wholeRest describes
          (Option.not_isSome_iff_eq_none.mp free) view kept
      | _ => exact whole.elim
  | deleteFile row next =>
    rw [flow] at whole
    simp only
    split
    · rename_i there
      cases next with
      | remove key rest =>
        obtain ⟨rfl, wholeRest⟩ := whole
        exact sound_deleteFile committed wholeRest there view kept
      | _ => exact whole.elim
    · exact sound_goto committed trivial view kept
  | getImage imageId next =>
    rw [flow] at whole
    simp only
    split
    · exact sound_goto committed trivial view kept
    · exact sound_goto committed (whole _) view kept
  | addImage row next =>
    rw [flow] at whole
    simp only
    split
    · exact sound_goto committed trivial view kept
    · exact ⟨committed, .whole whole view kept⟩
  | deleteImage row next =>
    rw [flow] at whole
    simp only
    split
    · exact ⟨committed, .whole whole view kept⟩
    · exact sound_goto committed trivial view kept
  | put key data next =>
    rw [flow] at whole
    exact whole.elim
  | fetch key next =>
    rw [flow] at whole
    simp only
    split
    · exact sound_goto committed trivial view kept
    · exact sound_goto committed (whole _) view kept
  | remove key next =>
    rw [flow] at whole
    exact whole.elim
  | generate data maxEdge next =>
    rw [flow] at whole
    exact sound_goto committed (whole _ _) view kept

theorem sound_put {row : StoredFile} {data : Bytes} {next : Flow}
    (committed : Committed env world live.removed) (whole : next.Whole env)
    (there : live.tables.files.get row.id = some row)
    (uploaded : live.uploaded row.id = some data) (describes : Describes env row data)
    (view : ∀ id other, live.tables.files.get id = some other → id ≠ row.id →
      Backed env live.uploaded world.objects other)
    (kept : ∀ id other, world.tables.files.get id = some other →
      other.storageKey ∈ live.removed ∨ id ≠ row.id ∧ live.tables.files.get id = some other) :
    Sound env { world with
      objects := Function.update world.objects row.storageKey (some data)
      live := some { live with flow := next } } := by
  refine ⟨?_, .whole whole ?_ ?_⟩
  · intro id other found
    have old := committed id other found
    rcases kept id other found with removed | ⟨differs, _⟩
    · exact .inl removed
    · refine old.imp_right fun backed => backed.of_other ?_ _
      rw [Table.key_of_get found]
      exact differs
  · intro id other found
    by_cases here : id = row.id
    · subst here
      rw [there] at found
      cases found
      exact ⟨data, uploaded, Function.update_self .., describes⟩
    · refine (view id other found here).of_other ?_ _
      rw [Table.key_of_get found]
      exact here
  · exact fun id other found => (kept id other found).imp_right And.right

theorem sound_remove {row : StoredFile} {next : Flow}
    (committed : Committed env world live.removed) (whole : next.Whole env)
    (gone : live.tables.files.get row.id = none)
    (view : Seen env world live)
    (kept : ∀ id other, world.tables.files.get id = some other →
      other.storageKey ∈ live.removed ∨ other.storageKey = row.storageKey ∨
        live.tables.files.get id = some other) :
    Sound env { world with
      objects := Function.update world.objects row.storageKey none
      live := some { live with flow := next, removed := row.storageKey :: live.removed } } := by
  refine ⟨?_, .whole whole ?_ ?_⟩
  · intro id other found
    by_cases here : other.storageKey = row.storageKey
    · exact .inl (here ▸ List.mem_cons_self)
    · rcases committed id other found with removed | ⟨data, known, stored, described⟩
      · exact .inl (List.mem_cons_of_mem _ removed)
      · refine .inr ⟨data, known, ?_, described⟩
        change Function.update world.objects row.storageKey none other.storageKey = _
        rw [Function.update_of_ne here]
        exact stored
  · intro id other found
    refine (view id other found).of_other ?_ _
    intro same
    rw [Table.key_of_get found] at same
    rw [same, gone] at found
    nomatch found
  · intro id other found
    rcases kept id other found with removed | here | there
    · exact .inl (List.mem_cons_of_mem _ removed)
    · exact .inl (here ▸ List.mem_cons_self)
    · exact .inr there

theorem sound_fail {left : Option Bytes} (committed : Committed env world live.removed)
    (shape : Shape env world live) (early : live.removed = [])
    (harmless : ∀ key next, live.flow = .remove key next → left ≠ none) :
    Sound env (world.partly left live).rollback := by
  have stays : Sound env world.rollback := sound_rollback committed early
  rw [World.partly.eq_def]
  cases shape with
  | whole whole view kept =>
    cases flow : live.flow with
    | put key data next =>
      rw [flow] at whole
      exact whole.elim
    | remove key next =>
      rw [flow] at whole
      exact whole.elim
    | _ => exact stays
  | putting row data next flow whole there uploaded describes view kept =>
    rw [flow]
    intro id other found
    refine (stays id other found).imp_right fun backed => backed.of_other ?_ _
    rcases kept id other found with removed | ⟨differs, _⟩
    · rw [early] at removed
      nomatch removed
    · rw [Table.key_of_get found]
      exact differs
  | removing row next flow whole gone view kept =>
    rw [flow]
    cases left with
    | none => exact absurd rfl (harmless _ _ flow)
    | some bytes => exact stays

theorem sound_step {event : Event} (sound : Sound env world) (careful : Careful world event) :
    Sound env (world.step env event) := by
  cases open_ : world.live with
  | none =>
    have committed : Committed env world [] := by
      rw [Sound, open_] at sound
      exact sound
    rw [World.step.eq_def, open_]
    cases event with
    | begin tenantId calls =>
      refine ⟨committed, .whole (requestFlow_whole calls) ?_ fun id row found => .inr found⟩
      intro id row found
      exact (committed id row found).resolve_left List.not_mem_nil
    | advance image => exact sound
    | fail left => exact sound
  | some live =>
    have both : Committed env world live.removed ∧ Shape env world live := by
      rw [Sound, open_] at sound
      exact sound
    obtain ⟨committed, shape⟩ := both
    have cautious := careful live open_
    rw [World.step.eq_def, open_]
    cases event with
    | begin tenantId calls => exact sound
    | fail left => exact sound_fail committed shape cautious.1 cautious.2
    | advance image =>
      cases shape with
      | whole whole view kept =>
        exact sound_advance_whole image committed whole view kept cautious
      | putting row data next flow whole there uploaded describes view kept =>
        simp only
        rw [World.advance, flow]
        exact sound_put committed whole there uploaded describes view kept
      | removing row next flow whole gone view kept =>
        simp only
        rw [World.advance, flow]
        exact sound_remove committed whole gone view kept

end Steps

/-! ## Whole runs -/

theorem sound_run {env : Env} (events : List Event) {world : World} (sound : Sound env world)
    (careful : CarefulRun env world events) : Sound env (world.run env events) := by
  induction events generalizing world with
  | nil => exact sound
  | cons event events ih => exact ih (sound_step sound careful.1) careful.2

/-- In every careful run, a file that `get` returns between two requests opens with the bytes
of its upload. -/
theorem stored_files_open (env : Env) (events : List Event)
    (careful : CarefulRun env .empty events) (idle : (World.empty.run env events).live = none)
    (tenantId fileId : Uuid) (stored : StoredFile)
    (got : (World.empty.run env events).get tenantId fileId = .ok stored) :
    ∃ data, (World.empty.run env events).uploaded fileId = some data ∧
      (World.empty.run env events).open tenantId fileId = .ok (stored, data) ∧
      stored.byteSize = data.length ∧ stored.checksumSha256 = env.sha256 data := by
  have start : Sound env .empty := by
    intro id row found
    cases found
  have sound := sound_run events start careful
  rw [Sound, idle] at sound
  have found : (World.empty.run env events).tables.files.get fileId = some stored := by
    have looked := got
    rw [World.get] at looked
    split at looked
    · cases looked
    · rename_i row kept
      cases looked
      exact (Option.filter_eq_some_iff.mp kept).1
  obtain ⟨data, known, there, size, digest⟩ :=
    (sound fileId stored found).resolve_left List.not_mem_nil
  have named : stored.id = fileId := Table.key_of_get found
  rw [named] at known
  refine ⟨data, known, ?_, size, digest⟩
  rw [World.open, got]
  simp only
  rw [there]

namespace Sample

def png : Bytes := [0x89, 0x50, 0x4e, 0x47, 0x0d, 0x0a, 0x1a, 0x0a, 1]

def thumb : Bytes := [0x89, 0x50, 0x4e, 0x47, 0x0d, 0x0a, 0x1a, 0x0a, 2]

def env : Env where
  maxUploadBytes := 10485760
  allowedContentTypes := ["image/jpeg", "image/png", "image/webp", "image/gif"]
  thumbnailMaxEdge := 256
  sha256 := fun data =>
    if data = png then "275f1bcbbb585c71e3b2184304eccfa0e37de92022ca3b6f4e9c10df32318d85"
    else if data = thumb then "379aa60c5861ea4f15b6b8fd97ce05053fd6a7de6a4bd4338859fd72ebdbdf4d"
    else ""
  isPrintable := fun c => 32 ≤ c.toNat && c.toNat ≤ 126

def advances (count : Nat) : List Event := List.replicate count (.advance (thumb, "image/png"))

/-- An image is attached to a product, with its thumbnail. -/
def attached : List Event :=
  .begin 1 [.attach 10 11 12 5 (some "a.png") png none 0] :: advances 13

/-- The image is removed, and the second deletion in the backend fails. -/
def halfRemoved : List Event :=
  attached ++ .begin 1 [.remove 12] :: advances 10 ++ [.fail (some png)]

theorem thumbnail_row_without_bytes :
    (World.empty.run env halfRemoved).live.isNone = true ∧
      (World.empty.run env halfRemoved).uploaded 11 = some thumb ∧
      ((World.empty.run env halfRemoved).get 1 11).isOk = true ∧
      ((World.empty.run env halfRemoved).open 1 11).isOk = false := by
  decide +kernel

theorem attached_thumbnail_opens : ∃ stored data,
    (World.empty.run env attached).get 1 11 = .ok stored ∧
      (World.empty.run env attached).open 1 11 = .ok (stored, data) := by
  have idle : (World.empty.run env attached).live = none :=
    Option.isNone_iff_eq_none.mp (by decide +kernel)
  have there : ((World.empty.run env attached).get 1 11).isOk = true := by decide +kernel
  cases got : (World.empty.run env attached).get 1 11 with
  | error raised =>
    rw [got] at there
    nomatch there
  | ok stored =>
    obtain ⟨data, _, opened, _⟩ := stored_files_open env attached
      (carefulRun_of_checks (by decide +kernel)) idle 1 11 stored got
    exact ⟨stored, data, rfl, opened⟩

end Sample

end BackendCore.Files
