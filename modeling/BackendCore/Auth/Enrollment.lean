import BackendCore.Auth.Service

/-!
# Enrolment of a second factor

Histories of `enable_totp`, `confirm_totp`, `disable_totp` and
`complete_two_factor`, one request after the other.  `confirm_totp` adds a batch
of recovery codes and removes none, so the codes that would be accepted are those
of the latest batch only where it is not called for a second factor that is
confirmed already.
-/

set_option autoImplicit false

namespace BackendCore.Auth

open BackendCore.Python BackendCore.Requests

/-- The requests that read or write a second factor. -/
inductive EnrolCall where
  | enable (call : AuthService.EnableCall)
  | confirm (call : AuthService.ConfirmCall)
  | disable (call : AuthService.DisableCall)
  | complete (call : AuthService.TwoFactorCall)

def EnrolCall.call : EnrolCall → AuthCall
  | .enable call => .enableTotp call
  | .confirm call => .confirmTotp call
  | .disable call => .disableTotp call
  | .complete call => .completeTwoFactor call

/-- The batch of codes each user was shown last, after a request and its answer. -/
def EnrolCall.latest (call : EnrolCall) (answer : Except Exc AuthAnswer)
    (batch : Uuid → List String) : Uuid → List String :=
  match call, answer with
  | .confirm call, .ok (.recoveryCodes codes) =>
    match call.actor with
    | some userId => Function.update batch userId codes
    | none => batch
  | _, _ => batch

/-- The states after a sequence of requests, with the batches shown last.  What happens in
between does not touch the tables of the second factor. -/
inductive History (runtime : AuthRuntime) (settings : AuthSettings)
    (allows : AuthState → EnrolCall → Prop) (start : AuthState) :
    AuthState → (Uuid → List String) → Prop where
  | start : History runtime settings allows start start fun _ => []
  | call {state : AuthState} {batch : Uuid → List String}
      (earlier : History runtime settings allows start state batch) (call : EnrolCall)
      (allowed : allows state call) :
      History runtime settings allows start ((call.call.proc runtime settings).alone state).2
        (call.latest ((call.call.proc runtime settings).alone state).1 batch)
  | between {state : AuthState} {batch : Uuid → List String}
      (earlier : History runtime settings allows start state batch) (later : AuthState)
      (totps : later.db.totps = state.db.totps) (codes : later.db.codes = state.db.codes) :
      History runtime settings allows start later batch

def unspentOf (userId : Uuid) (row : UserRecoveryCode) : Bool :=
  row.userId = userId && row.usedAt.isNone

def Accounts.isConfirmed (db : Accounts) (userId : Uuid) : Bool :=
  ((db.totps.get userId).bind UserTotp.confirmedAt).isSome

/-- The unspent codes of a user are codes of the batch shown last, at most as many as there
are in a batch, and only a confirmed second factor has codes. -/
structure OnlyLatest (runtime : AuthRuntime) (db : Accounts) (batch : Uuid → List String) :
    Prop where
  latest : ∀ userId, ((db.codes.select (unspentOf userId)).map UserRecoveryCode.codeHash).Subperm
    ((batch userId).map runtime.hashRecoveryCode)
  few : ∀ userId, (db.codes.select (unspentOf userId)).length ≤ recoveryCodeCount
  confirmed : ∀ row ∈ db.codes.rows, db.isConfirmed row.userId = true

/-! ## Requests alone -/

variable {runtime : AuthRuntime} {settings : AuthSettings} {state : AuthState} {db : Accounts}
variable {batch : Uuid → List String}

theorem OnlyLatest.shrink {smaller : Accounts} (holds : OnlyLatest runtime db batch)
    (fewer : ∀ userId, (smaller.codes.select (unspentOf userId)).Sublist
      (db.codes.select (unspentOf userId)))
    (confirmed : ∀ row ∈ smaller.codes.rows, smaller.isConfirmed row.userId = true) :
    OnlyLatest runtime smaller batch where
  latest := fun userId => ((fewer userId).map _).subperm.trans (holds.latest userId)
  few := fun userId => (fewer userId).length_le.trans (holds.few userId)
  confirmed := confirmed

theorem OnlyLatest.drop (holds : OnlyLatest runtime db batch) (userId : Uuid) :
    OnlyLatest runtime (dropTotp db userId) batch := by
  refine holds.shrink ?_ ?_
  · intro other
    exact (List.filter_sublist.filter (unspentOf other) : _)
  · intro row member
    obtain ⟨stored, other⟩ := (Table.mem_deleteWhere _ _ _).mp member
    have differs : row.userId ≠ userId := of_decide_eq_false other
    have confirmed := holds.confirmed row stored
    unfold Accounts.isConfirmed at confirmed ⊢
    rw [dropTotp, Table.get_erase, if_neg differs]
    exact confirmed

theorem OnlyLatest.storeSecret (holds : OnlyLatest runtime db batch) {userId : Uuid}
    {existing : Option UserTotp} {secret : String} {answer : AuthAnswer} {after : Accounts}
    (unconfirmed : db.isConfirmed userId = false)
    (stores : storeSecret db userId existing secret = .ok (answer, after)) :
    OnlyLatest runtime after batch := by
  have others : after.codes = db.codes ∧ ∀ other, other ≠ userId →
      after.totps.get other = db.totps.get other := by
    unfold Auth.storeSecret at stores
    split at stores
    · cases stores
    · rename_i row found
      cases stores
      refine ⟨rfl, fun other differs => Table.get_put_of_ne _ _ _ ?_⟩
      rw [Table.key_of_get found]
      exact differs
    · cases stores
    · split at stores
      · cases stores
        refine ⟨rfl, fun other differs => ?_⟩
        rw [Table.get_store, if_neg differs]
      · cases stores
  refine holds.shrink ?_ ?_
  · intro other
    rw [others.1]
  · intro row member
    rw [others.1] at member
    have confirmed := holds.confirmed row member
    have differs : row.userId ≠ userId := by
      intro same
      rw [same, unconfirmed] at confirmed
      cases confirmed
    unfold Accounts.isConfirmed at confirmed ⊢
    rw [others.2 _ differs]
    exact confirmed

theorem insertCodes_rows (rows : List UserRecoveryCode) {codes after : Table UserRecoveryCode.id}
    (inserted : insertCodes rows codes = some after) : after.rows = codes.rows ++ rows := by
  induction rows generalizing codes with
  | nil =>
    cases inserted
    exact (List.append_nil _).symm
  | cons row rest hypothesis =>
    unfold insertCodes at inserted
    split at inserted
    · rename_i absent
      rw [Option.isNone_iff_eq_none] at absent
      have stored : (codes.store row).rows = codes.rows ++ [row] := by
        rw [Table.store, dif_pos absent]
        rfl
      rw [hypothesis inserted, stored, List.append_assoc]
      rfl
    · cases inserted

theorem rows_filter_self (draw : RecoveryDraw) (runtime : AuthRuntime) (userId : Uuid) :
    (draw.rows runtime userId).filter (unspentOf userId) = draw.rows runtime userId := by
  refine List.filter_eq_self.mpr ?_
  intro row member
  obtain ⟨entry, _, rfl⟩ := List.mem_map.mp member
  simp [unspentOf]

theorem rows_filter_other (draw : RecoveryDraw) (runtime : AuthRuntime) {userId other : Uuid}
    (differs : other ≠ userId) :
    (draw.rows runtime userId).filter (unspentOf other) = [] := by
  refine List.filter_eq_nil_iff.mpr ?_
  intro row member
  obtain ⟨entry, _, rfl⟩ := List.mem_map.mp member
  simp [unspentOf, differs.symm]

theorem OnlyLatest.confirm (holds : OnlyLatest runtime db batch) {userId : Uuid}
    {draw : RecoveryDraw} {now : DateTime} {answer : AuthAnswer} {after : Accounts}
    (unconfirmed : db.isConfirmed userId = false)
    (adds : addRecoveryCodes runtime db userId draw now = .ok (answer, after)) :
    answer = .recoveryCodes (draw.codes.map Prod.snd) ∧
      OnlyLatest runtime after (Function.update batch userId (draw.codes.map Prod.snd)) := by
  unfold addRecoveryCodes at adds
  split at adds
  · cases adds
  rename_i totp found
  split at adds
  · cases adds
  rename_i codes inserted
  cases adds
  have rows := insertCodes_rows _ inserted
  have placed : totp.userId = userId := Table.key_of_get found
  have selected : ∀ other, codes.select (unspentOf other) =
      db.codes.select (unspentOf other) ++ (draw.rows runtime userId).filter (unspentOf other) := by
    intro other
    rw [Table.select, rows, List.filter_append]
    rfl
  have noneBefore : db.codes.select (unspentOf userId) = [] := by
    refine List.filter_eq_nil_iff.mpr ?_
    intro row member chosen
    have confirmed := holds.confirmed row member
    rw [unspentOf, Bool.and_eq_true, decide_eq_true_eq] at chosen
    rw [chosen.1, unconfirmed] at confirmed
    cases confirmed
  refine ⟨rfl, ?_, ?_, ?_⟩
  · intro other
    dsimp only
    rw [selected]
    by_cases same : other = userId
    · subst same
      rw [noneBefore, rows_filter_self, Function.update_self, List.nil_append]
      refine List.Perm.subperm ?_
      rw [RecoveryDraw.rows, List.map_map, List.map_map]
      exact List.Perm.refl _
    · rw [rows_filter_other draw runtime same, List.append_nil, Function.update_of_ne same]
      exact holds.latest other
  · intro other
    dsimp only
    rw [selected]
    by_cases same : other = userId
    · subst same
      rw [noneBefore, rows_filter_self, List.nil_append, RecoveryDraw.rows, List.length_map,
        draw.count]
    · rw [rows_filter_other draw runtime same, List.append_nil]
      exact holds.few other
  · intro row member
    dsimp only at member
    have turned : ∀ other, (db.totps.put { totp with confirmedAt := some now }).get other =
        if other = userId then some { totp with confirmedAt := some now }
        else db.totps.get other := by
      intro other
      rw [Table.get_put, placed]
      split
      · rename_i same
        rw [same, found]
        rfl
      · rfl
    unfold Accounts.isConfirmed
    dsimp only
    rw [turned]
    split
    · rfl
    · rename_i other
      rw [rows] at member
      rcases List.mem_append.mp member with before | new
      · exact holds.confirmed row before
      · obtain ⟨entry, _, rfl⟩ := List.mem_map.mp new
        exact (other rfl).elim

/-! ## Histories -/

theorem OnlyLatest.same {other : Accounts} (holds : OnlyLatest runtime db batch)
    (codes : other.codes = db.codes) (totps : other.totps = db.totps) :
    OnlyLatest runtime other batch := by
  refine holds.shrink ?_ ?_
  · intro userId
    rw [codes]
  · intro row member
    rw [codes] at member
    unfold Accounts.isConfirmed
    rw [totps]
    exact holds.confirmed row member

namespace Sample

/-- What a request comes to. -/
def after (call : EnrolCall) (state : AuthState) : Except Exc AuthAnswer × AuthState :=
  (call.call.proc plainRuntime plainSettings).alone state

end Sample

end BackendCore.Auth
