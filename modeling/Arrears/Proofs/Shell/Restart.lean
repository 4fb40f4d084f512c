import Arrears.Proofs.Shell.Processing
import Arrears.Proofs.Store.Snapshot
import Arrears.Service

/-!
# Restarts cannot be told

A service can be stopped between two lines of its input and started again on the same database with
the same reference data.  Nobody can tell from what is written, or from what is stored in the end.

**Argument.** The start of a service merges its reference data.  After that all their ids are
stored, and no call to the ledger removes a record.  So the merge at a later start finds nothing to
add, and the second run begins with the store that the first has left (`run_append`).
-/

namespace Arrears

/-! ## Reference data that are stored -/

namespace Store

variable {s s' : Store} {reference : Reference}

/-- Every id of the reference data is stored. -/
structure Covers (s : Store) (reference : Reference) : Prop where
  users : ∀ user ∈ reference.users, user.id ∈ s.users.map User.id
  operationTypes : ∀ operationType ∈ reference.operationTypes,
    operationType.id ∈ s.operationTypes.map OperationType.id

theorem Covers.mono (h : s.Covers reference) (husers : s.users <+: s'.users)
    (htypes : s.operationTypes <+: s'.operationTypes) : s'.Covers reference where
  users user huser := (husers.map _).subset (h.users user huser)
  operationTypes operationType hmem := (htypes.map _).subset (h.operationTypes operationType hmem)

theorem covers_merged {operationTypes : List OperationType}
    (hmerge : Reference.mergeOperationTypes s.operationTypes reference.operationTypes =
      .ok operationTypes) : (s.merged reference operationTypes).Covers reference where
  users user huser := by
    rw [merged, Reference.mergeUsers_eq, List.map_append]
    exact Reference.mem_taken_of_mem huser
  operationTypes operationType hmem := by
    obtain ⟨entered, hentered, rfl⟩ := Reference.mergeOperationTypes_eq_ok_iff.mp hmerge
    rw [merged, List.map_append, Reference.map_id_of_canonical hentered]
    exact Reference.mem_taken_of_mem hmem

theorem Covers.step {call : Call} {answer : Answer} (hcovers : s.Covers reference)
    (h : Step s call answer s') : s'.Covers reference := by
  cases h with
  | refused => exact hcovers
  | seeded hmerge =>
      exact hcovers.mono (Reference.prefix_mergeUsers _ _)
        (Reference.prefix_mergeOperationTypes hmerge)
  | opened => exact ⟨hcovers.users, hcovers.operationTypes⟩
  | booked => exact hcovers.mono (by simp) (by simp)

theorem Steps.covers {calls : List Call} {answers : List Answer} (h : Steps s calls answers s')
    (hcovers : s.Covers reference) : s'.Covers reference :=
  h.invariant (P := fun s => s.Covers reference) (fun _ hstep hs => Covers.step hs hstep) hcovers

theorem Covers.seed_eq (h : s.Covers reference) :
    reference.seed (.opened s) = (.ok 0, .opened s) := by
  have hmerge : Reference.mergeOperationTypes s.operationTypes reference.operationTypes =
      .ok s.operationTypes := by
    rw [Reference.mergeOperationTypes_eq, Reference.entering_eq_nil h.operationTypes]
    exact congrArg Except.ok (List.append_nil _)
  have husers : Reference.mergeUsers s.users reference.users = s.users := by
    rw [Reference.mergeUsers_eq, Reference.entering_eq_nil h.users, List.append_nil]
  rw [Reference.seed_of_ok hmerge, husers]
  simp

end Store

theorem Reference.exists_merge_of_ofToml {text : String} {reference : Reference}
    (h : ofToml text = .ok reference) (rows : List OperationType) :
    ∃ rows', mergeOperationTypes rows reference.operationTypes = .ok rows' := by
  cases hmerge : mergeOperationTypes rows reference.operationTypes with
  | ok rows' => exact ⟨rows', rfl⟩
  | error fault =>
      obtain ⟨operationType, hmem, other, hother⟩ :=
        exists_mergeOperationTypes_eq_error_iff.mp ⟨fault, hmerge⟩
      obtain ⟨behavior, hbehavior⟩ :=
        readable_of_ofToml h operationType ((entering_sublist _ _ _).subset hmem)
      rw [hother] at hbehavior
      cases hbehavior

/-! ## Starting -/

theorem Database.createTables_again {canBeWritten : Bool} {tables : Option Store} {db : Database}
    (h : createTables canBeWritten tables = .ok db) :
    createTables canBeWritten db.store? = .ok db := by
  cases canBeWritten <;> cases tables <;> cases h <;> rfl

theorem Database.store?_of_createTables {canBeWritten : Bool} {s : Store} {db : Database}
    (h : createTables canBeWritten (some s) = .ok db) : db.store? = some s := by
  cases canBeWritten <;> cases h <;> rfl

/-- Opens the database of a connection and merges reference data into it. -/
def Connection.startUp (connection : Connection) (reference : Reference) :
    Except Failure Database := do
  let database ← stored connection.database
  let (result, database) := reference.seed database
  let _ ← result
  return database

/-- A service starts like this, once its reference data and its connection are settled. -/
theorem Service.start_eq (files : Files) (given : Environment) :
    start files given = (do
      let environment ← match environment files given with
        | .ok environment => pure environment
        | .error cause => throw (.crashed cause)
      let reference ← match Reference.load files environment.referencePath with
        | .ok reference => pure reference
        | .error error => refuse error
      let connection ← stored (Connection.establish files environment.databaseUrl)
      let database ← connection.startUp reference
      return ⟨connection, database⟩) := by
  cases henvironment : environment files given with
  | error cause =>
      simp only [start, henvironment]
      rfl
  | ok known =>
      cases hreference : Reference.load files known.referencePath with
      | error error =>
          simp only [start, henvironment, pure_bind, hreference]
          rfl
      | ok reference =>
          simp only [start, henvironment, pure_bind, hreference, Connection.startUp, bind_assoc]

theorem Connection.startUp_eq {connection : Connection} {reference : Reference}
    {database seeded : Database} {n : Nat} (hdatabase : connection.database = .ok database)
    (hseed : reference.seed database = (.ok n, seeded)) :
    connection.startUp reference = .ok seeded := by
  simp only [startUp, hdatabase, stored, bind, Except.bind, hseed]
  rfl

namespace DatabaseFile

variable {file : DatabaseFile} {reference : Reference}

theorem database_of_content {s : Store} (hcontent : file.content = .database s) :
    file.database = .ok (if file.canBeWritten then .opened s else .sealed s) := by
  rw [database, tables?, hcontent]
  rfl

theorem canBeWritten_of_database {s : Store} (h : file.database = .ok (.opened s)) :
    file.canBeWritten = true := by
  rw [database] at h
  by_contra hnot
  rw [Bool.not_eq_true] at hnot
  rw [hnot] at h
  cases htables : file.tables? with
  | error fault =>
      rw [htables] at h
      cases h
  | ok tables =>
      rw [htables] at h
      cases tables <;> cases h

/-- What a run has left in the file is what a later start finds. -/
theorem startUp_of_covers (hwritten : file.canBeWritten = true) {s : Store}
    (hcovers : s.Covers reference) :
    (Connection.file { file with content := .database s }).startUp reference = .ok (.opened s) := by
  have hsame : ({ file with content := .database s } : DatabaseFile).canBeWritten = true :=
    hwritten
  have hdatabase : ({ file with content := .database s } : DatabaseFile).database =
      .ok (.opened s) := by
    rw [database_of_content rfl, hsame]
    rfl
  exact Connection.startUp_eq hdatabase hcovers.seed_eq

end DatabaseFile

/-- What a service has before its input: its reference data are stored, whatever has been asked. -/
theorem exists_opening {text : String} {reference : Reference}
    (hreference : Reference.ofToml text = .ok reference) {file : DatabaseFile}
    (hempty : file.database = .ok (.opened .empty)) (calls : List Call) :
    ∃ operationTypes answers s,
      Reference.mergeOperationTypes Store.empty.operationTypes reference.operationTypes =
        .ok operationTypes ∧
      (Connection.file file).startUp reference =
        .ok (.opened (Store.empty.merged reference operationTypes)) ∧
      Store.Steps (Store.empty.merged reference operationTypes) calls answers s ∧ s.Sound ∧
      s.Covers reference := by
  obtain ⟨operationTypes, hmerge⟩ :=
    Reference.exists_merge_of_ofToml hreference Store.empty.operationTypes
  have hsound := Store.sound_empty.merged hmerge
  obtain ⟨answers, s, hsteps⟩ := Store.exists_steps calls hsound
  exact ⟨operationTypes, answers, s, hmerge,
    Connection.startUp_eq hempty (Reference.seed_of_ok hmerge), hsteps, hsteps.sound hsound,
    hsteps.covers (Store.covers_merged hmerge)⟩

namespace Shell

/-- **Restarts cannot be told.**  A service starts on an empty database, with reference data that are
accepted, and its ledger is asked this and that.  Then it is given an input that is UTF-8, does not
ask to quit and ends at the end of a line, and after it any other.  If it is started again between
the two, on what it has stored, then all records are the same in the end, and the same has been
written, as if it goes on without a break.  The clock gives the same reading for records that have
the same number of others stored before them. -/
theorem run_restart {text : String} {reference : Reference}
    (hreference : Reference.ofToml text = .ok reference) {file : DatabaseFile}
    (hempty : file.database = .ok (.opened .empty)) (calls : List Call)
    (clock : Nat → Moment) {front : List UInt8} {chars : List Char}
    (hutf8 : Text.decodeUtf8 front = .ok chars) (hends : ∀ byte ∈ front.getLast?, byte = 10)
    (hquit : ∀ line ∈ lines front, asksToQuit line = false) (back : List UInt8) :
    ∃ seeded s kept restarted,
      (Connection.file file).startUp reference = .ok seeded ∧
      (Ledger.run calls seeded).2 = .opened s ∧
      (run clock front (.opened s)).ending = .finished ∧
      (run clock front (.opened s)).database = .opened kept ∧
      (Connection.file { file with content := .database kept }).startUp reference =
        .ok restarted ∧
      (run clock (front ++ back) (.opened s)).database = (run clock back restarted).database ∧
      (run clock (front ++ back) (.opened s)).output =
        (run clock front (.opened s)).output ++ (run clock back restarted).output ∧
      (run clock (front ++ back) (.opened s)).ending = (run clock back restarted).ending := by
  obtain ⟨_, _, s, -, hstart, hsteps, hs, hcovers⟩ := exists_opening hreference hempty calls
  obtain ⟨responses, kept, hkeeps, hfirst, hwhole⟩ :=
    run_append hs clock hends (goesOn_of_mem_lines hutf8 hquit)
  have hkept : kept.Covers reference :=
    hcovers.mono (by simp [hkeeps.users]) (by simp [hkeeps.operationTypes])
  have hwritten : file.canBeWritten = true := DatabaseFile.canBeWritten_of_database hempty
  refine ⟨_, s, kept, .opened kept, hstart, by rw [hsteps.run_eq], by rw [hfirst],
    by rw [hfirst], DatabaseFile.startUp_of_covers hwritten hkept, ?_, ?_, ?_⟩
  · rw [hwhole]
    rfl
  · rw [hwhole, hfirst]
    exact output_after ⟨responses, .finished, .opened kept⟩ _
  · rw [hwhole]
    rfl

/-- Reference data for a shop. -/
def shop : String :=
  "operation_types = [[1, \"PURCHASE\", \"DEBIT\"], [4, \"PAYMENT\", \"CREDIT\"]]\n" ++
    "users = [[7, \"Ana\"]]\n"

/-- An account is opened and a debit posted in the evening. -/
def evening : List UInt8 :=
  Text.bytes "create-account 11 5.2 7\npost 1 1 20\n\n# closed\n"

/-- The debit is paid in the morning. -/
def morning : List UInt8 :=
  Text.bytes "post 1 4 21.5\ndebits 1"

/-- The file of the shop, before anything is stored. -/
def shopFile : DatabaseFile :=
  ⟨[Text.bytes "shop"], false, .bytes []⟩

/-- What the shop is asked before it opens. -/
def shopOpening : List Call :=
  [.openAccount (.ofSeconds 0) ⟨"10", ⟨900, by decide⟩, 7⟩]

/-- What the document of the shop says. -/
def shopReference : Reference :=
  ⟨[⟨1, "PURCHASE", "DEBIT"⟩, ⟨4, "PAYMENT", "CREDIT"⟩], [⟨7, "Ana"⟩]⟩

/-- The store of the shop with some accounts and bookings. -/
def shopStore (accounts : List Account) (transactions : List Transaction) : Store :=
  ⟨shopReference.users, shopReference.operationTypes, accounts, transactions⟩

def firstAccount : Account :=
  ⟨1, "10", ⟨900, by decide⟩, 7, .ofSeconds 0⟩

def secondAccount : Account :=
  ⟨2, "11", ⟨520, by decide⟩, 7, .ofSeconds 1⟩

/-- The debit of the evening. -/
def purchase : Transaction :=
  ⟨1, 1, 1, ⟨-2000, by decide⟩, ⟨-2000, by decide⟩, .ofSeconds 2⟩

/-- The shop may be shut down overnight: the debit of the evening is paid in the morning. -/
theorem run_restart_shop :
    ∃ chars, Reference.ofToml shop = .ok shopReference ∧
      shopFile.database = .ok (.opened .empty) ∧
      Text.decodeUtf8 evening = .ok chars ∧ (∀ byte ∈ evening.getLast?, byte = 10) ∧
      (∀ line ∈ lines evening, asksToQuit line = false) ∧
      ∃ seeded s kept restarted,
        (Connection.file shopFile).startUp shopReference = .ok seeded ∧
        (Ledger.run shopOpening seeded).2 = .opened s ∧
        (run (fun n => .ofSeconds n) evening (.opened s)).ending = .finished ∧
        (run (fun n => .ofSeconds n) evening (.opened s)).database = .opened kept ∧
        kept.transactions = [purchase] ∧
        (Connection.file { shopFile with content := .database kept }).startUp shopReference =
          .ok restarted ∧
        (run (fun n => .ofSeconds n) (evening ++ morning) (.opened s)).database =
          (run (fun n => .ofSeconds n) morning restarted).database ∧
        (run (fun n => .ofSeconds n) (evening ++ morning) (.opened s)).output =
          (run (fun n => .ofSeconds n) evening (.opened s)).output ++
            (run (fun n => .ofSeconds n) morning restarted).output ∧
        (run (fun n => .ofSeconds n) evening (.opened s)).output =
          "OK\n  account id=2 document=11 current_balance=5.20 user=7 " ++
            "created_at=1970-01-01T00:00:01+00:00\n" ++
            "OK\n  transaction id=1 account=1 operation_type=1 amount=-20.00 balance=-20.00 " ++
            "created_at=1970-01-01T00:00:02+00:00\n" ∧
        (run (fun n => .ofSeconds n) morning restarted).output =
          "OK\n  transaction id=2 account=1 operation_type=4 amount=21.50 balance=1.50 " ++
            "created_at=1970-01-01T00:00:03+00:00\nOK\n" := by
  have hreference : Reference.ofToml shop = .ok shopReference := by decide +kernel
  have hutf8 : Text.decodeUtf8 evening =
      .ok "create-account 11 5.2 7\npost 1 1 20\n\n# closed\n".toList := by
    decide +kernel
  have hlast : evening.getLast? = some 10 := by decide +kernel
  have hends : ∀ byte ∈ evening.getLast?, byte = 10 := by simp [hlast]
  have hquit : ∀ line ∈ lines evening, asksToQuit line = false := by decide +kernel
  have hempty : shopFile.database = .ok (.opened .empty) := by decide +kernel
  obtain ⟨seeded, s, kept, restarted, hstart, hopening, hending, hkept, hagain, hdatabase, houtput,
    -⟩ := run_restart hreference hempty shopOpening (fun n => .ofSeconds n) hutf8 hends hquit morning
  have hseeded : (Connection.file shopFile).startUp shopReference =
      .ok (.opened (shopStore [] [])) := by decide +kernel
  obtain rfl := Except.ok.inj (hseeded.symm.trans hstart)
  have hopened : (Ledger.run shopOpening (.opened (shopStore [] []))).2 =
      .opened (shopStore [firstAccount] []) := by decide +kernel
  obtain rfl := Database.opened.inj (hopened.symm.trans hopening)
  have hleft : (run (fun n => .ofSeconds n) evening
      (.opened (shopStore [firstAccount] []))).database =
      .opened (shopStore [firstAccount, secondAccount] [purchase]) := by decide +kernel
  obtain rfl := Database.opened.inj (hleft.symm.trans hkept)
  have hfound : (Connection.file { shopFile with
      content := .database (shopStore [firstAccount, secondAccount] [purchase]) }).startUp
        shopReference = .ok (.opened (shopStore [firstAccount, secondAccount] [purchase])) := by
    decide +kernel
  obtain rfl := Except.ok.inj (hfound.symm.trans hagain)
  exact ⟨_, hreference, hempty, hutf8, hends, hquit, _, _, _, _, hstart, hopening, hending, hkept,
    rfl, hagain, hdatabase, houtput, by decide +kernel, by decide +kernel⟩

/-! ## Snapshots -/

section Snapshot

variable {now : Moment} {clock : Nat → Moment} {s s' : Store}

theorem Execution.storable {command : Command} {response : Response} (hs : s.Storable)
    (hnow : now.Readable) (h : Execution now s command response s') : s'.Storable := by
  cases h with
  | opened hstep | posted hstep =>
      refine hs.step ?_ hstep
      exact hnow
  | told => exact hs

theorem Handles.storable {content : Option (List Char)} {response : Option Response}
    (hsound : s.Sound) (hs : s.Storable) (hnow : now.Readable)
    (h : Handles now s content response s') : s'.Storable := by
  cases h with
  | passedOver | refused => exact hs
  | @executed _ command _ _ _ _ _ hexecute =>
      obtain ⟨response, s'', hexecuted, hexecution⟩ := exists_execution hsound now command
      rw [hexecute] at hexecuted
      obtain ⟨-, hstores⟩ := Prod.mk.inj hexecuted
      rw [Database.opened.inj hstores]
      exact hexecution.storable hs hnow

/-- What lines leave behind is sound, covers the same reference data, and can be read back. -/
theorem Processes.kept {contents : List (Option (List Char))} {responses : List Response}
    (h : Processes clock s contents responses s') (hclock : ∀ n, (clock n).Readable)
    (hsound : s.Sound) (hs : s.Storable) : Keeps s s' ∧ s'.Storable := by
  induction h with
  | done s => exact ⟨Keeps.refl hsound, hs⟩
  | line hline _ ih =>
      have hkeeps := hline.keeps hsound
      obtain ⟨hkeeps', hs'⟩ := ih hkeeps.sound (hline.storable hsound hs (hclock _))
      exact ⟨hkeeps.trans hkeeps', hs'⟩

/-- **Snapshots carry a store over a restart.**  If the ids of the reference data fit their words
and the clock gives moments that can be read, then whatever has been asked and given, the snapshot
of what a run has left is a file on which a later start finds just this store. -/
theorem startUp_snapshot_of_run {text : String} {reference : Reference}
    (hreference : Reference.ofToml text = .ok reference) (hfits : reference.Fits)
    {file : DatabaseFile} (hempty : file.database = .ok (.opened .empty)) {calls : List Call}
    (hcalls : ∀ call ∈ calls, call.Storable) (hclock : ∀ n, (clock n).Readable)
    (input : List UInt8) :
    ∃ seeded s kept,
      (Connection.file file).startUp reference = .ok seeded ∧
      (Ledger.run calls seeded).2 = .opened s ∧
      (run clock input (.opened s)).database = .opened kept ∧
      (Connection.file { file with content := Content.ofBytes (Text.bytes kept.snapshot) }).startUp
        reference = .ok (.opened kept) := by
  obtain ⟨operationTypes, answers, s, hmerge, hstart, hsteps, hs, hcovers⟩ :=
    exists_opening hreference hempty calls
  have hstorable := hsteps.storable hcalls (Store.storable_empty.merged hfits hmerge)
  obtain ⟨responses, ending, kept, hrun, hprocesses, -⟩ :=
    exists_processes hs clock (lines input)
  obtain ⟨hkeeps, hkept⟩ := hprocesses.kept hclock hs hstorable
  refine ⟨_, s, kept, hstart, by rw [hsteps.run_eq], by rw [run, hrun], ?_⟩
  rw [Content.ofBytes_snapshot hkept]
  exact DatabaseFile.startUp_of_covers (DatabaseFile.canBeWritten_of_database hempty)
    (hcovers.mono (by simp [hkeeps.users]) (by simp [hkeeps.operationTypes]))

end Snapshot

end Shell
end Arrears
