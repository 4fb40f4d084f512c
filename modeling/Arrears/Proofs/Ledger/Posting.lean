import Arrears.Ledger
import Arrears.Proofs.Discharge.Overflow
import Arrears.Proofs.Store.Merging
import Arrears.Proofs.Store.Update

/-!
# What a posting does

**Rule.** A posting is refused for the first of these reasons that applies: its amount is not
positive, its account is not stored, its operation type is not stored.  Otherwise it is booked; a
credit first relieves the bookings of its account.
-/

namespace Arrears
namespace Store

/-- The store once a posting has settled the debts that it can. -/
def settled (s : Store) (behavior : Behavior) (request : NewTransaction) : Store :=
  match behavior with
  | .debit => s
  | .credit =>
    { s with transactions := s.relieved request.accountId request.amount.minor.toNat }

/-- What is open of a posting when it is booked. -/
def openPart (s : Store) (behavior : Behavior) (request : NewTransaction) : Money :=
  match behavior with
  | .debit => request.amount.owing
  | .credit => request.amount.less (OpenDebit.owed (s.debts request.accountId))

def booking (s : Store) (behavior : Behavior) (now : Moment) (request : NewTransaction)
    (id : Int) : Transaction where
  id := id
  accountId := request.accountId
  operationTypeId := request.operationTypeId
  amount := request.amount.signed behavior
  balance := s.openPart behavior request
  createdAt := now

def booked (s : Store) (behavior : Behavior) (now : Moment) (request : NewTransaction)
    (id : Int) : Store :=
  (s.settled behavior request).withBooking (s.booking behavior now request id)

section Fields

variable (s : Store) (behavior : Behavior) (now : Moment) (request : NewTransaction) (id : Int)

@[simp] theorem settled_users : (s.settled behavior request).users = s.users := by
  cases behavior <;> rfl

@[simp] theorem settled_accounts : (s.settled behavior request).accounts = s.accounts := by
  cases behavior <;> rfl

@[simp] theorem settled_operationTypes :
    (s.settled behavior request).operationTypes = s.operationTypes := by
  cases behavior <;> rfl

@[simp] theorem booking_accountId :
    (s.booking behavior now request id).accountId = request.accountId :=
  rfl

@[simp] theorem booking_amount :
    (s.booking behavior now request id).amount = request.amount.signed behavior :=
  rfl

@[simp] theorem booking_balance :
    (s.booking behavior now request id).balance = s.openPart behavior request :=
  rfl

@[simp] theorem openPart_debit : s.openPart .debit request = request.amount.owing :=
  rfl

@[simp] theorem openPart_credit : s.openPart .credit request =
    request.amount.less (OpenDebit.owed (s.debts request.accountId)) :=
  rfl

theorem booked_transactions : (s.booked behavior now request id).transactions =
    (s.settled behavior request).transactions ++ [s.booking behavior now request id] :=
  rfl

@[simp] theorem booked_users : (s.booked behavior now request id).users = s.users := by
  simp [booked]

@[simp] theorem booked_accounts :
    (s.booked behavior now request id).accounts = s.accounts := by
  simp [booked]

@[simp] theorem booked_operationTypes :
    (s.booked behavior now request id).operationTypes = s.operationTypes := by
  simp [booked]

end Fields

theorem map_relieved {α : Type} {f : Transaction → α}
    (hf : ∀ (t : Transaction) (balance : Money), f { t with balance := balance } = f t)
    (s : Store) (accountId : Int) (credit : Nat) :
    (s.relieved accountId credit).map f = s.transactions.map f := by
  rw [relieved, List.map_map]
  apply List.map_congr_left
  intro t _
  rw [Function.comp_apply]
  split
  · exact hf t _
  · rfl

theorem map_settled {α : Type} {f : Transaction → α}
    (hf : ∀ (t : Transaction) (balance : Money), f { t with balance := balance } = f t)
    (s : Store) (behavior : Behavior) (request : NewTransaction) :
    (s.settled behavior request).transactions.map f = s.transactions.map f := by
  cases behavior with
  | debit => rfl
  | credit => exact map_relieved hf s _ _

/-- A booking after a posting is an old one, at most with a higher balance, or the new one. -/
theorem mem_booked {s : Store} {behavior : Behavior} {now : Moment} {request : NewTransaction}
    {id : Int} {t : Transaction} (h : t ∈ (s.booked behavior now request id).transactions) :
    (∃ u ∈ s.transactions, ∃ credit, t = { u with balance := u.balance.raised credit }) ∨
      t = s.booking behavior now request id := by
  rw [booked_transactions, List.mem_append, List.mem_singleton] at h
  rcases h with hold | hnew
  · left
    cases behavior with
    | debit => exact ⟨t, hold, 0, by simp⟩
    | credit =>
        obtain ⟨u, hu, rfl⟩ := List.mem_map.mp hold
        refine ⟨u, hu, ?_⟩
        split
        · exact ⟨_, rfl⟩
        · exact ⟨0, by simp⟩
  · exact Or.inr hnew

/-- What the log says of a credit can be worked out whenever the credit can be discharged. -/
theorem settle_credit_eq_discharge_openDebits (s : Store) (accountId : Int) (amount : Money) :
    s.settle .credit accountId amount =
      discharge amount ((s.openDebits accountId).map Transaction.toOpenDebit) := by
  rw [settle]
  cases hdischarge : discharge amount ((s.openDebits accountId).map Transaction.toOpenDebit) with
  | error step => rfl
  | ok settlement =>
      obtain ⟨paid, hpaid, -⟩ := Settlement.exists_discharged_of_pay hdischarge
      simp only [bind, Except.bind, hpaid]
      rfl

/-- A credit is discharged without an overflow if no balance is the least amount. -/
theorem settle_credit {s : Store} {accountId : Int} {amount : Money} (hamount : 0 ≤ amount.minor)
    (hleast : ∀ t ∈ s.bookings accountId, Word.least < t.balance.minor) :
    s.settle .credit accountId amount =
      .ok ⟨Settlement.payments amount.minor.toNat (s.queue accountId),
        amount.less (OpenDebit.owed (s.debts accountId))⟩ := by
  have hdebits : ∀ debit ∈ (s.openDebits accountId).map Transaction.toOpenDebit,
      Word.least < debit.balance.minor := by
    intro debit hdebit
    have hmem := (List.mem_filter.mp ((s.openDebits_perm accountId).mem_iff.mp hdebit)).1
    obtain ⟨t, ht, rfl⟩ := List.mem_map.mp hmem
    exact hleast t ht
  have howed : OpenDebit.owed ((s.openDebits accountId).map Transaction.toOpenDebit) =
      OpenDebit.owed (s.debts accountId) := by
    rw [OpenDebit.owed_perm (s.openDebits_perm accountId), owed_open]
  rw [settle_credit_eq_discharge_openDebits, discharge_eq_payments hamount hdebits, howed]
  rfl

theorem exists_settlement {s : Store} {request : NewTransaction}
    (hids : (s.transactions.map (·.id)).Nodup)
    (hleast : ∀ t ∈ s.bookings request.accountId, Word.least < t.balance.minor)
    (hpos : 0 < request.amount.minor) (behavior : Behavior) :
    ∃ updates,
      s.settle behavior request.accountId (request.amount.signed behavior) =
        .ok ⟨updates, s.openPart behavior request⟩ ∧
      s.applyUpdates request.accountId updates = .ok ((), s.settled behavior request) := by
  cases behavior with
  | debit => exact ⟨[], rfl, rfl⟩
  | credit =>
      refine ⟨_, settle_credit (Int.le_of_lt hpos) hleast, ?_⟩
      rw [applyUpdates, writeBalances, updateAll_payments hids]
      rfl

theorem behavior_eq {s : Store} {id : Int} {found : OperationType} {behavior : Behavior}
    (htype : s.operationType? id = some found)
    (hbehavior : Behavior.ofText found.behavior = .ok behavior) :
    s.behavior id = .ok behavior := by
  have hfound : s.operationType id = .ok found := by
    rw [operationType, htype]
    rfl
  simp only [Store.behavior, hfound, bind, Except.bind, hbehavior]

end Store

namespace Ledger

variable {s : Store} {now : Moment} {request : NewTransaction}

/-! ## Refusals -/

theorem post_of_not_pos (hpos : ¬ 0 < request.amount.minor) (now : Moment) (db : Database) :
    post now request db =
      (refuse (.validation (.postedAmountNotPositive request.amount)), db) := by
  have hpositive : request.amount.isPositive = false := by
    simpa only [Money.isPositive, decide_eq_false_iff_not] using hpos
  rw [post, NewTransaction.check, hpositive]
  rfl

theorem post_of_pos (hpos : 0 < request.amount.minor) (now : Moment) (db : Database) :
    post now request db = db.commit (Store.post now request) := by
  have hpositive : request.amount.isPositive = true := (Money.isPositive_iff _).mpr hpos
  rw [post, NewTransaction.check, hpositive]
  rfl

theorem post_of_account?_eq_none (hpos : 0 < request.amount.minor)
    (haccount : s.account? request.accountId = none) :
    post now request (.opened s) =
      (refuse (.notFound .account request.accountId), .opened s) := by
  have hwork : Store.post now request s = refuse (.notFound .account request.accountId) := by
    rw [Store.post, haccount]
    rfl
  rw [post_of_pos hpos, Database.commit, Database.perform, hwork]
  rfl

theorem post_of_behavior_eq_error {failure : Failure} (hpos : 0 < request.amount.minor)
    (haccount : (s.account? request.accountId).isSome = true)
    (hbehavior : s.behavior request.operationTypeId = .error failure) :
    post now request (.opened s) = (.error failure, .opened s) := by
  have hsome : (s.account? request.accountId).isNone = false :=
    Option.isNone_eq_false_iff.mpr haccount
  have hwork : Store.post now request s = .error failure := by
    rw [Store.post, hsome, hbehavior]
    rfl
  rw [post_of_pos hpos, Database.commit, Database.perform, hwork]

theorem post_of_operationType?_eq_none (hpos : 0 < request.amount.minor)
    (haccount : (s.account? request.accountId).isSome = true)
    (htype : s.operationType? request.operationTypeId = none) :
    post now request (.opened s) =
      (refuse (.notFound .operationType request.operationTypeId), .opened s) := by
  have hbehavior : s.behavior request.operationTypeId =
      refuse (.notFound .operationType request.operationTypeId) := by
    rw [Store.behavior, Store.operationType, htype]
    rfl
  exact post_of_behavior_eq_error hpos haccount hbehavior

/-! ## The booking -/

/-- A posting that is not refused is booked, if there is an id for it. -/
theorem post_eq_booked {operationType : OperationType} {behavior : Behavior}
    (hids : (s.transactions.map (·.id)).Nodup)
    (hleast : ∀ t ∈ s.bookings request.accountId, Word.least < t.balance.minor)
    (hpos : 0 < request.amount.minor)
    (haccount : (s.account? request.accountId).isSome = true)
    (htype : s.operationType? request.operationTypeId = some operationType)
    (hbehavior : Behavior.ofText operationType.behavior = .ok behavior) :
    post now request (.opened s) =
      match Store.nextId (s.transactions.map (·.id)) with
      | .ok id =>
        (.ok (s.booking behavior now request id), .opened (s.booked behavior now request id))
      | .error fault => (storeFault fault, .opened s) := by
  obtain ⟨updates, hsettle, happly⟩ := Store.exists_settlement hids hleast hpos behavior
  have hsome : (s.account? request.accountId).isNone = false :=
    Option.isNone_eq_false_iff.mpr haccount
  have haccount' : ((s.settled behavior request).account? request.accountId).isSome = true := by
    rw [Store.account?, Store.settled_accounts]
    exact haccount
  have htype' :
      ((s.settled behavior request).operationType? request.operationTypeId).isSome = true := by
    rw [Store.operationType?, Store.settled_operationTypes]
    exact Option.isSome_of_eq_some htype
  have hinsert := Store.insertTransaction_eq haccount' htype'
    (request.amount.signed behavior) (s.openPart behavior request) now
  rw [Store.map_settled (fun _ _ => rfl)] at hinsert
  have hwork : Store.post now request s =
      stored ((Store.nextId (s.transactions.map (·.id))).map fun id =>
        (s.booking behavior now request id, s.booked behavior now request id)) := by
    rw [Store.post, hsome]
    simp only [Bool.false_eq_true, if_false, Store.behavior_eq htype hbehavior,
      Money.sign_of_pos behavior hpos, hsettle, happly, calculated, bind, Except.bind,
      Store.createTransaction, hinsert]
    rfl
  rw [post_of_pos hpos, Database.commit, Database.perform, hwork]
  cases Store.nextId (s.transactions.map (·.id)) <;> rfl

end Ledger
end Arrears
