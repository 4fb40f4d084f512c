import Arrears.Proofs.Ledger.Run
import Mathlib.Algebra.BigOperators.Group.List.Basic

/-!
# Settlement and conservation

A debit is booked as a negative amount and its balance moves from there to zero; a credit is booked
as a positive amount and keeps what it did not spend.  What a credit spends goes to debits of its
own account, so amounts and balances of an account have one sum.
-/

namespace Arrears

/-! ## The bookings of an account after a posting -/

namespace Store

variable {s : Store} {now : Moment} {request : NewTransaction} {id : Int}

theorem filter_relieved (s : Store) (accountId other : Int) (credit : Nat) :
    (s.relieved accountId credit).filter (fun t => t.accountId = other) =
      (s.bookings other).map fun t =>
        if t.accountId = accountId then discharged credit (s.debts accountId) t else t := by
  rw [relieved, List.filter_map, bookings]
  congr 1
  refine List.filter_congr fun t _ => ?_
  rw [Function.comp_apply]
  split
  · rfl
  · rfl

theorem filter_relieved_self (s : Store) (accountId : Int) (credit : Nat) :
    (s.relieved accountId credit).filter (fun t => t.accountId = accountId) =
      (s.bookings accountId).map (discharged credit (s.debts accountId)) := by
  rw [filter_relieved]
  refine List.map_congr_left fun t ht => ?_
  rw [if_pos (mem_bookings.mp ht).2]

theorem filter_relieved_of_ne {accountId other : Int} (hne : other ≠ accountId) (s : Store)
    (credit : Nat) :
    (s.relieved accountId credit).filter (fun t => t.accountId = other) = s.bookings other := by
  have hsame : ∀ t ∈ s.bookings other,
      (if t.accountId = accountId then discharged credit (s.debts accountId) t else t) = t := by
    intro t ht
    have hother := (mem_bookings.mp ht).2
    rw [if_neg (by rw [hother]; exact hne)]
  rw [filter_relieved]
  exact (List.map_congr_left hsame).trans (List.map_id' _)

theorem bookings_withBooking_self (s : Store) (t : Transaction) :
    (s.withBooking t).bookings t.accountId = s.bookings t.accountId ++ [t] := by
  rw [bookings, withBooking_transactions, List.filter_append, bookings,
    List.filter_cons_of_pos (by simp), List.filter_nil]

theorem bookings_withBooking_of_ne {t : Transaction} {accountId : Int}
    (hne : accountId ≠ t.accountId) (s : Store) :
    (s.withBooking t).bookings accountId = s.bookings accountId := by
  rw [bookings, withBooking_transactions, List.filter_append, bookings,
    List.filter_cons_of_neg (by simpa using hne.symm), List.filter_nil, List.append_nil]

/-! ### What a posting does to them -/

theorem bookings_booked_of_ne {accountId : Int} (hne : accountId ≠ request.accountId)
    (s : Store) (behavior : Behavior) (now : Moment) (id : Int) :
    (s.booked behavior now request id).bookings accountId = s.bookings accountId := by
  have hsettled : (s.settled behavior request).bookings accountId = s.bookings accountId := by
    cases behavior with
    | debit => rfl
    | credit => exact filter_relieved_of_ne hne s _
  rw [booked, bookings_withBooking_of_ne hne, hsettled]

theorem bookings_booked_debit (s : Store) (now : Moment) (request : NewTransaction) (id : Int) :
    (s.booked .debit now request id).bookings request.accountId =
      s.bookings request.accountId ++ [s.booking .debit now request id] :=
  bookings_withBooking_self _ (s.booking .debit now request id)

theorem bookings_booked_credit (s : Store) (now : Moment) (request : NewTransaction)
    (id : Int) :
    (s.booked .credit now request id).bookings request.accountId =
      (s.bookings request.accountId).map
          (discharged request.amount.minor.toNat (s.debts request.accountId)) ++
        [s.booking .credit now request id] := by
  have hsettled : (s.settled .credit request).bookings request.accountId =
      (s.bookings request.accountId).map
        (discharged request.amount.minor.toNat (s.debts request.accountId)) :=
    filter_relieved_self s request.accountId request.amount.minor.toNat
  have hself := bookings_withBooking_self (s.settled .credit request)
    (s.booking .credit now request id)
  rw [booking_accountId, hsettled] at hself
  exact hself

/-! ### Sums -/

/-- The balances of discharged bookings add up to the old ones and what was taken. -/
theorem sum_balance_map_discharged (credit : Nat) (debits : List OpenDebit)
    (rows : List Transaction) :
    ((rows.map (discharged credit debits)).map (·.balance.minor)).sum =
      (rows.map (·.balance.minor)).sum +
        ((rows.map Transaction.toOpenDebit).map (OpenDebit.taken credit debits)).sum := by
  induction rows with
  | nil => rfl
  | cons t rows ih =>
      have ht : (discharged credit debits t).balance.minor =
          t.balance.minor + OpenDebit.taken credit debits t.toOpenDebit :=
        OpenDebit.balance_after credit debits t.toOpenDebit
      simp only [List.map_cons, List.sum_cons, ht, ih]
      omega

/-- A discharge raises the balances of an account by the credit, or by all that is owed if that is
less. -/
theorem sum_balance_discharged (hids : (s.transactions.map (·.id)).Nodup) (accountId : Int)
    (credit : Nat) :
    (((s.bookings accountId).map (discharged credit (s.debts accountId))).map
        (·.balance.minor)).sum =
      ((s.bookings accountId).map (·.balance.minor)).sum +
        (min credit (OpenDebit.owed (s.debts accountId)) : Nat) := by
  rw [sum_balance_map_discharged, ← debts, OpenDebit.sum_taken (nodup_debts hids accountId)]

/-- The debts of an account grow by a debit and shrink by a credit, as far as it goes. -/
theorem owed_debts_booked (hids : (s.transactions.map (·.id)).Nodup) (behavior : Behavior)
    (now : Moment) (hpos : 0 < request.amount.minor) (id : Int) :
    OpenDebit.owed ((s.booked behavior now request id).debts request.accountId) =
      match behavior with
      | .debit => OpenDebit.owed (s.debts request.accountId) + request.amount.minor.toNat
      | .credit => OpenDebit.owed (s.debts request.accountId) - request.amount.minor.toNat := by
  cases behavior with
  | debit =>
      have hnew : request.amount.owing.debt = request.amount.minor.toNat := by
        rw [Money.debt, Money.owing_minor_of_pos hpos, Int.neg_neg]
      rw [debts, bookings_booked_debit, List.map_append, OpenDebit.owed_append, debts]
      simp [hnew]
  | credit =>
      have hmap : ((s.bookings request.accountId).map
          (discharged request.amount.minor.toNat (s.debts request.accountId))).map
            Transaction.toOpenDebit =
          (s.debts request.accountId).map
            (OpenDebit.after request.amount.minor.toNat (s.debts request.accountId)) := by
        rw [debts, List.map_map, List.map_map]
        rfl
      rw [debts, bookings_booked_credit, List.map_append, OpenDebit.owed_append, hmap,
        OpenDebit.owed_map_after (nodup_debts hids _)]
      simp

end Store

/-! ## Conservation

`Conserved` survives a credit because relief raises the debits by exactly what the new booking lacks,
and it survives seeding because no operation type that is stored is ever replaced.
-/

/-- A booking has the sign of its operation type, and its balance lies between zero and the
amount. -/
def Transaction.Follows (t : Transaction) (operationType : OperationType) : Prop :=
  operationType.behavior = "DEBIT" ∧ t.amount.minor < 0 ∧
      t.amount.minor ≤ t.balance.minor ∧ t.balance.minor ≤ 0 ∨
    operationType.behavior = "CREDIT" ∧ 0 < t.amount.minor ∧
      0 ≤ t.balance.minor ∧ t.balance.minor ≤ t.amount.minor

namespace Store

/-- Every booking follows its operation type, and every account is conserved. -/
structure Conserved (s : Store) : Prop where
  accounts : ∀ t ∈ s.transactions, (s.account? t.accountId).isSome = true
  follows : ∀ t ∈ s.transactions, ∃ operationType,
    s.operationType? t.operationTypeId = some operationType ∧ t.Follows operationType
  sums : ∀ accountId, ((s.bookings accountId).map (·.amount.minor)).sum =
    ((s.bookings accountId).map (·.balance.minor)).sum

theorem conserved_empty : empty.Conserved where
  accounts := by simp [empty]
  follows := by simp [empty]
  sums := by simp [empty, bookings]

/-- A credit may raise any balance without a booking leaving its bounds. -/
theorem follows_raised {t : Transaction} {operationType : OperationType}
    (h : t.Follows operationType) (credit : Nat) :
    { t with balance := t.balance.raised credit : Transaction }.Follows operationType := by
  rcases h with ⟨hdebit, hamount, hlow, hhigh⟩ | ⟨hcredit, hamount, hlow, hhigh⟩
  · left
    refine ⟨hdebit, hamount, ?_, ?_⟩
    · simp only [Money.raised_minor]
      omega
    · simp only [Money.raised_minor]
      omega
  · right
    refine ⟨hcredit, hamount, ?_, ?_⟩
    · simp only [Money.raised_minor]
      omega
    · simp only [Money.raised_minor]
      omega

theorem follows_booking (s : Store) {behavior : Behavior} (now : Moment)
    {request : NewTransaction} (id : Int) {operationType : OperationType}
    (hpos : 0 < request.amount.minor) (hbehavior : operationType.behavior = behavior.text) :
    (s.booking behavior now request id).Follows operationType := by
  cases behavior with
  | debit =>
      left
      have howing : request.amount.owing.minor < 0 := by
        rw [Money.owing_minor_of_pos hpos]
        omega
      exact ⟨hbehavior, howing, Int.le_refl _, Int.le_of_lt howing⟩
  | credit =>
      right
      refine ⟨hbehavior, hpos, ?_, ?_⟩
      · simp only [booking_balance, openPart_credit, Money.less_minor]
        omega
      · simp only [booking_balance, openPart_credit, booking_amount, Money.signed,
          Money.less_minor]
        omega

theorem sums_booked {s : Store} (hs : s.Sound) (hc : s.Conserved) (behavior : Behavior)
    (now : Moment) {request : NewTransaction} (hpos : 0 < request.amount.minor) (id : Int) :
    (((s.booked behavior now request id).bookings request.accountId).map
        (·.amount.minor)).sum =
      (((s.booked behavior now request id).bookings request.accountId).map
        (·.balance.minor)).sum := by
  have hold := hc.sums request.accountId
  cases behavior with
  | debit =>
      rw [bookings_booked_debit, List.map_append, List.map_append, List.sum_append,
        List.sum_append, hold]
      rfl
  | credit =>
      have hbalance := sum_balance_discharged hs.nodup request.accountId
        request.amount.minor.toNat
      have hamount : ((s.bookings request.accountId).map
          (discharged request.amount.minor.toNat (s.debts request.accountId))).map
            (·.amount.minor) = (s.bookings request.accountId).map (·.amount.minor) := by
        rw [List.map_map]
        rfl
      rw [bookings_booked_credit, List.map_append, List.map_append, List.sum_append,
        List.sum_append, hbalance, hamount, hold]
      simp only [List.map_cons, List.map_nil, List.sum_cons, List.sum_nil, booking_amount,
        booking_balance, openPart_credit, Money.signed, Money.less_minor]
      omega

theorem Conserved.booked {s : Store} (hs : s.Sound) (hc : s.Conserved) {behavior : Behavior}
    {now : Moment} {request : NewTransaction} {operationType : OperationType} {id : Int}
    (hpos : 0 < request.amount.minor)
    (haccount : (s.account? request.accountId).isSome = true)
    (htype : s.operationType? request.operationTypeId = some operationType)
    (hbehavior : operationType.behavior = behavior.text) :
    (s.booked behavior now request id).Conserved where
  accounts := by
    intro t ht
    rw [account?, booked_accounts]
    rcases mem_booked ht with ⟨u, hu, credit, rfl⟩ | rfl
    · exact hc.accounts u hu
    · exact haccount
  follows := by
    intro t ht
    rw [operationType?, booked_operationTypes]
    rcases mem_booked ht with ⟨u, hu, credit, rfl⟩ | rfl
    · obtain ⟨found, hfound, hfollows⟩ := hc.follows u hu
      exact ⟨found, hfound, follows_raised hfollows credit⟩
    · exact ⟨operationType, htype, follows_booking s now id hpos hbehavior⟩
  sums := by
    intro accountId
    by_cases hself : accountId = request.accountId
    · rw [hself]
      exact sums_booked hs hc behavior now hpos id
    · rw [bookings_booked_of_ne hself]
      exact hc.sums accountId

theorem Conserved.step {s s' : Store} {call : Call} {answer : Answer} (hc : s.Conserved)
    (hs : s.Sound) (h : Step s call answer s') : s'.Conserved := by
  cases h with
  | refused => exact hc
  | @seeded reference operationTypes hmerge =>
      obtain ⟨added, hrows, -⟩ := Reference.mergeOperationTypes_eq_ok hmerge
      refine ⟨hc.accounts, ?_, hc.sums⟩
      intro t ht
      obtain ⟨operationType, hfound, hfollows⟩ := hc.follows t ht
      refine ⟨operationType, ?_, hfollows⟩
      rw [operationType?] at hfound
      rw [operationType?, merged, hrows, List.find?_append, hfound, Option.some_or]
  | opened =>
      refine ⟨?_, hc.follows, hc.sums⟩
      intro t ht
      have hfound := hc.accounts t ht
      rw [account?] at hfound
      rw [account?, withAccount, List.find?_append, Option.isSome_or, hfound, Bool.true_or]
  | booked hpos haccount htype hbehavior _ =>
      exact hc.booked hs hpos haccount htype hbehavior

theorem Steps.conserved {s s' : Store} {calls : List Call} {answers : List Answer}
    (h : Steps s calls answers s') (hc : s.Conserved) : s'.Conserved :=
  h.invariant (fun hs hstep hc => hc.step hs hstep) hc

end Store

/-- **Settlement and conservation.** After every run from the empty store, the account and the
operation type of every booking are stored, the booking has the sign of that type with a balance
between zero and its amount, and amounts and balances of every account have the same sum. -/
theorem Ledger.run_conserves (calls : List Call) :
    ∃ s, (run calls (.opened .empty)).2 = .opened s ∧
      (∀ t ∈ s.transactions,
        (s.account? t.accountId).isSome = true ∧
          ∃ operationType, s.operationType? t.operationTypeId = some operationType ∧
            (operationType.behavior = "DEBIT" ∧ t.amount.minor < 0 ∧
                t.amount.minor ≤ t.balance.minor ∧ t.balance.minor ≤ 0 ∨
              operationType.behavior = "CREDIT" ∧ 0 < t.amount.minor ∧
                0 ≤ t.balance.minor ∧ t.balance.minor ≤ t.amount.minor)) ∧
      ∀ accountId, ((s.bookings accountId).map (·.amount.minor)).sum =
        ((s.bookings accountId).map (·.balance.minor)).sum := by
  obtain ⟨answers, s, hsteps⟩ := Store.exists_steps calls Store.sound_empty
  have hc : s.Conserved := hsteps.conserved Store.conserved_empty
  refine ⟨s, by rw [hsteps.run_eq], fun t ht => ?_, hc.sums⟩
  exact ⟨hc.accounts t ht, hc.follows t ht⟩

end Arrears
