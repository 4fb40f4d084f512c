import Arrears.Proofs.Ledger.Conservation

/-!
# The effect of a posting

A posting that succeeds adds one booking, the one that it returns.  A debit changes nothing else.  A
credit also gives the bookings of its account the balances that a discharge of its amount names, and
is open with what remains of it.
-/

namespace Arrears

/-! ## In any store

Ids may stand in any order, and amounts and balances need not go together.  The query of open debits
loses none and doubles none, and neither its order nor the settled bookings that it leaves out make a
difference to the discharge.  The updates name different bookings, so it does not matter that they are
written one after the other.
-/

open Settlement

/-- The updates of a discharge stand in the order of the debts, at most one for each. -/
theorem Settlement.payments_ids_sublist (debits : List OpenDebit) (credit : Nat) :
    ((payments credit debits).map (·.transactionId)).Sublist (debits.map (·.id)) := by
  induction debits generalizing credit with
  | nil => exact List.Sublist.refl []
  | cons debit debits ih =>
      by_cases hdebt : debit.balance.debt = 0
      · rw [payments_cons_of_debt_eq_zero hdebt]
        exact (ih credit).cons _
      · by_cases hcredit : credit = 0
        · rw [hcredit, payments_zero]
          exact List.nil_sublist _
        · rw [payments_cons_of_debt_pos (by omega) (by omega)]
          exact (ih _).cons_cons _

namespace Store

variable {s : Store}

/-- What a discharge leaves of the debts is what its updates say. -/
theorem relieved_eq_map_updated (hids : (s.transactions.map (·.id)).Nodup) (accountId : Int)
    (credit : Nat) :
    s.relieved accountId credit =
      s.transactions.map (updated accountId (payments credit (s.queue accountId))) := by
  have hdistinct : ((payments credit (s.queue accountId)).map (·.transactionId)).Nodup :=
    (nodup_queue hids accountId).sublist (payments_ids_sublist _ _)
  have hmeans : ∀ update ∈ payments credit (s.queue accountId),
      s.transactions.any (concerns accountId update) = true :=
    fun update hupdate => List.any_eq_true.mpr (exists_concerns_of_mem_payments hupdate)
  have hmap := updateAll_eq_map hmeans
  rw [updateAll_payments hids] at hmap
  rw [(Prod.mk.inj hmap).1]
  exact List.map_congr_left fun t _ => foldl_rewrite_eq_updated hdistinct t

/-! ### The discharge of an account -/

/-- The query of open debits does not matter: what is settled is the account with all of its
bookings. -/
theorem settle_credit_eq_discharge (hids : (s.transactions.map (·.id)).Nodup) (accountId : Int)
    (amount : Money) :
    s.settle .credit accountId amount = discharge amount (s.debts accountId) := by
  have hdistinct : (((s.openDebits accountId).map Transaction.toOpenDebit).map (·.id)).Nodup :=
    ((OpenDebit.byAge_perm _).map _).nodup_iff.mp (nodup_queue hids accountId)
  rw [settle_credit_eq_discharge_openDebits, discharge_perm hdistinct (s.openDebits_perm accountId),
    discharge_filter_isNegative]

end Store

namespace Ledger

variable {s : Store} {now : Moment} {request : NewTransaction} {t : Transaction} {db : Database}

theorem exists_behavior_of_post (hpost : post now request (.opened s) = (.ok t, db)) :
    0 < request.amount.minor ∧ (s.account? request.accountId).isSome = true ∧
      ∃ operationType behavior, s.operationType? request.operationTypeId = some operationType ∧
        Behavior.ofText operationType.behavior = .ok behavior := by
  by_cases hpos : 0 < request.amount.minor
  · cases haccount : s.account? request.accountId with
    | none =>
        rw [post_of_account?_eq_none hpos haccount] at hpost
        cases hpost
    | some account =>
        have haccount' : (s.account? request.accountId).isSome = true :=
          Option.isSome_of_eq_some haccount
        cases htype : s.operationType? request.operationTypeId with
        | none =>
            rw [post_of_operationType?_eq_none hpos haccount' htype] at hpost
            cases hpost
        | some operationType =>
            cases hbehavior : Behavior.ofText operationType.behavior with
            | error fault =>
                have hunreadable : s.behavior request.operationTypeId =
                    refuse (.config fault) := by
                  rw [Store.behavior, Store.operationType, htype]
                  simp only [Store.orNotFound, bind, Except.bind, hbehavior]
                rw [post_of_behavior_eq_error hpos haccount' hunreadable] at hpost
                cases hpost
            | ok behavior => exact ⟨hpos, rfl, operationType, behavior, rfl, hbehavior⟩
  · rw [post_of_not_pos hpos] at hpost
    cases hpost

/-- **The effect of a posting.**  A posting that succeeds adds the booking that it returns, under
an id that no other has, and leaves the other tables and the bookings of other accounts alone.  A
debit leaves all bookings alone and is booked with the amount owed, all of it open.  A credit is
discharged against all bookings of its account: each booking that the discharge names gets the
balance that it gives it, no other changes, and what remains of the credit is its open balance. -/
theorem post_effect (hids : (s.transactions.map (·.id)).Nodup)
    (hleast : ∀ u ∈ s.transactions, Word.least < u.balance.minor)
    (hpost : post now request (.opened s) = (.ok t, db)) :
    ∃ behavior rows,
      s.behavior request.operationTypeId = .ok behavior ∧
      db = .opened { s with transactions := rows ++ [t] } ∧
      (t.accountId = request.accountId ∧ t.operationTypeId = request.operationTypeId ∧
        t.createdAt = now ∧ ∀ u ∈ s.transactions, u.id ≠ t.id) ∧
      (∀ other, other ≠ request.accountId →
        rows.filter (fun u => u.accountId = other) = s.bookings other) ∧
      (behavior = .debit →
        rows = s.transactions ∧ t.amount.minor = -request.amount.minor ∧ t.balance = t.amount) ∧
      (behavior = .credit →
        ∃ outcome, discharge request.amount (s.debts request.accountId) = .ok outcome ∧
          rows = s.transactions.map (Store.updated request.accountId outcome.updates) ∧
          (∀ update ∈ outcome.updates, ∃ u ∈ s.transactions,
            u.id = update.transactionId ∧ u.accountId = request.accountId) ∧
          t.amount = request.amount ∧ t.balance = outcome.remaining) := by
  obtain ⟨hpos, haccount, operationType, behavior, htype, hbehavior⟩ :=
    exists_behavior_of_post hpost
  have hleast' : ∀ u ∈ s.bookings request.accountId, Word.least < u.balance.minor :=
    fun u hu => hleast u (Store.mem_bookings.mp hu).1
  rw [post_eq_booked hids hleast' hpos haccount htype hbehavior] at hpost
  cases hid : Store.nextId (s.transactions.map (·.id)) with
  | error fault =>
      rw [hid] at hpost
      cases hpost
  | ok id =>
      rw [hid] at hpost
      obtain ⟨rfl, rfl⟩ : s.booking behavior now request id = t ∧
          Database.opened (s.booked behavior now request id) = db := by
        simpa using hpost
      have hnew : ∀ u ∈ s.transactions, u.id ≠ id := fun u hu =>
        Int.ne_of_lt (Store.lt_of_nextId hid (List.mem_map_of_mem hu))
      refine ⟨behavior, (s.settled behavior request).transactions,
        Store.behavior_eq htype hbehavior, ?_, ⟨rfl, rfl, rfl, hnew⟩, ?_, ?_, ?_⟩
      · cases behavior <;> rfl
      · intro other hother
        cases behavior with
        | debit => rfl
        | credit => exact Store.filter_relieved_of_ne hother s _
      · rintro rfl
        exact ⟨rfl, Money.owing_minor_of_pos hpos, rfl⟩
      · rintro rfl
        refine ⟨⟨payments request.amount.minor.toNat (s.queue request.accountId), _⟩, ?_,
          Store.relieved_eq_map_updated hids _ _, ?_, rfl, rfl⟩
        · rw [← Store.settle_credit_eq_discharge hids,
            Store.settle_credit (Int.le_of_lt hpos) hleast']
          rfl
        · intro update hupdate
          obtain ⟨u, hu, hconcerns⟩ := Store.exists_concerns_of_mem_payments hupdate
          simp only [Store.concerns, Bool.and_eq_true, decide_eq_true_eq] at hconcerns
          exact ⟨u, hu, hconcerns⟩

/-- A store that no ledger has made: ids and moments are out of order, balances do not go with
amounts, and the behavior is not in canonical text. -/
def scattered : Store where
  users := [⟨7, "Ana"⟩]
  operationTypes := [⟨4, "PAYMENT", "Credit"⟩]
  accounts := [⟨2, "22", .zero, 7, .ofSeconds 50⟩, ⟨1, "11", ⟨-5, by decide⟩, 8, .ofSeconds 90⟩]
  transactions :=
    [⟨9, 1, 6, ⟨50, by decide⟩, ⟨-650, by decide⟩, .ofSeconds 300⟩,
      ⟨7, 2, 4, ⟨-500, by decide⟩, ⟨-500, by decide⟩, .ofSeconds 80⟩,
      ⟨2, 1, 4, ⟨-90, by decide⟩, ⟨40, by decide⟩, .ofSeconds 60⟩,
      ⟨4, 1, 4, .zero, ⟨-1000, by decide⟩, .ofSeconds 100⟩]

theorem byAge_scattered : OpenDebit.byAge (scattered.debts 1) =
    [⟨2, .ofSeconds 60, ⟨40, by decide⟩⟩, ⟨4, .ofSeconds 100, ⟨-1000, by decide⟩⟩,
      ⟨9, .ofSeconds 300, ⟨-650, by decide⟩⟩] :=
  (OpenDebit.byAge_eq_of_perm (by decide) (by decide)).trans
    (OpenDebit.byAge_eq_self (by decide))

/-- The credit settles the older debit, although it is stored last, and part of the other one. -/
theorem post_effect_scattered :
    ∃ t db, post (.ofSeconds 70) ⟨1, 4, ⟨1200, by decide⟩⟩ (.opened scattered) = (.ok t, db) ∧
      (scattered.transactions.map (·.id)).Nodup ∧
      (∀ u ∈ scattered.transactions, Word.least < u.balance.minor) ∧
      ∃ rows, db = .opened { scattered with transactions := rows ++ [t] } ∧
        rows.map (fun u => (u.id, u.balance.minor)) = [(9, -450), (7, -500), (2, 40), (4, 0)] ∧
        t.balance.minor = 0 := by
  have hids : (scattered.transactions.map (·.id)).Nodup := by decide
  have hleast : ∀ u ∈ scattered.transactions, Word.least < u.balance.minor := by decide
  have hbehavior : scattered.behavior 4 = .ok .credit := by rfl
  have hdischarge : discharge ⟨1200, by decide⟩ (scattered.debts 1) =
      .ok ⟨[⟨4, .zero⟩, ⟨9, ⟨-450, by decide⟩⟩], .zero⟩ := by
    rw [discharge, byAge_scattered]
    rfl
  obtain ⟨t, db, hpost⟩ : ∃ t db,
      post (.ofSeconds 70) ⟨1, 4, ⟨1200, by decide⟩⟩ (.opened scattered) = (.ok t, db) := by
    rw [post_eq_booked hids (fun u hu => hleast u (Store.mem_bookings.mp hu).1) (by decide)
      (by rfl) (by rfl) (by rfl)]
    exact ⟨_, _, rfl⟩
  obtain ⟨behavior, rows, htype, hdb, -, -, -, hcredit⟩ := post_effect hids hleast hpost
  obtain rfl : Behavior.credit = behavior := Except.ok.inj (hbehavior.symm.trans htype)
  obtain ⟨outcome, houtcome, hrows, -, -, hbalance⟩ := hcredit rfl
  obtain rfl := Except.ok.inj (hdischarge.symm.trans houtcome)
  refine ⟨t, db, hpost, hids, hleast, rows, hdb, ?_, ?_⟩
  · rw [hrows]
    rfl
  · rw [hbalance]
    rfl

end Ledger

/-! ## In one number

What an account owes altogether can be kept in one number: a debit that is posted adds its amount, and
a credit takes off its own, but never below zero.
-/

/-- The debt of an account after a posting of so much. -/
def Behavior.count (behavior : Behavior) (amount debt : Int) : Int :=
  match behavior with
  | .debit => debt + amount
  | .credit => max 0 (debt - amount)

namespace Ledger

/-- The debt of an account after a call on a database has been answered, by count: postings that
fail, and all other calls, leave it as it is. -/
def counted (accountId : Int) (db : Database) (call : Call) (answer : Answer) (debt : Int) : Int :=
  match call, answer with
  | .post _ request, .posted (.ok _) =>
    if request.accountId = accountId then
      match db.query (Store.behavior request.operationTypeId) with
      | .ok behavior => behavior.count request.amount.minor debt
      | .error _ => debt
    else debt
  | _, _ => debt

/-- The debt of an account after a run, by count. -/
def counter (accountId : Int) : List Call → Database → Int → Int
  | [], _, debt => debt
  | call :: calls, db, debt =>
    counter accountId calls (answer call db).2
      (counted accountId db call (answer call db).1 debt)

end Ledger

namespace Store

variable {s s' : Store} {accountId : Int} {call : Call} {answer : Answer}

theorem behavior_of_text {id : Int} {operationType : OperationType} {behavior : Behavior}
    (htype : s.operationType? id = some operationType)
    (hbehavior : operationType.behavior = behavior.text) : Store.behavior id s = .ok behavior := by
  refine behavior_eq htype ?_
  rw [hbehavior, Behavior.ofText_text]

theorem Step.counted_eq (hs : s.Sound) (h : Step s call answer s') (accountId : Int) :
    Ledger.counted accountId (.opened s) call answer (OpenDebit.owed (s.debts accountId)) =
      OpenDebit.owed (s'.debts accountId) := by
  cases h with
  | refused hrefusal => cases hrefusal <;> rfl
  | seeded => rfl
  | opened => rfl
  | @booked now request operationType behavior id hpos haccount htype hbehavior hid =>
      by_cases hself : request.accountId = accountId
      · subst hself
        have howed := owed_debts_booked hs.nodup behavior now hpos id
        have hquery : (Database.opened s).query (Store.behavior request.operationTypeId) =
            .ok behavior := behavior_of_text htype hbehavior
        rw [Ledger.counted, if_pos rfl, hquery, howed]
        cases behavior with
        | debit =>
            simp only [Behavior.count]
            omega
        | credit =>
            simp only [Behavior.count]
            omega
      · have hsame := bookings_booked_of_ne (Ne.symm hself) s behavior now id
        rw [Ledger.counted, if_neg hself, debts, debts, hsame]

theorem Steps.counter_eq {calls : List Call} {answers : List Answer}
    (h : Steps s calls answers s') (accountId : Int) :
    Ledger.counter accountId calls (.opened s) (OpenDebit.owed (s.debts accountId)) =
      OpenDebit.owed (s'.debts accountId) := by
  induction h with
  | nil => rfl
  | cons hs hstep _ ih => rw [Ledger.counter, hstep.answer_eq hs, hstep.counted_eq hs, ih]

theorem natAbs_eq_debt {t : Transaction} (h : t.isOpen = true) :
    t.balance.minor.natAbs = t.balance.debt := by
  have hdebt := (Money.isNegative_iff t.balance).mp h
  rw [Money.debt] at hdebt ⊢
  omega

theorem sum_natAbs_of_isOpen {rows : List Transaction} (h : ∀ t ∈ rows, t.isOpen = true) :
    (rows.map fun t => (t.balance.minor.natAbs : Int)).sum =
      OpenDebit.owed (rows.map Transaction.toOpenDebit) := by
  induction rows with
  | nil => rfl
  | cons t rows ih =>
      obtain ⟨ht, hrows⟩ := List.forall_mem_cons.mp h
      rw [List.map_cons, List.sum_cons, List.map_cons, OpenDebit.owed_cons, ih hrows,
        natAbs_eq_debt ht, toOpenDebit_balance]
      omega

theorem sum_openDebits (s : Store) (accountId : Int) :
    ((s.openDebits accountId).map fun t => (t.balance.minor.natAbs : Int)).sum =
      OpenDebit.owed (s.debts accountId) := by
  have hopen : ∀ t ∈ s.openDebits accountId, t.isOpen = true := by
    intro t ht
    have hmem := (List.mergeSort_perm _ _).mem_iff.mp ht
    simp only [List.mem_filter, Bool.and_eq_true] at hmem
    exact hmem.2.2
  rw [sum_natAbs_of_isOpen hopen, OpenDebit.owed_perm (s.openDebits_perm accountId), owed_open]

theorem owed_of_account?_eq_none (hc : s.Conserved) (haccount : s.account? accountId = none) :
    OpenDebit.owed (s.debts accountId) = 0 := by
  have hnone : s.bookings accountId = [] := by
    refine List.filter_eq_nil_iff.mpr fun t ht hown => ?_
    have hfound := hc.accounts t ht
    rw [of_decide_eq_true hown, haccount] at hfound
    cases hfound
  rw [debts, hnone]
  rfl

theorem post_credit (hs : s.Sound) {now : Moment} {request : NewTransaction} {t : Transaction}
    (hcredit : Store.behavior request.operationTypeId s = .ok .credit)
    (h : (Ledger.post now request (.opened s)).1 = .ok t) :
    t.amount = request.amount ∧
      t.balance = request.amount.less (OpenDebit.owed (s.debts request.accountId)) := by
  obtain ⟨answer, s', hstep⟩ := exists_step hs (.post now request)
  have hposted : Answer.posted (.ok t) = answer := by
    rw [← h]
    exact congrArg Prod.fst (hstep.answer_eq hs)
  rw [← hposted] at hstep
  cases hstep with
  | refused hrefusal => cases hrefusal
  | @booked _ _ operationType behavior id _ _ htype hbehavior _ =>
      rw [behavior_of_text htype hbehavior] at hcredit
      cases hcredit
      exact ⟨rfl, rfl⟩

end Store

/-- **One number is enough.** After every run, the balances of the open debits of an account have
the sizes that add up to its debt by count, which is zero for an account that is not stored; and
every credit that is then posted to it is booked with its whole amount and keeps what exceeds that
debt. -/
theorem Ledger.run_counts (calls : List Call) (accountId : Int) :
    ((∃ rows, openDebits accountId (run calls (.opened .empty)).2 = .ok rows ∧
          (rows.map fun t => (t.balance.minor.natAbs : Int)).sum =
            counter accountId calls (.opened .empty) 0) ∨
        openDebits accountId (run calls (.opened .empty)).2 =
            refuse (.notFound .account accountId) ∧
          counter accountId calls (.opened .empty) 0 = 0) ∧
      ∀ (now : Moment) (request : NewTransaction) (t : Transaction),
        request.accountId = accountId →
        (run calls (.opened .empty)).2.query (Store.behavior request.operationTypeId) =
          .ok .credit →
        (post now request (run calls (.opened .empty)).2).1 = .ok t →
        t.amount = request.amount ∧
          t.balance.minor =
            max 0 (request.amount.minor - counter accountId calls (.opened .empty) 0) := by
  obtain ⟨answers, s, hsteps⟩ := Store.exists_steps calls Store.sound_empty
  have hs : s.Sound := hsteps.sound Store.sound_empty
  have hc : s.Conserved := hsteps.conserved Store.conserved_empty
  have hcounter : counter accountId calls (.opened .empty) 0 =
      OpenDebit.owed (s.debts accountId) := hsteps.counter_eq accountId
  rw [hsteps.run_eq, hcounter]
  constructor
  · cases haccount : s.account? accountId with
    | none =>
        right
        refine ⟨?_, by rw [Store.owed_of_account?_eq_none hc haccount]; rfl⟩
        simp only [openDebits, Database.query, Store.account, haccount]
        rfl
    | some account =>
        left
        refine ⟨s.openDebits accountId, ?_, s.sum_openDebits accountId⟩
        simp only [openDebits, Database.query, Store.account, haccount]
        rfl
  · rintro now request t rfl hcredit hposted
    obtain ⟨hamount, hbalance⟩ := Store.post_credit hs hcredit hposted
    exact ⟨hamount, by rw [hbalance, Money.less_minor]⟩

/-- A credit that exceeds both debts of its account keeps the rest. -/
theorem Ledger.run_counts_partPayment :
    counter 1 (partPayment.take 6) (.opened .empty) 0 = 7350 ∧
      ∃ t, (post (.ofSeconds 210) ⟨1, 4, ⟨8000, by decide⟩⟩
          (run (partPayment.take 6) (.opened .empty)).2).1 = .ok t ∧
        t.amount.minor = 8000 ∧ t.balance.minor = 650 := by
  have hcounter : counter 1 (partPayment.take 6) (.opened .empty) 0 = 7350 := rfl
  have hcredit : (run (partPayment.take 6) (.opened .empty)).2.query (Store.behavior 4) =
      .ok .credit :=
    rfl
  have hfound : (run (partPayment.take 6) (.opened .empty)).2.query (fun s =>
      .ok ((s.account? 1).isSome, s.operationType? 4, Store.nextId (s.transactions.map (·.id)))) =
        .ok (true, some ⟨4, "PAYMENT", "CREDIT"⟩, .ok 4) :=
    rfl
  have hposted : ∃ t, (post (.ofSeconds 210) ⟨1, 4, ⟨8000, by decide⟩⟩
      (run (partPayment.take 6) (.opened .empty)).2).1 = .ok t := by
    obtain ⟨answers, s, hsteps⟩ := Store.exists_steps (partPayment.take 6) Store.sound_empty
    have hs : s.Sound := hsteps.sound Store.sound_empty
    have hread : Behavior.ofText (OperationType.mk 4 "PAYMENT" "CREDIT").behavior = .ok .credit :=
      Behavior.ofText_text .credit
    rw [hsteps.run_eq] at hfound ⊢
    simp only [Database.query, Except.ok.injEq, Prod.mk.injEq] at hfound
    obtain ⟨haccount, htype, hid⟩ := hfound
    rw [post_eq_booked hs.nodup hs.least_lt (by decide) haccount htype hread, hid]
    exact ⟨_, rfl⟩
  obtain ⟨t, ht⟩ := hposted
  obtain ⟨hamount, hbalance⟩ := (run_counts (partPayment.take 6) 1).2 _ _ t rfl hcredit ht
  refine ⟨hcounter, t, ht, by rw [hamount], ?_⟩
  rw [hbalance, hcounter]
  rfl

end Arrears
