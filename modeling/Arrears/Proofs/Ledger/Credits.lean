import Arrears.Proofs.Ledger.Effect
import Arrears.Proofs.Ledger.Queue

/-!
# Credits commute and can be split

As long as no debit is booked on an account, only the sum of the credits posted to it matters: how
it is cut into payments, and in which order they come, changes neither the balance of any debit nor
what the credits keep together.

**Argument.** A discharge of one credit after another is the discharge of their sum
(`discharged_discharged`): what the first has taken off the debts in front of a booking, the second
need not take any more.  `Credited` says what credits have made of an account; every step of the
ledger that books no debit there makes such a change, and such changes compose.
-/

namespace Arrears

def Answer.booked? : Answer → Option Transaction
  | .posted (.ok t) => some t
  | _ => none

/-- The bookings of an account that a run has answered with. -/
def bookedFor (accountId : Int) (answers : List Answer) : List Transaction :=
  (answers.filterMap Answer.booked?).filter fun t => t.accountId = accountId

theorem bookedFor_cons (accountId : Int) (answer : Answer) (answers : List Answer) :
    bookedFor accountId (answer :: answers) =
      bookedFor accountId [answer] ++ bookedFor accountId answers := by
  rw [bookedFor, bookedFor, bookedFor, ← List.filter_append, ← List.filterMap_append]
  rfl

theorem bookedFor_posted {accountId : Int} {t : Transaction} (hown : t.accountId = accountId) :
    bookedFor accountId [.posted (.ok t)] = [t] :=
  List.filter_cons_of_pos (by simp [hown])

theorem bookedFor_posted_of_ne {accountId : Int} {t : Transaction}
    (hother : t.accountId ≠ accountId) : bookedFor accountId [.posted (.ok t)] = [] :=
  List.filter_cons_of_neg (by simp [hother])

/-- What credits have paid altogether. -/
def paid (credits : List Transaction) : Nat :=
  (credits.map fun t => t.amount.minor.toNat).sum

theorem paid_append (credits others : List Transaction) :
    paid (credits ++ others) = paid credits + paid others := by
  rw [paid, List.map_append, List.sum_append, paid, paid]

theorem sum_amount_eq_paid {credits : List Transaction}
    (hcredits : ∀ t ∈ credits, 0 < t.amount.minor) :
    (credits.map (·.amount.minor)).sum = paid credits := by
  induction credits with
  | nil => rfl
  | cons t credits ih =>
      obtain ⟨ht, hrest⟩ := List.forall_mem_cons.mp hcredits
      have hsum := ih hrest
      rw [paid] at hsum ⊢
      rw [List.map_cons, List.map_cons, List.sum_cons, List.sum_cons, hsum]
      omega

namespace Store

variable {s s' s'' : Store} {accountId : Int} {credits others : List Transaction}

/-! ## Bookings that owe nothing -/

theorem discharged_append_of_settled {debits others : List OpenDebit}
    (hsettled : ∀ other ∈ others, other.balance.debt = 0) (credit : Nat) :
    discharged credit (debits ++ others) = discharged credit debits := by
  funext t
  have hnone : OpenDebit.owedBefore others t.toOpenDebit = 0 := by
    refine List.sum_eq_zero fun n hn => ?_
    obtain ⟨other, hother, rfl⟩ := List.mem_map.mp hn
    exact hsettled other (List.mem_filter.mp hother).1
  have hbefore : OpenDebit.owedBefore (debits ++ others) t.toOpenDebit =
      OpenDebit.owedBefore debits t.toOpenDebit := by
    rw [OpenDebit.owedBefore] at hnone ⊢
    rw [List.filter_append, OpenDebit.owed_append, hnone, Nat.add_zero, OpenDebit.owedBefore]
  rw [discharged, discharged, hbefore]

theorem map_discharged_of_settled (hsettled : ∀ t ∈ credits, t.balance.debt = 0)
    (credit : Nat) (debits : List OpenDebit) :
    credits.map (discharged credit debits) = credits := by
  refine (List.map_congr_left fun t ht => ?_).trans (List.map_id' credits)
  rw [discharged, Money.raised_of_debt_eq_zero (hsettled t ht)]

@[simp] theorem discharged_zero (debits : List OpenDebit) : discharged 0 debits = id := by
  funext t
  rw [discharged, Nat.zero_sub, Money.raised_zero]
  rfl

/-! ## One discharge after another -/

/-- Two discharges, one after the other, are the discharge of both credits at once. -/
theorem discharged_discharged {debits : List OpenDebit} (hids : (debits.map (·.id)).Nodup)
    (credit more : Nat) (t : Transaction) :
    discharged more (debits.map (OpenDebit.after credit debits)) (discharged credit debits t) =
      discharged (credit + more) debits t := by
  have hbefore : OpenDebit.owedBefore (debits.map (OpenDebit.after credit debits))
      (discharged credit debits t).toOpenDebit =
        OpenDebit.owedBefore debits t.toOpenDebit - credit :=
    OpenDebit.owedBefore_map_after hids credit _
  have hsum : credit - OpenDebit.owedBefore debits t.toOpenDebit +
      (more - (OpenDebit.owedBefore debits t.toOpenDebit - credit)) =
        credit + more - OpenDebit.owedBefore debits t.toOpenDebit := by
    omega
  rw [discharged, hbefore, discharged_balance, Money.raised_raised, hsum]
  rfl

theorem map_discharged_toOpenDebit (credit : Nat) (debits : List OpenDebit)
    (rows : List Transaction) :
    (rows.map (discharged credit debits)).map Transaction.toOpenDebit =
      (rows.map Transaction.toOpenDebit).map (OpenDebit.after credit debits) := by
  rw [List.map_map, List.map_map]
  rfl

/-! ## What credits make of an account -/

/-- An account has changed from one store to another by nothing but credits. -/
structure Credited (accountId : Int) (s s' : Store) (credits : List Transaction) : Prop where
  /-- What was there is discharged by all that was paid, and the credits stand behind it. -/
  bookings : s'.bookings accountId =
    (s.bookings accountId).map (discharged (paid credits) (s.debts accountId)) ++ credits
  settled : ∀ t ∈ credits, t.balance.debt = 0
  /-- The credits keep what exceeds the debt. -/
  kept : (credits.map (·.balance.minor)).sum =
    max 0 ((paid credits : Int) - OpenDebit.owed (s.debts accountId))

theorem Credited.none (h : s'.bookings accountId = s.bookings accountId) :
    Credited accountId s s' [] where
  bookings := by simp [paid, h]
  settled := by simp
  kept := by simp [paid]

theorem Credited.booked {request : NewTransaction} (hpos : 0 < request.amount.minor)
    (s : Store) (now : Moment) (id : Int) :
    Credited request.accountId s (s.booked .credit now request id)
      [s.booking .credit now request id] where
  bookings := by
    have hpaid : paid [s.booking .credit now request id] = request.amount.minor.toNat := rfl
    rw [bookings_booked_credit, hpaid]
  settled := by simp
  kept := by
    have hpaid : paid [s.booking .credit now request id] = request.amount.minor.toNat := rfl
    rw [hpaid]
    simp only [List.map_cons, List.map_nil, List.sum_cons, List.sum_nil, booking_balance,
      openPart_credit, Money.less_minor]
    omega

theorem Credited.trans (hs : s.Sound) (h : Credited accountId s s' credits)
    (h' : Credited accountId s' s'' others) : Credited accountId s s'' (credits ++ others) := by
  have hids := nodup_debts hs.nodup accountId
  have hsettled : ∀ debit ∈ credits.map Transaction.toOpenDebit, debit.balance.debt = 0 :=
    List.forall_mem_map.mpr h.settled
  have hdebts : s'.debts accountId =
      (s.debts accountId).map (OpenDebit.after (paid credits) (s.debts accountId)) ++
        credits.map Transaction.toOpenDebit := by
    rw [debts, h.bookings, List.map_append, map_discharged_toOpenDebit, debts]
  have howed : OpenDebit.owed (s'.debts accountId) =
      OpenDebit.owed (s.debts accountId) - paid credits := by
    have hnone : OpenDebit.owed (credits.map Transaction.toOpenDebit) = 0 := by
      refine List.sum_eq_zero fun n hn => ?_
      obtain ⟨other, hother, rfl⟩ := List.mem_map.mp hn
      exact hsettled other hother
    rw [hdebts, OpenDebit.owed_append, OpenDebit.owed_map_after hids, hnone, Nat.add_zero]
  refine ⟨?_, ?_, ?_⟩
  · rw [h'.bookings, hdebts, discharged_append_of_settled hsettled, h.bookings, List.map_append,
      map_discharged_of_settled h.settled, List.map_map, paid_append, List.append_assoc]
    congr 1
    refine List.map_congr_left fun t _ => ?_
    exact discharged_discharged hids (paid credits) (paid others) t
  · exact List.forall_mem_append.mpr ⟨h.settled, h'.settled⟩
  · rw [List.map_append, List.sum_append, h.kept, h'.kept, howed, paid_append]
    omega

/-! ## Runs of credits -/

theorem Step.credited {call : Call} {answer : Answer} (h : Step s call answer s')
    (hcredits : ∀ t ∈ bookedFor accountId [answer], 0 < t.amount.minor) :
    Credited accountId s s' (bookedFor accountId [answer]) := by
  cases h with
  | refused hrefusal => cases hrefusal <;> exact .none rfl
  | seeded => exact .none rfl
  | opened => exact .none rfl
  | @booked now request operationType behavior id hpos haccount htype hbehavior hid =>
      by_cases hself : request.accountId = accountId
      · subst hself
        have hbooked := bookedFor_posted (s.booking_accountId behavior now request id)
        rw [hbooked] at hcredits ⊢
        cases behavior with
        | credit => exact .booked hpos s now id
        | debit =>
            have hamount := hcredits _ (List.mem_singleton_self _)
            rw [booking_amount, Money.signed, Money.owing_minor_of_pos hpos] at hamount
            omega
      · have hbooked : bookedFor accountId
            [.posted (.ok (s.booking behavior now request id))] = [] :=
          bookedFor_posted_of_ne hself
        rw [hbooked]
        exact .none (bookings_booked_of_ne (Ne.symm hself) s behavior now id)

/-- A run that books no debit on an account changes it by credits only. -/
theorem Steps.credited {calls : List Call} {answers : List Answer}
    (h : Steps s calls answers s')
    (hcredits : ∀ t ∈ bookedFor accountId answers, 0 < t.amount.minor) :
    Credited accountId s s' (bookedFor accountId answers) := by
  induction h with
  | nil => exact .none rfl
  | @cons s u s'' call calls answer answers hs hstep _ ih =>
      rw [bookedFor_cons] at hcredits ⊢
      obtain ⟨hfirst, hrest⟩ := List.forall_mem_append.mp hcredits
      exact (hstep.credited hfirst).trans hs (ih hrest)

theorem Credited.debits (h : Credited accountId s s' credits)
    (hcredits : ∀ t ∈ credits, 0 < t.amount.minor) :
    s'.debits accountId =
      (s.debits accountId).map (discharged (paid credits) (s.debts accountId)) := by
  have hnone : credits.filter Transaction.isDebit = [] := by
    refine List.filter_eq_nil_iff.mpr fun t ht hdebit => ?_
    have hamount := hcredits t ht
    rw [Transaction.isDebit, Money.isNegative, decide_eq_true_eq] at hdebit
    omega
  rw [Store.debits, h.bookings, List.filter_append, hnone, List.append_nil, List.filter_map,
    Store.debits]
  rfl

/-- A payment to a stored account is booked, as long as there is an id for it. -/
theorem Step.booked_of_payment {now : Moment} {request : NewTransaction} {answer : Answer}
    (h : Step s (.post now request) answer s') (hpos : 0 < request.amount.minor)
    (haccount : (s.account? request.accountId).isSome = true)
    (hcredit : Store.behavior request.operationTypeId s = .ok .credit)
    (hroom : largestId (s.transactions.map (·.id)) < Word.greatest) :
    ∃ id, nextId (s.transactions.map (·.id)) = .ok id ∧
      answer = .posted (.ok (s.booking .credit now request id)) ∧
      s' = s.booked .credit now request id := by
  cases h with
  | refused hrefusal =>
      cases hrefusal with
      | amountNotPositive hinvalid => exact absurd hpos hinvalid
      | unknownAccount _ hnone =>
          rw [hnone] at haccount
          cases haccount
      | unknownOperationType _ _ hnone =>
          rw [Store.behavior, Store.operationType, hnone] at hcredit
          cases hcredit
      | noTransactionId _ _ _ hid =>
          rw [nextId_eq, if_pos hroom] at hid
          cases hid
  | @booked _ _ operationType behavior id _ _ htype hbehavior hid =>
      rw [behavior_of_text htype hbehavior] at hcredit
      cases hcredit
      exact ⟨id, hid, rfl, rfl⟩

/-- Payments to a stored account are booked with their amounts, as long as there are ids for
them. -/
theorem Steps.amount_bookedFor (accountId : Int) {payments : List (Moment × NewTransaction)} :
    ∀ {s s' : Store} {answers : List Answer},
      Steps s (payments.map fun payment => .post payment.1 payment.2) answers s' →
      (∀ payment ∈ payments, payment.2.accountId = accountId ∧ 0 < payment.2.amount.minor ∧
        Store.behavior payment.2.operationTypeId s = .ok .credit) →
      (s.account? accountId).isSome = true →
      largestId (s.transactions.map (·.id)) + payments.length ≤ Word.greatest →
      (bookedFor accountId answers).map (·.amount) = payments.map (·.2.amount) := by
  induction payments with
  | nil =>
      intro s s' answers h _ _ _
      cases h
      rfl
  | cons payment payments ih =>
      intro s s' answers h hpayments haccount hroom
      obtain ⟨⟨rfl, hpos, hcredit⟩, hrest⟩ := List.forall_mem_cons.mp hpayments
      rw [List.length_cons] at hroom
      cases h with
      | cons hs hstep hsteps =>
          obtain ⟨id, hid, rfl, rfl⟩ :=
            hstep.booked_of_payment hpos haccount hcredit (by omega)
          have hnew := eq_of_nextId hid
          have hrest' : ∀ other ∈ payments, other.2.accountId = payment.2.accountId ∧
              0 < other.2.amount.minor ∧
              Store.behavior other.2.operationTypeId
                (s.booked .credit payment.1 payment.2 id) = .ok .credit := by
            simpa only [Store.behavior, Store.operationType, operationType?,
              booked_operationTypes] using hrest
          have hlater := ih hsteps hrest' (by rw [account?, booked_accounts]; exact haccount)
            (by rw [largestId_booked hid]; omega)
          rw [bookedFor_cons, List.map_append, hlater,
            bookedFor_posted (s.booking_accountId .credit payment.1 payment.2 id)]
          rfl

end Store

namespace Ledger

/-- The bookings that further calls make on an account. -/
def bookedBy (later : List Call) (accountId : Int) (s : Store) : List Transaction :=
  bookedFor accountId (run later (.opened s)).1

/-- Calls that book no debit on an account change it by credits only. -/
theorem exists_credited {s : Store} (hs : s.Sound) {later : List Call} {accountId : Int}
    (hcredits : ∀ t ∈ bookedBy later accountId s, 0 < t.amount.minor) :
    ∃ s', (run later (.opened s)).2 = .opened s' ∧
      Store.Credited accountId s s' (bookedBy later accountId s) := by
  obtain ⟨answers, s', hsteps⟩ := Store.exists_steps later hs
  rw [bookedBy, hsteps.run_eq] at hcredits ⊢
  exact ⟨s', rfl, hsteps.credited hcredits⟩

/-- **Credits commute and can be split.** From every store that a run leaves behind, let further
calls book nothing but credits on an account.  Then its debits are those from before, each
discharged by what the sum of the credits leaves for it; the credits are stored, and together they
keep what their sum exceeds the open debt by.  So other calls whose credits have the same sum leave
the same debits and keep as much.  Payments that are posted to a stored account are booked, as long
as there are ids for them. -/
theorem run_credits_commute (calls : List Call) (accountId : Int) :
    ∃ s, (run calls (.opened .empty)).2 = .opened s ∧
      (∀ later, (∀ t ∈ bookedBy later accountId s, 0 < t.amount.minor) →
        ∃ s' sum, (run later (.opened s)).2 = .opened s' ∧
          ((bookedBy later accountId s).map (·.amount.minor)).sum = sum ∧
          s'.debits accountId =
            (s.debits accountId).map (Store.discharged sum.toNat (s.debts accountId)) ∧
          (∀ t ∈ bookedBy later accountId s, t ∈ s'.transactions) ∧
          ((bookedBy later accountId s).map (·.balance.minor)).sum =
            max 0 (sum -
              ((s.openDebits accountId).map fun t => (t.balance.minor.natAbs : Int)).sum)) ∧
      (∀ later other, (∀ t ∈ bookedBy later accountId s, 0 < t.amount.minor) →
        (∀ t ∈ bookedBy other accountId s, 0 < t.amount.minor) →
        ((bookedBy later accountId s).map (·.amount.minor)).sum =
          ((bookedBy other accountId s).map (·.amount.minor)).sum →
        ∃ s' s'', (run later (.opened s)).2 = .opened s' ∧
          (run other (.opened s)).2 = .opened s'' ∧
          s'.debits accountId = s''.debits accountId ∧
          ((bookedBy later accountId s).map (·.balance.minor)).sum =
            ((bookedBy other accountId s).map (·.balance.minor)).sum) ∧
      ∀ payments : List (Moment × NewTransaction),
        (∀ payment ∈ payments, payment.2.accountId = accountId ∧ 0 < payment.2.amount.minor ∧
          Store.behavior payment.2.operationTypeId s = .ok .credit) →
        (s.account? accountId).isSome = true →
        Store.largestId (s.transactions.map (·.id)) + payments.length ≤ Word.greatest →
        (bookedBy (payments.map fun payment => .post payment.1 payment.2) accountId s).map
          (·.amount) = payments.map (·.2.amount) := by
  obtain ⟨answers, s, hsteps⟩ := Store.exists_steps calls Store.sound_empty
  have hs : s.Sound := hsteps.sound Store.sound_empty
  refine ⟨s, by rw [hsteps.run_eq], ?_, ?_, ?_⟩
  · intro later hlater
    obtain ⟨s', hrun, h⟩ := exists_credited hs hlater
    refine ⟨s', _, hrun, sum_amount_eq_paid hlater, h.debits hlater, ?_, ?_⟩
    · intro t ht
      have hmem : t ∈ s'.bookings accountId := by
        rw [h.bookings]
        exact List.mem_append_right _ ht
      exact (Store.mem_bookings.mp hmem).1
    · rw [h.kept, s.sum_openDebits accountId]
  · intro later other hlater hother hsum
    obtain ⟨s', hrun, h⟩ := exists_credited hs hlater
    obtain ⟨s'', hrun', h'⟩ := exists_credited hs hother
    have hpaid : paid (bookedBy later accountId s) = paid (bookedBy other accountId s) := by
      rw [sum_amount_eq_paid hlater, sum_amount_eq_paid hother] at hsum
      exact Int.ofNat_inj.mp hsum
    refine ⟨s', s'', hrun, hrun', ?_, ?_⟩
    · rw [h.debits hlater, h'.debits hother, hpaid]
    · rw [h.kept, h'.kept, hpaid]
  · intro payments hpayments haccount hroom
    obtain ⟨answers', s', hsteps'⟩ :=
      Store.exists_steps (payments.map fun payment => .post payment.1 payment.2) hs
    rw [bookedBy, hsteps'.run_eq]
    exact hsteps'.amount_bookedFor accountId hpayments haccount hroom

/-- A credit of 80.00 to the first account of `partPayment`. -/
def atOnce : List (Moment × NewTransaction) :=
  [(.ofSeconds 300, ⟨1, 4, ⟨8000, by decide⟩⟩)]

/-- The same sum in two credits, the first a little larger than the older debit. -/
def inParts : List (Moment × NewTransaction) :=
  [(.ofSeconds 400, ⟨1, 4, ⟨5100, by decide⟩⟩), (.ofSeconds 350, ⟨1, 4, ⟨2900, by decide⟩⟩)]

/-- Debits of 50.00 and 23.50 are left alike by both, and 6.50 are kept in either case. -/
theorem run_credits_commute_partPayment :
    ∃ s s' s'', (run (partPayment.take 6) (.opened .empty)).2 = .opened s ∧
      (run (atOnce.map fun payment => .post payment.1 payment.2) (.opened s)).2 = .opened s' ∧
      (run (inParts.map fun payment => .post payment.1 payment.2) (.opened s)).2 = .opened s'' ∧
      s'.debits 1 = s''.debits 1 ∧
      ((bookedBy (atOnce.map fun payment => .post payment.1 payment.2) 1 s).map
        (·.balance.minor)).sum = 650 ∧
      ((bookedBy (inParts.map fun payment => .post payment.1 payment.2) 1 s).map
        (·.balance.minor)).sum = 650 := by
  obtain ⟨s, hrun, hclosed, hsame, hbooked⟩ := run_credits_commute (partPayment.take 6) 1
  have hfound : (run (partPayment.take 6) (.opened .empty)).2.query (fun s =>
      .ok ((s.account? 1).isSome, Store.behavior 4 s,
        Store.largestId (s.transactions.map (·.id)), OpenDebit.owed (s.debts 1))) =
      .ok (true, .ok .credit, 3, 7350) :=
    rfl
  rw [hrun] at hfound
  simp only [Database.query, Except.ok.injEq, Prod.mk.injEq] at hfound
  obtain ⟨haccount, hcredit, hlargest, howed⟩ := hfound
  have hpaid : ∀ {later : List Call} {amounts : List Money},
      (bookedBy later 1 s).map (·.amount) = amounts → (∀ a ∈ amounts, 0 < a.minor) →
      (amounts.map (·.minor)).sum = 8000 →
      (∀ t ∈ bookedBy later 1 s, 0 < t.amount.minor) ∧
        ((bookedBy later 1 s).map (·.amount.minor)).sum = 8000 := by
    rintro later amounts rfl hpos hsum
    refine ⟨fun t ht => hpos t.amount (List.mem_map_of_mem ht), ?_⟩
    rw [← hsum, List.map_map]
    rfl
  obtain ⟨honce, honceSum⟩ := hpaid
    (hbooked atOnce (by simp [atOnce, hcredit]) haccount (by rw [hlargest]; decide))
    (by decide) rfl
  obtain ⟨hparts, hpartsSum⟩ := hpaid
    (hbooked inParts (by simp [inParts, hcredit]) haccount (by rw [hlargest]; decide))
    (by decide) rfl
  obtain ⟨s', s'', honceRun, hpartsRun, hdebits, hkept⟩ :=
    hsame _ _ honce hparts (by rw [honceSum, hpartsSum])
  obtain ⟨-, sum, -, hsum, -, -, hleft⟩ := hclosed _ honce
  rw [honceSum] at hsum
  rw [← hsum, s.sum_openDebits 1, howed] at hleft
  exact ⟨s, s', s'', hrun, honceRun, hpartsRun, hdebits, hleft, by rw [← hkept, hleft]; rfl⟩

end Ledger
end Arrears
