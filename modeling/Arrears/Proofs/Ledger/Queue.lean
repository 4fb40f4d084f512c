import Arrears.Proofs.Ledger.Conservation

/-!
# The debits of an account form a queue

Debts are paid off strictly in order of age, over whole histories and not only within one
discharge: a debit is touched only when all older ones are settled.

**Invariant.** `Fifo` says of any two debits of an account, in order of insertion, that the first
is settled or the second untouched.  Where the clock has not gone back, the order of insertion is
the order of age, and then a credit keeps the invariant: it reaches the second debit only with what
the first leaves of it.
-/

namespace Arrears

/-- The moment at which the record of an answer was made, if the answer is a new record. -/
def Answer.stamp? : Answer → Option Moment
  | .opened (.ok account) => some account.createdAt
  | .posted (.ok t) => some t.createdAt
  | _ => none

/-- The reading of the clock that comes with a call. -/
def Call.now? : Call → Option Moment
  | .seed _ => none
  | .openAccount now _ => some now
  | .post now _ => some now

/-- The readings of the clock that a run has stored, in order. -/
def stamps (answers : List Answer) : List Moment :=
  answers.filterMap Answer.stamp?

def Transaction.isDebit (t : Transaction) : Bool :=
  t.amount.isNegative

namespace Store

/-- The debits of an account, in order of insertion. -/
def debits (s : Store) (accountId : Int) : List Transaction :=
  (s.bookings accountId).filter Transaction.isDebit

/-- The debits of an account, in order of age. -/
def debitsByAge (s : Store) (accountId : Int) : List Transaction :=
  (s.debits accountId).mergeSort fun t u => t.toOpenDebit.notAfter u.toOpenDebit

/-- The first booking is settled or the second untouched. -/
def SettledOrUntouched (t u : Transaction) : Prop :=
  t.balance.debt = 0 ∨ u.balance = u.amount

/-- In order of insertion, no debit of an account is touched before all earlier ones are settled. -/
def Fifo (s : Store) (accountId : Int) : Prop :=
  (s.debits accountId).Pairwise SettledOrUntouched

/-- The bookings of an account were made by a clock that has not gone back. -/
def Timely (s : Store) (accountId : Int) : Prop :=
  ((s.bookings accountId).map (·.createdAt)).Pairwise (· ≤ ·)

/-- Made by such a clock, the bookings of an account stand in order of age. -/
theorem bookings_precedes {s : Store} (hs : s.Sound) {accountId : Int}
    (htimely : s.Timely accountId) :
    (s.bookings accountId).Pairwise fun t u => t.toOpenDebit.precedes u.toOpenDebit = true := by
  have hmoments : (s.bookings accountId).Pairwise fun t u => t.createdAt ≤ u.createdAt :=
    List.pairwise_map.mp htimely
  apply (hmoments.and (hs.bookings_ascending accountId)).imp
  rintro t u ⟨hmoment, hid⟩
  exact OpenDebit.precedes_of_le_of_lt hmoment hid

theorem debits_precedes {s : Store} (hs : s.Sound) {accountId : Int}
    (htimely : s.Timely accountId) :
    (s.debits accountId).Pairwise fun t u => t.toOpenDebit.precedes u.toOpenDebit = true :=
  (bookings_precedes hs htimely).sublist List.filter_sublist

theorem debitsByAge_eq {s : Store} (hs : s.Sound) {accountId : Int}
    (htimely : s.Timely accountId) : s.debitsByAge accountId = s.debits accountId := by
  refine List.mergeSort_of_pairwise ?_
  exact (debits_precedes hs htimely).imp OpenDebit.notAfter_of_precedes

/-! ## What a posting does to the queue -/

theorem debits_booked_of_ne {request : NewTransaction} {accountId : Int}
    (hne : accountId ≠ request.accountId) (s : Store) (behavior : Behavior) (now : Moment)
    (id : Int) : (s.booked behavior now request id).debits accountId = s.debits accountId := by
  rw [debits, bookings_booked_of_ne hne, debits]

theorem debits_booked_debit (s : Store) (now : Moment) {request : NewTransaction}
    (hpos : 0 < request.amount.minor) (id : Int) :
    (s.booked .debit now request id).debits request.accountId =
      s.debits request.accountId ++ [s.booking .debit now request id] := by
  have hdebit : (s.booking .debit now request id).isDebit = true := by
    rw [Transaction.isDebit, booking_amount, Money.signed, Money.isNegative_iff, Money.debt,
      Money.owing_minor_of_pos hpos]
    omega
  rw [debits, bookings_booked_debit, List.filter_append, List.filter_cons_of_pos hdebit,
    List.filter_nil, debits]

theorem debits_booked_credit (s : Store) (now : Moment) {request : NewTransaction}
    (hpos : 0 < request.amount.minor) (id : Int) :
    (s.booked .credit now request id).debits request.accountId =
      (s.debits request.accountId).map
        (discharged request.amount.minor.toNat (s.debts request.accountId)) := by
  have hcredit : ¬ (s.booking .credit now request id).isDebit = true := by
    rw [Transaction.isDebit, booking_amount, Money.signed, Money.isNegative_iff, Money.debt]
    omega
  rw [debits, bookings_booked_credit, List.filter_append, List.filter_cons_of_neg hcredit,
    List.filter_nil, List.append_nil, List.filter_map, debits]
  rfl

/-- A credit that reaches a later debit has settled the earlier one. -/
theorem settledOrUntouched_discharged {s : Store} {accountId : Int} {t u : Transaction}
    (ht : t ∈ s.bookings accountId)
    (htu : t.toOpenDebit.precedes u.toOpenDebit = true) (h : SettledOrUntouched t u)
    (credit : Nat) :
    SettledOrUntouched (discharged credit (s.debts accountId) t)
      (discharged credit (s.debts accountId) u) := by
  have hmem : t.toOpenDebit ∈ s.debts accountId := List.mem_map.mpr ⟨t, ht, rfl⟩
  have hbefore : OpenDebit.owedBefore (s.debts accountId) t.toOpenDebit + t.balance.debt ≤
      OpenDebit.owedBefore (s.debts accountId) u.toOpenDebit :=
    OpenDebit.owedBefore_add_le hmem htu
  rw [SettledOrUntouched, discharged_balance, discharged_balance, discharged_amount,
    Money.debt_raised]
  rcases h with hsettled | huntouched
  · left
    omega
  · by_cases hreached : credit ≤ OpenDebit.owedBefore (s.debts accountId) u.toOpenDebit
    · right
      rw [Nat.sub_eq_zero_of_le hreached, Money.raised_zero, huntouched]
    · left
      omega

theorem fifo_booked_self {s : Store} (hs : s.Sound) (behavior : Behavior) (now : Moment)
    {request : NewTransaction} (hpos : 0 < request.amount.minor) (id : Int)
    (htimely : s.Timely request.accountId) (hfifo : s.Fifo request.accountId) :
    (s.booked behavior now request id).Fifo request.accountId := by
  cases behavior with
  | debit =>
      rw [Fifo, debits_booked_debit s now hpos, List.pairwise_append]
      refine ⟨hfifo, List.pairwise_singleton _ _, ?_⟩
      intro t _ u hu
      obtain rfl := List.mem_singleton.mp hu
      exact Or.inr rfl
  | credit =>
      rw [Fifo, debits_booked_credit s now hpos, List.pairwise_map]
      apply (hfifo.and (debits_precedes hs htimely)).imp_of_mem
      rintro t u ht - ⟨h, htu⟩
      exact settledOrUntouched_discharged (List.mem_filter.mp ht).1 htu h _

/-! ## The queue over a run -/

theorem Step.moments_sublist {s s' : Store} {call : Call} {answer : Answer}
    (h : Step s call answer s') :
    (s'.transactions.map (·.createdAt)).Sublist
      (s.transactions.map (·.createdAt) ++ answer.stamp?.toList) := by
  cases h with
  | refused => exact List.sublist_append_left _ _
  | seeded => exact List.sublist_append_left _ _
  | opened => exact List.sublist_append_left _ _
  | booked =>
      rw [booked_transactions, List.map_append, map_settled fun _ _ => rfl]
      exact List.Sublist.refl _

theorem stamps_cons (answer : Answer) (answers : List Answer) :
    stamps (answer :: answers) = answer.stamp?.toList ++ stamps answers := by
  rw [stamps, List.filterMap_cons]
  cases answer.stamp? with
  | none => rfl
  | some moment => rfl

/-- The moments of all bookings are among the readings that a run has stored, in that order. -/
theorem Steps.moments_sublist {s s' : Store} {calls : List Call} {answers : List Answer}
    (h : Steps s calls answers s') :
    (s'.transactions.map (·.createdAt)).Sublist
      (s.transactions.map (·.createdAt) ++ stamps answers) := by
  induction h with
  | nil => exact List.sublist_append_left _ _
  | cons _ hstep _ ih =>
      rw [stamps_cons, ← List.append_assoc]
      exact ih.trans (hstep.moments_sublist.append_right _)

theorem moments_booked_self (s : Store) (behavior : Behavior) (now : Moment)
    (request : NewTransaction) (id : Int) :
    ((s.booked behavior now request id).bookings request.accountId).map (·.createdAt) =
      (s.bookings request.accountId).map (·.createdAt) ++ [now] := by
  cases behavior with
  | debit =>
      rw [bookings_booked_debit, List.map_append]
      rfl
  | credit =>
      rw [bookings_booked_credit, List.map_append, List.map_map]
      rfl

/-- A step keeps the queue of every account, unless the clock has gone back. -/
theorem fifo_step {s s' : Store} {call : Call} {answer : Answer} (hs : s.Sound)
    (h : Step s call answer s') (accountId : Int)
    (hfifo : s.Timely accountId → s.Fifo accountId) (htimely : s'.Timely accountId) :
    s'.Fifo accountId := by
  cases h with
  | refused => exact hfifo htimely
  | seeded => exact hfifo htimely
  | opened => exact hfifo htimely
  | @booked now request operationType behavior id hpos haccount htype hbehavior hid =>
      by_cases hself : accountId = request.accountId
      · rw [hself] at hfifo htimely ⊢
        have hbefore : s.Timely request.accountId := by
          rw [Timely, moments_booked_self] at htimely
          exact htimely.sublist (List.sublist_append_left _ _)
        exact fifo_booked_self hs behavior now hpos id hbefore (hfifo hbefore)
      · rw [Timely, bookings_booked_of_ne hself] at htimely
        rw [Fifo, debits_booked_of_ne hself]
        exact hfifo htimely

theorem Steps.stamps_sublist {s s' : Store} {calls : List Call} {answers : List Answer}
    (h : Steps s calls answers s') : (stamps answers).Sublist (calls.filterMap Call.now?) := by
  induction h with
  | nil => exact List.Sublist.refl _
  | @cons s s' s'' call calls answer answers _ hstep _ ih =>
      have hanswer : answer.stamp?.toList.Sublist call.now?.toList := by
        cases hstep with
        | refused hrefusal => cases hrefusal <;> exact List.nil_sublist _
        | seeded => exact List.nil_sublist _
        | opened => exact List.Sublist.refl _
        | booked => exact List.Sublist.refl _
      have hcall : (call :: calls).filterMap Call.now? =
          call.now?.toList ++ calls.filterMap Call.now? := by
        cases call <;> rfl
      rw [stamps_cons, hcall]
      exact hanswer.append ih

/-- If the readings that a run has stored do not decrease, every account is timely. -/
theorem Steps.timely {s : Store} {calls : List Call} {answers : List Answer}
    (h : Steps empty calls answers s) (hclock : (stamps answers).Pairwise (· ≤ ·))
    (accountId : Int) : s.Timely accountId := by
  have hmoments : (s.transactions.map (·.createdAt)).Pairwise (· ≤ ·) :=
    hclock.sublist h.moments_sublist
  exact hmoments.sublist (List.filter_sublist.map _)

/-- A list in which each entry is settled or all later ones untouched has one place where it
turns. -/
theorem exists_place {rows : List Transaction} (h : rows.Pairwise SettledOrUntouched) :
    ∃ k : Nat, ∀ (i : Nat) (t : Transaction), rows[i]? = some t →
      (i < k → t.balance.debt = 0) ∧ (k < i → t.balance = t.amount) := by
  induction h with
  | nil => exact ⟨0, by simp⟩
  | @cons t rows hfirst _ ih =>
      by_cases hsettled : t.balance.debt = 0
      · obtain ⟨k, hk⟩ := ih
        refine ⟨k + 1, ?_⟩
        rintro (_ | i) u hu
        · obtain rfl := Option.some.inj hu
          exact ⟨fun _ => hsettled, fun hlater => by omega⟩
        · obtain ⟨hbefore, hbehind⟩ := hk i u hu
          exact ⟨fun hi => hbefore (by omega), fun hi => hbehind (by omega)⟩
      · -- The first row still owes, so all behind it are untouched.
        refine ⟨0, ?_⟩
        rintro (_ | i) u hu
        · constructor <;> omega
        · refine ⟨by omega, fun _ => ?_⟩
          exact (hfirst u (List.mem_of_getElem? hu)).resolve_left hsettled

theorem balance_eq_zero_of_debt_eq_zero {s : Store} (hc : s.Conserved) {accountId : Int}
    {t : Transaction} (ht : t ∈ s.debits accountId) (hdebt : t.balance.debt = 0) :
    t.balance.minor = 0 := by
  obtain ⟨hown, hdebit⟩ := List.mem_filter.mp ht
  have hamount : 0 < t.amount.debt := (Money.isNegative_iff t.amount).mp hdebit
  obtain ⟨operationType, -, hfollows⟩ := hc.follows t (mem_bookings.mp hown).1
  rw [Money.debt] at hdebt hamount
  rcases hfollows with ⟨-, -, -, hhigh⟩ | ⟨-, hpositive, -, -⟩ <;> omega

end Store

/-- **Debts are paid off in order of age.** After every run whose stored clock readings do not
decrease, each account has a place in its queue of debits such that all in front of it are settled
and all behind it untouched. -/
theorem Ledger.run_fifo (calls : List Call) (accountId : Int)
    (hclock : (stamps (run calls (.opened .empty)).1).Pairwise (· ≤ ·)) :
    ∃ s, (run calls (.opened .empty)).2 = .opened s ∧
      ∃ k : Nat, ∀ (i : Nat) (t : Transaction), (s.debitsByAge accountId)[i]? = some t →
        (i < k → t.balance.minor = 0) ∧ (k < i → t.balance = t.amount) := by
  obtain ⟨answers, s, hsteps⟩ := Store.exists_steps calls Store.sound_empty
  rw [hsteps.run_eq] at hclock ⊢
  have hs : s.Sound := hsteps.sound Store.sound_empty
  have hc : s.Conserved := hsteps.conserved Store.conserved_empty
  have htimely : s.Timely accountId := hsteps.timely hclock accountId
  have hfifo : s.Timely accountId → s.Fifo accountId :=
    hsteps.invariant (P := fun s => s.Timely accountId → s.Fifo accountId)
      (fun hs h => Store.fifo_step hs h accountId) (fun _ => List.Pairwise.nil)
  obtain ⟨k, hk⟩ := Store.exists_place (hfifo htimely)
  refine ⟨s, rfl, k, fun i t ht => ?_⟩
  rw [Store.debitsByAge_eq hs htimely] at ht
  obtain ⟨hbefore, hbehind⟩ := hk i t ht
  refine ⟨fun hi => ?_, hbehind⟩
  exact Store.balance_eq_zero_of_debt_eq_zero hc (List.mem_of_getElem? ht) (hbefore hi)

/-- The clock may stand still: two debits of one moment are paid off in order of id. -/
theorem Ledger.run_fifo_partPayment :
    (stamps (run partPayment (.opened .empty)).1).Pairwise (· ≤ ·) ∧
      ∃ s, (run partPayment (.opened .empty)).2 = .opened s ∧
        ∃ k : Nat, ∀ (i : Nat) (t : Transaction), (s.debitsByAge 1)[i]? = some t →
          (i < k → t.balance.minor = 0) ∧ (k < i → t.balance = t.amount) := by
  have hclock : (stamps (run partPayment (.opened .empty)).1).Pairwise (· ≤ ·) := by
    obtain ⟨answers, s, hsteps⟩ := Store.exists_steps partPayment Store.sound_empty
    have hreadings : (partPayment.filterMap Call.now?).Pairwise (· ≤ ·) := by decide
    rw [hsteps.run_eq]
    exact hreadings.sublist hsteps.stamps_sublist
  exact ⟨hclock, run_fifo partPayment 1 hclock⟩

end Arrears
