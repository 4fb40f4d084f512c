import Arrears.Proofs.Discharge.ClosedForm
import Arrears.Proofs.Moment.Reading
import Arrears.Proofs.Store.Update
import Mathlib.Data.String.Basic

/-!
# Reading debits and writing balances

The two statements that a discharge makes: before it the open debits of an account are read, after it
their new balances are written.
-/

namespace Arrears

/-! ## The query for open debits

Stored order, by the text of the moment and then by id, is a linear order of all bookings, so the
query sorts what it selects.  From the year 0 to the year 9999 texts have the order of their moments,
so it is the order of age there (`Transaction.notAfter_eq`).
-/

namespace Transaction

variable {t u v : Transaction}

theorem notAfter_iff : t.notAfter u = true ↔ t.createdAt.text < u.createdAt.text ∨
    t.createdAt.text = u.createdAt.text ∧ t.id ≤ u.id := by
  simp only [notAfter, Bool.or_eq_true, Bool.and_eq_true, decide_eq_true_eq]

theorem notAfter_trans (t u v : Transaction) (htu : t.notAfter u = true)
    (huv : u.notAfter v = true) : t.notAfter v = true := by
  rw [notAfter_iff] at htu huv ⊢
  rcases htu with htu | ⟨htu, hids⟩
  · rcases huv with huv | ⟨huv, -⟩
    · exact Or.inl (htu.trans huv)
    · exact Or.inl (huv ▸ htu)
  · rcases huv with huv | ⟨huv, hids'⟩
    · exact Or.inl (htu ▸ huv)
    · exact Or.inr ⟨htu.trans huv, hids.trans hids'⟩

theorem notAfter_total (t u : Transaction) : (t.notAfter u || u.notAfter t) = true := by
  rw [Bool.or_eq_true, notAfter_iff, notAfter_iff]
  rcases lt_trichotomy t.createdAt.text u.createdAt.text with hlt | heq | hgt
  · exact Or.inl (Or.inl hlt)
  · rcases le_total t.id u.id with hids | hids
    · exact Or.inl (Or.inr ⟨heq, hids⟩)
    · exact Or.inr (Or.inr ⟨heq.symm, hids⟩)
  · exact Or.inr (Or.inl hgt)

/-- From the year 0 to the year 9999 stored order is the order of age. -/
theorem notAfter_eq (ht : t.createdAt.Regular) (hu : u.createdAt.Regular)
    (hyear : t.createdAt.InFourDigits) (hyear' : u.createdAt.InFourDigits) :
    t.notAfter u = t.toOpenDebit.notAfter u.toOpenDebit := by
  rw [Bool.eq_iff_iff, notAfter_iff, Moment.text_lt_iff ht hu hyear hyear', ht.text_inj hu]
  exact (OpenDebit.notAfter_iff_lt_or_eq t.toOpenDebit u.toOpenDebit).symm

end Transaction

namespace Store

theorem openDebits_pairwise (s : Store) (accountId : Int) :
    (s.openDebits accountId).Pairwise fun t u => t.notAfter u = true :=
  List.pairwise_mergeSort Transaction.notAfter_trans Transaction.notAfter_total _

theorem mem_transactions_of_mem_openDebits {s : Store} {accountId : Int} {t : Transaction}
    (h : t ∈ s.openDebits accountId) : t ∈ s.transactions :=
  (List.mem_filter.mp (List.mem_mergeSort.mp h)).1

theorem openDebits_inOrder {s : Store} (hstored : ∀ t ∈ s.transactions, t.createdAt.IsStored)
    (h : ∀ t ∈ s.transactions, t.createdAt.InFourDigits) (accountId : Int) :
    (s.openDebits accountId).Pairwise fun t u =>
      t.toOpenDebit.notAfter u.toOpenDebit = true := by
  refine (s.openDebits_pairwise accountId).imp_of_mem fun {t u} ht hu htu => ?_
  have ht := mem_transactions_of_mem_openDebits ht
  have hu := mem_transactions_of_mem_openDebits hu
  rwa [Transaction.notAfter_eq (hstored t ht).regular (hstored u hu).regular (h t ht) (h u hu)]
    at htu

/-- **The query for open debits.**  Take any table of bookings from the years 0 to 9999, in which
moments are stored as texts.  The query for an account gives just its bookings with a negative
balance, each as often as it is in the table.  They are ordered by the bytes of their moment in
writing and then by id, and this is by moment and then by id.  So a discharge has nothing left to
sort. -/
theorem openDebits_chronological {s : Store}
    (hstored : ∀ t ∈ s.transactions, t.createdAt.IsStored)
    (h : ∀ t ∈ s.transactions, t.createdAt.InFourDigits) (accountId : Int) :
    (s.openDebits accountId).Perm
        (s.transactions.filter fun t => t.accountId = accountId ∧ t.balance.minor < 0) ∧
      ((s.openDebits accountId).Pairwise fun t u =>
        Text.bytes t.createdAt.text < Text.bytes u.createdAt.text ∨
          t.createdAt.text = u.createdAt.text ∧ t.id ≤ u.id) ∧
      ((s.openDebits accountId).Pairwise fun t u => t.createdAt < u.createdAt ∨
        t.createdAt = u.createdAt ∧ t.id ≤ u.id) ∧
      OpenDebit.byAge ((s.openDebits accountId).map Transaction.toOpenDebit) =
        (s.openDebits accountId).map Transaction.toOpenDebit := by
  have hordered := openDebits_inOrder hstored h accountId
  refine ⟨?_, ?_, ?_, OpenDebit.byAge_eq_self (List.pairwise_map.mpr hordered)⟩
  · have hfilter : s.transactions.filter (fun t => t.accountId = accountId ∧ t.balance.minor < 0) =
        s.transactions.filter fun t => t.accountId = accountId && t.isOpen := by
      refine List.filter_congr fun t _ => ?_
      simp [Transaction.isOpen, Money.isNegative]
    rw [hfilter]
    exact List.mergeSort_perm _ _
  · simp only [Moment.bytes_text_lt_iff]
    exact (s.openDebits_pairwise accountId).imp fun {t u} htu => Transaction.notAfter_iff.mp htu
  · exact hordered.imp fun {t u} htu => (OpenDebit.notAfter_iff_lt_or_eq _ _).mp htu

/-- A debit of the account 1. -/
def debit (id : Int) (createdAt : Moment) : Transaction :=
  ⟨id, 1, 1, ⟨-830, by decide⟩, ⟨-830, by decide⟩, createdAt⟩

/-- Debits around the leap second at the end of 2016, a credit, and a debit of another account. -/
def newYear : Store :=
  ⟨[], [], [],
    [debit 1 (.ofSeconds 1483228800), debit 2 ⟨1483228799, 1500000000, by decide⟩,
      debit 3 (.ofNanoseconds 1483228799500000000), debit 4 (.ofNanoseconds 1483228799500000001),
      debit 5 (.ofSeconds 1483228799),
      ⟨6, 1, 4, ⟨830, by decide⟩, .zero, .ofSeconds 1483228799⟩,
      debit 7 (.ofNanoseconds 1483228799500000000),
      ⟨8, 2, 1, ⟨-830, by decide⟩, ⟨-830, by decide⟩, .ofSeconds 1483228799⟩]⟩

/-- The debits of the account 1 in order of age, with fractions of several lengths and two debits at
one moment. -/
def newYearDebits : List OpenDebit :=
  [⟨5, .ofSeconds 1483228799, ⟨-830, by decide⟩⟩,
    ⟨3, .ofNanoseconds 1483228799500000000, ⟨-830, by decide⟩⟩,
    ⟨7, .ofNanoseconds 1483228799500000000, ⟨-830, by decide⟩⟩,
    ⟨4, .ofNanoseconds 1483228799500000001, ⟨-830, by decide⟩⟩,
    ⟨2, ⟨1483228799, 1500000000, by decide⟩, ⟨-830, by decide⟩⟩,
    ⟨1, .ofSeconds 1483228800, ⟨-830, by decide⟩⟩]

/-- The query gives them in this order. -/
theorem openDebits_chronological_newYear :
    (∀ t ∈ newYear.transactions, t.createdAt.IsStored) ∧
      (∀ t ∈ newYear.transactions, t.createdAt.InFourDigits) ∧
      (newYear.openDebits 1).map Transaction.toOpenDebit = newYearDebits := by
  have hreadable : ∀ t ∈ newYear.transactions, t.createdAt.Readable := by decide +kernel
  have hstored : ∀ t ∈ newYear.transactions, t.createdAt.IsStored :=
    fun t ht => (hreadable t ht).isStored
  have hyears : ∀ t ∈ newYear.transactions, t.createdAt.InFourDigits := by decide +kernel
  obtain ⟨hperm, -, -, hsorted⟩ := openDebits_chronological hstored hyears 1
  have hdebits : newYearDebits.Perm ((newYear.openDebits 1).map Transaction.toOpenDebit) := by
    refine List.Perm.trans ?_ (hperm.map Transaction.toOpenDebit).symm
    decide +kernel
  refine ⟨hstored, hyears, ?_⟩
  calc
    (newYear.openDebits 1).map Transaction.toOpenDebit
        = OpenDebit.byAge ((newYear.openDebits 1).map Transaction.toOpenDebit) := hsorted.symm
    _ = OpenDebit.byAge newYearDebits := (OpenDebit.byAge_eq_of_perm (by decide) hdebits).symm
    _ = newYearDebits := OpenDebit.byAge_eq_self (by decide +kernel)

end Store

/-! ## Writing balances

Updates change nothing but balances, so whether an update means a booking does not depend on the
updates in front of it.  Up to the first that means none they are one map over the table.
-/

namespace Store

variable {accountId : Int} {update : BalanceUpdate} {updates front back : List BalanceUpdate}
  {rows : List Transaction} {s : Store}

/-- The update means a booking of the account. -/
def Meant (accountId : Int) (rows : List Transaction) (update : BalanceUpdate) : Prop :=
  ∃ t ∈ rows, t.id = update.transactionId ∧ t.accountId = accountId

theorem any_concerns_iff :
    rows.any (concerns accountId update) = true ↔ Meant accountId rows update := by
  simp only [List.any_eq_true, concerns, Bool.and_eq_true, decide_eq_true_eq, Meant]

/-- The store after updates of an account: of those for one booking the last one counts. -/
def rebalance (s : Store) (accountId : Int) (updates : List BalanceUpdate) : Store :=
  { s with transactions := s.transactions.map (updated accountId updates.reverse) }

theorem bookings_rebalance_of_ne {other : Int} (hne : other ≠ accountId) (s : Store)
    (updates : List BalanceUpdate) :
    (s.rebalance accountId updates).bookings other = s.bookings other := by
  have hsame : ∀ t ∈ s.bookings other, updated accountId updates.reverse t = t := by
    intro t ht
    refine updated_of_accountId_ne ?_ _
    rw [(mem_bookings.mp ht).2]
    exact hne
  calc
    (s.rebalance accountId updates).bookings other
        = (s.bookings other).map (updated accountId updates.reverse) := by
      rw [bookings, rebalance, List.filter_map, bookings]
      simp only [Function.comp_def, updated_accountId]
    _ = s.bookings other := (List.map_congr_left hsame).trans (List.map_id' _)

/-! ### How writing ends -/

theorem any_concerns_rebalance (s : Store) (accountId : Int) (updates : List BalanceUpdate)
    (update : BalanceUpdate) :
    (s.rebalance accountId updates).transactions.any (concerns accountId update) =
      s.transactions.any (concerns accountId update) := by
  rw [rebalance, List.any_map]
  simp only [Function.comp_def, concerns_updated]

theorem updateAll_append_eq_rebalance
    (h : ∀ update ∈ front, Meant accountId s.transactions update) (back : List BalanceUpdate) :
    updateAll accountId (front ++ back) s.transactions =
      updateAll accountId back (s.rebalance accountId front).transactions := by
  rw [updateAll_append (fun update hupdate => any_concerns_iff.mpr (h update hupdate)), rebalance]
  simp only [foldl_rewrite_eq_updated_reverse]

theorem writeBalances_of_meant (h : ∀ update ∈ updates, Meant accountId s.transactions update) :
    s.writeBalances accountId updates = (.ok (), s.rebalance accountId updates) := by
  have hall := updateAll_append_eq_rebalance h []
  rw [List.append_nil, updateAll] at hall
  rw [writeBalances, hall]
  rfl

theorem writeBalances_of_not_meant (h : ∀ update ∈ front, Meant accountId s.transactions update)
    (hnot : ¬Meant accountId s.transactions update) (back : List BalanceUpdate) :
    s.writeBalances accountId (front ++ update :: back) =
      (refuse (.notFound .transaction update.transactionId), s.rebalance accountId front) := by
  rw [← any_concerns_iff, ← any_concerns_rebalance s accountId front] at hnot
  rw [writeBalances, updateAll_append_eq_rebalance h, updateAll, if_neg hnot]
  rfl

/-- Among updates that do not all mean a booking there is a first that means none. -/
theorem exists_first_not_meant (h : ¬∀ update ∈ updates, Meant accountId rows update) :
    ∃ front update back, updates = front ++ update :: back ∧
      (∀ other ∈ front, Meant accountId rows other) ∧ ¬Meant accountId rows update := by
  cases hfind : updates.find? fun update => !rows.any (concerns accountId update) with
  | none =>
      refine absurd (fun update hupdate => any_concerns_iff.mp ?_) h
      simpa using List.find?_eq_none.mp hfind update hupdate
  | some update =>
      obtain ⟨hnot, front, back, hsplit, hfront⟩ := List.find?_eq_some_iff_append.mp hfind
      refine ⟨front, update, back, hsplit, fun other hother => any_concerns_iff.mp ?_, ?_⟩
      · simpa using hfront other hother
      · rw [← any_concerns_iff]
        simpa using hnot

/-! ### On a database -/

theorem database_writeBalances (accountId : Int) (updates : List BalanceUpdate) (s : Store) :
    Database.writeBalances accountId updates (.opened s) =
      ((s.writeBalances accountId updates).1, .opened (s.writeBalances accountId updates).2) := by
  cases updates <;> rfl

theorem commit_applyUpdates (accountId : Int) (updates : List BalanceUpdate) (s : Store) :
    Database.commit (applyUpdates accountId updates) (.opened s) =
      match s.writeBalances accountId updates with
      | (.ok (), s') => (.ok (), .opened s')
      | (.error failure, _) => (.error failure, .opened s) := by
  rw [Database.commit, Database.perform, applyUpdates]
  obtain ⟨result, s'⟩ := s.writeBalances accountId updates
  cases result <;> rfl

theorem rollback_applyUpdates (accountId : Int) (updates : List BalanceUpdate) (s : Store) :
    Database.rollback (applyUpdates accountId updates) (.opened s) =
      ((s.writeBalances accountId updates).1, .opened s) := by
  rw [Database.rollback, commit_applyUpdates]
  obtain ⟨result, s'⟩ := s.writeBalances accountId updates
  cases result <;> rfl

/-- **Writing balances.**  Updates of an account are written if and only if each of them means a
booking of the account.  Then each booking that they mean has the balance of the last update for it,
and nothing else has changed.  Otherwise the first update that means none is refused as a
transaction that is not found.  Statement by statement, the updates in front of it have been
written; in a unit of work, and in any that is rolled back, nothing has.  Either way the bookings
of other accounts are as they were. -/
theorem writeBalances_effect (s : Store) (accountId : Int) (updates : List BalanceUpdate) :
    ((Database.writeBalances accountId updates (.opened s)).1 = .ok () ↔
        ∀ update ∈ updates, Meant accountId s.transactions update) ∧
      ((∀ update ∈ updates, Meant accountId s.transactions update) →
        Database.writeBalances accountId updates (.opened s) =
            (.ok (), .opened (s.rebalance accountId updates)) ∧
          Database.commit (applyUpdates accountId updates) (.opened s) =
            (.ok (), .opened (s.rebalance accountId updates)) ∧
          Database.rollback (applyUpdates accountId updates) (.opened s) = (.ok (), .opened s)) ∧
      ((¬∀ update ∈ updates, Meant accountId s.transactions update) →
        ∃ front update back, updates = front ++ update :: back ∧
          (∀ other ∈ front, Meant accountId s.transactions other) ∧
          ¬Meant accountId s.transactions update ∧
          Database.writeBalances accountId updates (.opened s) =
            (refuse (.notFound .transaction update.transactionId),
              .opened (s.rebalance accountId front)) ∧
          Database.commit (applyUpdates accountId updates) (.opened s) =
            (refuse (.notFound .transaction update.transactionId), .opened s) ∧
          Database.rollback (applyUpdates accountId updates) (.opened s) =
            (refuse (.notFound .transaction update.transactionId), .opened s)) ∧
      ∃ s', (Database.writeBalances accountId updates (.opened s)).2 = .opened s' ∧
        ∀ other, other ≠ accountId → s'.bookings other = s.bookings other := by
  rw [database_writeBalances, commit_applyUpdates, rollback_applyUpdates]
  by_cases h : ∀ update ∈ updates, Meant accountId s.transactions update
  · rw [writeBalances_of_meant h]
    refine ⟨iff_of_true rfl h, fun _ => ⟨rfl, rfl, rfl⟩, fun hnot => absurd h hnot,
      _, rfl, ?_⟩
    exact fun other hother => bookings_rebalance_of_ne hother s updates
  · obtain ⟨front, update, back, rfl, hfront, hnot⟩ := exists_first_not_meant h
    rw [writeBalances_of_not_meant hfront hnot]
    refine ⟨iff_of_false (by simp [refuse]) h, fun hall => absurd hall h,
      fun _ => ⟨front, update, back, rfl, hfront, hnot, rfl, rfl, rfl⟩, _, rfl, ?_⟩
    exact fun other hother => bookings_rebalance_of_ne hother s front

end Store

end Arrears
