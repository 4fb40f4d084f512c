import Arrears.Proofs.Ledger.Conservation

/-!
# A ledger forgets nothing

What a ledger has stored stays as it is, with one exception: the balance of a debit may move up to
zero, and it does so only when a credit is booked on the same account.

**Relation.** `Kept` says this of two stores and of the answers that were given in between.  Every
step of a run makes such a change, and such changes compose.  For a posting this rests on the
bounds of `Conserved`: a credit reaches all bookings of its account, but those that are credits
themselves owe nothing.
-/

namespace Arrears

/-- The failure that an answer reports. -/
def Answer.failure? : Answer → Option Failure
  | .seeded (.error failure) => some failure
  | .opened (.error failure) => some failure
  | .posted (.error failure) => some failure
  | _ => none

/-! ## Calls that fail -/

theorem Database.commit_of_error {α : Type} {work : Work α} {db : Database} {failure : Failure}
    (h : (db.commit work).1 = .error failure) : (db.commit work).2 = db := by
  cases db with
  | closed => rfl
  | opened s =>
      simp only [commit, perform] at h ⊢
      cases hwork : work s with
      | error other => rfl
      | ok result =>
          simp only [hwork] at h
          cases h
  | sealed s => rfl

namespace Ledger

theorem createAccount_of_error {now : Moment} {request : NewAccount} {db : Database}
    {failure : Failure} (h : (createAccount now request db).1 = .error failure) :
    (createAccount now request db).2 = db := by
  rw [createAccount] at h ⊢
  cases hcheck : request.check with
  | error cause => rfl
  | ok document =>
      simp only [hcheck] at h ⊢
      exact Database.commit_of_error h

theorem post_of_error {now : Moment} {request : NewTransaction} {db : Database}
    {failure : Failure} (h : (post now request db).1 = .error failure) :
    (post now request db).2 = db := by
  rw [post] at h ⊢
  cases hcheck : request.check with
  | error cause => rfl
  | ok =>
      simp only [hcheck] at h ⊢
      exact Database.commit_of_error h

theorem answer_of_failure {call : Call} {db : Database} {failure : Failure}
    (h : (answer call db).1.failure? = some failure) : (answer call db).2 = db := by
  cases call with
  | seed reference =>
      rw [answer, Prod.map_fst] at h
      rw [answer, Prod.map_snd, id_eq]
      cases hresult : (reference.seed db).1 with
      | error other => exact Database.commit_of_error hresult
      | ok n => simp [hresult, Answer.failure?] at h
  | openAccount now request =>
      rw [answer, Prod.map_fst] at h
      rw [answer, Prod.map_snd, id_eq]
      cases hresult : (createAccount now request db).1 with
      | error other => exact createAccount_of_error hresult
      | ok account => simp [hresult, Answer.failure?] at h
  | post now request =>
      rw [answer, Prod.map_fst] at h
      rw [answer, Prod.map_snd, id_eq]
      cases hresult : (post now request db).1 with
      | error other => exact post_of_error hresult
      | ok t => simp [hresult, Answer.failure?] at h

theorem run_append (calls more : List Call) (db : Database) :
    run (calls ++ more) db =
      ((run calls db).1 ++ (run more (run calls db).2).1, (run more (run calls db).2).2) := by
  induction calls generalizing db with
  | nil => rfl
  | cons call calls ih =>
      rw [List.cons_append, run, ih, run]
      rfl

end Ledger

/-! ## What may become of a booking -/

/-- A balance that a booking may come to have: a credit keeps its own, and that of a debit may have
moved up to zero. -/
def Transaction.MayReach (t : Transaction) (balance : Money) : Prop :=
  0 < t.amount.minor ∧ balance = t.balance ∨
    t.amount.minor < 0 ∧ t.balance ≤ balance ∧ balance ≤ Money.zero

namespace Store

/-- Discharging a booking within its bounds moves it up to zero at most. -/
theorem mayReach_raised {t : Transaction} {operationType : OperationType}
    (h : t.Follows operationType) (credit : Nat) : t.MayReach (t.balance.raised credit) := by
  rcases h with ⟨-, hamount, -, hhigh⟩ | ⟨-, hamount, hlow, -⟩
  · right
    refine ⟨hamount, ?_, ?_⟩
    · show t.balance.minor ≤ (t.balance.raised credit).minor
      rw [Money.raised_minor]
      omega
    · show (t.balance.raised credit).minor ≤ 0
      rw [Money.raised_minor]
      omega
  · left
    refine ⟨hamount, Money.raised_of_debt_eq_zero ?_ credit⟩
    rw [Money.debt]
    omega

theorem mayReach_trans {t : Transaction} {balance later : Money} (h : t.MayReach balance)
    (h' : { t with balance := balance : Transaction }.MayReach later) : t.MayReach later := by
  rcases h with ⟨hcredit, rfl⟩ | ⟨hdebit, hlow, -⟩
  · exact h'
  · rcases h' with ⟨hcredit, -⟩ | ⟨-, hlow', hhigh⟩
    · exact absurd hcredit (Int.not_lt.mpr (Int.le_of_lt hdebit))
    · exact Or.inr ⟨hdebit, Int.le_trans hlow hlow', hhigh⟩

/-- The answer books a credit on an account. -/
def IsCredit (s : Store) (accountId : Int) (answer : Answer) : Prop :=
  ∃ credit operationType, answer = .posted (.ok credit) ∧ credit.accountId = accountId ∧
    s.operationType? credit.operationTypeId = some operationType ∧
    operationType.behavior = "CREDIT"

variable {s s' s'' : Store} {answers later : List Answer}

theorem operationType?_mono (h : s.operationTypes <+: s'.operationTypes) {id : Int}
    {operationType : OperationType} (hfound : s.operationType? id = some operationType) :
    s'.operationType? id = some operationType :=
  h.find?_eq_some hfound

theorem IsCredit.mono (h : s.operationTypes <+: s'.operationTypes) {accountId : Int}
    {answer : Answer} (hcredit : s.IsCredit accountId answer) : s'.IsCredit accountId answer := by
  obtain ⟨credit, operationType, hanswer, hown, htype, hbehavior⟩ := hcredit
  exact ⟨credit, operationType, hanswer, hown, operationType?_mono h htype, hbehavior⟩

/-! ## What is kept -/

/-- The later store has all records of the earlier one, bookings with a balance that they may
reach; the answers in between account for every balance that has changed. -/
structure Kept (s : Store) (answers : List Answer) (s' : Store) : Prop where
  users : s.users <+: s'.users
  operationTypes : s.operationTypes <+: s'.operationTypes
  accounts : s.accounts <+: s'.accounts
  bookings : ∀ t ∈ s.transactions, ∃ balance, { t with balance := balance } ∈ s'.transactions ∧
    t.MayReach balance ∧
    (balance ≠ t.balance → ∃ answer ∈ answers, s'.IsCredit t.accountId answer)

/-- Where no booking changes, it is enough that the other tables grow. -/
theorem Kept.of_transactions_eq (hc : s.Conserved) (answers : List Answer)
    (htransactions : s'.transactions = s.transactions) (husers : s.users <+: s'.users)
    (htypes : s.operationTypes <+: s'.operationTypes) (haccounts : s.accounts <+: s'.accounts) :
    Kept s answers s' where
  users := husers
  operationTypes := htypes
  accounts := haccounts
  bookings := by
    intro t ht
    obtain ⟨operationType, -, hfollows⟩ := hc.follows t ht
    refine ⟨t.balance, by rw [htransactions]; exact ht, ?_, fun hne => absurd rfl hne⟩
    simpa using mayReach_raised hfollows 0

theorem Kept.trans (h : Kept s answers s') (h' : Kept s' later s'') :
    Kept s (answers ++ later) s'' where
  users := h.users.trans h'.users
  operationTypes := h.operationTypes.trans h'.operationTypes
  accounts := h.accounts.trans h'.accounts
  bookings := by
    intro t ht
    obtain ⟨balance, hmem, hreach, hcredit⟩ := h.bookings t ht
    obtain ⟨balance', hmem', hreach', hcredit'⟩ := h'.bookings _ hmem
    refine ⟨balance', hmem', mayReach_trans hreach hreach', fun hne => ?_⟩
    by_cases heq : balance' = balance
    · rw [heq] at hne
      obtain ⟨answer, hanswer, hbooks⟩ := hcredit hne
      exact ⟨answer, List.mem_append_left _ hanswer, hbooks.mono h'.operationTypes⟩
    · obtain ⟨answer, hanswer, hbooks⟩ := hcredit' heq
      exact ⟨answer, List.mem_append_right _ hanswer, hbooks⟩

/-- A booking is still there after a posting, and only a credit on its account has raised it. -/
theorem exists_mem_booked {t : Transaction} (ht : t ∈ s.transactions) (behavior : Behavior)
    (now : Moment) (request : NewTransaction) (id : Int) :
    ∃ credit, { t with balance := t.balance.raised credit } ∈
        (s.booked behavior now request id).transactions ∧
      (credit ≠ 0 → behavior = .credit ∧ request.accountId = t.accountId) := by
  rw [booked_transactions]
  cases behavior with
  | debit =>
      refine ⟨0, List.mem_append_left _ ?_, fun h => absurd rfl h⟩
      rw [Money.raised_zero]
      exact ht
  | credit =>
      by_cases hown : t.accountId = request.accountId
      · refine ⟨request.amount.minor.toNat -
          OpenDebit.owedBefore (s.debts request.accountId) t.toOpenDebit, ?_,
          fun _ => ⟨rfl, hown.symm⟩⟩
        refine List.mem_append_left _ (List.mem_map.mpr ⟨t, ht, ?_⟩)
        rw [if_pos hown]
        rfl
      · refine ⟨0, ?_, fun h => absurd rfl h⟩
        refine List.mem_append_left _ (List.mem_map.mpr ⟨t, ht, ?_⟩)
        rw [if_neg hown, Money.raised_zero]

theorem Step.kept {call : Call} {answer : Answer} (h : Step s call answer s')
    (hc : s.Conserved) : Kept s [answer] s' := by
  cases h with
  | refused =>
      exact .of_transactions_eq hc _ rfl List.prefix_rfl List.prefix_rfl List.prefix_rfl
  | seeded hmerge =>
      exact .of_transactions_eq hc _ rfl (Reference.prefix_mergeUsers _ _)
        (Reference.prefix_mergeOperationTypes hmerge) List.prefix_rfl
  | opened =>
      exact .of_transactions_eq hc _ rfl List.prefix_rfl List.prefix_rfl (List.prefix_append _ _)
  | @booked now request operationType behavior id hpos haccount htype hbehavior hid =>
      refine ⟨by simp, by simp, by simp, fun t ht => ?_⟩
      obtain ⟨found, -, hfollows⟩ := hc.follows t ht
      obtain ⟨credit, hmem, hcredit⟩ := exists_mem_booked ht behavior now request id
      refine ⟨_, hmem, mayReach_raised hfollows credit, fun hne => ?_⟩
      have hsome : credit ≠ 0 := by
        rintro rfl
        exact hne (Money.raised_zero _)
      obtain ⟨rfl, hown⟩ := hcredit hsome
      refine ⟨_, List.mem_singleton_self _, _, operationType, rfl, hown, ?_, hbehavior⟩
      rw [operationType?, booked_operationTypes]
      exact htype

theorem Steps.kept {calls : List Call} (h : Steps s calls answers s') (hc : s.Conserved) :
    Kept s answers s' := by
  induction h with
  | nil => exact .of_transactions_eq hc _ rfl List.prefix_rfl List.prefix_rfl List.prefix_rfl
  | cons hs hstep _ ih => exact (hstep.kept hc).trans (ih (hc.step hs hstep))

theorem Sound.transaction?_eq (hs : s.Sound) {t : Transaction} (ht : t ∈ s.transactions) :
    s.transaction? t.id = some t := by
  obtain ⟨found, hfound⟩ : ∃ found, s.transaction? t.id = some found :=
    Option.isSome_iff_exists.mp (List.find?_isSome.mpr ⟨t, ht, by simp⟩)
  have hid : found.id = t.id := by simpa using List.find?_some hfound
  rw [hfound, List.inj_on_of_nodup_map hs.nodup (List.mem_of_find?_eq_some hfound) ht hid]

end Store

/-- **A ledger forgets nothing.**  Between any two points of a run from the empty store, users,
operation types and accounts stay in their places.  Every booking is found under its id with all
its fields but the balance, which stays if the booking is a credit; that of a debit never
decreases, is never positive, and differs only if a credit was booked on the account in between.
And a call that fails leaves the database as it was. -/
theorem Ledger.run_append_only (calls more : List Call) :
    ∃ s s', (run calls (.opened .empty)).2 = .opened s ∧
      (run (calls ++ more) (.opened .empty)).2 = .opened s' ∧
      s.users <+: s'.users ∧ s.operationTypes <+: s'.operationTypes ∧
      s.accounts <+: s'.accounts ∧
      (∀ t ∈ s.transactions, ∃ balance,
        s'.transaction? t.id = some { t with balance := balance } ∧
          (0 < t.amount.minor ∧ balance = t.balance ∨
            t.amount.minor < 0 ∧ t.balance ≤ balance ∧ balance ≤ Money.zero) ∧
          (balance ≠ t.balance → ∃ credit operationType,
            Answer.posted (.ok credit) ∈ (run more (.opened s)).1 ∧
              credit.accountId = t.accountId ∧
              s'.operationType? credit.operationTypeId = some operationType ∧
              operationType.behavior = "CREDIT")) ∧
      ∀ (call : Call) (db : Database) (failure : Failure),
        (answer call db).1.failure? = some failure → (answer call db).2 = db := by
  obtain ⟨answers, s, hsteps⟩ := Store.exists_steps calls Store.sound_empty
  have hs : s.Sound := hsteps.sound Store.sound_empty
  have hc : s.Conserved := hsteps.conserved Store.conserved_empty
  obtain ⟨later, s', hlater⟩ := Store.exists_steps more hs
  have hs' : s'.Sound := hlater.sound hs
  have hkept : Store.Kept s later s' := hlater.kept hc
  refine ⟨s, s', by rw [hsteps.run_eq], ?_, hkept.users, hkept.operationTypes, hkept.accounts,
    fun t ht => ?_, fun call db failure h => answer_of_failure h⟩
  · rw [run_append, hsteps.run_eq, hlater.run_eq]
  · obtain ⟨balance, hmem, hreach, hcredit⟩ := hkept.bookings t ht
    refine ⟨balance, hs'.transaction?_eq hmem, hreach, fun hne => ?_⟩
    obtain ⟨answer, hanswer, credit, operationType, rfl, hown, htype, hbehavior⟩ := hcredit hne
    rw [hlater.run_eq]
    exact ⟨credit, operationType, hanswer, hown, htype, hbehavior⟩

end Arrears
