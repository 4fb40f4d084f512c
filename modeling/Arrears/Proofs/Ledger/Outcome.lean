import Arrears.Proofs.Ledger.History
import Arrears.Proofs.Text.Words

/-!
# How calls end

In a store that a ledger has made, the further faults of the store and the overflows of the
arithmetic are not reached.  What is left are the refusals, in the order in which they are checked.
-/

namespace Arrears

/-! ## Postings

A sound store holds readable behaviors only and no balance of the least amount, so the calculation of
a posting succeeds, and so do the updates that it leads to.
-/

namespace Store

variable {s : Store} {now : Moment} {request : NewTransaction}

/-- What a settlement has discharged is worked out without an overflow. -/
theorem exists_discharged (hs : s.Sound) (accountId : Int) {amount : Money}
    (hamount : 0 ≤ amount.minor) :
    ∃ settlement paid, s.settle .credit accountId amount = .ok settlement ∧
      settlement.discharged amount = .ok paid := by
  obtain ⟨paid, hpaid, -⟩ :=
    Money.subtract_less hamount (OpenDebit.owed (s.debts accountId))
  exact ⟨_, paid, settle_credit hamount hs.least_lt, hpaid⟩

/-- Nothing but its request and missing records can keep a posting from being booked. -/
theorem exists_booking (hs : s.Sound) (hroom : ∀ t ∈ s.transactions, t.id < Word.greatest)
    (hpos : 0 < request.amount.minor)
    (haccount : (s.account? request.accountId).isSome = true)
    (htype : (s.operationType? request.operationTypeId).isSome = true) (now : Moment) :
    ∃ t, (Ledger.post now request (.opened s)).1 = .ok t := by
  obtain ⟨operationType, htype⟩ := Option.isSome_iff_exists.mp htype
  obtain ⟨behavior, hbehavior⟩ := hs.readable htype
  have hids : ∀ id ∈ s.transactions.map (·.id), id < Word.greatest :=
    List.forall_mem_map.mpr hroom
  obtain ⟨id, hid⟩ := exists_nextId hids
  rw [Ledger.post_eq_booked hs.nodup hs.least_lt hpos haccount htype hbehavior, hid]
  exact ⟨_, rfl⟩

end Store

/-- **How a posting ends.** After every run that has not used up the ids of bookings, a posting is
refused for its amount exactly if the amount is not positive, otherwise for its account exactly if
the account is not stored, otherwise for its operation type exactly if that is not stored, and
otherwise it is booked.  It fails in no other way, and what a credit has discharged can be told. -/
theorem Ledger.run_post_outcome (calls : List Call) (now : Moment) (request : NewTransaction)
    {s : Store} (hrun : (run calls (.opened .empty)).2 = .opened s)
    (hroom : ∀ t ∈ s.transactions, t.id < Word.greatest) :
    ((∃ cause, (post now request (.opened s)).1 = refuse (.validation cause)) ↔
        request.amount.minor ≤ 0) ∧
      ((post now request (.opened s)).1 = refuse (.notFound .account request.accountId) ↔
        0 < request.amount.minor ∧ s.account? request.accountId = none) ∧
      ((post now request (.opened s)).1 =
          refuse (.notFound .operationType request.operationTypeId) ↔
        0 < request.amount.minor ∧ (s.account? request.accountId).isSome = true ∧
          s.operationType? request.operationTypeId = none) ∧
      ((∃ t, (post now request (.opened s)).1 = .ok t) ↔
        0 < request.amount.minor ∧ (s.account? request.accountId).isSome = true ∧
          (s.operationType? request.operationTypeId).isSome = true) ∧
      (∀ failure, (post now request (.opened s)).1 = .error failure →
        (∃ cause, failure = .refused (.validation cause)) ∨
          failure = .refused (.notFound .account request.accountId) ∨
          failure = .refused (.notFound .operationType request.operationTypeId)) ∧
      (0 < request.amount.minor →
        ∃ settlement paid, s.settle .credit request.accountId request.amount = .ok settlement ∧
          settlement.discharged request.amount = .ok paid) := by
  have hs : s.Sound := Store.sound_of_run hrun
  have hdischarged : 0 < request.amount.minor →
      ∃ settlement paid, s.settle .credit request.accountId request.amount = .ok settlement ∧
        settlement.discharged request.amount = .ok paid :=
    fun hpos => Store.exists_discharged hs request.accountId (Int.le_of_lt hpos)
  by_cases hpos : 0 < request.amount.minor
  · have hvalid : ¬ request.amount.minor ≤ 0 := by omega
    cases haccount : s.account? request.accountId with
    | none =>
        rw [post_of_account?_eq_none hpos haccount]
        simpa [refuse, hpos, hvalid] using hdischarged
    | some account =>
        have haccount' : (s.account? request.accountId).isSome = true :=
          Option.isSome_of_eq_some haccount
        cases htype : s.operationType? request.operationTypeId with
        | none =>
            rw [post_of_operationType?_eq_none hpos haccount' htype]
            simpa [refuse, hpos, hvalid] using hdischarged
        | some operationType =>
            have htype' : (s.operationType? request.operationTypeId).isSome = true :=
              Option.isSome_of_eq_some htype
            obtain ⟨t, ht⟩ := Store.exists_booking hs hroom hpos haccount' htype' now
            rw [ht]
            simpa [refuse, hpos, hvalid] using hdischarged
  · have hinvalid : request.amount.minor ≤ 0 := by omega
    rw [post_of_not_pos hpos]
    simp [refuse, hpos, hinvalid]

/-- With two debits open, a credit that exceeds them is booked, the least amount of all is refused,
and so is an operation type that is not stored. -/
theorem Ledger.run_post_outcome_partPayment :
    ∃ s, (run (partPayment.take 6) (.opened .empty)).2 = .opened s ∧
      (∀ t ∈ s.transactions, t.id < Word.greatest) ∧
      (∃ t, (post (.ofSeconds 210) ⟨1, 4, ⟨8000, by decide⟩⟩ (.opened s)).1 = .ok t) ∧
      (∃ cause, (post (.ofSeconds 210) ⟨1, 4, ⟨Word.least, by decide⟩⟩ (.opened s)).1 =
        refuse (.validation cause)) ∧
      (post (.ofSeconds 210) ⟨1, 9, ⟨8000, by decide⟩⟩ (.opened s)).1 =
        refuse (.notFound .operationType 9) := by
  obtain ⟨answers, s, hsteps⟩ := Store.exists_steps (partPayment.take 6) Store.sound_empty
  have hrun : (run (partPayment.take 6) (.opened .empty)).2 = .opened s := by
    rw [hsteps.run_eq]
  have hfound : (run (partPayment.take 6) (.opened .empty)).2.query (fun s =>
      .ok (s.transactions.map (·.id), (s.account? 1).isSome, (s.operationType? 4).isSome,
        (s.operationType? 9).isNone)) = .ok ([1, 2, 3], true, true, true) :=
    rfl
  rw [hrun] at hfound
  simp only [Database.query, Except.ok.injEq, Prod.mk.injEq, Option.isNone_iff_eq_none] at hfound
  obtain ⟨hids, haccount, htype, hnone⟩ := hfound
  have hroom : ∀ t ∈ s.transactions, t.id < Word.greatest := by
    intro t ht
    have hmem : t.id ∈ s.transactions.map (·.id) := List.mem_map_of_mem ht
    have hall : ∀ id ∈ ([1, 2, 3] : List Int), id < Word.greatest := by decide
    rw [hids] at hmem
    exact hall t.id hmem
  refine ⟨s, hrun, hroom, ?_, ?_, ?_⟩
  · have h := run_post_outcome _ (.ofSeconds 210) ⟨1, 4, ⟨8000, by decide⟩⟩ hrun hroom
    exact h.2.2.2.1.mpr ⟨by decide, haccount, htype⟩
  · have h := run_post_outcome _ (.ofSeconds 210) ⟨1, 4, ⟨Word.least, by decide⟩⟩ hrun hroom
    exact h.1.mpr (by decide)
  · have h := run_post_outcome _ (.ofSeconds 210) ⟨1, 9, ⟨8000, by decide⟩⟩ hrun hroom
    exact h.2.2.1.mpr ⟨by decide, haccount, hnone⟩

/-! ## Openings

The request is trimmed before anything is asked of the store, so the document numbers that are
compared are all trimmed.  Ids are given out one after the other, so they last as long as the accounts
can be counted.
-/

/-! ### Requests -/

namespace NewAccount

variable {request : NewAccount} {document : String}

/-- The request makes sense by itself. -/
def Valid (request : NewAccount) : Prop :=
  Text.trim request.document ≠ "" ∧ 0 < request.balance.minor

theorem check_of_valid (h : request.Valid) :
    request.check = .ok (Text.trim request.document) := by
  have hpositive : request.balance.isPositive = true := (Money.isPositive_iff _).mpr h.2
  simp [check, h.1, hpositive]

theorem check_of_not_valid (h : ¬ request.Valid) : ∃ cause, request.check = .error cause := by
  rw [check]
  split
  · exact ⟨_, rfl⟩
  · next hdocument =>
      split
      · exact ⟨_, rfl⟩
      · next hbalance =>
          have hpos : 0 < request.balance.minor := by
            simpa [Money.isPositive_iff] using hbalance
          exact absurd ⟨hdocument, hpos⟩ h

theorem valid_of_check (h : request.check = .ok document) :
    request.Valid ∧ document = Text.trim request.document := by
  by_cases hvalid : request.Valid
  · rw [check_of_valid hvalid] at h
    exact ⟨hvalid, (Except.ok.inj h).symm⟩
  · obtain ⟨cause, hcause⟩ := check_of_not_valid hvalid
    rw [hcause] at h
    cases h

end NewAccount

namespace Store

variable {s s' : Store}

/-! ### Registered accounts -/

/-- What holds of an account by itself and of its user. -/
structure Owns (s : Store) (account : Account) : Prop where
  named : account.document ≠ ""
  trimmed : Text.IsTrimmed account.document.toList
  funded : 0 < account.currentBalance.minor
  owned : (s.user? account.userId).isSome = true

theorem Owns.mono {account : Account} (h : s.Owns account) (husers : s.users <+: s'.users) :
    s'.Owns account where
  named := h.named
  trimmed := h.trimmed
  funded := h.funded
  owned := by
    obtain ⟨user, huser⟩ := Option.isSome_iff_exists.mp h.owned
    exact Option.isSome_of_eq_some (husers.find?_eq_some huser)

theorem owns_of_check {request : NewAccount} {document : String} (id : Int) (now : Moment)
    (hcheck : request.check = .ok document) (huser : (s.user? request.userId).isSome = true) :
    s.Owns ⟨id, document, request.balance, request.userId, now⟩ := by
  obtain ⟨⟨hdocument, hbalance⟩, rfl⟩ := NewAccount.valid_of_check hcheck
  refine ⟨hdocument, ?_, hbalance, huser⟩
  rw [Text.toList_trim]
  exact Text.isTrimmed_trimmed _

/-- What holds of all accounts of a store. -/
structure Registered (s : Store) : Prop where
  distinct : (s.accounts.map (·.document)).Nodup
  owns : ∀ account ∈ s.accounts, s.Owns account
  /-- Ids have been given out without a gap. -/
  numbered : largestId (s.accounts.map (·.id)) = s.accounts.length

theorem registered_empty : empty.Registered where
  distinct := List.nodup_nil
  owns := by simp [empty]
  numbered := rfl

theorem Registered.merged (hr : s.Registered) (reference : Reference)
    (operationTypes : List OperationType) : (s.merged reference operationTypes).Registered where
  distinct := hr.distinct
  owns := fun account haccount =>
    (hr.owns account haccount).mono (Reference.prefix_mergeUsers _ _)
  numbered := hr.numbered

theorem Registered.withAccount (hr : s.Registered) {account : Account} (howns : s.Owns account)
    (hid : nextId (s.accounts.map (·.id)) = .ok account.id)
    (hnew : ∀ other ∈ s.accounts, other.document ≠ account.document) :
    (s.withAccount account).Registered where
  distinct := by
    rw [Store.withAccount, List.map_append, List.nodup_append]
    refine ⟨hr.distinct, List.nodup_singleton _, ?_⟩
    intro document hdocument other hother
    obtain ⟨stored, hstored, rfl⟩ := List.mem_map.mp hdocument
    rw [List.mem_singleton.mp hother]
    exact hnew stored hstored
  owns := by
    intro other hother
    rcases List.mem_append.mp hother with hold | hlast
    · exact (hr.owns other hold).mono List.prefix_rfl
    · rw [List.mem_singleton.mp hlast]
      exact howns.mono List.prefix_rfl
  numbered := by
    have hlast : account.id = s.accounts.length + 1 := by
      rw [eq_of_nextId hid, hr.numbered]
    rw [Store.withAccount, List.map_append, List.map_singleton, largestId_append_nextId hid, hlast]
    simp

theorem Registered.step {call : Call} {answer : Answer} (hr : s.Registered)
    (h : Step s call answer s') : s'.Registered := by
  cases h with
  | refused => exact hr
  | seeded => exact hr.merged _ _
  | opened hcheck huser hid hnew => exact hr.withAccount (owns_of_check _ _ hcheck huser) hid hnew
  | booked =>
      refine ⟨by simpa using hr.distinct, fun account haccount => ?_, by simpa using hr.numbered⟩
      rw [booked_accounts] at haccount
      exact (hr.owns account haccount).mono (by simp)

theorem Steps.registered {calls : List Call} {answers : List Answer}
    (h : Steps s calls answers s') (hr : s.Registered) : s'.Registered :=
  h.invariant (fun _ hstep hr => hr.step hstep) hr

/-! ### How an opening ends -/

/-- As long as ids last, the next one is told by the number of accounts. -/
theorem Registered.nextId_eq (hr : s.Registered)
    (hroom : (s.accounts.length : Int) < Word.greatest) :
    nextId (s.accounts.map (·.id)) = .ok (s.accounts.length + 1) := by
  rw [Store.nextId_eq, hr.numbered, if_pos hroom]

end Store

/-- **Accounts.**  After every run from the empty store, document numbers differ from each other,
have no blank at either end and are not empty, balances are positive and the users of all accounts
are stored.  Opening another account is refused for the request itself exactly if its document
number is blank or its balance not positive, otherwise for its user exactly if that is not stored,
otherwise for its trimmed document number exactly if some account has it; otherwise the account,
with this document number, stands behind all others.  A refusal leaves the store as it was. -/
theorem Ledger.run_accounts (calls : List Call) :
    ∃ s, (run calls (.opened .empty)).2 = .opened s ∧
      (s.accounts.map (·.document)).Nodup ∧
      (∀ account ∈ s.accounts, account.document ≠ "" ∧
        Text.IsTrimmed account.document.toList ∧ 0 < account.currentBalance.minor ∧
        (s.user? account.userId).isSome = true) ∧
      ∀ (now : Moment) (request : NewAccount), (s.accounts.length : Int) < Word.greatest →
        ((∃ cause, (createAccount now request (.opened s)).1 = refuse (.validation cause)) ↔
            Text.trim request.document = "" ∨ request.balance.minor ≤ 0) ∧
          ((createAccount now request (.opened s)).1 = refuse (.notFound .user request.userId) ↔
            request.Valid ∧ s.user? request.userId = none) ∧
          ((createAccount now request (.opened s)).1 =
              refuse (.alreadyExists .account (Text.trim request.document)) ↔
            request.Valid ∧ (s.user? request.userId).isSome = true ∧
              ∃ account ∈ s.accounts, account.document = Text.trim request.document) ∧
          ((∃ account, account.document = Text.trim request.document ∧
              account.currentBalance = request.balance ∧ account.userId = request.userId ∧
              createAccount now request (.opened s) =
                (.ok account, .opened { s with accounts := s.accounts ++ [account] })) ↔
            request.Valid ∧ (s.user? request.userId).isSome = true ∧
              ∀ account ∈ s.accounts, account.document ≠ Text.trim request.document) ∧
          ∀ failure, (createAccount now request (.opened s)).1 = .error failure →
            (createAccount now request (.opened s)).2 = .opened s := by
  obtain ⟨answers, s, hsteps⟩ := Store.exists_steps calls Store.sound_empty
  have hs : s.Sound := hsteps.sound Store.sound_empty
  have hr : s.Registered := hsteps.registered Store.registered_empty
  refine ⟨s, by rw [hsteps.run_eq], hr.distinct, fun account haccount => ?_,
    fun now request hroom => ?_⟩
  · have howns := hr.owns account haccount
    exact ⟨howns.named, howns.trimmed, howns.funded, howns.owned⟩
  have hinvalid : Text.trim request.document = "" ∨ request.balance.minor ≤ 0 ↔
      ¬ request.Valid := by
    rw [NewAccount.Valid, not_and_or, not_not, Int.not_lt]
  rw [hinvalid]
  simp only [← and_assoc]
  refine ⟨?_, fun failure h => createAccount_of_error h⟩
  by_cases hvalid : request.Valid
  · have hcheck := NewAccount.check_of_valid hvalid
    cases huser : s.user? request.userId with
    | none =>
        rw [Store.createAccount_of_step hs (.refused (.unknownUser hcheck huser))]
        simp [refuse, hvalid]
    | some user =>
        have huser' : (s.user? request.userId).isSome = true := Option.isSome_of_eq_some huser
        have hid := hr.nextId_eq hroom
        by_cases htaken : ∃ account ∈ s.accounts,
            account.document = Text.trim request.document
        · obtain ⟨account, haccount, hdocument⟩ := htaken
          have htaken : ∃ account ∈ s.accounts,
              account.document = Text.trim request.document :=
            ⟨account, haccount, hdocument⟩
          rw [Store.createAccount_of_step hs
            (.refused (.takenDocument hcheck huser' hid haccount hdocument))]
          simpa [refuse, hvalid] using htaken
        · have hnew : ∀ account ∈ s.accounts,
              account.document ≠ Text.trim request.document :=
            fun account haccount hdocument => htaken ⟨account, haccount, hdocument⟩
          rw [Store.createAccount_of_step hs (.opened hcheck huser' hid hnew)]
          simpa [refuse, hvalid, Store.withAccount] using hnew
  · obtain ⟨cause, hcause⟩ := NewAccount.check_of_not_valid hvalid
    rw [Store.createAccount_of_step hs (.refused (.invalidOpening hcause))]
    simp [refuse, hvalid]

end Arrears
