import Arrears.Proofs.Ledger.Posting

/-!
# Runs of a ledger

A ledger is asked to merge reference data, to open accounts and to post transactions.  A run is a
list of such calls, each with its own reading of the clock; the ledger answers them one after the
other, and goes on after a call that fails.

**Steps.** `Step` says everything that one call can do to a store: it is refused, for a reason that
`Refusal` names, and leaves the store alone, or it adds records to one or two tables; only a credit
rewrites anything, namely balances.
-/

namespace Arrears

/-- Something that a ledger is asked to do, with the reading of the clock where it needs one. -/
inductive Call
  | seed (reference : Reference)
  | openAccount (now : Moment) (request : NewAccount)
  | post (now : Moment) (request : NewTransaction)
deriving DecidableEq, Repr

inductive Answer
  | seeded (result : Except Failure Nat)
  | opened (result : Except Failure Account)
  | posted (result : Except Failure Transaction)

namespace Ledger

def answer (call : Call) (db : Database) : Answer × Database :=
  match call with
  | .seed reference => ((reference.seed db).map Answer.seeded id)
  | .openAccount now request => ((createAccount now request db).map Answer.opened id)
  | .post now request => ((post now request db).map Answer.posted id)

/-- Answers calls one after the other. -/
def run : List Call → Database → List Answer × Database
  | [], db => ([], db)
  | call :: calls, db =>
    ((answer call db).1 :: (run calls (answer call db).2).1, (run calls (answer call db).2).2)

/-- A short run on two accounts: two debits at one moment, a credit that reaches the second, and a
debit elsewhere in between. -/
def partPayment : List Call :=
  [.seed ⟨[⟨1, "PURCHASE", "debit"⟩, ⟨4, "PAYMENT", "credit"⟩], [⟨7, "Ana"⟩]⟩,
    .openAccount (.ofSeconds 100) ⟨"11", ⟨500, by decide⟩, 7⟩,
    .openAccount (.ofSeconds 150) ⟨"12", ⟨500, by decide⟩, 7⟩,
    .post (.ofSeconds 200) ⟨1, 1, ⟨5000, by decide⟩⟩,
    .post (.ofSeconds 200) ⟨2, 1, ⟨700, by decide⟩⟩,
    .post (.ofSeconds 200) ⟨1, 1, ⟨2350, by decide⟩⟩,
    .post (.ofSeconds 210) ⟨1, 4, ⟨6000, by decide⟩⟩]

end Ledger

namespace Store

/-! ## Steps -/

def merged (s : Store) (reference : Reference) (operationTypes : List OperationType) : Store :=
  { s with
    users := Reference.mergeUsers s.users reference.users
    operationTypes := operationTypes }

/-- The reasons for which a call is refused, each with its answer. -/
inductive Refusal (s : Store) : Call → Answer → Prop
  | unreadableBehavior {reference : Reference} {fault : ConfigFault}
      (hmerge : Reference.mergeOperationTypes s.operationTypes reference.operationTypes =
        .error fault) :
      Refusal s (.seed reference) (.seeded (refuse (.config fault)))
  | invalidOpening {now : Moment} {request : NewAccount} {cause : Invalid}
      (hcheck : request.check = .error cause) :
      Refusal s (.openAccount now request) (.opened (refuse (.validation cause)))
  | unknownUser {now : Moment} {request : NewAccount} {document : String}
      (hcheck : request.check = .ok document) (huser : s.user? request.userId = none) :
      Refusal s (.openAccount now request) (.opened (refuse (.notFound .user request.userId)))
  | noAccountId {now : Moment} {request : NewAccount} {document : String}
      (hcheck : request.check = .ok document)
      (huser : (s.user? request.userId).isSome = true)
      (hid : nextId (s.accounts.map (·.id)) = .error .idsExhausted) :
      Refusal s (.openAccount now request) (.opened (storeFault .idsExhausted))
  | takenDocument {now : Moment} {request : NewAccount} {document : String} {account : Account}
      (hcheck : request.check = .ok document)
      (huser : (s.user? request.userId).isSome = true)
      {id : Int} (hid : nextId (s.accounts.map (·.id)) = .ok id)
      (haccount : account ∈ s.accounts) (htaken : account.document = document) :
      Refusal s (.openAccount now request)
        (.opened (refuse (.alreadyExists .account document)))
  | amountNotPositive {now : Moment} {request : NewTransaction}
      (hpos : ¬ 0 < request.amount.minor) :
      Refusal s (.post now request)
        (.posted (refuse (.validation (.postedAmountNotPositive request.amount))))
  | unknownAccount {now : Moment} {request : NewTransaction} (hpos : 0 < request.amount.minor)
      (haccount : s.account? request.accountId = none) :
      Refusal s (.post now request) (.posted (refuse (.notFound .account request.accountId)))
  | unknownOperationType {now : Moment} {request : NewTransaction}
      (hpos : 0 < request.amount.minor)
      (haccount : (s.account? request.accountId).isSome = true)
      (htype : s.operationType? request.operationTypeId = none) :
      Refusal s (.post now request)
        (.posted (refuse (.notFound .operationType request.operationTypeId)))
  | noTransactionId {now : Moment} {request : NewTransaction}
      (hpos : 0 < request.amount.minor)
      (haccount : (s.account? request.accountId).isSome = true)
      (htype : (s.operationType? request.operationTypeId).isSome = true)
      (hid : nextId (s.transactions.map (·.id)) = .error .idsExhausted) :
      Refusal s (.post now request) (.posted (storeFault .idsExhausted))

/-- Everything that a call can do to a store. -/
inductive Step (s : Store) : Call → Answer → Store → Prop
  | refused {call : Call} {answer : Answer} (h : Refusal s call answer) : Step s call answer s
  | seeded {reference : Reference} {operationTypes : List OperationType}
      (hmerge : Reference.mergeOperationTypes s.operationTypes reference.operationTypes =
        .ok operationTypes) :
      Step s (.seed reference)
        (.seeded (.ok (Reference.added s (s.merged reference operationTypes))))
        (s.merged reference operationTypes)
  | opened {now : Moment} {request : NewAccount} {document : String} {id : Int}
      (hcheck : request.check = .ok document)
      (huser : (s.user? request.userId).isSome = true)
      (hid : nextId (s.accounts.map (·.id)) = .ok id)
      (hnew : ∀ account ∈ s.accounts, account.document ≠ document) :
      Step s (.openAccount now request)
        (.opened (.ok ⟨id, document, request.balance, request.userId, now⟩))
        (s.withAccount ⟨id, document, request.balance, request.userId, now⟩)
  | booked {now : Moment} {request : NewTransaction} {operationType : OperationType}
      {behavior : Behavior} {id : Int} (hpos : 0 < request.amount.minor)
      (haccount : (s.account? request.accountId).isSome = true)
      (htype : s.operationType? request.operationTypeId = some operationType)
      (hbehavior : operationType.behavior = behavior.text)
      (hid : nextId (s.transactions.map (·.id)) = .ok id) :
      Step s (.post now request) (.posted (.ok (s.booking behavior now request id)))
        (s.booked behavior now request id)

/-- What holds of every store that a ledger works on. -/
structure Sound (s : Store) : Prop where
  /-- Behaviors are stored in canonical text. -/
  canonical : ∀ operationType ∈ s.operationTypes,
    ∃ behavior : Behavior, operationType.behavior = behavior.text
  /-- Bookings stand in order of id. -/
  ascending : (s.transactions.map (·.id)).Pairwise (· < ·)
  /-- Every balance has an opposite. -/
  bounded : ∀ t ∈ s.transactions, Word.least < t.balance.minor

theorem sound_empty : empty.Sound where
  canonical := by simp [empty]
  ascending := by simp [empty]
  bounded := by simp [empty]

theorem Sound.nodup {s : Store} (hs : s.Sound) : (s.transactions.map (·.id)).Nodup :=
  hs.ascending.imp fun h => Int.ne_of_lt h

theorem Sound.bookings_ascending {s : Store} (hs : s.Sound) (accountId : Int) :
    (s.bookings accountId).Pairwise fun t u => t.id < u.id :=
  (List.pairwise_map.mp hs.ascending).sublist List.filter_sublist

theorem Sound.least_lt {s : Store} (hs : s.Sound) {accountId : Int} :
    ∀ t ∈ s.bookings accountId, Word.least < t.balance.minor :=
  fun t ht => hs.bounded t (mem_bookings.mp ht).1

theorem Sound.readable {s : Store} (hs : s.Sound) {id : Int} {operationType : OperationType}
    (htype : s.operationType? id = some operationType) :
    ∃ behavior, Behavior.ofText operationType.behavior = .ok behavior := by
  obtain ⟨behavior, hbehavior⟩ :=
    hs.canonical operationType (List.mem_of_find?_eq_some htype)
  exact ⟨behavior, by rw [hbehavior, Behavior.ofText_text]⟩

/-! ## Steps and answers -/

theorem createAccount_of_check {request : NewAccount} {document : String}
    (hcheck : request.check = .ok document) (now : Moment) (db : Database) :
    Ledger.createAccount now request db =
      db.commit (Store.openAccount now document request.balance request.userId) := by
  rw [Ledger.createAccount, hcheck]

theorem openAccount_of_user {s : Store} {userId : Int} (huser : (s.user? userId).isSome = true)
    (now : Moment) (document : String) (balance : Money) :
    openAccount now document balance userId s = createAccount now document balance userId s := by
  have hknown : (s.user? userId).isNone = false := Option.isNone_eq_false_iff.mpr huser
  rw [openAccount, hknown]
  rfl

theorem Refusal.answer_eq {s : Store} {call : Call} {answer : Answer} (hs : s.Sound)
    (h : Refusal s call answer) : Ledger.answer call (.opened s) = (answer, .opened s) := by
  cases h with
  | unreadableBehavior hmerge =>
      simp only [Ledger.answer, Reference.seed, Database.commit, Database.perform,
        Reference.merge, hmerge]
      rfl
  | invalidOpening hcheck =>
      rw [Ledger.answer, Ledger.createAccount, hcheck]
      rfl
  | unknownUser hcheck huser =>
      rw [Ledger.answer, createAccount_of_check hcheck, Database.commit, Database.perform,
        openAccount, huser]
      rfl
  | noAccountId hcheck huser hid =>
      rw [Ledger.answer, createAccount_of_check hcheck, Database.commit, Database.perform,
        openAccount_of_user huser, createAccount, insertAccount_eq huser, hid]
      rfl
  | takenDocument hcheck huser hid haccount htaken =>
      have hany : (s.accounts.any fun account => account.document = _) = true :=
        List.any_eq_true.mpr ⟨_, haccount, decide_eq_true htaken⟩
      rw [Ledger.answer, createAccount_of_check hcheck, Database.commit, Database.perform,
        openAccount_of_user huser, createAccount, insertAccount_eq huser, hid]
      simp only [hany]
      rfl
  | amountNotPositive hpos =>
      rw [Ledger.answer, Ledger.post_of_not_pos hpos]
      rfl
  | unknownAccount hpos haccount =>
      rw [Ledger.answer, Ledger.post_of_account?_eq_none hpos haccount]
      rfl
  | unknownOperationType hpos haccount htype =>
      rw [Ledger.answer, Ledger.post_of_operationType?_eq_none hpos haccount htype]
      rfl
  | noTransactionId hpos haccount htype hid =>
      obtain ⟨operationType, htype⟩ := Option.isSome_iff_exists.mp htype
      obtain ⟨behavior, hbehavior⟩ := hs.readable htype
      rw [Ledger.answer, Ledger.post_eq_booked hs.nodup hs.least_lt hpos haccount htype
        hbehavior, hid]
      rfl

theorem Step.answer_eq {s s' : Store} {call : Call} {answer : Answer} (hs : s.Sound)
    (h : Step s call answer s') : Ledger.answer call (.opened s) = (answer, .opened s') := by
  cases h with
  | refused hrefusal => exact hrefusal.answer_eq hs
  | seeded hmerge =>
      simp only [Ledger.answer, Reference.seed, Database.commit, Database.perform,
        Reference.merge, hmerge]
      rfl
  | @opened now request document id hcheck huser hid hnew =>
      have hany : (s.accounts.any fun account => account.document = document) = false :=
        List.any_eq_false.mpr fun account haccount => by
          simpa only [decide_eq_true_eq] using hnew account haccount
      rw [Ledger.answer, createAccount_of_check hcheck, Database.commit, Database.perform,
        openAccount_of_user huser, createAccount, insertAccount_eq huser, hid]
      simp only [hany]
      rfl
  | @booked now request operationType behavior id hpos haccount htype hbehavior hid =>
      have hread : Behavior.ofText operationType.behavior = .ok behavior := by
        rw [hbehavior, Behavior.ofText_text]
      rw [Ledger.answer, Ledger.post_eq_booked hs.nodup hs.least_lt hpos haccount htype hread,
        hid]
      rfl

/-! ## Every call makes a step -/

theorem exists_step_openAccount (s : Store) (now : Moment) (request : NewAccount) :
    ∃ answer s', Step s (.openAccount now request) answer s' := by
  cases hcheck : request.check with
  | error cause => exact ⟨_, s, .refused (.invalidOpening hcheck)⟩
  | ok document =>
      cases huser : s.user? request.userId with
      | none => exact ⟨_, s, .refused (.unknownUser hcheck huser)⟩
      | some user =>
          have huser' : (s.user? request.userId).isSome = true := Option.isSome_of_eq_some huser
          cases hid : nextId (s.accounts.map (·.id)) with
          | error fault =>
              obtain rfl := eq_idsExhausted_of_nextId hid
              exact ⟨_, s, .refused (.noAccountId hcheck huser' hid)⟩
          | ok id =>
              by_cases htaken : ∃ account ∈ s.accounts, account.document = document
              · obtain ⟨account, haccount, hdocument⟩ := htaken
                exact ⟨_, s, .refused (.takenDocument hcheck huser' hid haccount hdocument)⟩
              · refine ⟨_, _, .opened hcheck huser' hid fun account haccount hdocument => ?_⟩
                exact htaken ⟨account, haccount, hdocument⟩

theorem exists_step_post {s : Store} (hs : s.Sound) (now : Moment) (request : NewTransaction) :
    ∃ answer s', Step s (.post now request) answer s' := by
  by_cases hpos : 0 < request.amount.minor
  · cases haccount : s.account? request.accountId with
    | none => exact ⟨_, s, .refused (.unknownAccount hpos haccount)⟩
    | some account =>
        have haccount' : (s.account? request.accountId).isSome = true :=
          Option.isSome_of_eq_some haccount
        cases htype : s.operationType? request.operationTypeId with
        | none => exact ⟨_, s, .refused (.unknownOperationType hpos haccount' htype)⟩
        | some operationType =>
            obtain ⟨behavior, hbehavior⟩ :=
              hs.canonical operationType (List.mem_of_find?_eq_some htype)
            cases hid : nextId (s.transactions.map (·.id)) with
            | error fault =>
                obtain rfl := eq_idsExhausted_of_nextId hid
                exact ⟨_, s, .refused (.noTransactionId hpos haccount'
                  (Option.isSome_of_eq_some htype) hid)⟩
            | ok id => exact ⟨_, _, .booked hpos haccount' htype hbehavior hid⟩
  · exact ⟨_, s, .refused (.amountNotPositive hpos)⟩

theorem exists_step {s : Store} (hs : s.Sound) (call : Call) :
    ∃ answer s', Step s call answer s' := by
  cases call with
  | seed reference =>
      cases hmerge : Reference.mergeOperationTypes s.operationTypes reference.operationTypes with
      | error fault => exact ⟨_, s, .refused (.unreadableBehavior hmerge)⟩
      | ok operationTypes => exact ⟨_, _, .seeded hmerge⟩
  | openAccount now request => exact exists_step_openAccount s now request
  | post now request => exact exists_step_post hs now request

/-! ## Answers to one kind of call -/

theorem createAccount_of_step {s s' : Store} {now : Moment} {request : NewAccount}
    {result : Except Failure Account} (hs : s.Sound)
    (h : Step s (.openAccount now request) (.opened result) s') :
    Ledger.createAccount now request (.opened s) = (result, .opened s') := by
  have hanswer := h.answer_eq hs
  simp only [Ledger.answer, Prod.map, Prod.mk.injEq, Answer.opened.injEq, id_eq] at hanswer
  exact Prod.ext hanswer.1 hanswer.2

theorem post_of_step {s s' : Store} {now : Moment} {request : NewTransaction}
    {result : Except Failure Transaction} (hs : s.Sound)
    (h : Step s (.post now request) (.posted result) s') :
    Ledger.post now request (.opened s) = (result, .opened s') := by
  have hanswer := h.answer_eq hs
  simp only [Ledger.answer, Prod.map, Prod.mk.injEq, Answer.posted.injEq, id_eq] at hanswer
  exact Prod.ext hanswer.1 hanswer.2

theorem exists_step_opened {s : Store} (hs : s.Sound) (now : Moment) (request : NewAccount) :
    ∃ result s', Step s (.openAccount now request) (.opened result) s' := by
  obtain ⟨answer, s', h⟩ := exists_step_openAccount s now request
  have hanswer := h.answer_eq hs
  simp only [Ledger.answer, Prod.map, Prod.mk.injEq] at hanswer
  rw [← hanswer.1] at h
  exact ⟨_, s', h⟩

theorem exists_step_posted {s : Store} (hs : s.Sound) (now : Moment) (request : NewTransaction) :
    ∃ result s', Step s (.post now request) (.posted result) s' := by
  obtain ⟨answer, s', h⟩ := exists_step_post hs now request
  have hanswer := h.answer_eq hs
  simp only [Ledger.answer, Prod.map, Prod.mk.injEq] at hanswer
  rw [← hanswer.1] at h
  exact ⟨_, s', h⟩

/-! ## Every step keeps a store sound -/

theorem Sound.merged {s : Store} (hs : s.Sound) {reference : Reference}
    {operationTypes : List OperationType}
    (hmerge : Reference.mergeOperationTypes s.operationTypes reference.operationTypes =
      .ok operationTypes) : (s.merged reference operationTypes).Sound where
  canonical := by
    obtain ⟨added, hrows, hadded⟩ := Reference.mergeOperationTypes_eq_ok hmerge
    intro operationType hmem
    have hmem' : operationType ∈ s.operationTypes ++ added := by
      rw [← hrows]
      exact hmem
    rcases List.mem_append.mp hmem' with hold | hnew
    · exact hs.canonical operationType hold
    · exact hadded operationType hnew
  ascending := hs.ascending
  bounded := hs.bounded

theorem least_lt_openPart (s : Store) (behavior : Behavior) {request : NewTransaction}
    (hpos : 0 < request.amount.minor) :
    Word.least < (s.openPart behavior request).minor := by
  have hfits := request.amount.fits
  simp only [Word.Fits, Word.least, Word.greatest] at hfits ⊢
  cases behavior with
  | debit =>
      simp only [openPart, Money.owing_minor_of_pos hpos]
      omega
  | credit =>
      simp only [openPart, Money.less_minor]
      omega

theorem ids_booked (s : Store) (behavior : Behavior) (now : Moment) (request : NewTransaction)
    (id : Int) :
    (s.booked behavior now request id).transactions.map (·.id) =
      s.transactions.map (·.id) ++ [id] := by
  rw [booked_transactions, List.map_append, map_settled fun _ _ => rfl]
  rfl

theorem largestId_booked {s : Store} {id : Int}
    (hid : nextId (s.transactions.map (·.id)) = .ok id) (behavior : Behavior) (now : Moment)
    (request : NewTransaction) :
    largestId ((s.booked behavior now request id).transactions.map (·.id)) = id := by
  rw [ids_booked, largestId_append_nextId hid]

theorem Sound.booked {s : Store} (hs : s.Sound) (behavior : Behavior) (now : Moment)
    {request : NewTransaction} {id : Int} (hpos : 0 < request.amount.minor)
    (hid : nextId (s.transactions.map (·.id)) = .ok id) :
    (s.booked behavior now request id).Sound where
  canonical := by
    rw [booked_operationTypes]
    exact hs.canonical
  ascending := by
    rw [ids_booked, List.pairwise_append]
    refine ⟨hs.ascending, List.pairwise_singleton _ _, ?_⟩
    intro other hother last hlast
    rw [List.mem_singleton.mp hlast]
    exact lt_of_nextId hid hother
  bounded := by
    intro t ht
    rcases mem_booked ht with ⟨u, hu, credit, rfl⟩ | rfl
    · have hbound := hs.bounded u hu
      simp only [Money.raised_minor_eq]
      omega
    · exact least_lt_openPart s behavior hpos

theorem Sound.step {s s' : Store} {call : Call} {answer : Answer} (hs : s.Sound)
    (h : Step s call answer s') : s'.Sound := by
  cases h with
  | refused => exact hs
  | seeded hmerge => exact hs.merged hmerge
  | opened => exact ⟨hs.canonical, hs.ascending, hs.bounded⟩
  | booked hpos _ _ _ hid => exact hs.booked _ _ hpos hid

/-! ## Runs -/

/-- A sequence of steps, each from a sound store. -/
inductive Steps : Store → List Call → List Answer → Store → Prop
  | nil (s : Store) : Steps s [] [] s
  | cons {s s' s'' : Store} {call : Call} {calls : List Call} {answer : Answer}
      {answers : List Answer} (hs : s.Sound) (hstep : Step s call answer s')
      (hsteps : Steps s' calls answers s'') :
      Steps s (call :: calls) (answer :: answers) s''

theorem Steps.run_eq {s s' : Store} {calls : List Call} {answers : List Answer}
    (h : Steps s calls answers s') : Ledger.run calls (.opened s) = (answers, .opened s') := by
  induction h with
  | nil => rfl
  | cons hs hstep _ ih => rw [Ledger.run, hstep.answer_eq hs, ih]

theorem exists_steps (calls : List Call) {s : Store} (hs : s.Sound) :
    ∃ answers s', Steps s calls answers s' := by
  induction calls generalizing s with
  | nil => exact ⟨[], s, .nil s⟩
  | cons call calls ih =>
      obtain ⟨answer, s', hstep⟩ := exists_step hs call
      obtain ⟨answers, s'', hsteps⟩ := ih (hs.step hstep)
      exact ⟨answer :: answers, s'', .cons hs hstep hsteps⟩

/-- What every step from a sound store keeps, a sequence of steps keeps. -/
theorem Steps.invariant {P : Store → Prop}
    (hP : ∀ {s s' : Store} {call : Call} {answer : Answer},
      s.Sound → Step s call answer s' → P s → P s')
    {s s' : Store} {calls : List Call} {answers : List Answer}
    (h : Steps s calls answers s') (hs : P s) : P s' := by
  induction h with
  | nil => exact hs
  | cons hsound hstep _ ih => exact ih (hP hsound hstep hs)

theorem Steps.sound {s s' : Store} {calls : List Call} {answers : List Answer}
    (h : Steps s calls answers s') (hs : s.Sound) : s'.Sound :=
  h.invariant (fun hsound hstep _ => hsound.step hstep) hs

theorem sound_of_run {calls : List Call} {s : Store}
    (h : (Ledger.run calls (.opened .empty)).2 = .opened s) : s.Sound := by
  obtain ⟨answers, s', hsteps⟩ := exists_steps calls sound_empty
  rw [hsteps.run_eq] at h
  obtain rfl : s' = s := by simpa using h
  exact hsteps.sound sound_empty

end Store
end Arrears
