import Arrears.Proofs.Ledger.Conservation

/-!
# Accounts do not interfere

A run is compared with what is left of it when the postings to all accounts but one are dropped.
All bookings share one table, so those of the account that remains have other ids in the two runs.
Nothing else about them differs.

**Relation.** `Alike` says this of the two stores.  The bookings of an account stand in order of id
in either store, so ids settle the order of two debts of one moment the same way in both; this is
all that a discharge reads of them.
-/

namespace Arrears

/-- Whether a call is anything but a posting to another account. -/
def Call.concerns (accountId : Int) : Call → Bool
  | .seed _ => true
  | .openAccount _ _ => true
  | .post _ request => request.accountId = accountId

def Transaction.unnumbered (t : Transaction) : Transaction :=
  { t with id := 0 }

/-- An answer without the id of a booking. -/
def Answer.unnumbered : Answer → Answer
  | .posted result => .posted (result.map Transaction.unnumbered)
  | answer => answer

/-- The answers to the calls that concern an account. -/
def answersFor (accountId : Int) (calls : List Call) (answers : List Answer) : List Answer :=
  ((calls.zip answers).filter fun entry => entry.1.concerns accountId).map Prod.snd

/-! ## A discharge by place -/

namespace OpenDebit

/-- What is owed before a moment, ties going by place: by the debts in front and by those behind. -/
def owedAround (front back : List OpenDebit) (moment : Moment) : Nat :=
  owed (front.filter fun other => other.createdAt ≤ moment) +
    owed (back.filter fun other => other.createdAt < moment)

theorem precedes_of_id_lt {a b : OpenDebit} (hid : a.id < b.id) :
    a.precedes b = decide (a.createdAt ≤ b.createdAt) := by
  have hle : a.createdAt ≤ b.createdAt ↔ a.createdAt.seconds < b.createdAt.seconds ∨
      a.createdAt.seconds = b.createdAt.seconds ∧ a.createdAt.nanos ≤ b.createdAt.nanos :=
    Iff.rfl
  rw [Bool.eq_iff_iff, precedes_eq_true_iff, notAfter_iff, decide_eq_true_eq, hle]
  omega

theorem precedes_of_lt_id {a b : OpenDebit} (hid : b.id < a.id) :
    a.precedes b = decide (a.createdAt < b.createdAt) := by
  have hlt : a.createdAt < b.createdAt ↔ a.createdAt.seconds < b.createdAt.seconds ∨
      a.createdAt.seconds = b.createdAt.seconds ∧ a.createdAt.nanos < b.createdAt.nanos :=
    Iff.rfl
  rw [Bool.eq_iff_iff, precedes_eq_true_iff, notAfter_iff, decide_eq_true_eq, hlt]
  omega

theorem owedBefore_eq_owedAround {front back : List OpenDebit} {debit : OpenDebit}
    (hids : (front ++ debit :: back).Pairwise fun a b => a.id < b.id) :
    owedBefore (front ++ debit :: back) debit = owedAround front back debit.createdAt := by
  obtain ⟨-, hback, hfront⟩ := List.pairwise_append.mp hids
  have hbefore : front.filter (fun other => other.precedes debit) =
      front.filter fun other => other.createdAt ≤ debit.createdAt := by
    refine List.filter_congr fun other hother => ?_
    exact precedes_of_id_lt (hfront other hother debit (by simp))
  have hbehind : (debit :: back).filter (fun other => other.precedes debit) =
      back.filter fun other => other.createdAt < debit.createdAt := by
    rw [List.filter_cons_of_neg (by simp [precedes_self])]
    refine List.filter_congr fun other hother => ?_
    exact precedes_of_lt_id ((List.pairwise_cons.mp hback).1 other hother)
  rw [owedBefore, List.filter_append, owed_append, hbefore, hbehind, owedAround]

end OpenDebit

namespace Store

theorem owed_filter_unnumbered (p : Moment → Bool) (rows : List Transaction) :
    OpenDebit.owed (((rows.map Transaction.unnumbered).map Transaction.toOpenDebit).filter
        fun other => p other.createdAt) =
      OpenDebit.owed ((rows.map Transaction.toOpenDebit).filter
        fun other => p other.createdAt) := by
  rw [List.map_map, List.filter_map, List.filter_map, OpenDebit.owed, OpenDebit.owed,
    List.map_map, List.map_map]
  rfl

/-- The bookings behind a front after so much credit, with ties going by place. -/
def dischargedByPlace (credit : Nat) : List Transaction → List Transaction → List Transaction
  | _, [] => []
  | front, t :: back =>
    { t with
      balance := t.balance.raised (credit -
        OpenDebit.owedAround (front.map Transaction.toOpenDebit)
          (back.map Transaction.toOpenDebit) t.createdAt) } ::
      dischargedByPlace credit (front ++ [t]) back

theorem owedBefore_eq_unnumbered {front back : List Transaction} {t : Transaction}
    (hids : (front ++ t :: back).Pairwise fun t u => t.id < u.id) :
    OpenDebit.owedBefore ((front ++ t :: back).map Transaction.toOpenDebit) t.toOpenDebit =
      OpenDebit.owedAround ((front.map Transaction.unnumbered).map Transaction.toOpenDebit)
        ((back.map Transaction.unnumbered).map Transaction.toOpenDebit) t.createdAt := by
  have hdebts : ((front ++ t :: back).map Transaction.toOpenDebit).Pairwise
      fun a b => a.id < b.id := List.pairwise_map.mpr hids
  rw [List.map_append, List.map_cons] at hdebts ⊢
  rw [OpenDebit.owedBefore_eq_owedAround hdebts, OpenDebit.owedAround, OpenDebit.owedAround,
    owed_filter_unnumbered (fun moment => moment ≤ t.createdAt),
    owed_filter_unnumbered (fun moment => moment < t.createdAt)]
  rfl

/-- In order of id, what a discharge makes of bookings needs no ids. -/
theorem map_discharged_unnumbered (credit : Nat) {front back : List Transaction}
    (hids : (front ++ back).Pairwise fun t u => t.id < u.id) :
    (back.map (discharged credit ((front ++ back).map Transaction.toOpenDebit))).map
        Transaction.unnumbered =
      dischargedByPlace credit (front.map Transaction.unnumbered)
        (back.map Transaction.unnumbered) := by
  induction back generalizing front with
  | nil => rfl
  | cons t back ih =>
      have hbefore := owedBefore_eq_unnumbered hids
      have hrest := @ih (front ++ [t]) (by simpa using hids)
      have hplace : (front ++ [t]).map Transaction.unnumbered =
          front.map Transaction.unnumbered ++ [t.unnumbered] := by
        simp
      rw [List.append_assoc, List.singleton_append, hplace] at hrest
      rw [List.map_cons, List.map_cons, hrest, List.map_cons, dischargedByPlace, discharged,
        hbefore]
      rfl

theorem Sound.map_discharged_unnumbered {s : Store} (hs : s.Sound) (accountId : Int)
    (credit : Nat) :
    ((s.bookings accountId).map (discharged credit (s.debts accountId))).map
        Transaction.unnumbered =
      dischargedByPlace credit [] ((s.bookings accountId).map Transaction.unnumbered) :=
  @Store.map_discharged_unnumbered credit [] (s.bookings accountId)
    (hs.bookings_ascending accountId)

/-! ## The relation -/

/-- Two stores that have the same reference data and accounts, and the same bookings of one account
but for the ids; in the second, fewer ids are used up. -/
structure Alike (accountId : Int) (s s' : Store) : Prop where
  users : s.users = s'.users
  operationTypes : s.operationTypes = s'.operationTypes
  accounts : s.accounts = s'.accounts
  bookings : (s.bookings accountId).map Transaction.unnumbered =
    (s'.bookings accountId).map Transaction.unnumbered
  largestId_le : largestId (s'.transactions.map (·.id)) ≤ largestId (s.transactions.map (·.id))

variable {s s' t : Store} {accountId : Int} {behavior : Behavior} {now : Moment}
  {request : NewTransaction}

theorem Alike.refl (accountId : Int) (s : Store) : Alike accountId s s :=
  ⟨rfl, rfl, rfl, rfl, Int.le_refl _⟩

theorem Alike.owed_eq (h : Alike accountId s s') :
    OpenDebit.owed (s.debts accountId) = OpenDebit.owed (s'.debts accountId) := by
  have hbalances : ∀ rows : List Transaction,
      OpenDebit.owed (rows.map Transaction.toOpenDebit) =
        ((rows.map Transaction.unnumbered).map fun t => t.balance.debt).sum := by
    intro rows
    rw [OpenDebit.owed, List.map_map, List.map_map]
    rfl
  rw [debts, debts, hbalances, hbalances, h.bookings]

theorem Alike.unnumbered_booking (h : Alike request.accountId s s') (behavior : Behavior)
    (now : Moment) (id id' : Int) :
    (s.booking behavior now request id).unnumbered =
      (s'.booking behavior now request id').unnumbered := by
  have hopen : s.openPart behavior request = s'.openPart behavior request := by
    cases behavior with
    | debit => rfl
    | credit => rw [openPart, openPart, h.owed_eq]
  simp only [Transaction.unnumbered, booking, hopen]

theorem Alike.bookings_booked (hs : s.Sound) (hs' : s'.Sound)
    (h : Alike request.accountId s s') (behavior : Behavior) (now : Moment) (id id' : Int) :
    ((s.booked behavior now request id).bookings request.accountId).map Transaction.unnumbered =
      ((s'.booked behavior now request id').bookings request.accountId).map
        Transaction.unnumbered := by
  have hnew := h.unnumbered_booking behavior now id id'
  cases behavior with
  | debit =>
      rw [bookings_booked_debit, bookings_booked_debit, List.map_append, List.map_append,
        h.bookings, List.map_singleton, List.map_singleton, hnew]
  | credit =>
      rw [bookings_booked_credit, bookings_booked_credit, List.map_append, List.map_append,
        hs.map_discharged_unnumbered, hs'.map_discharged_unnumbered, h.bookings,
        List.map_singleton, List.map_singleton, hnew]

/-- A posting to another account keeps two stores alike, though only one of them makes it. -/
theorem Alike.skip (h : Alike accountId s s') (hne : accountId ≠ request.accountId)
    {answer : Answer} (hstep : Step s (.post now request) answer t) : Alike accountId t s' := by
  cases hstep with
  | refused => exact h
  | booked hpos haccount htype hbehavior hid =>
      have hle := h.largestId_le
      have hid' := eq_of_nextId hid
      refine ⟨?_, ?_, ?_, ?_, ?_⟩
      · rw [booked_users, h.users]
      · rw [booked_operationTypes, h.operationTypes]
      · rw [booked_accounts, h.accounts]
      · rw [bookings_booked_of_ne hne, h.bookings]
      · rw [largestId_booked hid]
        omega

/-- A refusal reads nothing in which the two stores differ, unless ids run out. -/
theorem Alike.refusal (h : Alike accountId s s') {call : Call} {answer : Answer}
    (hids : answer ≠ .posted (storeFault .idsExhausted)) (hrefusal : Refusal s call answer) :
    Refusal s' call answer := by
  cases hrefusal with
  | unreadableBehavior hmerge =>
      rw [h.operationTypes] at hmerge
      exact .unreadableBehavior hmerge
  | invalidOpening hcheck => exact .invalidOpening hcheck
  | unknownUser hcheck huser =>
      rw [user?, h.users] at huser
      exact .unknownUser hcheck huser
  | noAccountId hcheck huser hid =>
      rw [user?, h.users] at huser
      rw [h.accounts] at hid
      exact .noAccountId hcheck huser hid
  | takenDocument hcheck huser hid haccount htaken =>
      rw [user?, h.users] at huser
      rw [h.accounts] at hid haccount
      exact .takenDocument hcheck huser hid haccount htaken
  | amountNotPositive hpos => exact .amountNotPositive hpos
  | unknownAccount hpos haccount =>
      rw [account?, h.accounts] at haccount
      exact .unknownAccount hpos haccount
  | unknownOperationType hpos haccount htype =>
      rw [account?, h.accounts] at haccount
      rw [operationType?, h.operationTypes] at htype
      exact .unknownOperationType hpos haccount htype
  | noTransactionId => exact absurd rfl hids

/-- A call that concerns the account has the same answer in both stores, up to ids, and keeps them
alike. -/
theorem Alike.step (hs : s.Sound) (hs' : s'.Sound) (h : Alike accountId s s') {call : Call}
    {answer : Answer} (hcall : call.concerns accountId = true)
    (hids : answer ≠ .posted (storeFault .idsExhausted)) (hstep : Step s call answer t) :
    ∃ answer' t', Step s' call answer' t' ∧ answer.unnumbered = answer'.unnumbered ∧
      Alike accountId t t' := by
  cases hstep with
  | refused hrefusal => exact ⟨answer, s', .refused (h.refusal hids hrefusal), rfl, h⟩
  | @seeded reference operationTypes hmerge =>
      have hadded : Reference.added s (s.merged reference operationTypes) =
          Reference.added s' (s'.merged reference operationTypes) := by
        rw [Reference.added, Reference.added, merged, merged, h.users, h.operationTypes]
      rw [h.operationTypes] at hmerge
      refine ⟨_, _, .seeded hmerge, by rw [hadded], ?_⟩
      refine ⟨?_, rfl, h.accounts, h.bookings, h.largestId_le⟩
      rw [merged, merged, h.users]
  | opened hcheck huser hid hnew =>
      rw [user?, h.users] at huser
      rw [h.accounts] at hid hnew
      refine ⟨_, _, .opened hcheck huser hid hnew, rfl, ?_⟩
      refine ⟨h.users, h.operationTypes, ?_, h.bookings, h.largestId_le⟩
      rw [withAccount, withAccount, h.accounts]
  | @booked now request operationType behavior id hpos haccount htype hbehavior hid =>
      obtain rfl : request.accountId = accountId := of_decide_eq_true hcall
      obtain ⟨id', hid', hle⟩ := exists_nextId_of_le hid h.largestId_le
      rw [account?, h.accounts] at haccount
      rw [operationType?, h.operationTypes] at htype
      have hanswer := h.unnumbered_booking behavior now id id'
      refine ⟨_, _, .booked hpos haccount htype hbehavior hid', ?_, ?_⟩
      · simp only [Answer.unnumbered, Except.map, hanswer]
      · refine ⟨?_, ?_, ?_, h.bookings_booked hs hs' behavior now id id', ?_⟩
        · rw [booked_users, booked_users, h.users]
        · rw [booked_operationTypes, booked_operationTypes, h.operationTypes]
        · rw [booked_accounts, booked_accounts, h.accounts]
        · rw [largestId_booked hid, largestId_booked hid']
          exact hle

/-! ## Two runs -/

theorem answersFor_cons_of_concerns {call : Call} (hcall : call.concerns accountId = true)
    (calls : List Call) (answer : Answer) (answers : List Answer) :
    answersFor accountId (call :: calls) (answer :: answers) =
      answer :: answersFor accountId calls answers := by
  rw [answersFor, List.zip_cons_cons, List.filter_cons_of_pos (by exact hcall)]
  rfl

theorem answersFor_cons_of_not_concerns {call : Call} (hcall : ¬ call.concerns accountId = true)
    (calls : List Call) (answer : Answer) (answers : List Answer) :
    answersFor accountId (call :: calls) (answer :: answers) =
      answersFor accountId calls answers := by
  rw [answersFor, List.zip_cons_cons, List.filter_cons_of_neg (by exact hcall)]
  rfl

/-- Alike stores stay alike over a run, from which the second leaves out the postings to other
accounts. -/
theorem Alike.steps {calls : List Call} {answers : List Answer}
    (hsteps : Steps s calls answers t) :
    ∀ {s' : Store}, s'.Sound → Alike accountId s s' →
      Answer.posted (storeFault .idsExhausted) ∉ answersFor accountId calls answers →
      ∃ answers' t', Steps s' (calls.filter (Call.concerns accountId)) answers' t' ∧
        (answersFor accountId calls answers).map Answer.unnumbered =
          answers'.map Answer.unnumbered ∧
        Alike accountId t t' := by
  induction hsteps with
  | nil s => exact fun {s'} _ h _ => ⟨[], s', .nil s', rfl, h⟩
  | @cons s u t call calls answer answers hs hstep hsteps ih =>
      intro s' hs' h hids
      by_cases hcall : call.concerns accountId = true
      · rw [answersFor_cons_of_concerns hcall, List.mem_cons, not_or] at hids
        obtain ⟨answer', u', hstep', hanswer, hu⟩ := h.step hs hs' hcall (Ne.symm hids.1) hstep
        obtain ⟨answers', t', hsteps', hanswers, ht⟩ := ih (hs'.step hstep') hu hids.2
        refine ⟨answer' :: answers', t', ?_, ?_, ht⟩
        · rw [List.filter_cons_of_pos hcall]
          exact .cons hs' hstep' hsteps'
        · rw [answersFor_cons_of_concerns hcall, List.map_cons, List.map_cons, hanswer, hanswers]
      · rw [answersFor_cons_of_not_concerns hcall] at hids ⊢
        rw [List.filter_cons_of_neg hcall]
        refine ih hs' ?_ hids
        cases call with
        | seed => exact absurd rfl hcall
        | openAccount => exact absurd rfl hcall
        | post now request =>
            refine h.skip (fun heq => hcall ?_) hstep
            exact decide_eq_true heq.symm

theorem Sound.transactionsById_filter (hs : s.Sound) (accountId : Int) :
    s.transactionsById.filter (fun t => t.accountId = accountId) = s.bookings accountId := by
  have hsorted : s.transactionsById = s.transactions := by
    refine List.mergeSort_of_pairwise ((List.pairwise_map.mp hs.ascending).imp fun h => ?_)
    rw [decide_eq_true_eq]
    omega
  rw [hsorted, bookings]

/-! ## Ids last -/

theorem Step.largestId_le {call : Call} {answer : Answer} (h : Step s call answer t) :
    largestId (t.transactions.map (·.id)) ≤ largestId (s.transactions.map (·.id)) + 1 := by
  cases h with
  | refused => omega
  | seeded => simp only [merged]; omega
  | opened => simp only [withAccount]; omega
  | booked _ _ _ _ hid =>
      have hnew := eq_of_nextId hid
      rw [largestId_booked hid]
      omega

theorem Steps.not_mem_exhausted {calls : List Call} {answers : List Answer}
    (h : Steps s calls answers t)
    (hroom : largestId (s.transactions.map (·.id)) + calls.length ≤ Word.greatest) :
    Answer.posted (storeFault .idsExhausted) ∉ answers := by
  induction h with
  | nil => exact List.not_mem_nil
  | @cons s u t call calls answer answers _ hstep _ ih =>
      have hgrowth := hstep.largestId_le
      rw [List.length_cons] at hroom
      rw [List.mem_cons, not_or]
      refine ⟨fun heq => ?_, ih (by omega)⟩
      rw [← heq] at hstep
      cases hstep with
      | refused hrefusal =>
          cases hrefusal with
          | noTransactionId _ _ _ hid =>
              rw [nextId_eq] at hid
              split at hid
              · cases hid
              · omega

theorem answersFor_subset (accountId : Int) (calls : List Call) (answers : List Answer) :
    answersFor accountId calls answers ⊆ answers := by
  intro answer hanswer
  obtain ⟨entry, hentry, rfl⟩ := List.mem_map.mp hanswer
  exact (List.of_mem_zip (List.mem_filter.mp hentry).1).2

end Store

/-- **Accounts do not interfere.** A run and the same run without the postings to all accounts but
one list the same bookings of that account and give the same answers to the calls that both make,
up to the ids of bookings, as long as a posting to the account is never refused because the store
has given out its last id; in fewer than `2 ^ 63` calls none is. -/
theorem Ledger.run_isolated (calls : List Call) (accountId : Int)
    (hids : Answer.posted (storeFault .idsExhausted) ∉
      answersFor accountId calls (run calls (.opened .empty)).1) :
    ∃ s s', (run calls (.opened .empty)).2 = .opened s ∧
      (run (calls.filter (Call.concerns accountId)) (.opened .empty)).2 = .opened s' ∧
      (s.transactionsById.filter fun t => t.accountId = accountId).map Transaction.unnumbered =
        (s'.transactionsById.filter fun t => t.accountId = accountId).map
          Transaction.unnumbered ∧
      (answersFor accountId calls (run calls (.opened .empty)).1).map Answer.unnumbered =
        (run (calls.filter (Call.concerns accountId)) (.opened .empty)).1.map
          Answer.unnumbered := by
  obtain ⟨answers, s, hsteps⟩ := Store.exists_steps calls Store.sound_empty
  rw [hsteps.run_eq] at hids ⊢
  obtain ⟨answers', s', hsteps', hanswers, halike⟩ :=
    Store.Alike.steps hsteps Store.sound_empty (Store.Alike.refl accountId .empty) hids
  have hs : s.Sound := hsteps.sound Store.sound_empty
  have hs' : s'.Sound := hsteps'.sound Store.sound_empty
  rw [hsteps'.run_eq]
  refine ⟨s, s', rfl, rfl, ?_, hanswers⟩
  rw [hs.transactionsById_filter, hs'.transactionsById_filter, halike.bookings]

/-- The debit of the other account may be dropped. -/
theorem Ledger.run_isolated_partPayment :
    Answer.posted (storeFault .idsExhausted) ∉
        answersFor 1 partPayment (run partPayment (.opened .empty)).1 ∧
      ∃ s s', (run partPayment (.opened .empty)).2 = .opened s ∧
        (run (partPayment.filter (Call.concerns 1)) (.opened .empty)).2 = .opened s' ∧
        (s.transactionsById.filter fun t => t.accountId = 1).map Transaction.unnumbered =
          (s'.transactionsById.filter fun t => t.accountId = 1).map Transaction.unnumbered ∧
        (answersFor 1 partPayment (run partPayment (.opened .empty)).1).map Answer.unnumbered =
          (run (partPayment.filter (Call.concerns 1)) (.opened .empty)).1.map
            Answer.unnumbered := by
  have hids : Answer.posted (storeFault .idsExhausted) ∉
      answersFor 1 partPayment (run partPayment (.opened .empty)).1 := by
    obtain ⟨answers, s, hsteps⟩ := Store.exists_steps partPayment Store.sound_empty
    rw [hsteps.run_eq]
    intro hmem
    exact hsteps.not_mem_exhausted (by decide) (Store.answersFor_subset _ _ _ hmem)
  exact ⟨hids, run_isolated partPayment 1 hids⟩

end Arrears
