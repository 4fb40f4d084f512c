import Arrears.Proofs.Shell.Language

/-!
# Execution of commands

A command makes a call to the ledger, or it only asks what is stored.  `Execution` has one
constructor for each of the two calls and one for all questions.
-/

namespace Arrears

/-- The command only asks what is stored. -/
def Command.isQuery : Command → Bool
  | .createAccount _ | .post _ => false
  | _ => true

namespace Shell

variable {now : Moment} {s s' : Store} {command : Command} {response : Response}

/-- What a command can do to a store. -/
inductive Execution (now : Moment) (s : Store) : Command → Response → Store → Prop
  | opened {request : NewAccount} {result : Except Failure Account} {response : Response}
      {s' : Store} (hstep : s.Step (.openAccount now request) (.opened result) s')
      (hresponse : respond (fun account => [account.describe]) result = .ok response) :
      Execution now s (.createAccount request) response s'
  | posted {request : NewTransaction} {result : Except Failure Transaction} {response : Response}
      {s' : Store} (hstep : s.Step (.post now request) (.posted result) s')
      (hresponse : respond (fun t => [t.describe]) result = .ok response) :
      Execution now s (.post request) response s'
  | told {command : Command} {response : Response} (hquery : command.isQuery = true)
      (hstatus : response.status = .ok ∨ response.status = .notFound) :
      Execution now s command response s

/-! ## Every command is executed -/

theorem exists_respond_opened {request : NewAccount} {result : Except Failure Account}
    (h : s.Step (.openAccount now request) (.opened result) s') :
    ∃ response, respond (fun account => [account.describe]) result = .ok response := by
  cases h with
  | refused hrefusal => cases hrefusal <;> exact ⟨_, rfl⟩
  | opened => exact ⟨_, rfl⟩

theorem exists_respond_posted {request : NewTransaction} {result : Except Failure Transaction}
    (h : s.Step (.post now request) (.posted result) s') :
    ∃ response, respond (fun t => [t.describe]) result = .ok response := by
  cases h with
  | refused hrefusal => cases hrefusal <;> exact ⟨_, rfl⟩
  | booked => exact ⟨_, rfl⟩

theorem respond_orNotFound {α : Type} (lines : α → List String) (entity : Entity) (id : Int)
    (found : Option α) :
    ∃ response, respond lines (Store.orNotFound entity id found) = .ok response ∧
      (response.status = .ok ∨ response.status = .notFound) := by
  cases found with
  | none => exact ⟨_, rfl, Or.inr rfl⟩
  | some row => exact ⟨_, rfl, Or.inl rfl⟩

theorem respond_openDebits (s : Store) (accountId : Int) :
    ∃ response, respond (List.map Transaction.describe)
        (Ledger.openDebits accountId (.opened s)) = .ok response ∧
      (response.status = .ok ∨ response.status = .notFound) := by
  simp only [Ledger.openDebits, Database.query, Store.account]
  cases s.account? accountId with
  | none => exact ⟨_, rfl, Or.inr rfl⟩
  | some account => exact ⟨_, rfl, Or.inl rfl⟩

theorem exists_told (hquery : command.isQuery = true) (now : Moment) (s : Store) :
    ∃ response, execute now command (.opened s) = (.ok response, .opened s) ∧
      (response.status = .ok ∨ response.status = .notFound) := by
  cases command with
  | createAccount request => cases hquery
  | post request => cases hquery
  | account id =>
      obtain ⟨response, hresponse, hstatus⟩ :=
        respond_orNotFound (fun account : Account => [account.describe]) .account id (s.account? id)
      exact ⟨response, Prod.ext hresponse rfl, hstatus⟩
  | transaction id =>
      obtain ⟨response, hresponse, hstatus⟩ :=
        respond_orNotFound (fun t : Transaction => [t.describe]) .transaction id
          (s.transaction? id)
      exact ⟨response, Prod.ext hresponse rfl, hstatus⟩
  | debits accountId =>
      obtain ⟨response, hresponse, hstatus⟩ := respond_openDebits s accountId
      exact ⟨response, Prod.ext hresponse rfl, hstatus⟩
  | operationTypes => exact ⟨_, rfl, Or.inl rfl⟩
  | help => exact ⟨_, rfl, Or.inl rfl⟩
  | quit => exact ⟨_, rfl, Or.inl rfl⟩

theorem exists_execution (hs : s.Sound) (now : Moment) (command : Command) :
    ∃ response s', execute now command (.opened s) = (.ok response, .opened s') ∧
      Execution now s command response s' := by
  by_cases hquery : command.isQuery = true
  · obtain ⟨response, hexecute, hstatus⟩ := exists_told hquery now s
    exact ⟨response, s, hexecute, .told hquery hstatus⟩
  · cases command with
    | createAccount request =>
        obtain ⟨result, s', hstep⟩ := Store.exists_step_opened hs now request
        obtain ⟨response, hresponse⟩ := exists_respond_opened hstep
        refine ⟨response, s', ?_, .opened hstep hresponse⟩
        simp only [execute, Store.createAccount_of_step hs hstep, hresponse]
    | post request =>
        obtain ⟨result, s', hstep⟩ := Store.exists_step_posted hs now request
        obtain ⟨response, hresponse⟩ := exists_respond_posted hstep
        refine ⟨response, s', ?_, .posted hstep hresponse⟩
        simp only [execute, Store.post_of_step hs hstep, hresponse]
    | _ => exact absurd rfl hquery

/-! ## What follows -/

/-- The store is sound, and its users and operation types are those of an earlier one. -/
structure Keeps (s s' : Store) : Prop where
  sound : s'.Sound
  users : s'.users = s.users
  operationTypes : s'.operationTypes = s.operationTypes

theorem Keeps.refl (hs : s.Sound) : Keeps s s :=
  ⟨hs, rfl, rfl⟩

theorem Keeps.trans {s'' : Store} (h : Keeps s s') (h' : Keeps s' s'') : Keeps s s'' :=
  ⟨h'.sound, h'.users.trans h.users, h'.operationTypes.trans h.operationTypes⟩

theorem Execution.keeps (hs : s.Sound) (h : Execution now s command response s') :
    Keeps s s' := by
  cases h with
  | opened hstep =>
      refine ⟨hs.step hstep, ?_, ?_⟩ <;> cases hstep <;> rfl
  | posted hstep =>
      refine ⟨hs.step hstep, ?_, ?_⟩ <;> cases hstep <;> simp
  | told => exact Keeps.refl hs

theorem opened_badRequest_iff {request : NewAccount} {result : Except Failure Account}
    (hstep : s.Step (.openAccount now request) (.opened result) s')
    (hresponse : respond (fun account => [account.describe]) result = .ok response) :
    response.status = .badRequest ↔ ¬ request.Valid := by
  cases hstep with
  | refused hrefusal =>
      cases hrefusal with
      | invalidOpening hcheck =>
          obtain rfl := Except.ok.inj hresponse
          refine iff_of_true rfl fun hvalid => ?_
          rw [NewAccount.check_of_valid hvalid] at hcheck
          cases hcheck
      | unknownUser hcheck | noAccountId hcheck | takenDocument hcheck =>
          obtain rfl := Except.ok.inj hresponse
          have hvalid := (NewAccount.valid_of_check hcheck).1
          exact iff_of_false (by simp [Response.ofError]) (not_not_intro hvalid)
  | opened hcheck =>
      obtain rfl := Except.ok.inj hresponse
      have hvalid := (NewAccount.valid_of_check hcheck).1
      exact iff_of_false (by simp [Response.success]) (not_not_intro hvalid)

theorem posted_badRequest_iff {request : NewTransaction} {result : Except Failure Transaction}
    (hstep : s.Step (.post now request) (.posted result) s')
    (hresponse : respond (fun t => [t.describe]) result = .ok response) :
    response.status = .badRequest ↔ ¬ 0 < request.amount.minor := by
  cases hstep with
  | refused hrefusal =>
      cases hrefusal with
      | amountNotPositive hpos =>
          obtain rfl := Except.ok.inj hresponse
          exact iff_of_true rfl hpos
      | unknownAccount hpos | unknownOperationType hpos | noTransactionId hpos =>
          obtain rfl := Except.ok.inj hresponse
          exact iff_of_false (by simp [Response.ofError]) (not_not_intro hpos)
  | booked hpos =>
      obtain rfl := Except.ok.inj hresponse
      exact iff_of_false (by simp [Response.success]) (not_not_intro hpos)

/-- A command is called a bad request exactly if it makes no sense by itself. -/
theorem Execution.badRequest_iff (h : Execution now s command response s') :
    response.status = .badRequest ↔ ¬ command.Sensible := by
  cases h with
  | opened hstep hresponse => exact opened_badRequest_iff hstep hresponse
  | posted hstep hresponse => exact posted_badRequest_iff hstep hresponse
  | told hquery hstatus =>
      have hsensible : command.Sensible := by
        cases command <;> first | exact trivial | cases hquery
      refine iff_of_false (fun hbad => ?_) (not_not_intro hsensible)
      rcases hstatus with hstatus | hstatus <;> simp [hbad] at hstatus

/-- An account that a command opens has the trimmed document number and the balance of the
request. -/
theorem Execution.accounts_eq {request : NewAccount}
    (h : Execution now s (.createAccount request) response s') (hstatus : response.status = .ok) :
    ∃ account, s'.accounts = s.accounts ++ [account] ∧
      account.document = Text.trim request.document ∧
      account.currentBalance = request.balance := by
  cases h with
  | opened hstep hresponse =>
      cases hstep with
      | refused hrefusal =>
          cases hrefusal <;> obtain rfl := Except.ok.inj hresponse <;> cases hstatus
      | opened hcheck =>
          obtain ⟨-, rfl⟩ := NewAccount.valid_of_check hcheck
          exact ⟨_, rfl, rfl, rfl⟩
  | told hquery => cases hquery

end Shell

/-! ## Two validations that agree

A line is checked when it is read, and the ledger checks once more what it is asked to do.  What the
reader accepts makes sense by itself (`Command.sensible_of_ofLine`), so the checks of the ledger let it
through, and no other answer of the ledger is a bad request.
-/

namespace Shell

variable {s s' : Store} {line : List UInt8} {chars : List Char}

/-! ### Lines and what they ask for -/

/-- The line is blank, or begins with `#` behind its blanks. -/
def Ignored (chars : List Char) : Prop :=
  ∀ c ∈ (Text.trimmed chars).head?, c = '#'

/-- What a line asks for when it is read as a command. -/
def Request.ofResult : Except Invalid Command → Request
  | .ok .quit => .quit
  | .ok command => .run command
  | .error cause => .invalid cause

theorem ofResult_run {command : Command} (hquit : command ≠ .quit) :
    Request.ofResult (.ok command) = .run command := by
  cases command <;> first | rfl | exact absurd rfl hquit

theorem ofLine_of_ignored (h : Ignored chars) : Request.ofLine chars = .nothing := by
  rw [Request.ofLine]
  cases htrimmed : Text.trimmed chars with
  | nil => rfl
  | cons c cs =>
      obtain rfl : c = '#' := h c (by simp [htrimmed])
      rfl

/-- Blanks around a line make no difference to the command that it is. -/
theorem ofLine_trimmed (chars : List Char) :
    Command.ofLine (String.ofList (Text.trimmed chars)) = Command.ofLine (String.ofList chars) := by
  simp only [Command.ofLine, Text.words, String.toList_ofList, Text.wordsOf_trimmed]

theorem ofLine_of_not_ignored (h : ¬ Ignored chars) :
    Request.ofLine chars = Request.ofResult (Command.ofLine (String.ofList chars)) := by
  rw [← ofLine_trimmed, Request.ofLine]
  split
  · next hnil => exact absurd (by simp [Ignored, hnil]) h
  · next hhash => exact absurd (by simp [Ignored, hhash]) h
  · rfl

/-! ### Answers -/

theorem exists_answer_run (hs : s.Sound) (now : Moment)
    (hdecode : Text.decodeUtf8 line = .ok chars) {command : Command}
    (hrequest : Request.ofLine chars = .run command) :
    ∃ response s', answer now line (.opened s) = .next (some response) (.opened s') ∧
      execute now command (.opened s) = (.ok response, .opened s') ∧
      Execution now s command response s' := by
  obtain ⟨response, s', hexecute, hexecution⟩ := exists_execution hs now command
  refine ⟨response, s', ?_, hexecute, hexecution⟩
  simp only [answer, hdecode, hrequest, hexecute]

theorem answer_of_invalid (now : Moment) (s : Store)
    (hdecode : Text.decodeUtf8 line = .ok chars) {cause : Invalid}
    (hrequest : Request.ofLine chars = .invalid cause) :
    answer now line (.opened s) = .next (some (.ofError (.validation cause))) (.opened s) := by
  simp only [answer, hdecode, hrequest]

/-- **The two validations agree.**  After every run of a ledger, take a line that is not ignored and
does not ask to quit.  It is answered, and called a bad request exactly if it is not a command.  In
that case the answer tells what is wrong with the line, and nothing changes.  Otherwise the answer
is that of the command, which is no bad request.  An account that such a line opens has just the
document number and the balance that stand in the line. -/
theorem answer_badRequest_iff (calls : List Call) (now : Moment)
    (hdecode : Text.decodeUtf8 line = .ok chars) (hline : ¬ Ignored chars)
    (hquit : Command.ofLine (String.ofList chars) ≠ .ok .quit) :
    ∃ s response s', (Ledger.run calls (.opened .empty)).2 = .opened s ∧
      answer now line (.opened s) = .next (some response) (.opened s') ∧
      (response.status = .badRequest ↔
        ∃ cause, Command.ofLine (String.ofList chars) = .error cause) ∧
      (∀ cause, Command.ofLine (String.ofList chars) = .error cause →
        response = .ofError (.validation cause) ∧ s' = s) ∧
      (∀ command, Command.ofLine (String.ofList chars) = .ok command →
        execute now command (.opened s) = (.ok response, .opened s') ∧
          response.status ≠ .badRequest) ∧
      (∀ arguments, Text.words (String.ofList chars) = "create-account" :: arguments →
        response.status = .ok →
          ∃ document balance userId amount account, arguments = [document, balance, userId] ∧
            Money.ofText balance = .ok amount ∧ s'.accounts = s.accounts ++ [account] ∧
            account.document = document ∧ account.currentBalance = amount) := by
  obtain ⟨answers, s, hsteps⟩ := Store.exists_steps calls Store.sound_empty
  have hs : s.Sound := hsteps.sound Store.sound_empty
  have hrequest := ofLine_of_not_ignored hline
  cases hcommand : Command.ofLine (String.ofList chars) with
  | error cause =>
      rw [hcommand] at hrequest
      refine ⟨s, .ofError (.validation cause), s, by rw [hsteps.run_eq],
        answer_of_invalid now s hdecode hrequest, ?_, ?_, ?_, ?_⟩
      · exact iff_of_true rfl ⟨cause, rfl⟩
      · rintro other ⟨⟩
        exact ⟨rfl, rfl⟩
      · rintro command ⟨⟩
      · rintro arguments - ⟨⟩
  | ok command =>
      have hne : command ≠ .quit := fun h => hquit (by rw [hcommand, h])
      rw [hcommand, ofResult_run hne] at hrequest
      obtain ⟨response, s', hanswer, hexecute, hexecution⟩ :=
        exists_answer_run hs now hdecode hrequest
      have hgood : response.status ≠ .badRequest := fun hbad =>
        hexecution.badRequest_iff.mp hbad (Command.sensible_of_ofLine hcommand)
      refine ⟨s, response, s', by rw [hsteps.run_eq], hanswer, ?_, ?_, ?_, ?_⟩
      · exact iff_of_false hgood (by simp)
      · rintro cause ⟨⟩
      · rintro other ⟨⟩
        exact ⟨hexecute, hgood⟩
      · intro arguments hwords hstatus
        have hasks : Command.Asks (Text.words (String.ofList chars)) command :=
          Command.asks_of_ofWords hcommand
        rw [hwords] at hasks
        obtain ⟨request, balance, userId, rfl, rfl, hbalance, -⟩ := hasks.createAccount_inv
        obtain ⟨account, haccounts, hdocument, hopening⟩ := hexecution.accounts_eq hstatus
        have hword : request.document ∈ Text.words (String.ofList chars) := by simp [hwords]
        rw [Text.trim_of_mem_words hword] at hdocument
        exact ⟨_, balance, userId, request.balance, account, rfl,
          (Command.readAmount_eq_ok_iff.mp hbalance).1, haccounts, hdocument, hopening⟩

/-- A line with blanks around it opens an account under a number with leading zeros. -/
def opening : List UInt8 :=
  Text.bytes "  create-account 0042 150.5 +7 \r\n"

theorem answer_badRequest_iff_opening :
    ∃ chars, Text.decodeUtf8 opening = .ok chars ∧ ¬ Ignored chars ∧
      Command.ofLine (String.ofList chars) ≠ .ok .quit ∧
      ∃ s response s',
        (Ledger.run [.seed ⟨[], [⟨7, "Ana"⟩]⟩] (.opened .empty)).2 = .opened s ∧
        answer (.ofSeconds 100) opening (.opened s) = .next (some response) (.opened s') ∧
        response.status ≠ .badRequest ∧
        s'.accounts.map (fun account => (account.document, account.currentBalance.minor)) =
          [("0042", 15050)] := by
  have hdecode : Text.decodeUtf8 opening = .ok "  create-account 0042 150.5 +7 \r\n".toList := by
    decide +kernel
  have hline : ¬ Ignored "  create-account 0042 150.5 +7 \r\n".toList := by
    intro hignored
    have hrequest : Request.ofLine "  create-account 0042 150.5 +7 \r\n".toList ≠ .nothing := by
      decide +kernel
    exact hrequest (ofLine_of_ignored hignored)
  have hcommand : Command.ofLine (String.ofList "  create-account 0042 150.5 +7 \r\n".toList) =
      .ok (.createAccount ⟨"0042", ⟨15050, by decide⟩, 7⟩) := by decide +kernel
  have hquit : Command.ofLine (String.ofList "  create-account 0042 150.5 +7 \r\n".toList) ≠
      .ok .quit := by
    rw [hcommand]
    simp
  obtain ⟨s, response, s', hrun, hanswer, -, -, hexecuted, -⟩ := answer_badRequest_iff
    [.seed ⟨[], [⟨7, "Ana"⟩]⟩] (.ofSeconds 100) hdecode hline hquit
  obtain ⟨hexecute, hgood⟩ := hexecuted _ hcommand
  refine ⟨_, hdecode, hline, hquit, s, response, s', hrun, hanswer, hgood, ?_⟩
  obtain rfl : (⟨[⟨7, "Ana"⟩], [], [], []⟩ : Store) = s := by
    have hseeded : (Ledger.run [.seed ⟨[], [⟨7, "Ana"⟩]⟩] (.opened .empty)).2 =
        .opened ⟨[⟨7, "Ana"⟩], [], [], []⟩ := by decide +kernel
    rw [hseeded] at hrun
    exact Database.opened.inj hrun
  have hstored : (execute (.ofSeconds 100) (.createAccount ⟨"0042", ⟨15050, by decide⟩, 7⟩)
      (.opened ⟨[⟨7, "Ana"⟩], [], [], []⟩)).2 =
        .opened ⟨[⟨7, "Ana"⟩], [], [⟨1, "0042", ⟨15050, by decide⟩, 7, .ofSeconds 100⟩], []⟩ := by
    decide +kernel
  rw [hexecute] at hstored
  rw [← Database.opened.inj hstored.symm]
  rfl

end Shell

end Arrears
