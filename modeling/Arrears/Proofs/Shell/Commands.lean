import Arrears.Proofs.Ledger.Outcome
import Arrears.Proofs.Text.OneLine

/-!
# Lines, commands and responses

A response repeats texts from three places: words of the line that it answers, document numbers
and descriptions of operation types.

**Argument.** A word has no blank, so no refusal of a line has a further line.  A document number
is a word that an account has been opened under, so none in the store of a shell has one.  The
descriptions come from the reference data, they can be anything, and only one command lists them.
-/

namespace Arrears

namespace Money

theorem echoes_of_ofDecimal {d : Decimal} {fault : AmountFault} (h : ofDecimal d = .error fault) :
    fault.echoes = [] := by
  rw [ofDecimal] at h
  simp only at h
  split at h
  · obtain rfl := Except.error.inj h
    rfl
  · split at h
    · cases h
    · obtain rfl := Except.error.inj h
      rfl

theorem oneLine_of_ofText {word : String} {fault : AmountFault} (hword : OneLine word)
    (h : ofText word = .error fault) : ∀ s ∈ fault.echoes, OneLine s := by
  rw [ofText] at h
  cases hread : Decimal.ofChars (Text.trimmed word.toList) with
  | error cause =>
      simp only [hread] at h
      obtain rfl := Except.error.inj h
      exact List.forall_mem_singleton.mpr (Text.oneLine_trim hword)
  | ok d =>
      simp only [hread] at h
      simp [echoes_of_ofDecimal h]

end Money

namespace Command

variable {words : List String} {name field word : String} {cause : Invalid}

theorem oneLine_of_readId (hfield : OneLine field) (hword : OneLine word)
    (h : readId field word = .error cause) : ∀ s ∈ cause.echoes, OneLine s := by
  have hcause : cause = .notAnId field word := by
    rw [readId] at h
    split at h
    · split at h
      · cases h
      · exact (Except.error.inj h).symm
    · exact (Except.error.inj h).symm
  simp [hcause, Invalid.echoes, hfield, hword]

theorem oneLine_of_readAmount (hfield : OneLine field) (hword : OneLine word)
    (h : readAmount field word = .error cause) : ∀ s ∈ cause.echoes, OneLine s := by
  rw [readAmount] at h
  cases hread : Money.ofText word with
  | error fault =>
      simp only [hread] at h
      obtain rfl := Except.error.inj h
      exact Money.oneLine_of_ofText hword hread
  | ok amount =>
      simp only [hread] at h
      split at h
      · cases h
      · obtain rfl := Except.error.inj h
        simp [Invalid.echoes, hfield]

theorem oneLine_of_readOne (hname : OneLine name) (hfield : OneLine field)
    (hwords : ∀ word ∈ words, OneLine word) (h : readOne name field words = .error cause) :
    ∀ s ∈ cause.echoes, OneLine s := by
  unfold readOne at h
  split at h
  · exact oneLine_of_readId hfield (hwords _ (List.mem_singleton_self _)) h
  · obtain rfl := Except.error.inj h
    simp [Invalid.echoes, hname]

theorem oneLine_of_readNewAccount (hname : OneLine name)
    (hwords : ∀ word ∈ words, OneLine word) (h : readNewAccount name words = .error cause) :
    ∀ s ∈ cause.echoes, OneLine s := by
  unfold readNewAccount at h
  split at h
  · simp only [List.forall_mem_cons] at hwords
    obtain ⟨-, hbalance, huser, -⟩ := hwords
    rcases bind_eq_error h with h | ⟨balance, -, h⟩
    · exact oneLine_of_readAmount (by simp [OneLine]) hbalance h
    · exact oneLine_of_readId (by simp [OneLine]) huser (bind_pure_eq_error_iff.mp h)
  · obtain rfl := Except.error.inj h
    simp [Invalid.echoes, hname]

theorem oneLine_of_readNewTransaction (hname : OneLine name)
    (hwords : ∀ word ∈ words, OneLine word) (h : readNewTransaction name words = .error cause) :
    ∀ s ∈ cause.echoes, OneLine s := by
  unfold readNewTransaction at h
  split at h
  · simp only [List.forall_mem_cons] at hwords
    obtain ⟨haccount, htype, hamount, -⟩ := hwords
    rcases bind_eq_error h with h | ⟨accountId, -, h⟩
    · exact oneLine_of_readId (by simp [OneLine]) haccount h
    · rcases bind_eq_error h with h | ⟨operationTypeId, -, h⟩
      · exact oneLine_of_readId (by simp [OneLine]) htype h
      · exact oneLine_of_readAmount (by simp [OneLine]) hamount (bind_pure_eq_error_iff.mp h)
  · obtain rfl := Except.error.inj h
    simp [Invalid.echoes, hname]

theorem oneLine_of_ofWords (hwords : ∀ word ∈ words, OneLine word)
    (h : ofWords words = .error cause) : ∀ s ∈ cause.echoes, OneLine s := by
  cases words with
  | nil =>
      obtain rfl := Except.error.inj h
      simp [Invalid.echoes]
  | cons name arguments =>
      obtain ⟨hname, harguments⟩ := List.forall_mem_cons.mp hwords
      unfold ofWords at h
      simp only at h
      split at h
      · exact oneLine_of_readNewAccount hname harguments (bind_pure_eq_error_iff.mp h)
      · exact oneLine_of_readNewTransaction hname harguments (bind_pure_eq_error_iff.mp h)
      · exact oneLine_of_readOne hname (by simp [OneLine]) harguments
          (bind_pure_eq_error_iff.mp h)
      · exact oneLine_of_readOne hname (by simp [OneLine]) harguments
          (bind_pure_eq_error_iff.mp h)
      · exact oneLine_of_readOne hname (by simp [OneLine]) harguments
          (bind_pure_eq_error_iff.mp h)
      · cases h
      · cases h
      · cases h
      · cases h
      · obtain rfl := Except.error.inj h
        simpa [Invalid.echoes] using hname

theorem document_mem_of_ofWords {request : NewAccount}
    (h : ofWords words = .ok (.createAccount request)) : request.document ∈ words := by
  cases words with
  | nil => cases h
  | cons name arguments =>
      unfold ofWords at h
      simp only at h
      split at h
      · obtain ⟨read, hread, h⟩ := bind_eq_ok h
        obtain rfl : read = request := by simpa [pure, Except.pure] using h
        unfold readNewAccount at hread
        split at hread
        · obtain ⟨balance, -, hread⟩ := bind_eq_ok hread
          obtain ⟨userId, -, hread⟩ := bind_eq_ok hread
          obtain rfl := Except.ok.inj hread
          simp
        · cases hread
      · obtain ⟨read, -, h⟩ := bind_eq_ok h
        cases h
      · obtain ⟨id, -, h⟩ := bind_eq_ok h
        cases h
      · obtain ⟨id, -, h⟩ := bind_eq_ok h
        cases h
      · obtain ⟨id, -, h⟩ := bind_eq_ok h
        cases h
      all_goals cases h

end Command

namespace Shell

variable {types : List OperationType} {s s' : Store} {now : Moment}

/-! ## Answers and responses -/

/-- The result does not stop the program, and its response is plain. -/
def Tellable {α : Type} (lines : α → List String) (result : Except Failure α) : Prop :=
  ∃ response, respond lines result = .ok response ∧ response.Plain

theorem tellable_refuse {α : Type} (lines : α → List String) {error : Error}
    (h : ∀ s ∈ error.echoes, OneLine s) : Tellable lines (refuse error) :=
  ⟨_, rfl, Response.plain_ofError h⟩

theorem tellable_ok {α : Type} {lines : α → List String} {value : α}
    (h : ∀ line ∈ lines value, OneLine line) : Tellable lines (.ok value) :=
  ⟨_, rfl, h⟩

/-- What a shell keeps of a store with these operation types. -/
structure Tame (types : List OperationType) (s : Store) : Prop where
  sound : s.Sound
  operationTypes : s.operationTypes = types
  documents : ∀ account ∈ s.accounts, OneLine account.document

theorem echoes_of_check {request : NewAccount} {cause : Invalid}
    (h : request.check = .error cause) : cause.echoes = [] := by
  rw [NewAccount.check] at h
  split at h
  · obtain rfl := Except.error.inj h
    rfl
  · split at h
    · obtain rfl := Except.error.inj h
      rfl
    · cases h

theorem oneLine_of_check {request : NewAccount} {document : String}
    (h : request.check = .ok document) (hdocument : OneLine request.document) :
    OneLine document := by
  obtain ⟨-, rfl⟩ := NewAccount.valid_of_check h
  exact Text.oneLine_trim hdocument

theorem tellable_opened {request : NewAccount} {result : Except Failure Account}
    (hdocument : OneLine request.document)
    (h : s.Step (.openAccount now request) (.opened result) s') :
    Tellable (fun account => [account.describe]) result := by
  cases h with
  | refused hrefusal =>
      cases hrefusal with
      | invalidOpening hcheck =>
          refine tellable_refuse _ ?_
          simp [Error.echoes, echoes_of_check hcheck]
      | unknownUser => exact tellable_refuse _ (by simp [Error.echoes])
      | noAccountId => exact tellable_refuse _ (by simp [Error.echoes])
      | takenDocument hcheck =>
          refine tellable_refuse _ ?_
          simpa [Error.echoes] using oneLine_of_check hcheck hdocument
  | opened hcheck =>
      refine tellable_ok (List.forall_mem_singleton.mpr ?_)
      exact Account.oneLine_describe (oneLine_of_check hcheck hdocument)

theorem tellable_posted {request : NewTransaction} {result : Except Failure Transaction}
    (h : s.Step (.post now request) (.posted result) s') :
    Tellable (fun t => [t.describe]) result := by
  cases h with
  | refused hrefusal =>
      cases hrefusal <;> exact tellable_refuse _ (by simp [Error.echoes, Invalid.echoes])
  | booked => exact tellable_ok (by simp)

theorem Tame.step {call : Call} {answer : Answer} (ht : Tame types s)
    (hcall : ∀ reference, call ≠ .seed reference)
    (hdocument : ∀ now request, call = .openAccount now request → OneLine request.document)
    (h : s.Step call answer s') : Tame types s' := by
  refine ⟨ht.sound.step h, ?_, ?_⟩
  · cases h with
    | seeded => exact absurd rfl (hcall _)
    | booked => simpa using ht.operationTypes
    | _ => exact ht.operationTypes
  · cases h with
    | seeded => exact absurd rfl (hcall _)
    | booked => simpa using ht.documents
    | refused => exact ht.documents
    | opened hcheck =>
        refine List.forall_mem_append.mpr ⟨ht.documents, List.forall_mem_singleton.mpr ?_⟩
        exact oneLine_of_check hcheck (hdocument _ _ rfl)

/-! ## Commands -/

theorem tellable_orNotFound {α : Type} {entity : Entity} {id : Int} {found : Option α}
    {lines : α → List String} (h : ∀ row, found = some row → ∀ line ∈ lines row, OneLine line) :
    Tellable lines (Store.orNotFound entity id found) := by
  cases found with
  | none => exact tellable_refuse _ (by simp [Error.echoes])
  | some row => exact tellable_ok (h row rfl)

theorem tellable_account (ht : Tame types s) (id : Int) :
    Tellable (fun account => [account.describe]) (Ledger.account id (.opened s)) := by
  refine tellable_orNotFound fun account hfound => List.forall_mem_singleton.mpr ?_
  exact Account.oneLine_describe (ht.documents account (List.mem_of_find?_eq_some hfound))

theorem tellable_transaction (s : Store) (id : Int) :
    Tellable (fun t => [t.describe]) (Ledger.transaction id (.opened s)) :=
  tellable_orNotFound fun _ _ => by simp

theorem tellable_openDebits (s : Store) (accountId : Int) :
    Tellable (List.map Transaction.describe) (Ledger.openDebits accountId (.opened s)) := by
  cases haccount : s.account? accountId with
  | none =>
      have hrefused : Ledger.openDebits accountId (.opened s) =
          refuse (.notFound .account accountId) := by
        simp only [Ledger.openDebits, Database.query, Store.account, haccount]
        rfl
      rw [hrefused]
      exact tellable_refuse _ (by simp [Error.echoes])
  | some account =>
      have hdebits : Ledger.openDebits accountId (.opened s) = .ok (s.openDebits accountId) := by
        simp only [Ledger.openDebits, Database.query, Store.account, haccount]
        rfl
      rw [hdebits]
      exact tellable_ok (by simp)

theorem tellable_operationTypes (ht : Tame types s)
    (htypes : ∀ operationType ∈ types, OneLine operationType.description) :
    Tellable (List.map OperationType.describe) (Ledger.operationTypes (.opened s)) := by
  refine tellable_ok (List.forall_mem_map.mpr fun operationType hmem => ?_)
  have hstored : operationType ∈ s.operationTypes := List.mem_mergeSort.mp hmem
  obtain ⟨behavior, hbehavior⟩ := ht.sound.canonical operationType hstored
  rw [OperationType.oneLine_describe_iff hbehavior]
  exact htypes operationType (ht.operationTypes ▸ hstored)

theorem oneLine_of_mem_usage : ∀ line ∈ Command.usage, OneLine line := by
  simp only [Command.usage, List.forall_mem_cons]
  refine ⟨?_, ?_, ?_, ?_, ?_, ?_, ?_, ?_, by simp⟩ <;> exact oneLine_ofList.mpr (by decide)

/-- Every command is answered, and keeps the store tame.  Only a listing of operation types can
break a line. -/
theorem exists_execute (ht : Tame types s) {command : Command}
    (hdocument : ∀ request, command = .createAccount request → OneLine request.document)
    (htypes : command = .operationTypes →
      ∀ operationType ∈ types, OneLine operationType.description) (now : Moment) :
    ∃ response s', execute now command (.opened s) = (.ok response, .opened s') ∧
      response.Plain ∧ Tame types s' := by
  cases command with
  | createAccount request =>
      obtain ⟨result, s', hstep⟩ := Store.exists_step_opened ht.sound now request
      obtain ⟨response, hresponse, hplain⟩ := tellable_opened (hdocument request rfl) hstep
      refine ⟨response, s', ?_, hplain, ht.step (by simp) ?_ hstep⟩
      · simp only [execute, Store.createAccount_of_step ht.sound hstep, hresponse]
      · rintro now request' ⟨⟩
        exact hdocument _ rfl
  | post request =>
      obtain ⟨result, s', hstep⟩ := Store.exists_step_posted ht.sound now request
      obtain ⟨response, hresponse, hplain⟩ := tellable_posted hstep
      refine ⟨response, s', ?_, hplain, ht.step (by simp) (by simp) hstep⟩
      simp only [execute, Store.post_of_step ht.sound hstep, hresponse]
  | account id =>
      obtain ⟨response, hresponse, hplain⟩ := tellable_account ht id
      exact ⟨response, s, by rw [execute, hresponse], hplain, ht⟩
  | transaction id =>
      obtain ⟨response, hresponse, hplain⟩ := tellable_transaction s id
      exact ⟨response, s, by rw [execute, hresponse], hplain, ht⟩
  | debits accountId =>
      obtain ⟨response, hresponse, hplain⟩ := tellable_openDebits s accountId
      exact ⟨response, s, by rw [execute, hresponse], hplain, ht⟩
  | operationTypes =>
      obtain ⟨response, hresponse, hplain⟩ := tellable_operationTypes ht (htypes rfl)
      exact ⟨response, s, by rw [execute, hresponse], hplain, ht⟩
  | help => exact ⟨_, s, rfl, oneLine_of_mem_usage, ht⟩
  | quit => exact ⟨_, s, rfl, by simp [Response.Plain, Response.success], ht⟩

/-! ## Output -/

/-- What is written is the responses one behind the other, each with a line feed. -/
theorem output_eq_join (run : Run) :
    run.output = String.join (run.responses.map fun response => response.text ++ "\n") := by
  simp only [Run.output, String.join, List.foldl_map, String.append_assoc]

/-! ## Lines -/

theorem oneLine_of_invalid {line : List Char} {cause : Invalid}
    (h : Request.ofLine line = .invalid cause) : ∀ s ∈ cause.echoes, OneLine s := by
  unfold Request.ofLine at h
  split at h
  · cases h
  · cases h
  · split at h
    · cases h
    · cases h
    · next hread =>
        obtain rfl := Request.invalid.inj h
        exact Command.oneLine_of_ofWords (fun _ hword => Text.oneLine_of_mem_words hword) hread

theorem oneLine_of_run {line : List Char} {request : NewAccount}
    (h : Request.ofLine line = .run (.createAccount request)) : OneLine request.document := by
  unfold Request.ofLine at h
  split at h
  · cases h
  · cases h
  · split at h
    · cases h
    · next hread =>
        obtain rfl := Request.run.inj h
        exact Text.oneLine_of_mem_words (Command.document_mem_of_ofWords hread)
    · cases h

/-- The line asks for the operation types. -/
def Lists (line : List UInt8) : Prop :=
  ∃ chars, Text.decodeUtf8 line = .ok chars ∧ Request.ofLine chars = .run .operationTypes

/-- A line stops the run or lets it go on, without a broken line in either case. -/
theorem answer_cases (ht : Tame types s) {line : List UInt8}
    (htypes : Lists line → ∀ operationType ∈ types, OneLine operationType.description)
    (now : Moment) :
    (∃ ending, answer now line (.opened s) = .stop ending (.opened s)) ∨
      ∃ response s', answer now line (.opened s) = .next response (.opened s') ∧
        (∀ r ∈ response, r.Plain) ∧ Tame types s' := by
  rw [answer]
  cases hdecode : Text.decodeUtf8 line with
  | error fault => exact Or.inl ⟨_, rfl⟩
  | ok chars =>
      cases hrequest : Request.ofLine chars with
      | nothing => exact Or.inr ⟨none, s, by simp [hrequest], by simp, ht⟩
      | quit => exact Or.inl ⟨.finished, by simp [hrequest]⟩
      | invalid cause =>
          have hplain : (Response.ofError (.validation cause)).Plain :=
            Response.plain_ofError (oneLine_of_invalid hrequest)
          refine Or.inr ⟨some (.ofError (.validation cause)), s, by simp [hrequest], ?_, ht⟩
          simpa using hplain
      | run command =>
          obtain ⟨response, s', hexecute, hplain, ht'⟩ := exists_execute ht
            (fun request hcommand => oneLine_of_run (hcommand ▸ hrequest))
            (fun hcommand => htypes ⟨chars, hdecode, hcommand ▸ hrequest⟩) now
          refine Or.inr ⟨some response, s', by simp [hrequest, hexecute], ?_, ht'⟩
          simpa using hplain

theorem plain_runLines (ht : Tame types s) (clock : Nat → Moment) {input : List (List UInt8)}
    (htypes : ∀ line ∈ input, Lists line →
      ∀ operationType ∈ types, OneLine operationType.description) :
    ∀ response ∈ (runLines clock input (.opened s)).responses, response.Plain := by
  induction input generalizing s with
  | nil => simp [runLines]
  | cons line rest ih =>
      obtain ⟨hline, hrest⟩ := List.forall_mem_cons.mp htypes
      rw [runLines]
      rcases answer_cases ht hline (clock (Database.opened s).size) with
        ⟨ending, hanswer⟩ | ⟨response, s', hanswer, hplain, ht'⟩
      · rw [hanswer]
        simp
      · rw [hanswer]
        refine List.forall_mem_append.mpr ⟨fun r hr => hplain r (by simpa using hr), ?_⟩
        exact ih ht' hrest

end Shell
end Arrears
