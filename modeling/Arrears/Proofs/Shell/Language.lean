import Arrears.Proofs.Money.Writing
import Arrears.Proofs.Shell.Commands

/-!
# The language of commands

`Asks` has one constructor for each command that the words of a line can ask for.  `Phrasing` tells,
letter by letter, which words phrase a command.
-/

namespace Arrears

/-! ## Words and what they ask for -/

namespace Command

/-- The words of a line ask for a command. -/
inductive Asks : List String → Command → Prop
  | createAccount {balance userId : String} {request : NewAccount}
      (hbalance : readAmount "current_balance" balance = .ok request.balance)
      (huser : readId "user_id" userId = .ok request.userId) :
      Asks ["create-account", request.document, balance, userId] (.createAccount request)
  | post {accountId operationTypeId amount : String} {request : NewTransaction}
      (haccount : readId "account_id" accountId = .ok request.accountId)
      (htype : readId "operation_type_id" operationTypeId = .ok request.operationTypeId)
      (hamount : readAmount "amount" amount = .ok request.amount) :
      Asks ["post", accountId, operationTypeId, amount] (.post request)
  | account {word : String} {id : Int} (hid : readId "account_id" word = .ok id) :
      Asks ["account", word] (.account id)
  | transaction {word : String} {id : Int} (hid : readId "transaction_id" word = .ok id) :
      Asks ["transaction", word] (.transaction id)
  | debits {word : String} {id : Int} (hid : readId "account_id" word = .ok id) :
      Asks ["debits", word] (.debits id)
  | operationTypes (arguments : List String) : Asks ("operation-types" :: arguments) .operationTypes
  | help (arguments : List String) : Asks ("help" :: arguments) .help
  | quit (arguments : List String) : Asks ("quit" :: arguments) .quit
  | exit (arguments : List String) : Asks ("exit" :: arguments) .quit

variable {words : List String} {name field word : String} {command : Command}

/-! ### Arguments -/

theorem readAmount_eq_ok_iff {amount : Money} :
    readAmount field word = .ok amount ↔ Money.ofText word = .ok amount ∧ 0 < amount.minor := by
  rw [readAmount]
  cases Money.ofText word with
  | error fault => simp
  | ok read =>
      by_cases hpos : read.isPositive = true
      · simp only [hpos, if_true, Except.ok.injEq]
        constructor
        · rintro rfl
          exact ⟨rfl, (Money.isPositive_iff _).mp hpos⟩
        · exact fun h => h.1
      · have hnone : ¬ (read = amount ∧ 0 < amount.minor) := by
          rintro ⟨rfl, h⟩
          exact hpos ((Money.isPositive_iff _).mpr h)
        simpa [hpos] using hnone

theorem readOne_eq_ok_iff {id : Int} :
    readOne name field words = .ok id ↔ ∃ word, words = [word] ∧ readId field word = .ok id := by
  unfold readOne
  split
  · simp
  · next hcount =>
      simp only [reduceCtorEq, false_iff, not_exists, not_and]
      exact fun word hwords => absurd hwords (hcount word)

theorem readNewAccount_eq_ok_iff {request : NewAccount} :
    readNewAccount name words = .ok request ↔
      ∃ balance userId, words = [request.document, balance, userId] ∧
        readAmount "current_balance" balance = .ok request.balance ∧
        readId "user_id" userId = .ok request.userId := by
  constructor
  · intro h
    unfold readNewAccount at h
    split at h
    · obtain ⟨balance, hbalance, h⟩ := bind_eq_ok h
      obtain ⟨userId, huser, h⟩ := bind_eq_ok h
      obtain rfl := Except.ok.inj h
      exact ⟨_, _, rfl, hbalance, huser⟩
    · cases h
  · rintro ⟨balance, userId, rfl, hbalance, huser⟩
    rw [readNewAccount, hbalance, huser]
    rfl

theorem readNewTransaction_eq_ok_iff {request : NewTransaction} :
    readNewTransaction name words = .ok request ↔
      ∃ accountId operationTypeId amount, words = [accountId, operationTypeId, amount] ∧
        readId "account_id" accountId = .ok request.accountId ∧
        readId "operation_type_id" operationTypeId = .ok request.operationTypeId ∧
        readAmount "amount" amount = .ok request.amount := by
  constructor
  · intro h
    unfold readNewTransaction at h
    split at h
    · obtain ⟨accountId, haccount, h⟩ := bind_eq_ok h
      obtain ⟨operationTypeId, htype, h⟩ := bind_eq_ok h
      obtain ⟨amount, hamount, h⟩ := bind_eq_ok h
      obtain rfl := Except.ok.inj h
      exact ⟨_, _, _, rfl, haccount, htype, hamount⟩
    · cases h
  · rintro ⟨accountId, operationTypeId, amount, rfl, haccount, htype, hamount⟩
    rw [readNewTransaction, haccount, htype, hamount]
    rfl

/-! ### Lines -/

theorem asks_of_ofWords (h : ofWords words = .ok command) : Asks words command := by
  cases words with
  | nil => cases h
  | cons name arguments =>
      unfold ofWords at h
      simp only at h
      split at h
      · obtain ⟨request, hread, h⟩ := bind_eq_ok h
        obtain rfl := Except.ok.inj h
        obtain ⟨balance, userId, rfl, hbalance, huser⟩ := readNewAccount_eq_ok_iff.mp hread
        exact .createAccount hbalance huser
      · obtain ⟨request, hread, h⟩ := bind_eq_ok h
        obtain rfl := Except.ok.inj h
        obtain ⟨accountId, operationTypeId, amount, rfl, haccount, htype, hamount⟩ :=
          readNewTransaction_eq_ok_iff.mp hread
        exact .post haccount htype hamount
      · obtain ⟨id, hread, h⟩ := bind_eq_ok h
        obtain rfl := Except.ok.inj h
        obtain ⟨word, rfl, hid⟩ := readOne_eq_ok_iff.mp hread
        exact .account hid
      · obtain ⟨id, hread, h⟩ := bind_eq_ok h
        obtain rfl := Except.ok.inj h
        obtain ⟨word, rfl, hid⟩ := readOne_eq_ok_iff.mp hread
        exact .transaction hid
      · obtain ⟨id, hread, h⟩ := bind_eq_ok h
        obtain rfl := Except.ok.inj h
        obtain ⟨word, rfl, hid⟩ := readOne_eq_ok_iff.mp hread
        exact .debits hid
      · obtain rfl := Except.ok.inj h
        exact .operationTypes arguments
      · obtain rfl := Except.ok.inj h
        exact .help arguments
      · obtain rfl := Except.ok.inj h
        exact .quit arguments
      · obtain rfl := Except.ok.inj h
        exact .exit arguments
      · cases h

/-- A line is accepted for exactly the commands that its words ask for. -/
theorem ofWords_eq_ok_iff : ofWords words = .ok command ↔ Asks words command := by
  refine ⟨asks_of_ofWords, fun h => ?_⟩
  cases h with
  | createAccount hbalance huser =>
      simp only [ofWords, readNewAccount, hbalance, huser]
      rfl
  | post haccount htype hamount =>
      simp only [ofWords, readNewTransaction, haccount, htype, hamount]
      rfl
  | account hid | transaction hid | debits hid =>
      simp only [ofWords, readOne, hid]
      rfl
  | operationTypes | help | quit | exit => rfl

theorem Asks.createAccount_inv {arguments : List String}
    (h : Asks ("create-account" :: arguments) command) :
    ∃ request balance userId, command = .createAccount request ∧
      arguments = [request.document, balance, userId] ∧
      readAmount "current_balance" balance = .ok request.balance ∧
      readId "user_id" userId = .ok request.userId := by
  generalize hwords : "create-account" :: arguments = words at h
  cases h with
  | createAccount hbalance huser =>
      exact ⟨_, _, _, rfl, (List.cons.inj hwords).2, hbalance, huser⟩
  | _ => exact absurd (List.cons.inj hwords).1 (by decide)

/-- A command that makes sense by itself, whatever is stored. -/
def Sensible : Command → Prop
  | .createAccount request => request.Valid
  | .post request => 0 < request.amount.minor
  | _ => True

/-- The checks of a ledger are no further checks for what a line asks for. -/
theorem sensible_of_ofLine {line : String} (h : ofLine line = .ok command) : command.Sensible := by
  have hasks : Asks (Text.words line) command := asks_of_ofWords h
  generalize hwords : Text.words line = words at hasks
  cases hasks with
  | @createAccount balance userId request hbalance _ =>
      have hdocument : request.document ∈ Text.words line := by simp [hwords]
      rw [Sensible, NewAccount.Valid, Text.trim_of_mem_words hdocument]
      exact ⟨Text.ne_empty_of_mem_words hdocument, (readAmount_eq_ok_iff.mp hbalance).2⟩
  | post _ _ hamount => exact (readAmount_eq_ok_iff.mp hamount).2
  | account | transaction | debits | operationTypes | help | quit | exit => exact trivial

end Command

/-! ## Phrases

A word is read as an id exactly if it is one, so the reader asks for no other words than those that
phrase a command.  Numbers and amounts are written without blanks and read back as what they were, so
a phrase phrases its command, whatever blanks stand between its words.
-/

namespace Command

/-- Ids are positive and fit 64 bits. -/
def IsId (id : Int) : Prop :=
  0 < id ∧ id ≤ Word.greatest

/-- The word is digits that denote an id, perhaps behind a plus sign. -/
def WritesId (word : String) (id : Int) : Prop :=
  ∃ digits, (word.toList = digits ∨ word.toList = '+' :: digits) ∧ digits ≠ [] ∧
    (∀ c ∈ digits, c.isDigit = true) ∧ id = Text.valueOfDigits digits ∧ IsId id

/-- The word is read as a positive amount. -/
def WritesAmount (word : String) (amount : Money) : Prop :=
  Money.ofText word = .ok amount ∧ 0 < amount.minor

/-- The words phrase the command. -/
def Phrasing : Command → List String → Prop
  | .createAccount request, words => ∃ balance userId,
      words = ["create-account", request.document, balance, userId] ∧
        WritesAmount balance request.balance ∧ WritesId userId request.userId
  | .post request, words => ∃ accountId operationTypeId amount,
      words = ["post", accountId, operationTypeId, amount] ∧
        WritesId accountId request.accountId ∧
        WritesId operationTypeId request.operationTypeId ∧ WritesAmount amount request.amount
  | .account id, words => ∃ word, words = ["account", word] ∧ WritesId word id
  | .transaction id, words => ∃ word, words = ["transaction", word] ∧ WritesId word id
  | .debits id, words => ∃ word, words = ["debits", word] ∧ WritesId word id
  | .operationTypes, words => words.head? = some "operation-types"
  | .help, words => words.head? = some "help"
  | .quit, words => words.head? = some "quit" ∨ words.head? = some "exit"

/-- Ids and amounts are positive, and a document number is a word. -/
def Proper : Command → Prop
  | .createAccount request => Text.IsWord request.document.toList ∧ 0 < request.balance.minor ∧
      IsId request.userId
  | .post request => IsId request.accountId ∧ IsId request.operationTypeId ∧
      0 < request.amount.minor
  | .account id | .transaction id | .debits id => IsId id
  | .operationTypes | .help | .quit => True

/-- The name of a command and its arguments as they are written. -/
def phrase : Command → List String
  | .createAccount request =>
    ["create-account", request.document, request.balance.text, Text.ofInt request.userId]
  | .post request =>
    ["post", Text.ofInt request.accountId, Text.ofInt request.operationTypeId, request.amount.text]
  | .account id => ["account", Text.ofInt id]
  | .transaction id => ["transaction", Text.ofInt id]
  | .debits id => ["debits", Text.ofInt id]
  | .operationTypes => ["operation-types"]
  | .help => ["help"]
  | .quit => ["quit"]

variable {word field line : String} {words : List String} {id : Int} {command : Command}

/-! ### The words that are read -/

theorem readId_eq_ok_iff : readId field word = .ok id ↔ WritesId word id := by
  have hread : readId field word = .ok id ↔ Text.integer? word.toList = some id ∧ IsId id := by
    rw [readId]
    cases Text.integer? word.toList with
    | none => simp
    | some n =>
        dsimp only
        by_cases hn : 0 < n ∧ n ≤ Word.greatest
        · rw [if_pos hn, Except.ok.injEq, Option.some.injEq]
          exact ⟨fun h => ⟨h, h ▸ hn⟩, fun h => h.1⟩
        · rw [if_neg hn, Option.some.injEq]
          exact iff_of_false (by simp) fun h => hn (h.1 ▸ h.2)
  rw [hread]
  constructor
  · rintro ⟨hinteger, hid⟩
    obtain ⟨digits, hword, hne, hdigits, hvalue⟩ :=
      (Text.integer?_eq_some_iff_of_pos hid.1).mp hinteger
    exact ⟨digits, hword, hne, hdigits, hvalue, hid⟩
  · rintro ⟨digits, hword, hne, hdigits, hvalue, hid⟩
    exact ⟨(Text.integer?_eq_some_iff_of_pos hid.1).mpr ⟨digits, hword, hne, hdigits, hvalue⟩, hid⟩

theorem asks_iff_phrasing : Asks words command ↔ command.Phrasing words := by
  constructor
  · intro h
    cases h with
    | createAccount hbalance huser =>
        exact ⟨_, _, rfl, readAmount_eq_ok_iff.mp hbalance, readId_eq_ok_iff.mp huser⟩
    | post haccount htype hamount =>
        exact ⟨_, _, _, rfl, readId_eq_ok_iff.mp haccount, readId_eq_ok_iff.mp htype,
          readAmount_eq_ok_iff.mp hamount⟩
    | account hid | transaction hid | debits hid => exact ⟨_, rfl, readId_eq_ok_iff.mp hid⟩
    | operationTypes | help => exact rfl
    | quit => exact Or.inl rfl
    | exit => exact Or.inr rfl
  · intro h
    cases command with
    | createAccount request =>
        obtain ⟨balance, userId, rfl, hbalance, huser⟩ := h
        exact .createAccount (readAmount_eq_ok_iff.mpr hbalance) (readId_eq_ok_iff.mpr huser)
    | post request =>
        obtain ⟨accountId, operationTypeId, amount, rfl, haccount, htype, hamount⟩ := h
        exact .post (readId_eq_ok_iff.mpr haccount) (readId_eq_ok_iff.mpr htype)
          (readAmount_eq_ok_iff.mpr hamount)
    | account id =>
        obtain ⟨word, rfl, hid⟩ := h
        exact .account (readId_eq_ok_iff.mpr hid)
    | transaction id =>
        obtain ⟨word, rfl, hid⟩ := h
        exact .transaction (readId_eq_ok_iff.mpr hid)
    | debits id =>
        obtain ⟨word, rfl, hid⟩ := h
        exact .debits (readId_eq_ok_iff.mpr hid)
    | operationTypes =>
        obtain ⟨arguments, rfl⟩ := List.head?_eq_some_iff.mp h
        exact .operationTypes arguments
    | help =>
        obtain ⟨arguments, rfl⟩ := List.head?_eq_some_iff.mp h
        exact .help arguments
    | quit =>
        rcases h with h | h
        · obtain ⟨arguments, rfl⟩ := List.head?_eq_some_iff.mp h
          exact .quit arguments
        · obtain ⟨arguments, rfl⟩ := List.head?_eq_some_iff.mp h
          exact .exit arguments

theorem ofLine_eq_ok_iff : ofLine line = .ok command ↔ command.Phrasing (Text.words line) := by
  rw [ofLine, ofWords_eq_ok_iff, asks_iff_phrasing]

/-! ### The phrase of a command -/

theorem toList_ofInt (hid : IsId id) : (Text.ofInt id).toList = Text.digits id.natAbs := by
  have hnonneg : ¬ id < 0 := not_lt.mpr hid.1.le
  rw [Text.ofInt, String.toList_ofList, Text.integerText, if_neg hnonneg]

theorem writesId_ofInt (hid : IsId id) : WritesId (Text.ofInt id) id := by
  refine ⟨Text.digits id.natAbs, Or.inl (toList_ofInt hid), Text.digits_ne_nil _,
    fun _ => Text.isDigit_of_mem_digits, ?_, hid⟩
  rw [Text.valueOfDigits_digits, Int.natCast_natAbs, abs_of_pos hid.1]

theorem isWord_ofInt (hid : IsId id) : Text.IsWord (Text.ofInt id).toList := by
  rw [toList_ofInt hid]
  exact ⟨Text.digits_ne_nil _, fun _ hc => Text.isBlank_of_isDigit (Text.isDigit_of_mem_digits hc)⟩

theorem phrasing_phrase (h : command.Proper) : command.Phrasing command.phrase := by
  cases command with
  | createAccount request =>
      obtain ⟨-, hbalance, huser⟩ := h
      exact ⟨_, _, rfl, ⟨Money.ofText_text _, hbalance⟩, writesId_ofInt huser⟩
  | post request =>
      obtain ⟨haccount, htype, hamount⟩ := h
      exact ⟨_, _, _, rfl, writesId_ofInt haccount, writesId_ofInt htype, Money.ofText_text _,
        hamount⟩
  | account id | transaction id | debits id => exact ⟨_, rfl, writesId_ofInt h⟩
  | operationTypes | help => exact rfl
  | quit => exact Or.inl rfl

theorem isWord_text (m : Money) : Text.IsWord m.text.toList := by
  have htext : m.text.toList = m.writing.sign.chars ++ m.writing.number := by
    rw [← m.writing_text, Writing.text, String.toList_ofList]
    exact List.append_nil _
  rw [htext]
  refine ⟨?_, fun _ => m.writing.not_isBlank⟩
  simp [Money.writing, Writing.number]

theorem isWord_of_mem_phrase (h : command.Proper) :
    ∀ word ∈ command.phrase, Text.IsWord word.toList := by
  cases command with
  | createAccount request =>
      obtain ⟨hdocument, -, huser⟩ := h
      simp only [phrase, List.forall_mem_cons]
      exact ⟨by decide, hdocument, isWord_text _, isWord_ofInt huser, by simp⟩
  | post request =>
      obtain ⟨haccount, htype, -⟩ := h
      simp only [phrase, List.forall_mem_cons]
      exact ⟨by decide, isWord_ofInt haccount, isWord_ofInt htype, isWord_text _, by simp⟩
  | account id | transaction id | debits id =>
      simp only [phrase, List.forall_mem_cons]
      exact ⟨by decide, isWord_ofInt h, by simp⟩
  | operationTypes | help | quit => exact List.forall_mem_singleton.mpr (by decide)

/-! ### Lines -/

/-- The line is made of words that phrase the command, with blanks between and around them. -/
def IsPhrasedBy (command : Command) (line : String) : Prop :=
  ∃ words : List String, Text.LaidOut (words.map String.toList) line.toList ∧
    (∀ word ∈ words, Text.IsWord word.toList) ∧ command.Phrasing words

theorem ofLine_eq_ok_iff_isPhrasedBy : ofLine line = .ok command ↔ command.IsPhrasedBy line := by
  rw [ofLine_eq_ok_iff]
  constructor
  · intro h
    obtain ⟨hlaid, hwords⟩ := Text.words_eq_iff.mp (Eq.refl (Text.words line))
    exact ⟨_, hlaid, hwords, h⟩
  · rintro ⟨words, hlaid, hwords, h⟩
    rwa [Text.words_eq_iff.mpr ⟨hlaid, hwords⟩]

/-- **The language of commands.**  A line is read as a command exactly if its words phrase it, and a
line whose words phrase no command is refused as invalid.  A line in which the phrase of a proper
command is laid out, with any blanks between and around its words, is read as this command. -/
theorem ofLine_language (line : String) :
    (∀ command, ofLine line = .ok command ↔ command.IsPhrasedBy line) ∧
      ((∃ cause, ofLine line = .error cause) ↔ ∀ command, ¬ IsPhrasedBy command line) ∧
      ∀ command : Command, command.Proper →
        Text.LaidOut (command.phrase.map String.toList) line.toList →
          ofLine line = .ok command := by
  refine ⟨fun _ => ofLine_eq_ok_iff_isPhrasedBy, ?_, ?_⟩
  · simp only [← ofLine_eq_ok_iff_isPhrasedBy]
    cases ofLine line with
    | error cause => simp
    | ok command => simp
  · intro command hproper hlaid
    exact ofLine_eq_ok_iff_isPhrasedBy.mpr
      ⟨command.phrase, hlaid, isWord_of_mem_phrase hproper, phrasing_phrase hproper⟩

/-- The phrase of a posting between blanks of several kinds. -/
theorem ofLine_language_posting :
    Proper (.post ⟨3, 4, ⟨7000, by decide⟩⟩) ∧
      Text.LaidOut (["post", "3", "4", "70.00"].map String.toList)
        "\u2003post\t3\u00a0 4 70.00\r".toList ∧
      ofLine "\u2003post\t3\u00a0 4 70.00\r" = .ok (.post ⟨3, 4, ⟨7000, by decide⟩⟩) := by
  have hproper : Proper (.post ⟨3, 4, ⟨7000, by decide⟩⟩) :=
    ⟨⟨by decide, by decide⟩, ⟨by decide, by decide⟩, by decide⟩
  have hphrase : phrase (.post ⟨3, 4, ⟨7000, by decide⟩⟩) = ["post", "3", "4", "70.00"] := by
    decide +kernel
  have hwords : Text.words "\u2003post\t3\u00a0 4 70.00\r" = ["post", "3", "4", "70.00"] := by
    decide +kernel
  have hlaid := (Text.words_eq_iff.mp hwords).1
  refine ⟨hproper, hlaid, ?_⟩
  rw [← hphrase] at hlaid
  exact (ofLine_language _).2.2 _ hproper hlaid

end Command

end Arrears
