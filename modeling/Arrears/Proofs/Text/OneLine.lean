import Arrears.Proofs.Text.Numeral
import Arrears.Proofs.Text.Words
import Arrears.Shell

/-!
# Texts of one line

Numbers, amounts and moments are written with digits and a few marks, so each on one line.  The
messages of errors are on one line as soon as the texts that they repeat are, and a word of a line
has no blank at all.  The description of an operation type is repeated as it is stored, and nothing
is known about it: `OperationType.oneLine_describe_iff` is an equivalence.
-/

namespace Arrears

/-! ## The characters of numbers in writing -/

variable {c : Char}

namespace Text

theorem not_mem_digits (hc : c.isDigit = false) (n : Nat) : c ∉ digits n := by
  intro h
  rw [isDigit_of_mem_digits h] at hc
  cases hc

theorem not_mem_padded (hc : c.isDigit = false) (width n : Nat) : c ∉ padded width n := by
  intro h
  rw [isDigit_of_mem_padded h] at hc
  cases hc

theorem not_mem_integerText (hc : c.isDigit = false) (hminus : c ≠ '-') (n : Int) :
    c ∉ integerText n := by
  rw [integerText]
  split <;> simp [not_mem_digits hc, hminus]

end Text

theorem Decimal.not_mem_text (hc : c.isDigit = false) (hminus : c ≠ '-') (hpoint : c ≠ '.')
    (d : Decimal) : c ∉ d.text.toList := by
  have hplain : c ∉ plainText d.mantissa d.scale := by
    rw [plainText]
    split <;> simp [Text.not_mem_digits hc, Text.not_mem_padded hc, hpoint]
  rw [text, String.toList_ofList]
  split <;> simp [hplain, hminus]

namespace Moment

theorem not_mem_yearText (hc : c.isDigit = false) (hminus : c ≠ '-') (hplus : c ≠ '+')
    (year : Int) : c ∉ yearText year := by
  rw [yearText]
  split_ifs <;> simp [Text.not_mem_padded hc, hminus, hplus]

theorem not_mem_dateText (hc : c.isDigit = false) (hminus : c ≠ '-') (hplus : c ≠ '+')
    (date : Calendar.Date) : c ∉ dateText date := by
  simp [dateText, not_mem_yearText hc hminus hplus, Text.not_mem_padded hc, hminus]

theorem not_mem_timeText (hc : c.isDigit = false) (hpoint : c ≠ '.') (hcolon : c ≠ ':')
    (second nanos : Nat) : c ∉ timeText second nanos := by
  have hfraction : c ∉ fractionText (nanos % 1000000000) := by
    rw [fractionText]
    split_ifs <;> simp [Text.not_mem_padded hc, hpoint]
  simp [timeText, Text.not_mem_padded hc, hcolon, hfraction]

theorem not_mem_text (hc : c.isDigit = false) (hmarks : c ∉ ['-', '+', '.', ':', 'T'])
    (t : Moment) : c ∉ t.text.toList := by
  simp only [List.mem_cons, List.not_mem_nil, or_false, not_or] at hmarks
  obtain ⟨hminus, hplus, hpoint, hcolon, hletter⟩ := hmarks
  have hzero : c ≠ '0' := by
    rintro rfl
    cases hc
  simp [text, localText, not_mem_dateText hc hminus hplus, not_mem_timeText hc hpoint hcolon,
    hplus, hcolon, hletter, hzero]

end Moment

/-! ## One line -/

/-- The text has no line feed. -/
def OneLine (s : String) : Prop :=
  '\n' ∉ s.toList

instance (s : String) : Decidable (OneLine s) :=
  inferInstanceAs (Decidable ('\n' ∉ s.toList))

@[simp] theorem oneLine_append {s t : String} : OneLine (s ++ t) ↔ OneLine s ∧ OneLine t := by
  simp [OneLine, String.toList_append]

theorem oneLine_ofList {cs : List Char} : OneLine (String.ofList cs) ↔ '\n' ∉ cs := by
  rw [OneLine, String.toList_ofList]

namespace Text

/-! ### Words -/

theorem oneLine_of_mem_words {word s : String} (h : word ∈ words s) : OneLine word := by
  intro hfeed
  exact absurd (not_isBlank_of_mem_words h '\n' hfeed) (by decide)

theorem oneLine_trim {s : String} (h : OneLine s) : OneLine (trim s) := by
  rw [trim, oneLine_ofList]
  exact fun hfeed => h (mem_of_mem_trimmed hfeed)

/-! ### Numbers -/

@[simp] theorem oneLine_ofNat (n : Nat) : OneLine (ofNat n) := by
  rw [ofNat, oneLine_ofList]
  exact not_mem_digits rfl n

@[simp] theorem oneLine_ofInt (n : Int) : OneLine (ofInt n) := by
  rw [ofInt, oneLine_ofList]
  exact not_mem_integerText rfl (by decide) n

end Text

/-! ### Amounts and moments -/

@[simp] theorem Decimal.oneLine_text (d : Decimal) : OneLine d.text :=
  d.not_mem_text rfl (by decide) (by decide)

@[simp] theorem Money.oneLine_text (amount : Money) : OneLine amount.text :=
  amount.toDecimal.oneLine_text

@[simp] theorem Decimal.Fault.oneLine_message (fault : Decimal.Fault) : OneLine fault.message := by
  cases fault with
  | scaleTooLarge scale =>
      unfold message
      simp only [oneLine_append, Text.oneLine_ofNat]
      simp [OneLine]
  | _ => exact oneLine_ofList.mpr (by decide)

@[simp] theorem Moment.oneLine_text (t : Moment) : OneLine t.text :=
  t.not_mem_text rfl (by decide)

/-! ### Stored records -/

theorem Behavior.oneLine_text (behavior : Behavior) : OneLine behavior.text := by
  cases behavior <;> exact oneLine_ofList.mpr (by decide)

theorem Account.oneLine_describe {account : Account} (h : OneLine account.document) :
    OneLine account.describe := by
  unfold describe
  simp only [oneLine_append, Text.oneLine_ofInt, Money.oneLine_text,
    Moment.oneLine_text, h]
  simp [OneLine]

@[simp] theorem Transaction.oneLine_describe (t : Transaction) : OneLine t.describe := by
  unfold describe
  simp only [oneLine_append, Text.oneLine_ofInt, Money.oneLine_text,
    Moment.oneLine_text]
  simp [OneLine]

theorem OperationType.oneLine_describe_iff {operationType : OperationType} {behavior : Behavior}
    (h : operationType.behavior = behavior.text) :
    OneLine operationType.describe ↔ OneLine operationType.description := by
  have hlabels : OneLine "operation_type id=" ∧ OneLine " description=" ∧
      OneLine " behavior=" := by
    simp [OneLine]
  unfold describe
  simp [h, hlabels, Behavior.oneLine_text]

/-! ### Errors -/

/-- The texts that the message repeats as they are. -/
def AmountFault.echoes : AmountFault → List String
  | .notDecimal text _ => [text]
  | _ => []

def Invalid.echoes : Invalid → List String
  | .badAmount fault => fault.echoes
  | .unknownCommand name => [name]
  | .argumentCount command _ _ => [command]
  | .notAnId field text => [field, text]
  | .fieldNotPositive field _ => [field]
  | .stated message => [message]
  | _ => []

/-- The texts that a caller is told as they are. -/
def Error.echoes : Error → List String
  | .alreadyExists _ key => [key]
  | .validation cause => cause.echoes
  | _ => []

theorem AmountFault.oneLine_message {fault : AmountFault} (h : ∀ s ∈ fault.echoes, OneLine s) :
    OneLine fault.message := by
  cases fault with
  | notDecimal text cause =>
      unfold message
      simp only [oneLine_append, Decimal.Fault.oneLine_message, h text (List.mem_singleton_self _)]
      simp [OneLine]
  | subCent value =>
      unfold message
      simp only [oneLine_append, Decimal.oneLine_text]
      simp [OneLine]
  | outOfRange value =>
      unfold message
      simp only [oneLine_append, Decimal.oneLine_text]
      simp [OneLine]

theorem Invalid.oneLine_message {cause : Invalid} (h : ∀ s ∈ cause.echoes, OneLine s) :
    OneLine cause.message := by
  cases cause with
  | badAmount fault => exact fault.oneLine_message h
  | emptyDocument => exact oneLine_ofList.mpr (by decide)
  | emptyCommand => exact oneLine_ofList.mpr (by decide)
  | stated text => exact h text (List.mem_singleton_self _)
  | _ =>
      simp only [echoes, List.forall_mem_cons, List.not_mem_nil] at h
      unfold message
      simp only [oneLine_append, Money.oneLine_text, Text.oneLine_ofNat, h]
      simp [OneLine]

theorem Entity.oneLine_name (entity : Entity) : OneLine entity.name := by
  cases entity <;> exact oneLine_ofList.mpr (by decide)

/-! ### Responses -/

/-- The lines of the body are lines. -/
def Response.Plain (response : Response) : Prop :=
  ∀ line ∈ response.lines, OneLine line

/-- What a caller is told about an error has no further line if the texts that it repeats have
none. -/
theorem Response.plain_ofError {error : Error} (h : ∀ s ∈ error.echoes, OneLine s) :
    (Response.ofError error).Plain := by
  cases error with
  | notFound entity id =>
      refine List.forall_mem_singleton.mpr ?_
      unfold Error.text
      simp only [oneLine_append, Entity.oneLine_name, Text.oneLine_ofInt]
      simp [OneLine]
  | alreadyExists entity key =>
      refine List.forall_mem_singleton.mpr ?_
      unfold Error.text
      simp only [oneLine_append, Entity.oneLine_name, h key (List.mem_singleton_self _)]
      simp [OneLine]
  | validation cause => exact List.forall_mem_singleton.mpr (cause.oneLine_message h)
  | _ => exact List.forall_mem_singleton.mpr (oneLine_ofList.mpr (by decide))

end Arrears
