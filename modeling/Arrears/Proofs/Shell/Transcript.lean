import Arrears.Proofs.Moment.Text
import Arrears.Proofs.Money.Writing
import Arrears.Proofs.Shell.Commands

/-!
# What is written

A record is written on one line, and a response on a line for its status and one for each line of its
body.  Nothing is escaped: the document of an account and the description of an operation type can be
any text.
-/

namespace Arrears

/-! ## Records in one line

Numbers, amounts, moments and behaviors have no blank.  Such a field is the last of a line if the last
blank is that of its label, so it can be taken off whatever stands in front of it, and the first field
of a line can be taken off at the first blank behind it.  A free text is the only one of its line.
-/

variable {label first s t v w : String}

/-! ### Fields behind labels -/

/-- A label begins with a blank and has no other. -/
def IsLabel (label : String) : Prop :=
  label.toList.head? = some ' ' ∧ ' ' ∉ label.toList.tail

instance (label : String) : Decidable (IsLabel label) :=
  inferInstanceAs (Decidable (_ ∧ _))

theorem IsLabel.exists_name (h : IsLabel label) :
    ∃ name, label.toList = ' ' :: name ∧ ' ' ∉ name := by
  obtain ⟨name, hname⟩ := List.head?_eq_some_iff.mp h.1
  have hblank := h.2
  rw [hname] at hblank
  exact ⟨name, hname, hblank⟩

theorem last_field_inj (hlabel : IsLabel label) (hv : ' ' ∉ v.toList) (hw : ' ' ∉ w.toList)
    (h : s ++ label ++ v = t ++ label ++ w) : s = t ∧ v = w := by
  obtain ⟨name, hname, hblank⟩ := hlabel.exists_name
  have hlists : s.toList ++ ' ' :: (name ++ v.toList) = t.toList ++ ' ' :: (name ++ w.toList) := by
    simpa [hname] using congrArg String.toList h
  obtain ⟨hst, hvw⟩ := Text.append_cons_inj_right (by simp [hblank, hv]) (by simp [hblank, hw])
    hlists
  exact ⟨String.toList_inj.mp hst, String.toList_inj.mp (List.append_cancel_left hvw)⟩

/-- A field without a blank is taken off at the beginning of a line. -/
theorem first_field_inj (hlabel : IsLabel label) (hs : ' ' ∉ s.toList) (ht : ' ' ∉ t.toList)
    (h : first ++ s ++ label ++ v = first ++ t ++ label ++ w) : s = t ∧ v = w := by
  obtain ⟨name, hname, -⟩ := hlabel.exists_name
  have hlists : s.toList ++ ' ' :: (name ++ v.toList) = t.toList ++ ' ' :: (name ++ w.toList) := by
    simpa [hname] using congrArg String.toList h
  obtain ⟨hst, hvw⟩ := Text.append_cons_inj_left hs ht hlists
  exact ⟨String.toList_inj.mp hst, String.toList_inj.mp (List.append_cancel_left hvw)⟩

/-! ### The fields of records -/

namespace Text

theorem blank_not_mem_ofInt (n : Int) : ' ' ∉ (ofInt n).toList := by
  rw [ofInt, String.toList_ofList]
  exact not_mem_integerText rfl (by decide) n

theorem ofInt_inj {n m : Int} (h : ofInt n = ofInt m) : n = m :=
  integerText_inj (String.ofList_injective h)

end Text

theorem Money.blank_not_mem_text (amount : Money) : ' ' ∉ amount.text.toList :=
  amount.toDecimal.not_mem_text rfl (by decide) (by decide)

theorem Moment.blank_not_mem_text (t : Moment) : ' ' ∉ t.text.toList :=
  t.not_mem_text rfl (by decide)

/-! ### Records -/

/-- A transaction with the moment that its text says. -/
def Transaction.asWritten (t : Transaction) : Transaction :=
  { t with createdAt := t.createdAt.asWritten }

/-- An account with the moment that its text says. -/
def Account.asWritten (a : Account) : Account :=
  { a with createdAt := a.createdAt.asWritten }

theorem Transaction.describe_asWritten (t : Transaction) : t.asWritten.describe = t.describe := by
  unfold asWritten describe
  rw [Moment.text_asWritten]

theorem Account.describe_asWritten (a : Account) : a.asWritten.describe = a.describe := by
  unfold asWritten describe
  rw [Moment.text_asWritten]

theorem Transaction.asWritten_eq_of_describe_eq {t u : Transaction} (h : t.describe = u.describe) :
    t.asWritten = u.asWritten := by
  unfold describe at h
  obtain ⟨h, hcreatedAt⟩ := last_field_inj (by decide) t.createdAt.blank_not_mem_text
    u.createdAt.blank_not_mem_text h
  obtain ⟨h, hbalance⟩ := last_field_inj (by decide) t.balance.blank_not_mem_text
    u.balance.blank_not_mem_text h
  obtain ⟨h, hamount⟩ := last_field_inj (by decide) t.amount.blank_not_mem_text
    u.amount.blank_not_mem_text h
  obtain ⟨h, htype⟩ := last_field_inj (by decide) (Text.blank_not_mem_ofInt _)
    (Text.blank_not_mem_ofInt _) h
  obtain ⟨hid, haccount⟩ := first_field_inj (by decide) (Text.blank_not_mem_ofInt _)
    (Text.blank_not_mem_ofInt _) h
  rw [asWritten, asWritten, Transaction.mk.injEq]
  exact ⟨Text.ofInt_inj hid, Text.ofInt_inj haccount, Text.ofInt_inj htype,
    Money.text_inj.mp hamount, Money.text_inj.mp hbalance, Moment.text_eq_iff.mp hcreatedAt⟩

theorem Account.asWritten_eq_of_describe_eq {a b : Account} (h : a.describe = b.describe) :
    a.asWritten = b.asWritten := by
  unfold describe at h
  obtain ⟨h, hcreatedAt⟩ := last_field_inj (by decide) a.createdAt.blank_not_mem_text
    b.createdAt.blank_not_mem_text h
  obtain ⟨h, huser⟩ := last_field_inj (by decide) (Text.blank_not_mem_ofInt _)
    (Text.blank_not_mem_ofInt _) h
  obtain ⟨h, hbalance⟩ := last_field_inj (by decide) a.currentBalance.blank_not_mem_text
    b.currentBalance.blank_not_mem_text h
  obtain ⟨hid, hdocument⟩ := first_field_inj (by decide) (Text.blank_not_mem_ofInt _)
    (Text.blank_not_mem_ofInt _) h
  rw [asWritten, asWritten, Account.mk.injEq]
  exact ⟨Text.ofInt_inj hid, hdocument, Money.text_inj.mp hbalance, Text.ofInt_inj huser,
    Moment.text_eq_iff.mp hcreatedAt⟩

theorem Transaction.describe_eq_iff {t u : Transaction} :
    t.describe = u.describe ↔ t.asWritten = u.asWritten := by
  refine ⟨asWritten_eq_of_describe_eq, fun h => ?_⟩
  rw [← t.describe_asWritten, h, u.describe_asWritten]

theorem Account.describe_eq_iff {a b : Account} :
    a.describe = b.describe ↔ a.asWritten = b.asWritten := by
  refine ⟨asWritten_eq_of_describe_eq, fun h => ?_⟩
  rw [← a.describe_asWritten, h, b.describe_asWritten]

theorem Transaction.asWritten_eq {t : Transaction} (h : t.createdAt.Regular) : t.asWritten = t := by
  rw [asWritten, h.asWritten_eq]

theorem Account.asWritten_eq {a : Account} (h : a.createdAt.Regular) : a.asWritten = a := by
  rw [asWritten, h.asWritten_eq]

/-- The behavior has to be free of blanks, as the description is not. -/
theorem OperationType.eq_of_describe_eq {o p : OperationType} (ho : ' ' ∉ o.behavior.toList)
    (hp : ' ' ∉ p.behavior.toList) (h : o.describe = p.describe) : o = p := by
  unfold describe at h
  obtain ⟨h, hbehavior⟩ := last_field_inj (by decide) ho hp h
  obtain ⟨hid, hdescription⟩ := first_field_inj (by decide) (Text.blank_not_mem_ofInt _)
    (Text.blank_not_mem_ofInt _) h
  rw [OperationType.mk.injEq]
  exact ⟨Text.ofInt_inj hid, hdescription, hbehavior⟩

/-- **Records in one line.**  Any two transactions have the same line exactly if all their fields are
the same, the moments as they are written; so have any two accounts, whatever their documents are.
If leap seconds end their minutes, the same line is that of the same record.  Operation types with
the behavior of credits or of debits have the same line only if they are the same, whatever their
descriptions are. -/
theorem describe_inj :
    (∀ t u : Transaction, t.describe = u.describe ↔ t.asWritten = u.asWritten) ∧
      (∀ a b : Account, a.describe = b.describe ↔ a.asWritten = b.asWritten) ∧
      (∀ t u : Transaction, t.createdAt.Regular → u.createdAt.Regular →
        t.describe = u.describe → t = u) ∧
      (∀ a b : Account, a.createdAt.Regular → b.createdAt.Regular →
        a.describe = b.describe → a = b) ∧
      ∀ o p : OperationType, o.behavior ∈ ["CREDIT", "DEBIT"] → p.behavior ∈ ["CREDIT", "DEBIT"] →
        o.describe = p.describe → o = p := by
  refine ⟨fun _ _ => Transaction.describe_eq_iff, fun _ _ => Account.describe_eq_iff, ?_, ?_, ?_⟩
  · intro t u ht hu h
    rwa [Transaction.describe_eq_iff, Transaction.asWritten_eq ht, Transaction.asWritten_eq hu] at h
  · intro a b ha hb h
    rwa [Account.describe_eq_iff, Account.asWritten_eq ha, Account.asWritten_eq hb] at h
  · have hblank : ∀ behavior ∈ ["CREDIT", "DEBIT"], ' ' ∉ behavior.toList := by decide
    intro o p ho hp h
    exact OperationType.eq_of_describe_eq (hblank _ ho) (hblank _ hp) h

/-- A debit in the leap second at the end of 2016. -/
def debitInLeapSecond : Transaction :=
  ⟨1, 1, 1, ⟨-315, by decide⟩, ⟨-315, by decide⟩, ⟨1483228799, 1250000000, by decide⟩⟩

/-- The same debit one second later. -/
def debitAtMidnight : Transaction :=
  { debitInLeapSecond with createdAt := ⟨1483228800, 250000000, by decide⟩ }

def accountUnder (document : String) : Account :=
  ⟨1, document, ⟨315, by decide⟩, 7, .ofSeconds 0⟩

/-- Records that are nearly the same have lines of their own, with leap seconds and with texts that
look like fields. -/
theorem describe_inj_lookAlike :
    debitInLeapSecond.createdAt.Regular ∧ debitAtMidnight.createdAt.Regular ∧
      debitInLeapSecond.describe ≠ debitAtMidnight.describe ∧
      (accountUnder "11").createdAt.Regular ∧
      (accountUnder "11 current_balance=3.15").createdAt.Regular ∧
      (accountUnder "11").describe ≠ (accountUnder "11 current_balance=3.15").describe ∧
      (⟨1, "CASH behavior=DEBIT", "CREDIT"⟩ : OperationType).describe ≠
        (⟨1, "CASH", "DEBIT"⟩ : OperationType).describe := by
  obtain ⟨-, -, htransactions, haccounts, htypes⟩ := describe_inj
  have hleap : debitInLeapSecond.createdAt.Regular := by decide
  have hmidnight : debitAtMidnight.createdAt.Regular := by decide
  have hplain : (accountUnder "11").createdAt.Regular := by decide
  have hfield : (accountUnder "11 current_balance=3.15").createdAt.Regular := by decide
  refine ⟨hleap, hmidnight, fun h => ?_, hplain, hfield, fun h => ?_, fun h => ?_⟩
  · exact absurd (htransactions _ _ hleap hmidnight h) (by decide)
  · exact absurd (haccounts _ _ hplain hfield h) (by decide)
  · exact absurd (htypes _ _ (by decide) (by decide) h) (by decide)

/-- A debit with a leap second that is not the last of its minute. -/
def debitInLeap : Transaction :=
  ⟨1, 1, 1, ⟨-1040, by decide⟩, ⟨-1040, by decide⟩, ⟨86164, 1333333333, by decide⟩⟩

/-- The same debit in the second behind it. -/
def debitBehindLeap : Transaction :=
  { debitInLeap with createdAt := ⟨86165, 333333333, by decide⟩ }

theorem describe_not_inj :
    debitInLeap.describe = "transaction id=1 account=1 operation_type=1 amount=-10.40 " ++
        "balance=-10.40 created_at=1970-01-01T23:56:05.333333333+00:00" ∧
      debitBehindLeap.describe = debitInLeap.describe ∧ debitBehindLeap ≠ debitInLeap ∧
      ¬ ∀ t u : Transaction, t.describe = u.describe → t = u := by
  have hline : debitBehindLeap.describe = debitInLeap.describe :=
    Transaction.describe_eq_iff.mpr (by decide)
  have hne : debitBehindLeap ≠ debitInLeap := by decide
  exact ⟨by decide +kernel, hline, hne, fun hinj => hne (hinj _ _ hline)⟩

/-- A behavior with blanks could be taken for a part of the description. -/
example : (⟨1, "CASH", "OUT behavior=DEBIT"⟩ : OperationType).describe =
    (⟨1, "CASH behavior=OUT", "DEBIT"⟩ : OperationType).describe := by
  decide

/-! ## Reading a transcript

To read a transcript is to cut it at its line feeds: a line that begins with two spaces belongs to the
body of a response, and every other line is the status of a new one.  So the rows are read back if no
row has a line feed inside, and nothing that is read has one.
-/

/-- A response as its transcript shows it: the label of the status and the lines of the body. -/
def Response.parts (response : Response) : String × List String :=
  (response.status.label, response.lines)

namespace Transcript

/-- The rows of a transcript, without their line feeds. -/
def rowsOf (cs : List Char) : List (List Char) :=
  (Text.stretches (· = '\n') cs).dropLast

/-- Reads rows from the last one on: the body that no status stands in front of, and the responses
behind it. -/
def gather : List (List Char) → List String × List (String × List String)
  | [] => ([], [])
  | (' ' :: ' ' :: line) :: rows => (String.ofList line :: (gather rows).1, (gather rows).2)
  | label :: rows => ([], (String.ofList label, (gather rows).1) :: (gather rows).2)

/-- The responses that a transcript shows. -/
def read (transcript : String) : List (String × List String) :=
  (gather (rowsOf transcript.toList)).2

/-! ### Rows -/

/-- The rows of a response: its status, and its lines behind two spaces. -/
def rows (response : Response) : List (List Char) :=
  response.status.label.toList :: response.lines.map fun line => ' ' :: ' ' :: line.toList

theorem rowsOf_append {row : List Char} (h : '\n' ∉ row) (cs : List Char) :
    rowsOf (row ++ '\n' :: cs) = row :: rowsOf cs := by
  rw [rowsOf, Text.stretches_append_cons (Text.not_separator_of_not_mem h) (by simp), List.dropLast_cons_of_ne_nil
    (Text.stretches_ne_nil _ cs)]
  rfl

/-- Rows that are each ended by a line feed are cut there again. -/
theorem rowsOf_flatMap {rows : List (List Char)} (h : ∀ row ∈ rows, '\n' ∉ row) :
    rowsOf (rows.flatMap fun row => row ++ ['\n']) = rows := by
  induction rows with
  | nil => rfl
  | cons row rows ih =>
      obtain ⟨hrow, hrows⟩ := List.forall_mem_cons.mp h
      rw [List.flatMap_cons, List.append_assoc, List.singleton_append, rowsOf_append hrow,
        ih hrows]

theorem feed_not_mem_rowsOf {row cs : List Char} (h : row ∈ rowsOf cs) : '\n' ∉ row := by
  intro hfeed
  have hstretch := Text.not_of_mem_stretches ((List.dropLast_sublist _).subset h) '\n' hfeed
  simp at hstretch

/-! ### Reading rows -/

theorem gather_label {label : String} (h : ∀ rest, label.toList ≠ ' ' :: ' ' :: rest)
    (rows : List (List Char)) :
    gather (label.toList :: rows) = ([], (label, (gather rows).1) :: (gather rows).2) := by
  rw [gather]
  · rw [String.ofList_toList]
  · exact h

theorem gather_body (lines : List String) (rows : List (List Char)) :
    gather ((lines.map fun line => ' ' :: ' ' :: line.toList) ++ rows) =
      (lines ++ (gather rows).1, (gather rows).2) := by
  induction lines with
  | nil => rfl
  | cons line lines ih =>
      rw [List.map_cons, List.cons_append, gather, ih, String.ofList_toList]
      rfl

theorem label_ne_indented (status : Status) (rest : List Char) :
    status.label.toList ≠ ' ' :: ' ' :: rest := by
  cases status <;> simp [Status.label]

theorem gather_rows (responses : List Response) :
    gather (responses.flatMap rows) = ([], responses.map Response.parts) := by
  induction responses with
  | nil => rfl
  | cons response responses ih =>
      rw [List.flatMap_cons, rows, List.cons_append, gather_label (label_ne_indented _),
        gather_body, ih]
      simp [Response.parts]

/-- What is read has no line feed inside if the rows have none. -/
theorem oneLine_of_gather {rows : List (List Char)} (h : ∀ row ∈ rows, '\n' ∉ row) :
    (∀ line ∈ (gather rows).1, OneLine line) ∧
      ∀ parts ∈ (gather rows).2, ∀ line ∈ parts.2, OneLine line := by
  fun_induction gather rows with
  | case1 => simp
  | case2 line rows ih =>
      obtain ⟨hrow, hrows⟩ := List.forall_mem_cons.mp h
      obtain ⟨hbody, hresponses⟩ := ih hrows
      have hline : OneLine (String.ofList line) := by
        rw [oneLine_ofList]
        exact fun hfeed => hrow (by simp [hfeed])
      exact ⟨List.forall_mem_cons.mpr ⟨hline, hbody⟩, hresponses⟩
  | case3 label rows _ ih =>
      obtain ⟨-, hrows⟩ := List.forall_mem_cons.mp h
      obtain ⟨hbody, hresponses⟩ := ih hrows
      exact ⟨by simp, List.forall_mem_cons.mpr ⟨hbody, hresponses⟩⟩

/-! ### Writing rows -/

theorem toList_text (response : Response) :
    response.text.toList ++ ['\n'] = (rows response).flatMap fun row => row ++ ['\n'] := by
  have hlines : ∀ (lines : List String) (written : String),
      (lines.foldl (fun written line => written ++ "\n  " ++ line) written).toList ++ ['\n'] =
        written.toList ++ '\n' :: (lines.map fun line => ' ' :: ' ' :: line.toList).flatMap
          fun row => row ++ ['\n'] := by
    intro lines
    induction lines with
    | nil => simp
    | cons line lines ih =>
        intro written
        rw [List.foldl_cons, ih]
        simp
  rw [Response.text, hlines, rows, List.flatMap_cons, List.append_assoc]
  rfl

theorem toList_output (run : Shell.Run) :
    run.output.toList =
      (run.responses.flatMap rows).flatMap fun row => row ++ ['\n'] := by
  have htext (response : Response) : (response.text ++ "\n").toList =
      (rows response).flatMap fun row => row ++ ['\n'] := by
    rw [String.toList_append]
    exact toList_text response
  simp only [Shell.output_eq_join, String.toList_join, List.flatMap_map, htext, List.flatMap_assoc]

theorem feed_not_mem_rows {response : Response} (h : response.Plain) :
    ∀ row ∈ rows response, '\n' ∉ row := by
  have hlabel : OneLine response.status.label := by
    cases response.status <;> exact oneLine_ofList.mpr (by decide)
  refine List.forall_mem_cons.mpr ⟨hlabel, List.forall_mem_map.mpr fun line hline => ?_⟩
  simpa [OneLine] using h line hline

/-- A transcript is read back exactly if no line of a response is broken. -/
theorem read_output_iff (run : Shell.Run) :
    read run.output = run.responses.map Response.parts ↔
      ∀ response ∈ run.responses, response.Plain := by
  constructor
  · intro h response hresponse
    have hparts : response.parts ∈ read run.output := by
      rw [h]
      exact List.mem_map_of_mem hresponse
    exact (oneLine_of_gather fun row hrow => feed_not_mem_rowsOf hrow).2 _ hparts
  · intro h
    have hrows : ∀ row ∈ run.responses.flatMap rows, '\n' ∉ row := by
      intro row hrow
      obtain ⟨response, hresponse, hrow⟩ := List.mem_flatMap.mp hrow
      exact feed_not_mem_rows (h response hresponse) row hrow
    rw [read, toList_output, rowsOf_flatMap hrows, gather_rows]

end Transcript

namespace Shell

/-! ### Shells on reference data -/

/-- A script that asks for the operation types. -/
def listing : List UInt8 :=
  Text.bytes "operation-types\n"

theorem responses_listing (clock : Nat → Moment) (s : Store) :
    (run clock listing (.opened s)).responses =
      [.success (s.operationTypesById.map OperationType.describe)] := by
  have hlines : lines listing = [listing] := by
    decide +kernel
  have hdecode : Text.decodeUtf8 listing = .ok "operation-types\n".toList := by
    decide +kernel
  have hrequest : Request.ofLine "operation-types\n".toList = .run .operationTypes := by
    decide +kernel
  rw [run, hlines, runLines, answer, hdecode]
  simp only [hrequest]
  rfl

theorem exists_seeded (reference : Reference) :
    ∃ s, (reference.seed (.opened .empty)).2 = .opened s ∧ Tame s.operationTypes s := by
  cases hmerge : Reference.mergeOperationTypes Store.empty.operationTypes
      reference.operationTypes with
  | error fault =>
      refine ⟨.empty, by rw [Reference.seed_of_error hmerge], Store.sound_empty, rfl, ?_⟩
      simp [Store.empty]
  | ok operationTypes =>
      refine ⟨Store.empty.merged reference operationTypes, ?_, Store.sound_empty.merged hmerge,
        rfl, ?_⟩
      · rw [Reference.seed_of_ok hmerge]
        rfl
      · simp [Store.merged, Store.empty]

/-- **Transcripts can be read.**  After reference data have been merged into an empty store, what a
shell writes is read back for all inputs exactly if no description of an operation type has a line
feed.  Whatever the descriptions, it is read back for every input that does not ask for the
operation types. -/
theorem run_output_read_iff (reference : Reference) :
    ∃ s, (reference.seed (.opened .empty)).2 = .opened s ∧
      ((∀ clock input, Transcript.read (run clock input (.opened s)).output =
          (run clock input (.opened s)).responses.map Response.parts) ↔
        ∀ operationType ∈ s.operationTypes, '\n' ∉ operationType.description.toList) ∧
      ∀ clock input, (∀ line ∈ lines input, ¬ Lists line) →
        Transcript.read (run clock input (.opened s)).output =
          (run clock input (.opened s)).responses.map Response.parts := by
  obtain ⟨s, hseed, ht⟩ := exists_seeded reference
  simp only [Transcript.read_output_iff]
  refine ⟨s, hseed, ⟨?_, ?_⟩, ?_⟩
  · -- The listing shows every description, so it is broken where one of them is.
    intro h operationType hmem
    obtain ⟨behavior, hbehavior⟩ := ht.sound.canonical operationType hmem
    have hplain := h (fun _ => .ofSeconds 0) listing
    rw [responses_listing, List.forall_mem_singleton] at hplain
    have hdescribed := hplain operationType.describe
      (List.mem_map_of_mem (List.mem_mergeSort.mpr hmem))
    exact (OperationType.oneLine_describe_iff hbehavior).mp hdescribed
  · intro h clock input
    exact plain_runLines ht clock fun _ _ _ => h
  · intro clock input hlists
    exact plain_runLines ht clock fun line hline hlisted => absurd hlisted (hlists line hline)

/-- Reference data with a description of three lines, the last two in the form of a response. -/
def forgery : String :=
  "[[operation_types]]\nid = 1\ndescription = \"PURCHASE\\nNOT_FOUND\\n  forged\"\n" ++
    "amount_behavior = \"DEBIT\"\n"

/-- The shell gives one response, and its transcript shows two. -/
theorem run_output_forged :
    ∃ reference s, Reference.ofToml forgery = .ok reference ∧
      (reference.seed (.opened .empty)).2 = .opened s ∧
      (run (fun _ => .ofSeconds 0) listing (.opened s)).responses.map Response.parts =
        [("OK", ["operation_type id=1 description=PURCHASE\nNOT_FOUND\n  forged behavior=DEBIT"])] ∧
      Transcript.read (run (fun _ => .ofSeconds 0) listing (.opened s)).output =
        [("OK", ["operation_type id=1 description=PURCHASE"]),
          ("NOT_FOUND", ["forged behavior=DEBIT"])] := by
  refine ⟨⟨[⟨1, "PURCHASE\nNOT_FOUND\n  forged", "DEBIT"⟩], []⟩,
    ⟨[], [⟨1, "PURCHASE\nNOT_FOUND\n  forged", "DEBIT"⟩], [], []⟩, ?_, ?_, ?_, ?_⟩
  · decide +kernel
  · decide +kernel
  · decide +kernel
  · decide +kernel

end Shell

end Arrears
