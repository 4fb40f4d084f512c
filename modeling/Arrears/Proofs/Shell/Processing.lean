import Arrears.Proofs.Shell.Execution
import Arrears.Proofs.Text.Utf8

/-!
# What a run makes of its input

A run goes through the lines up to the first that is not UTF-8 or asks to quit.  `Handles` says what
is done at one of them, and `Processes` that it is done in their order.
-/

namespace Arrears

/-! ## One line

The shell trims a line before it looks for a `#` and reads the words of what is left, and these are the
words of the line.  A command is executed in a sound store, so none stops the program.
-/

namespace Shell

/-- The text of a line without the blanks around it, if the line is UTF-8. -/
def content? (line : List UInt8) : Option (List Char) :=
  match Text.decodeUtf8 line with
  | .ok chars => some (Text.trimmed chars)
  | .error _ => none

/-- There is nothing, or a `#` in front. -/
def PassedOver (content : List Char) : Prop :=
  ∀ c ∈ content.head?, c = '#'

instance : DecidablePred PassedOver
  | [] => .isTrue (by simp [PassedOver])
  | c :: _ => decidable_of_iff (c = '#') (by simp [PassedOver])

/-- The line is not UTF-8, or asks to quit. -/
def stops : Option (List Char) → Bool
  | some content => Command.ofLine (String.ofList content) = .ok .quit
  | none => true

/-- The command that a line asks for. -/
def command? : Option (List Char) → Option Command
  | some content =>
    if PassedOver content then none else (Command.ofLine (String.ofList content)).toOption
  | none => none

/-- What is done at a line that does not stop the run: what is answered, and the store behind it. -/
inductive Handles (now : Moment) (s : Store) :
    Option (List Char) → Option Response → Store → Prop
  | passedOver {content : List Char} (hnothing : PassedOver content) :
      Handles now s (some content) none s
  | refused {content : List Char} {cause : Invalid} (hsomething : ¬ PassedOver content)
      (hcommand : Command.ofLine (String.ofList content) = .error cause) :
      Handles now s (some content) (some (.ofError (.validation cause))) s
  | executed {content : List Char} {command : Command} {response : Response} {s' : Store}
      (hsomething : ¬ PassedOver content)
      (hcommand : Command.ofLine (String.ofList content) = .ok command) (hquit : command ≠ .quit)
      (hexecute : execute now command (.opened s) = (.ok response, .opened s')) :
      Handles now s (some content) (some response) s'

/-- How a run ends, by the line that stops it. -/
inductive EndsAt : Option (Option (List Char)) → Ending → Prop
  | input : EndsAt none .finished
  | quit (content : List Char) : EndsAt (some (some content)) .finished
  | unreadable (fault : Text.Utf8Fault) : EndsAt (some none) (.unreadable fault)

variable {now : Moment} {s s' : Store} {line : List UInt8} {chars : List Char}
  {content : Option (List Char)} {response : Option Response}

theorem content?_eq_some_iff {content : List Char} :
    content? line = some content ↔
      ∃ chars, Text.decodeUtf8 line = .ok chars ∧ content = Text.trimmed chars := by
  rw [content?]
  cases Text.decodeUtf8 line with
  | error fault => simp
  | ok chars => simp [eq_comm]

theorem content?_eq_none_iff :
    content? line = none ↔ ∃ fault, Text.decodeUtf8 line = .error fault := by
  rw [content?]
  cases Text.decodeUtf8 line with
  | error fault => simp
  | ok chars => simp

/-! ### Lines that stop a run -/

theorem not_passedOver_of_quit {content : List Char}
    (h : Command.ofLine (String.ofList content) = .ok .quit) : ¬ PassedOver content := by
  intro hnothing
  have hasks := Command.asks_of_ofWords h
  rw [Text.words, String.toList_ofList] at hasks
  cases content with
  | nil => cases hasks
  | cons c cs =>
      obtain rfl : c = '#' := hnothing c rfl
      obtain ⟨first, others, hwords⟩ := Text.exists_wordsOf_cons (c := '#') (by decide) cs
      rw [hwords, List.map_cons] at hasks
      generalize hname : String.ofList ('#' :: first) = name at hasks
      generalize others.map String.ofList = arguments at hasks
      have hchars := congrArg String.toList hname
      rw [String.toList_ofList] at hchars
      cases hasks <;> simp at hchars

theorem answer_quit {content : List Char} (hcontent : content? line = some content)
    (hquit : Command.ofLine (String.ofList content) = .ok .quit) (now : Moment) (db : Database) :
    answer now line db = .stop .finished db := by
  obtain ⟨chars, hdecode, rfl⟩ := content?_eq_some_iff.mp hcontent
  have hrequest : Request.ofLine chars = .quit := by
    rw [ofLine_of_not_ignored (not_passedOver_of_quit hquit), ← ofLine_trimmed, hquit]
    rfl
  simp only [answer, hdecode, hrequest]

theorem answer_of_stops (h : stops (content? line) = true) (now : Moment) (db : Database) :
    ∃ ending, answer now line db = .stop ending db ∧ EndsAt (some (content? line)) ending := by
  cases hcontent : content? line with
  | none =>
      obtain ⟨fault, hdecode⟩ := content?_eq_none_iff.mp hcontent
      refine ⟨.unreadable fault, ?_, .unreadable fault⟩
      simp only [answer, hdecode]
  | some content =>
      have hquit : Command.ofLine (String.ofList content) = .ok .quit := by
        simpa [hcontent, stops] using h
      exact ⟨.finished, answer_quit hcontent hquit now db, .quit content⟩

/-! ### Lines behind which a run goes on -/

theorem exists_answer (hs : s.Sound) (now : Moment) (h : stops (content? line) = false) :
    ∃ response s', answer now line (.opened s) = .next response (.opened s') ∧
      Handles now s (content? line) response s' := by
  cases hcontent : content? line with
  | none => simp [hcontent, stops] at h
  | some content =>
      have hquit : Command.ofLine (String.ofList content) ≠ .ok .quit := by
        simpa [hcontent, stops] using h
      obtain ⟨chars, hdecode, rfl⟩ := content?_eq_some_iff.mp hcontent
      by_cases hnothing : PassedOver (Text.trimmed chars)
      · refine ⟨none, s, ?_, .passedOver hnothing⟩
        simp only [answer, hdecode, ofLine_of_ignored hnothing]
      · have hrequest := ofLine_of_not_ignored hnothing
        rw [← ofLine_trimmed] at hrequest
        cases hcommand : Command.ofLine (String.ofList (Text.trimmed chars)) with
        | error cause =>
            rw [hcommand] at hrequest
            exact ⟨_, s, answer_of_invalid now s hdecode hrequest, .refused hnothing hcommand⟩
        | ok command =>
            have hne : command ≠ .quit := fun heq => hquit (by rw [hcommand, heq])
            rw [hcommand, ofResult_run hne] at hrequest
            obtain ⟨response, s', hanswer, hexecute, -⟩ :=
              exists_answer_run hs now hdecode hrequest
            exact ⟨some response, s', hanswer, .executed hnothing hcommand hne hexecute⟩

theorem Handles.keeps (hs : s.Sound) (h : Handles now s content response s') : Keeps s s' := by
  cases h with
  | passedOver | refused => exact Keeps.refl hs
  | @executed _ command _ _ _ _ _ hexecute =>
      obtain ⟨response, s'', hexecuted, hexecution⟩ := exists_execution hs now command
      rw [hexecute] at hexecuted
      obtain ⟨-, hstores⟩ := Prod.mk.inj hexecuted
      rw [Database.opened.inj hstores]
      exact hexecution.keeps hs

/-- The database behind a line is what the command leaves that it asks for, if there is one. -/
theorem Handles.database_eq (h : Handles now s content response s') :
    (.opened s' : Database) =
      (command? content).toList.foldl (fun db command => (execute now command db).2)
        (.opened s) := by
  cases h with
  | passedOver hnothing => simp [command?, hnothing]
  | refused hsomething hcommand => simp [command?, hsomething, hcommand, Except.toOption]
  | executed hsomething hcommand _ hexecute =>
      simp [command?, hsomething, hcommand, Except.toOption, hexecute]

end Shell

/-! ## One input behind another

The lines of the first input are lines of the whole, each of them is UTF-8, and each lets the run go on
(`exists_answer`).  What goes from one line to the next is the store alone.
-/

namespace Shell

variable {s : Store} {byte : UInt8} {bytes front : List UInt8} {chars : List Char}

/-! ### Lines -/

theorem lines_cons_feed (bytes : List UInt8) : lines (10 :: bytes) = [10] :: lines bytes := by
  rw [lines, if_pos rfl]

theorem lines_ne_nil (h : bytes ≠ []) : lines bytes ≠ [] := by
  cases bytes with
  | nil => exact absurd rfl h
  | cons byte bytes =>
      rw [lines]
      split
      · simp
      · split <;> simp

theorem exists_lines_cons (hbyte : byte ≠ 10) (h : bytes ≠ []) :
    ∃ line others, lines bytes = line :: others ∧
      lines (byte :: bytes) = (byte :: line) :: others := by
  obtain ⟨line, others, hlines⟩ := List.exists_cons_of_ne_nil (lines_ne_nil h)
  refine ⟨line, others, hlines, ?_⟩
  rw [lines, if_neg hbyte, hlines]

theorem lines_append_feed (h : 10 ∉ front) (back : List UInt8) :
    lines (front ++ 10 :: back) = (front ++ [10]) :: lines back := by
  induction front with
  | nil => exact lines_cons_feed back
  | cons byte front ih =>
      obtain ⟨hbyte, hfront⟩ := List.ne_and_not_mem_of_not_mem_cons h
      have hne : front ++ 10 :: back ≠ [] := by simp
      obtain ⟨line, others, hlines, hcons⟩ := exists_lines_cons hbyte.symm hne
      rw [ih hfront] at hlines
      obtain ⟨rfl, rfl⟩ := List.cons.inj hlines
      exact hcons

theorem lines_of_no_feed (h : 10 ∉ bytes) (hne : bytes ≠ []) : lines bytes = [bytes] := by
  induction bytes with
  | nil => exact absurd rfl hne
  | cons byte bytes ih =>
      obtain ⟨hbyte, hbytes⟩ := List.ne_and_not_mem_of_not_mem_cons h
      cases bytes with
      | nil => rw [lines, if_neg hbyte.symm, lines]
      | cons next bytes =>
          obtain ⟨line, others, hlines, hcons⟩ :=
            exists_lines_cons hbyte.symm (List.cons_ne_nil next bytes)
          rw [ih hbytes (List.cons_ne_nil next bytes)] at hlines
          obtain ⟨rfl, rfl⟩ := List.cons.inj hlines
          exact hcons

/-- Two inputs have their lines in a row if the first ends at the end of a line. -/
theorem lines_append (hends : ∀ byte ∈ front.getLast?, byte = 10) (back : List UInt8) :
    lines (front ++ back) = lines front ++ lines back := by
  induction front with
  | nil => rfl
  | cons byte front ih =>
      rw [List.cons_append]
      cases front with
      | nil =>
          obtain rfl : byte = 10 := hends byte rfl
          exact lines_cons_feed back
      | cons next front =>
          have hboth := ih (by simpa using hends)
          by_cases hbyte : byte = 10
          · rw [hbyte, lines_cons_feed, lines_cons_feed, hboth, List.cons_append]
          · have hne : next :: front ++ back ≠ [] := by simp
            obtain ⟨line, others, hlines, hcons⟩ :=
              exists_lines_cons hbyte (List.cons_ne_nil next front)
            obtain ⟨line', others', hlines', hcons'⟩ := exists_lines_cons hbyte hne
            rw [hlines, hlines', List.cons_append] at hboth
            obtain ⟨rfl, rfl⟩ := List.cons.inj hboth
            rw [hcons, hcons', List.cons_append]

/-- What holds of an input without a line feed, and goes over to an input with one more line in
front, holds of every input. -/
theorem input_induction {P : List UInt8 → Prop} (hlast : ∀ line, 10 ∉ line → P line)
    (hfeed : ∀ front back, 10 ∉ front → P back → P (front ++ 10 :: back)) (input : List UInt8) :
    P input := by
  induction hlength : input.length using Nat.strong_induction_on generalizing input with
  | _ n ih =>
      by_cases hmem : 10 ∈ input
      · obtain ⟨front, back, rfl, hfront⟩ := List.eq_append_cons_of_mem hmem
        have hshorter : back.length < n := by
          rw [← hlength, List.length_append, List.length_cons]
          omega
        exact hfeed front back hfront (ih back.length hshorter back rfl)
      · exact hlast input hmem

theorem exists_decoded_of_mem_lines {line : List UInt8} (h : Text.Decodes none bytes chars)
    (hline : line ∈ lines bytes) : ∃ cs, Text.Decodes none line cs := by
  induction bytes using input_induction generalizing chars with
  | hlast bytes hnone =>
      cases bytes with
      | nil => simp [lines] at hline
      | cons byte bytes =>
          rw [lines_of_no_feed hnone (List.cons_ne_nil _ _), List.mem_singleton] at hline
          exact ⟨chars, hline ▸ h⟩
  | hfeed front back hfront ih =>
      obtain ⟨cs, ds, hfirst, hrest⟩ := h.split (by decide)
      rw [lines_append_feed hfront] at hline
      rcases List.mem_cons.mp hline with rfl | hline
      · exact ⟨cs, hfirst⟩
      · exact ih hrest hline

/-! ### Lines that a run goes on behind -/

/-- The line is UTF-8 and asks to quit. -/
def asksToQuit (line : List UInt8) : Bool :=
  match Text.decodeUtf8 line with
  | .ok chars => Command.ofLine (String.ofList chars) = .ok .quit
  | .error _ => false

/-- The line is UTF-8 and does not ask to quit. -/
def GoesOn (line : List UInt8) : Prop :=
  stops (content? line) = false

theorem goesOn_of_mem_lines (hutf8 : Text.decodeUtf8 bytes = .ok chars)
    (hquit : ∀ line ∈ lines bytes, asksToQuit line = false) :
    ∀ line ∈ lines bytes, GoesOn line := by
  intro line hline
  obtain ⟨cs, hcs⟩ := exists_decoded_of_mem_lines (Text.decodeUtf8_eq_ok_iff.mp hutf8) hline
  have hdecode : Text.decodeUtf8 line = .ok cs := Text.decodeUtf8_eq_ok_iff.mpr hcs
  have hcontent : content? line = some (Text.trimmed cs) :=
    content?_eq_some_iff.mpr ⟨cs, hdecode, rfl⟩
  have hnot := hquit line hline
  simp only [asksToQuit, hdecode] at hnot
  rw [GoesOn, hcontent, stops, ofLine_trimmed]
  exact hnot

/-! ### Runs -/

/-- The run with further responses in front. -/
def Run.after (run : Run) (responses : List Response) : Run :=
  { run with responses := responses ++ run.responses }

/-- A run over lines that it goes on behind hands its store to the run over the next ones. -/
theorem runLines_append (hs : s.Sound) (clock : Nat → Moment) {front : List (List UInt8)}
    (hfront : ∀ line ∈ front, GoesOn line) :
    ∃ responses s', Keeps s s' ∧ ∀ back, runLines clock (front ++ back) (.opened s) =
      (runLines clock back (.opened s')).after responses := by
  induction front generalizing s with
  | nil => exact ⟨[], s, Keeps.refl hs, fun _ => rfl⟩
  | cons line front ih =>
      obtain ⟨hline, hrest⟩ := List.forall_mem_cons.mp hfront
      obtain ⟨response, s₁, hanswer, hhandles⟩ :=
        exists_answer hs (clock (Database.opened s).size) hline
      have hkeeps : Keeps s s₁ := hhandles.keeps hs
      obtain ⟨responses, s', hkeeps', hruns⟩ := ih hkeeps.sound hrest
      refine ⟨response.toList ++ responses, s', hkeeps.trans hkeeps', fun back => ?_⟩
      rw [List.cons_append, runLines, hanswer]
      simp only [hruns, Run.after, List.append_assoc]

theorem run_append (hs : s.Sound) (clock : Nat → Moment)
    (hends : ∀ byte ∈ bytes.getLast?, byte = 10) (hgoes : ∀ line ∈ lines bytes, GoesOn line) :
    ∃ responses s', Keeps s s' ∧
      run clock bytes (.opened s) = ⟨responses, .finished, .opened s'⟩ ∧
      ∀ more, run clock (bytes ++ more) (.opened s) =
        (run clock more (.opened s')).after responses := by
  obtain ⟨responses, s', hkeeps, hruns⟩ := runLines_append hs clock hgoes
  refine ⟨responses, s', hkeeps, ?_, fun more => ?_⟩
  · have hfirst := hruns []
    rw [List.append_nil] at hfirst
    rw [run, hfirst]
    simp [runLines, Run.after]
  · rw [run, lines_append hends, hruns, run]

/-- What is written for responses in a row is written one behind the other. -/
theorem output_after (first second : Run) :
    (second.after first.responses).output = first.output ++ second.output := by
  simp only [output_eq_join, Run.after, List.map_append, String.join_append]

end Shell

/-! ## A whole input

The shell reads a line with its line feed, but this is a character by itself, and a blank: so it
changes neither whether the line is UTF-8 nor what it asks for (`content?_append_feed`).
-/

namespace Shell

/-- The stretches of an input between its line feeds; behind the last one there has to be
something. -/
def bodies (input : List UInt8) : List (List UInt8) :=
  let cut := Text.stretches (· = 10) input
  if cut.getLast? = some [] then cut.dropLast else cut

/-- The contents of the lines of an input. -/
def contents (input : List UInt8) : List (Option (List Char)) :=
  (bodies input).map content?

/-- The lines up to the first that stops a run. -/
def processed (contents : List (Option (List Char))) : List (Option (List Char)) :=
  contents.takeWhile fun content => !stops content

/-- Lines are handled one after the other, with what is answered and the store in the end.  The
moment of each is the one that `clock` gives for the number of records stored before it. -/
inductive Processes (clock : Nat → Moment) :
    Store → List (Option (List Char)) → List Response → Store → Prop
  | done (s : Store) : Processes clock s [] [] s
  | line {s s₁ s' : Store} {content : Option (List Char)} {contents : List (Option (List Char))}
      {response : Option Response} {responses : List Response}
      (hline : Handles (clock (Database.opened s).size) s content response s₁)
      (hrest : Processes clock s₁ contents responses s') :
      Processes clock s (content :: contents) (response.toList ++ responses) s'

variable {s s' : Store} {clock : Nat → Moment} {line front : List UInt8} {content : List Char}
  {responses : List Response}

/-! ### Line feeds -/

theorem bodies_of_no_feed (h : 10 ∉ line) : bodies line = if line = [] then [] else [line] := by
  rw [bodies, Text.stretches_of_forall (Text.not_separator_of_not_mem h)]
  simp

theorem bodies_append_feed (h : 10 ∉ front) (back : List UInt8) :
    bodies (front ++ 10 :: back) = front :: bodies back := by
  have hfront := Text.not_separator_of_not_mem h
  have hne := Text.stretches_ne_nil (fun byte : UInt8 => decide (byte = 10)) back
  rw [bodies, bodies, Text.stretches_append_cons hfront (by decide)]
  simp only [List.getLast?_cons_of_ne_nil hne, List.dropLast_cons_of_ne_nil hne]
  split <;> rfl

theorem content?_append_feed (front : List UInt8) : content? (front ++ [10]) = content? front := by
  have hdecodes {chars : List Char} : Text.Decodes none (front ++ [10]) chars ↔
      ∃ cs, Text.Decodes none front cs ∧ chars = cs ++ ['\n'] :=
    Text.decodes_append_single_iff (by decide)
  have hfeed (cs : List Char) : Text.trimmed (cs ++ ['\n']) = Text.trimmed cs :=
    Text.trimmed_append_blanks (List.forall_mem_singleton.mpr rfl) cs
  refine Option.ext fun content => ?_
  simp only [content?_eq_some_iff, Text.decodeUtf8_eq_ok_iff, hdecodes]
  constructor
  · rintro ⟨-, ⟨cs, hcs, rfl⟩, rfl⟩
    exact ⟨cs, hcs, hfeed cs⟩
  · rintro ⟨cs, hcs, rfl⟩
    exact ⟨_, ⟨cs, hcs, rfl⟩, (hfeed cs).symm⟩

/-- What is read of the lines of an input is the contents of its stretches. -/
theorem map_content?_lines (input : List UInt8) : (lines input).map content? = contents input := by
  induction input using input_induction with
  | hlast line hnone =>
      rw [contents, bodies_of_no_feed hnone]
      by_cases hempty : line = []
      · rw [hempty]
        rfl
      · rw [lines_of_no_feed hnone hempty, if_neg hempty]
  | hfeed front back hfront ih =>
      rw [lines_append_feed hfront, List.map_cons, content?_append_feed, ih, contents, contents,
        bodies_append_feed hfront, List.map_cons]

/-! ### Runs over lines -/

/-- A run over lines handles them up to the first that stops it, and ends there. -/
theorem exists_processes (hs : s.Sound) (clock : Nat → Moment) (ls : List (List UInt8)) :
    ∃ responses ending s', runLines clock ls (.opened s) = ⟨responses, ending, .opened s'⟩ ∧
      Processes clock s (processed (ls.map content?)) responses s' ∧
      EndsAt ((ls.map content?).find? stops) ending := by
  induction ls generalizing s with
  | nil => exact ⟨[], .finished, s, rfl, .done s, .input⟩
  | cons line rest ih =>
      rw [List.map_cons, processed]
      cases hstops : stops (content? line) with
      | true =>
          obtain ⟨ending, hanswer, hends⟩ :=
            answer_of_stops hstops (clock (Database.opened s).size) (.opened s)
          refine ⟨[], ending, s, ?_, ?_, ?_⟩
          · rw [runLines, hanswer]
          · rw [List.takeWhile_cons_of_neg (by simp [hstops])]
            exact .done s
          · rw [List.find?_cons_of_pos hstops]
            exact hends
      | false =>
          obtain ⟨response, s₁, hanswer, hhandles⟩ :=
            exists_answer hs (clock (Database.opened s).size) hstops
          obtain ⟨responses, ending, s', hrun, hprocesses, hends⟩ := ih (hhandles.keeps hs).sound
          refine ⟨response.toList ++ responses, ending, s', ?_, ?_, ?_⟩
          · rw [runLines, hanswer]
            simp only [hrun]
          · rw [List.takeWhile_cons_of_pos (by simp [hstops])]
            exact .line hhandles hprocesses
          · rw [List.find?_cons_of_neg (by simp [hstops])]
            exact hends

/-- What is left in the end is what the commands of the lines leave, executed in a row. -/
theorem Processes.database_eq {contents : List (Option (List Char))}
    (h : Processes clock s contents responses s') :
    (.opened s' : Database) = (contents.filterMap command?).foldl
      (fun db command => (execute (clock db.size) command db).2) (.opened s) := by
  induction h with
  | done s => rfl
  | @line s s₁ s' content contents response responses hline hrest ih =>
      rw [ih, hline.database_eq]
      cases hcommand : command? content with
      | none => simp [hcommand]
      | some command => simp [hcommand]

/-! ### Behind a line that asks to quit -/

theorem runLines_stop {first second : List UInt8}
    (hfirst : ∀ now db, answer now first db = .stop .finished db)
    (hsecond : ∀ now db, answer now second db = .stop .finished db)
    (front back others : List (List UInt8)) (db : Database) :
    runLines clock (front ++ first :: back) db = runLines clock (front ++ second :: others) db := by
  induction front generalizing db with
  | nil => simp only [List.nil_append, runLines, hfirst, hsecond]
  | cons line front ih =>
      simp only [List.cons_append, runLines, ih]

/-- What stands behind a line that asks to quit makes no difference, not even its line feed. -/
theorem run_quit (hends : ∀ byte ∈ front.getLast?, byte = 10) (hline : 10 ∉ line)
    (hcontent : content? line = some content)
    (hquit : Command.ofLine (String.ofList content) = .ok .quit) (back : List UInt8)
    (db : Database) :
    run clock (front ++ (line ++ 10 :: back)) db = run clock (front ++ line) db := by
  have hne : line ≠ [] := by
    rintro rfl
    obtain rfl := Option.some.inj (hcontent : some [] = some content)
    exact not_passedOver_of_quit hquit (by decide)
  have hfeed : content? (line ++ [10]) = some content := (content?_append_feed line).trans hcontent
  rw [run, run, lines_append hends, lines_append hends, lines_append_feed hline,
    lines_of_no_feed hline hne]
  exact runLines_stop (answer_quit hfeed hquit) (answer_quit hcontent hquit) _ _ [] db

/-! ### Runs over an input -/

theorem EndsAt.unreadable_iff {stop : Option (Option (List Char))} {ending : Ending}
    (h : EndsAt stop ending) : (∃ fault, ending = .unreadable fault) ↔ stop = some none := by
  cases h <;> simp

/-- **What a run makes of its input.**  After every run of a ledger, give the shell any bytes.  Its
lines up to the first that stops it are handled one after the other; what is written is the
responses to them, each with a line feed, and what is stored in the end is what the commands among
them leave.  The run ends with an error exactly if the line that stops it is not UTF-8.  Behind a
line that asks to quit, the input makes no difference. -/
theorem run_processes (calls : List Call) (clock : Nat → Moment) (input : List UInt8) :
    ∃ s responses ending s', (Ledger.run calls (.opened .empty)).2 = .opened s ∧
      run clock input (.opened s) = ⟨responses, ending, .opened s'⟩ ∧
      Processes clock s (processed (contents input)) responses s' ∧
      (.opened s' : Database) = ((processed (contents input)).filterMap command?).foldl
        (fun db command => (execute (clock db.size) command db).2) (.opened s) ∧
      (run clock input (.opened s)).output =
        String.join (responses.map fun response => response.text ++ "\n") ∧
      EndsAt ((contents input).find? stops) ending ∧
      ((∃ fault, ending = .unreadable fault) ↔ (contents input).find? stops = some none) ∧
      ∀ front line back : List UInt8, (∀ byte ∈ front.getLast?, byte = 10) → 10 ∉ line →
        (∃ content, content? line = some content ∧
          Command.ofLine (String.ofList content) = .ok .quit) →
        run clock (front ++ (line ++ 10 :: back)) (.opened s) =
          run clock (front ++ line) (.opened s) := by
  obtain ⟨answers, s, hsteps⟩ := Store.exists_steps calls Store.sound_empty
  have hs : s.Sound := hsteps.sound Store.sound_empty
  obtain ⟨responses, ending, s', hrun, hprocesses, hends⟩ := exists_processes hs clock (lines input)
  rw [map_content?_lines] at hprocesses hends
  refine ⟨s, responses, ending, s', by rw [hsteps.run_eq], hrun, hprocesses,
    hprocesses.database_eq, ?_, hends, hends.unreadable_iff, ?_⟩
  · rw [output_eq_join, run, hrun]
  · rintro front line back hfront hline ⟨content, hcontent, hquit⟩
    exact run_quit hfront hline hcontent hquit back _

/-- A purchase can be made on an account that is open. -/
def shopCalls : List Call :=
  [.seed ⟨[⟨1, "PURCHASE", "DEBIT"⟩], [⟨7, "Ana"⟩]⟩,
    .openAccount (.ofSeconds 0) ⟨"11", ⟨640, by decide⟩, 7⟩]

/-- A purchase, an unknown command and a comment that is not UTF-8. -/
def torn : List UInt8 :=
  Text.bytes "post 1 1 2.5\r\n oops\n\n# " ++ 0xFF :: Text.bytes "\nhelp\n"

/-- The run ends in the comment, after the purchase has been booked.  Behind a line that asks to
quit, such a byte makes no difference. -/
theorem run_processes_torn :
    contents torn =
        [some "post 1 1 2.5".toList, some "oops".toList, some [], none, some "help".toList] ∧
      content? (Text.bytes "\texit now") = some "exit now".toList ∧
      ∃ s response refusal fault s', (Ledger.run shopCalls (.opened .empty)).2 = .opened s ∧
        run (fun n => .ofSeconds n) torn (.opened s) =
          ⟨[response, refusal], .unreadable fault, .opened s'⟩ ∧
        response.status = .ok ∧ refusal.status = .badRequest ∧
        s'.transactions =
          [⟨1, 1, 1, ⟨-250, by decide⟩, ⟨-250, by decide⟩, .ofSeconds 1⟩] ∧
        (run (fun n => .ofSeconds n) torn (.opened s)).output =
          "OK\n  transaction id=1 account=1 operation_type=1 amount=-2.50 balance=-2.50 " ++
            "created_at=1970-01-01T00:00:01+00:00\nBAD_REQUEST\n  unknown command 'oops'\n" ∧
        run (fun n => .ofSeconds n)
            (Text.bytes "help\n" ++ (Text.bytes "\texit now" ++ 10 :: torn)) (.opened s) =
          run (fun n => .ofSeconds n) (Text.bytes "help\n" ++ Text.bytes "\texit now")
            (.opened s) := by
  have hcontents : contents torn =
      [some "post 1 1 2.5".toList, some "oops".toList, some [], none, some "help".toList] := by
    decide +kernel
  have hcontent : content? (Text.bytes "\texit now") = some "exit now".toList := by decide +kernel
  have hstop : (contents torn).find? stops = some none := by decide +kernel
  have hquit : Command.ofLine (String.ofList "exit now".toList) = .ok .quit := by decide +kernel
  obtain ⟨s, responses, ending, s', hstart, hrun, -, -, houtput, -, hunreadable, hnothing⟩ :=
    run_processes shopCalls (fun n => .ofSeconds n) torn
  obtain ⟨fault, rfl⟩ := hunreadable.mpr hstop
  have hopened : (Ledger.run shopCalls (.opened .empty)).2 =
      .opened ⟨[⟨7, "Ana"⟩], [⟨1, "PURCHASE", "DEBIT"⟩],
        [⟨1, "11", ⟨640, by decide⟩, 7, .ofSeconds 0⟩], []⟩ := by decide +kernel
  obtain rfl := Database.opened.inj (hopened.symm.trans hstart)
  have hwhole : run (fun n => .ofSeconds n) torn (.opened ⟨[⟨7, "Ana"⟩], [⟨1, "PURCHASE", "DEBIT"⟩],
      [⟨1, "11", ⟨640, by decide⟩, 7, .ofSeconds 0⟩], []⟩) =
      ⟨[⟨.ok, ["transaction id=1 account=1 operation_type=1 amount=-2.50 balance=-2.50 " ++
          "created_at=1970-01-01T00:00:01+00:00"]⟩,
        ⟨.badRequest, ["unknown command 'oops'"]⟩], .unreadable ⟨2, some 1⟩,
        .opened ⟨[⟨7, "Ana"⟩], [⟨1, "PURCHASE", "DEBIT"⟩],
          [⟨1, "11", ⟨640, by decide⟩, 7, .ofSeconds 0⟩],
          [⟨1, 1, 1, ⟨-250, by decide⟩, ⟨-250, by decide⟩, .ofSeconds 1⟩]⟩⟩ := by decide +kernel
  obtain ⟨rfl, -, hleft⟩ := Run.mk.inj (hrun.symm.trans hwhole)
  obtain rfl := Database.opened.inj hleft
  refine ⟨hcontents, hcontent, _, _, _, fault, _, hstart, hrun, rfl, rfl, rfl, ?_, ?_⟩
  · rw [houtput]
    decide +kernel
  · exact hnothing (Text.bytes "help\n") (Text.bytes "\texit now") torn (by decide +kernel)
      (by decide +kernel) ⟨_, hcontent, hquit⟩

end Shell

end Arrears
