import Arrears.Error
import Arrears.Text.Unicode

/-!
# Environment variables

An environment gives texts to names.  It may be completed from files with lines of the form
`NAME=value`, comments and blank lines.
-/

namespace Arrears

structure Environment where
  entries : List (String × String)
deriving DecidableEq, Repr

namespace Environment

def empty : Environment :=
  ⟨[]⟩

def get? (environment : Environment) (name : String) : Option String :=
  environment.entries.lookup name

def setDefault (name value : String) (environment : Environment) : Environment :=
  match environment.get? name with
  | some _ => environment
  | none => ⟨environment.entries ++ [(name, value)]⟩

def defaultReferencePath : String :=
  "config.toml"

def referencePath (environment : Environment) : String :=
  (environment.get? "LEDGER_CONFIG").getD defaultReferencePath

def defaultDatabaseUrl : String :=
  "sqlite://data/debt_ledger.sqlite?mode=rwc"

def databaseUrl (environment : Environment) : String :=
  (environment.get? "DATABASE_URL").getD defaultDatabaseUrl

end Environment

/-! ## Files

A value may be quoted: single quotes keep everything as it is, double quotes allow escapes and the
texts of other variables, as in `$NAME` or `${NAME}`.  A quoted value may go on over several lines.
The first line that cannot be read ends the reading; what was set before stays set.  A text with a
zero byte cannot be set; it stops the program.
-/

namespace Environment

inductive LineState
  | complete
  | blank
  | escape
  | weak
  | weakEscape
  | strong
  | strongEscape
  | comment
deriving DecidableEq, Repr

def LineState.next (state : LineState) (c : Char) : LineState :=
  let opened : LineState :=
    if c = '\\' then .escape
    else if c = '\x22' then .weak
    else if c = '\x27' then .strong
    else .complete
  match state with
  | .complete =>
    if Text.isBlank c ∧ c ≠ '\n' ∧ c ≠ '\r' then .blank else opened
  | .blank => if c = '#' then .comment else opened
  | .escape => .complete
  | .weak => if c = '\\' then .weakEscape else if c = '\x22' then .complete else .weak
  | .weakEscape => .weak
  | .strong => if c = '\\' then .strongEscape else if c = '\x27' then .complete else .strong
  | .strongEscape => .strong
  | .comment => .comment

inductive LogicalLine
  | none
  | broken
  | line (text : List Char) (rest : List Char)
deriving DecidableEq, Repr

def isComment (cs : List Char) : Bool :=
  (Text.trimStart cs).head? = some '#'

/-- Takes a logical line from the front of a text; `read` holds its characters in reverse. -/
def takeLine (state : LineState) (read : List Char) : List Char → LogicalLine
  | [] =>
    if state = .comment then .line read.reverse []
    else if state ≠ .complete then .broken
    else if read.isEmpty then .none
    else .line read.reverse []
  | c :: cs =>
    let next := state.next c
    if c = '\n' then
      if state = .comment then .line read.reverse cs
      else if isComment (c :: read).reverse then .line [] cs
      else if next = .complete then .line read.reverse cs
      else takeLine next (c :: read) cs
    else if next = .comment then takeLine next read cs
    else takeLine next (c :: read) cs

inductive ValueState
  | plain
  | weak
  | strong
  /-- Behind a backslash, inside or outside of double quotes. -/
  | escape (quoted : Bool)
  /-- In the name of another variable, with or without braces. -/
  | name (quoted braces : Bool) (read : List Char)
  /-- Behind the value; only blanks and a comment may follow. -/
  | behind
  | comment
deriving DecidableEq, Repr

/-- The text that stands for the name of another variable. -/
def substitute (environment : Environment) (own : List (String × String)) (name : List Char) :
    List Char :=
  let key := String.ofList name.reverse
  match environment.get? key, own.lookup key with
  | some value, _ => value.toList
  | none, some value => value.toList
  | none, none => []

def escaped? (c : Char) : Option Char :=
  if c = 'n' then some '\n'
  else if c = '\\' ∨ c = '\x27' ∨ c = '\x22' ∨ c = '$' ∨ c = ' ' then some c
  else none

/-- One character of a value: the new state and the characters that belong to the value. -/
def valueStep (lookup : List Char → List Char) (state : ValueState) (c : Char) :
    Option (ValueState × List Char) :=
  let back := fun quoted : Bool => if quoted then ValueState.weak else ValueState.plain
  match state with
  | .behind =>
    if c = ' ' ∨ c = '\t' then some (.behind, [])
    else if c = '#' then some (.comment, [])
    else none
  | .comment => some (.comment, [])
  | .escape quoted => (escaped? c).map fun d => (back quoted, [d])
  | .strong => if c = '\x27' then some (.plain, []) else some (.strong, [c])
  | .name quoted true read =>
    if c = '\x7d' then some (back quoted, lookup read)
    else some (.name quoted true (c :: read), [])
  | .name quoted false read =>
    if Text.isAlphanumeric c then some (.name quoted false (c :: read), [])
    else if c = '\x7b' ∧ read.isEmpty then some (.name quoted true [], [])
    else if c = '$' then some (.name quoted false [], lookup read)
    else some (back quoted, lookup read ++ [c])
  | .weak =>
    if c = '$' then some (.name true false [], [])
    else if c = '\x22' then some (.plain, [])
    else if c = '\\' then some (.escape true, [])
    else some (.weak, [c])
  | .plain =>
    if c = '$' then some (.name false false [], [])
    else if c = '\x27' then some (.strong, [])
    else if c = '\x22' then some (.weak, [])
    else if c = '\\' then some (.escape false, [])
    else if c = ' ' ∨ c = '\t' then some (.behind, [])
    else some (.plain, [c])

/-- Reads a value; `read` holds its characters in reverse. -/
def readValue (lookup : List Char → List Char) (state : ValueState) (read : List Char) :
    List Char → Option (List Char)
  | [] =>
    match state with
    | .strong => none
    | .weak => none
    | .escape true => none
    | .name true _ _ => none
    | .name _ true _ => none
    | .name false false name => some (read.reverse ++ lookup name)
    | _ => some read.reverse
  | c :: cs =>
    match valueStep lookup state c with
    | some (state, chars) => readValue lookup state (chars.reverse ++ read) cs
    | none => none

def readName (cs : List Char) : Option (List Char × List Char) :=
  match cs with
  | c :: _ =>
    if c.isAlpha || c = '_' then
      let belongs := fun d : Char => d.isAlphanum || d = '_' || d = '.'
      some (cs.takeWhile belongs, cs.dropWhile belongs)
    else none
  | [] => none

def skipEquals (cs : List Char) : Option (List Char) :=
  match Text.trimStart cs with
  | '=' :: rest => some (Text.trimStart rest)
  | _ => none

/-- Reads the name in front of the equals sign and what follows the sign.  The word `export` may
stand in front of the name. -/
def readAssignment (cs : List Char) : Option (String × List Char) := do
  let (name, rest) ← readName cs
  match skipEquals rest with
  | some value => return (String.ofList name, value)
  | none =>
    if name = ['e', 'x', 'p', 'o', 'r', 't'] then
      let (name, rest) ← readName (Text.trimStart rest)
      let value ← skipEquals rest
      return (String.ofList name, value)
    else none

inductive Assignment
  | nothing
  | broken
  | assign (name value : String)
deriving DecidableEq, Repr

def readLine (environment : Environment) (own : List (String × String)) (line : List Char) :
    Assignment :=
  match Text.trimStart (Text.trimEnd line) with
  | [] => .nothing
  | '#' :: _ => .nothing
  | cs =>
    match readAssignment cs with
    | none => .broken
    | some (name, []) => .assign name ""
    | some (name, '#' :: _) => .assign name ""
    | some (name, value) =>
      match readValue (substitute environment own) .plain [] value with
      | some chars => .assign name (String.ofList chars)
      | none => .broken

def assign (name value : String) (environment : Environment) : Except Crash Environment :=
  if (environment.get? name).isNone && value.toList.contains '\x00' then .error (.zeroByte name)
  else .ok (environment.setDefault name value)

/-- Sets the variables of the lines of a text, up to the first line that cannot be read. -/
def loadLines : Nat → List (String × String) → List Char → Environment →
    Except Crash Environment
  | 0, _, _, environment => .ok environment
  | fuel + 1, own, cs, environment =>
    match takeLine .complete [] cs with
    | .none => .ok environment
    | .broken => .ok environment
    | .line line rest =>
      match readLine environment own line with
      | .nothing => loadLines fuel own rest environment
      | .broken => .ok environment
      | .assign name value => do
        loadLines fuel ((name, value) :: own) rest (← environment.assign name value)

def loadText (text : List Char) (environment : Environment) : Except Crash Environment :=
  match text with
  | '\ufeff' :: cs => loadLines (cs.length + 1) [] cs environment
  | cs => loadLines (cs.length + 1) [] cs environment

def wholeLines (bytes : List UInt8) : List UInt8 :=
  (bytes.reverse.dropWhile fun byte => byte ≠ 10).reverse

/-- Sets the variables of a file.  A line that is not UTF-8 cannot be read. -/
def load (bytes : List UInt8) (environment : Environment) : Except Crash Environment :=
  match Text.decodeUtf8 bytes with
  | .ok text => environment.loadText text
  | .error fault =>
    match Text.decodeUtf8 (wholeLines (bytes.take fault.offset)) with
    | .ok text => environment.loadText text
    | .error _ => .ok environment

/-- The words among some bytes that could be names of variables. -/
def namesIn (bytes : List UInt8) : List String :=
  let isFree := fun byte : UInt8 =>
    let c := Char.ofNat byte.toNat
    !(c.isAlphanum || c = '_' || c = '.')
  ((Text.stretches isFree bytes).filter fun word => !word.isEmpty).map fun word =>
    String.ofList (word.map fun byte => Char.ofNat byte.toNat)

end Environment

end Arrears
