import Arrears.Files
import Arrears.Url

/-!
# Connections

The URL of a database has settings, the settings name a source, and the source is opened.
-/

namespace Arrears

/-! ## Settings

The URL has the scheme `sqlite:`, optionally two slashes, a path in which bytes may be given by their
hexadecimal digits, and parameters behind a question mark.  Of several values of one parameter each
has its effect in turn.  Unknown parameters and values are refused.
-/

structure ConnectionSettings where
  path : List UInt8
  inMemory : Bool
  readOnly : Bool
  create : Bool
  immutable : Bool
  fileSystem : Option (List UInt8)
deriving DecidableEq, Repr

namespace ConnectionSettings

/-- Bytes of which some are given by a percent sign and two hexadecimal digits. -/
def decodePercent : List UInt8 → List UInt8
  | [] => []
  | 37 :: high :: low :: bytes =>
    match Text.hexByte? high low with
    | some byte => byte :: decodePercent bytes
    | none => 37 :: decodePercent (high :: low :: bytes)
  | byte :: bytes => byte :: decodePercent bytes

def decodeText? (cs : List Char) : Option String :=
  match Text.decodeUtf8 (decodePercent (Text.bytes (String.ofList cs))) with
  | .ok chars => some (String.ofList chars)
  | .error _ => none

/-- The text that a percent-encoded parameter stands for, in which plus signs are spaces. -/
def parameterText? (cs : List Char) : Option String :=
  decodeText? (cs.map fun c => if c = '+' then ' ' else c)

def withParameter (settings : ConnectionSettings) (key value : String) :
    Except StoreFault ConnectionSettings :=
  let unknownValue : Except StoreFault ConnectionSettings :=
    .error (.badUrl ("unknown value '" ++ value ++ "' for '" ++ key ++ "'"))
  if key = "mode" then
    if value = "ro" then .ok { settings with readOnly := true }
    else if value = "rw" then .ok settings
    else if value = "rwc" then .ok { settings with create := true }
    else if value = "memory" then .ok { settings with inMemory := true }
    else unknownValue
  else if key = "cache" then
    if value = "private" ∨ value = "shared" then .ok settings else unknownValue
  else if key = "immutable" then
    if value = "true" ∨ value = "1" then .ok { settings with immutable := true }
    else if value = "false" ∨ value = "0" then .ok { settings with immutable := false }
    else unknownValue
  else if key = "vfs" then .ok { settings with fileSystem := some (Text.bytes value) }
  else .error (.badUrl ("unknown query parameter '" ++ key ++ "'"))

def withParameters (settings : ConnectionSettings) :
    List (List Char) → Except StoreFault ConnectionSettings
  | [] => .ok settings
  | [] :: parameters => settings.withParameters parameters
  | parameter :: parameters => do
    let key := parameterText? (parameter.takeWhile (· ≠ '='))
    let value := parameterText? ((parameter.dropWhile (· ≠ '=')).drop 1)
    match key, value with
    | some key, some value =>
      let settings ← settings.withParameter key value
      settings.withParameters parameters
    | _, _ => throw (.badUrl "a parameter is not UTF-8")

/-- A text without the given characters in front of it, as often as they stand there. -/
def dropRepeated (front : List Char) : Nat → List Char → List Char
  | 0, cs => cs
  | fuel + 1, cs =>
    if front.isPrefixOf cs then dropRepeated front fuel (cs.drop front.length) else cs

def addressOf (url : String) : List Char :=
  let cs := url.toList
  dropRepeated "sqlite:".toList cs.length (dropRepeated "sqlite://".toList cs.length cs)

def ofUrl (url : String) : Except StoreFault ConnectionSettings := do
  if Url.scheme? url ≠ some "sqlite" then
    throw (.unsupportedUrl url)
  let address := addressOf url
  let path := address.takeWhile (· ≠ '?')
  let parameters := Text.stretches (· = '&') ((address.dropWhile (· ≠ '?')).drop 1)
  match decodeText? path with
  | none => throw (.badUrl "the path is not UTF-8")
  | some name =>
    let settings : ConnectionSettings :=
      { path := Text.bytes name, inMemory := path = ":memory:".toList, readOnly := false
        create := false, immutable := false, fileSystem := none }
    settings.withParameters parameters

end ConnectionSettings

/-! ## Sources

A path that begins with `file:` is a URI of its own, unless the settings name a file system or say
that the database never changes.  Its `mode` may not ask for more than the settings allow, and
`cache` has to have a known value; parameters that are not known are passed over.  A zero byte ends
the path, the key or the value that it stands in.
-/

inductive FileSystem
  | disk
  /-- On the disk, where a lock is a folder beside the file. -/
  | lockFolders
  /-- In memory, where every database is empty at first. -/
  | memory
deriving DecidableEq, Repr

inductive Access
  /-- Nothing is said, as for a database in memory. -/
  | unstated
  | read
  | write
  | create
deriving DecidableEq, Repr

structure DatabaseSource where
  name : List UInt8
  access : Access
  inMemory : Bool
  immutable : Bool
  fileSystem : FileSystem
deriving DecidableEq, Repr

def Access.rank : Access → Nat
  | .unstated => 0
  | .read => 1
  | .write => 2
  | .create => 3

def FileSystem.ofName? (name : List UInt8) : Option FileSystem :=
  if name = Text.bytes "memdb" then some .memory
  else if name = Text.bytes "unix-dotfile" then some .lockFolders
  else if [Text.bytes "unix", Text.bytes "unix-none", Text.bytes "unix-excl"].contains name then
    some .disk
  else none

namespace DatabaseSource

inductive UriPart
  | path
  | key
  | value
deriving DecidableEq, Repr

inductive UriMode
  | copy
  /-- Up to the end of the part, behind a zero byte. -/
  | skipPart
  /-- Up to the end of the parameter, whose key is empty. -/
  | skipParameter
deriving DecidableEq, Repr

def UriPart.isEndedBy (part : UriPart) (byte : UInt8) : Bool :=
  match part with
  | .path => byte = 63
  | .key => byte = 61 || byte = 38
  | .value => byte = 38

/-- Reads a URI behind its authority up to the fragment.  What is read is collected in reverse,
with a zero byte behind each part. -/
def readParts (part : UriPart) (mode : UriMode) (read : List UInt8) : List UInt8 → List UInt8
  | [] => if part = .key then 0 :: read else read
  | byte :: bytes =>
    if byte = 35 then
      if part = .key then 0 :: read else read
    else if mode = .skipParameter then
      readParts part (if byte = 38 then .copy else .skipParameter) read bytes
    else if part.isEndedBy byte then
      match part with
      | .path => readParts .key .copy (0 :: read) bytes
      | .value => readParts .key .copy (0 :: read) bytes
      | .key =>
        if read.head? = some 0 then
          readParts .key (if byte = 38 then .copy else .skipParameter) read bytes
        else if byte = 38 then readParts .key .copy (0 :: 0 :: read) bytes
        else readParts .value .copy (0 :: read) bytes
    else if mode = .skipPart then
      readParts part .skipPart read bytes
    else
      match byte, bytes with
      | 37, high :: low :: rest =>
        match Text.hexByte? high low with
        | some 0 => readParts part .skipPart read rest
        | some decoded => readParts part .copy (decoded :: read) rest
        | none => readParts part .copy (37 :: read) (high :: low :: rest)
      | byte, bytes => readParts part .copy (byte :: read) bytes

def parametersOf : List (List UInt8) → List (List UInt8 × List UInt8)
  | [] => []
  | [] :: _ => []
  | [key] => [(key, [])]
  | key :: value :: parts => (key, value) :: parametersOf parts

/-- The path and the parameters of a URI behind its scheme, unless it has a foreign authority. -/
def readUri? (uri : List UInt8) : Option (List UInt8 × List (List UInt8 × List UInt8)) :=
  let behindAuthority := match uri with
    | 47 :: 47 :: rest =>
      if [[], Text.bytes "localhost"].contains (rest.takeWhile fun byte => byte ≠ 47) then
        some (rest.dropWhile fun byte => byte ≠ 47)
      else none
    | rest => some rest
  behindAuthority.map fun rest =>
    let parts := Text.stretches (fun byte => byte = 0) (readParts .path .copy [] rest).reverse
    (parts.headD [], parametersOf parts.tail)

/-- Whether digits, read as a number of 32 bits of which 8 are kept, or a word say yes. -/
def isYes (value : List UInt8) : Bool :=
  let text := value.map fun byte => (Char.ofNat byte.toNat).toLower
  match text with
  | [] => false
  | c :: _ =>
    if c.isDigit then
      let digits := (text.takeWhile Char.isDigit).dropWhile fun d => d = '0'
      let n := Text.valueOfDigits digits
      n ≤ 2147483647 && n % 256 ≠ 0
    else ["on", "yes", "true"].contains (String.ofList text)

def withMode (source : DatabaseSource) (value : List UInt8) : Option DatabaseSource :=
  let ask := fun access : Access =>
    if source.inMemory || access.rank ≤ source.access.rank then
      some { source with access := access, inMemory := false }
    else none
  if value = Text.bytes "ro" then ask .read
  else if value = Text.bytes "rw" then ask .write
  else if value = Text.bytes "rwc" then ask .create
  else if value = Text.bytes "memory" then
    some { source with access := .unstated, inMemory := true }
  else none

def withParameter (source : DatabaseSource) (parameter : List UInt8 × List UInt8) :
    Option DatabaseSource :=
  if parameter.1 = Text.bytes "mode" then source.withMode parameter.2
  else if parameter.1 = Text.bytes "cache" then
    if [Text.bytes "private", Text.bytes "shared"].contains parameter.2 then some source else none
  else some source

def fileSystemOf? (parameters : List (List UInt8 × List UInt8)) : Option FileSystem :=
  match parameters.reverse.lookup (Text.bytes "vfs") with
  | some name => FileSystem.ofName? name
  | none => some .disk

def plain (settings : ConnectionSettings) : DatabaseSource :=
  { name := settings.path
    access := if settings.readOnly then .read else if settings.create then .create else .write
    inMemory := settings.inMemory
    immutable := settings.immutable
    fileSystem := .disk }

/-- The source that settings lead to when their path is a URI, which is given without its
scheme. -/
def ofUri? (settings : ConnectionSettings) (uri : List UInt8) : Option DatabaseSource := do
  let (name, parameters) ← readUri? uri
  let source ← parameters.foldlM withParameter (plain settings)
  let fileSystem ← fileSystemOf? parameters
  let immutable := (parameters.lookup (Text.bytes "immutable")).any isYes
  return { source with name := name, immutable := immutable, fileSystem := fileSystem }

def untilZero (bytes : List UInt8) : List UInt8 :=
  bytes.takeWhile fun byte => byte ≠ 0

def ofSettings? (settings : ConnectionSettings) : Option DatabaseSource := do
  let scheme := Text.bytes "file:"
  if settings.fileSystem.isSome || settings.immutable then
    let fileSystem ← match settings.fileSystem with
      | some name => FileSystem.ofName? (untilZero name)
      | none => some .disk
    return { plain settings with name := untilZero settings.path, fileSystem := fileSystem }
  else if settings.path.contains 0 then none
  else if scheme.isPrefixOf settings.path then
    ofUri? settings (settings.path.drop scheme.length)
  else return plain settings

end DatabaseSource

/-! ## Opening

A database that is kept in memory, or has no name, is gone with the connection.  Any other is kept in
a file at a settled path: the file has to exist, unless it may be made in an existing folder.  A file
that holds no database is an empty one if it has at most one byte, and is refused otherwise.

While a database is written, its old pages are kept in a file beside it, whose name must not be too
long for the disk; nothing is left of that file afterwards.
-/

structure DatabaseFile where
  place : Place
  readOnly : Bool
  content : Content
deriving DecidableEq, Repr

inductive Connection
  | temporary (readOnly : Bool)
  | file (file : DatabaseFile)
deriving DecidableEq, Repr

namespace DatabaseFile

def journal (file : DatabaseFile) : Place :=
  Place.beside "-journal" file.place

/-- The file of new pages that another way of writing would leave. -/
def log (file : DatabaseFile) : Place :=
  Place.beside "-wal" file.place

def canBeWritten (file : DatabaseFile) : Bool :=
  !file.readOnly &&
    file.journal.getLast?.all fun name => name.length ≤ Place.greatestName

def isBlank (file : DatabaseFile) : Bool :=
  match file.content with
  | .bytes bytes => bytes.length ≤ 1
  | .database _ => false

/-- The tables in the file; a blank file has none yet. -/
def tables? (file : DatabaseFile) : Except StoreFault (Option Store) :=
  match file.content with
  | .database store => .ok (some store)
  | .bytes _ => if file.isBlank then .ok none else .error .notADatabase

def database (file : DatabaseFile) : Except StoreFault Database := do
  Database.createTables file.canBeWritten (← file.tables?)

/-- The files beside it that are gone once it has been used: that of old pages, and in front of a
blank database one of new pages that is not empty. -/
def remnants (file : DatabaseFile) (files : Files) : List Place :=
  let log := file.log
  let logIsGone := file.isBlank && files.content? log != some (.bytes [])
  file.journal :: (if logIsGone then [log] else [])

end DatabaseFile

namespace Connection

/-- The most bytes that the name of a database in a file system in memory may have. -/
def greatestMemoryName : Nat :=
  1016

def openFile (files : Files) (source : DatabaseSource) (place : Place) : Option Connection :=
  let readOnly := source.access = .read || source.immutable
  let isLocked := source.fileSystem = .lockFolders &&
    (files.content? (Place.beside ".lock" place)).isSome
  if isLocked then none
  else
    match files.standing place with
    | Standing.file =>
      (files.content? place).map fun content => .file ⟨place, readOnly, content⟩
    | Standing.missing =>
      if source.access = .create && files.isFolder place.dropLast then
        some (.file ⟨place, readOnly, .bytes []⟩)
      else none
    | _ => none

def ofSource? (files : Files) (source : DatabaseSource) : Option Connection :=
  if source.inMemory || source.name = [] || source.name = Text.bytes ":memory:" then
    some (.temporary (source.access = .read))
  else if source.fileSystem = .memory then
    if source.name.length ≤ greatestMemoryName then
      some (.temporary (source.access = .read || source.immutable))
    else none
  else (files.settle? source.name).bind (openFile files source)

def establish (files : Files) (url : String) : Except StoreFault Connection := do
  let settings ← ConnectionSettings.ofUrl url
  match DatabaseSource.ofSettings? settings >>= ofSource? files with
  | some connection => return connection
  | none => throw (.cannotOpen url)

def placeOf? (files : Files) (url : String) : Option Place :=
  match ConnectionSettings.ofUrl url with
  | .ok settings =>
    (DatabaseSource.ofSettings? settings).map fun source => files.placeOf source.name
  | .error _ => none

def database : Connection → Except StoreFault Database
  | .temporary readOnly => Database.createTables (!readOnly) none
  | .file kept => kept.database

def save (connection : Connection) (database : Database) (files : Files) : Files :=
  match connection, database with
  | .file kept, .opened store =>
    ((kept.remnants files).foldl (fun files place => files.erase place) files).put kept.place
      (.database store)
  | _, _ => files

end Connection

end Arrears
