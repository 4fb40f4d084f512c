import Arrears.Store.Basic

/-!
# Files

A directory tree, seen from a working directory.  A file holds bytes or a database; folders exist
where files lie in them.  Only what exists can be followed.  A database is opened by a path that is
worked out beforehand: what is missing on the way may be passed, a file that lies in the way may not.
-/

namespace Arrears

/-- The name of a file or folder: the bytes that the disk has for it. -/
abbrev FileName : Type :=
  List UInt8

/-- A place in the directory tree: the names on the way from the root. -/
abbrev Place : Type :=
  List FileName

inductive Content
  | bytes (bytes : List UInt8)
  | database (store : Store)
deriving DecidableEq, Repr

/-- The files that are known, by their places, and folders that need not hold any of them. -/
structure Files where
  home : Place
  contents : List (Place × Content)
  folders : List Place
deriving DecidableEq, Repr

inductive FileFault
  | notFound
  | notADirectory
  | isADirectory
  | nameTooLong
  | zeroByte
  | notUtf8
deriving DecidableEq, Repr

def FileFault.message : FileFault → String
  | .notFound => "No such file or directory (os error 2)"
  | .notADirectory => "Not a directory (os error 20)"
  | .isADirectory => "Is a directory (os error 21)"
  | .nameTooLong => "File name too long (os error 36)"
  | .zeroByte => "file name contained an unexpected NUL byte"
  | .notUtf8 => "stream did not contain valid UTF-8"

namespace Place

def slash : UInt8 :=
  47

def dot : FileName :=
  [46]

def dots : FileName :=
  [46, 46]

def greatestName : Nat :=
  255

def stretches (path : List UInt8) : List FileName :=
  Text.stretches (fun byte => byte = slash) path

def parts (path : List UInt8) : List FileName :=
  (stretches path).filter fun part => part ≠ [] ∧ part ≠ dot

def step (place : Place) (part : FileName) : Place :=
  if part = dots then place.dropLast else place ++ [part]

def size (place : Place) : Nat :=
  place.foldl (fun n name => n + 1 + name.length) 0

def path (place : Place) : List UInt8 :=
  match place with
  | [] => [slash]
  | names => names.flatMap fun name => slash :: name

/-- The place of another file in the same folder, whose name goes on with `ending`. -/
def beside (ending : String) (place : Place) : Place :=
  match place.getLast? with
  | some name => place.dropLast ++ [name ++ Text.bytes ending]
  | none => place

end Place

inductive Standing
  | folder
  | file
  | missing
  /-- A file lies in the way, or the name is too long for any file. -/
  | blocked
deriving DecidableEq, Repr

namespace Files

def within (home : Place) : Files :=
  ⟨home, [], []⟩

def content? (files : Files) (place : Place) : Option Content :=
  files.contents.lookup place

/-- Whether a folder exists: the working directory lies in it, or a known folder or file. -/
def isFolder (files : Files) (place : Place) : Bool :=
  place.isPrefixOf files.home || files.folders.any (fun folder => place.isPrefixOf folder) ||
    files.contents.any fun entry => entry.1 ≠ place && place.isPrefixOf entry.1

def start (files : Files) (path : List UInt8) : Place :=
  if path.head? = some Place.slash then [] else files.home

def placeOf (files : Files) (path : List UInt8) : Place :=
  (Place.parts path).foldl Place.step (files.start path)

def erase (place : Place) (files : Files) : Files :=
  { files with contents := files.contents.filter fun entry => entry.1 ≠ place }

def put (place : Place) (content : Content) (files : Files) : Files :=
  { files with contents := (files.erase place).contents ++ [(place, content)] }

def putBytes (name : String) (bytes : List UInt8) (files : Files) : Files :=
  files.put (files.placeOf (Text.bytes name)) (.bytes bytes)

def putFolder (place : Place) (files : Files) : Files :=
  { files with folders := files.folders ++ [place] }

def follow (files : Files) (place : Place) (part : FileName) : Except FileFault Place :=
  if !files.isFolder place then
    .error (if (files.content? place).isSome then .notADirectory else .notFound)
  else if part = Place.dots then .ok place.dropLast
  else if Place.greatestName < part.length then .error .nameTooLong
  else
    let next := place ++ [part]
    if files.isFolder next || (files.content? next).isSome then .ok next else .error .notFound

def locate (files : Files) (path : List UInt8) : Except FileFault Place := do
  if path.contains 0 then
    throw .zeroByte
  if path.isEmpty then
    throw .notFound
  if 4096 ≤ path.length then
    throw .nameTooLong
  let place ← (Place.parts path).foldlM files.follow (files.start path)
  let mustBeFolder := (Place.stretches path).getLast?.any fun part => part = [] || part = Place.dot
  if mustBeFolder && !files.isFolder place then
    throw .notADirectory
  return place

def readText (files : Files) (path : String) : Except FileFault (List Char) := do
  let place ← files.locate (Text.bytes path)
  match files.content? place with
  | some (.bytes bytes) =>
    match Text.decodeUtf8 bytes with
    | .ok chars => .ok chars
    | .error _ => .error .notUtf8
  | some (.database _) => .error .notUtf8
  | none => .error .isADirectory

def standingFrom (files : Files) (folder : Place) : List FileName → Standing
  | [] => .folder
  | name :: names =>
    let place := folder ++ [name]
    if files.isFolder place then files.standingFrom place names
    else if (files.content? place).isSome then (if names.isEmpty then .file else .blocked)
    else if Place.greatestName < name.length then .blocked
    else .missing

def standing (files : Files) (place : Place) : Standing :=
  files.standingFrom [] place

/-- The most bytes that the path of a place may have while a path is settled. -/
def greatestPath : Nat :=
  511

/-- Goes one part further on a path that is being settled. -/
def settleStep (files : Files) (place : Place) (part : FileName) : Option Place :=
  let next := place.step part
  if part = Place.dots then some next
  else if greatestPath < Place.size next || files.standing next = .blocked then none
  else some next

/-- Works out a path.  The root is no place for a file, and the path has to leave eight bytes for
the names of files beside it. -/
def settle? (files : Files) (path : List UInt8) : Option Place := do
  let place ← (Place.parts path).foldlM files.settleStep (files.start path)
  if place.isEmpty || greatestPath + 1 < Place.size place + 8 then none else some place

end Files
end Arrears
