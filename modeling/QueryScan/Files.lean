/-! Files as the commands see them: bytes under a path, or a reason why there are none. -/
namespace QueryScan

inductive SystemError where
  | notFound
  | permissionDenied
  | notADirectory
  | isADirectory
  | nameTooLong
  | other (code : Nat) (message : String)
deriving DecidableEq, Repr

namespace SystemError

def code : SystemError → Nat
  | notFound => 2
  | permissionDenied => 13
  | notADirectory => 20
  | isADirectory => 21
  | nameTooLong => 36
  | other code _ => code

def kind : SystemError → String
  | notFound => "NotFound"
  | permissionDenied => "PermissionDenied"
  | notADirectory => "NotADirectory"
  | isADirectory => "IsADirectory"
  | nameTooLong => "InvalidFilename"
  | other .. => "Uncategorized"

def message : SystemError → String
  | notFound => "No such file or directory"
  | permissionDenied => "Permission denied"
  | notADirectory => "Not a directory"
  | isADirectory => "Is a directory"
  | nameTooLong => "File name too long"
  | other _ message => message

end SystemError

inductive ReadError where
  | system (cause : SystemError)
  /-- The path holds a NUL, so that no system can be asked for it. -/
  | nulInPath
  /-- The bytes are not UTF-8. -/
  | notText
deriving DecidableEq, Repr

def decodeText (bytes : ByteArray) : Except ReadError String :=
  match String.fromUTF8? bytes with
  | some text => .ok text
  | none => .error .notText

structure Host (m : Type → Type) where
  fileExists : String → m Bool
  readFile : String → m (Except SystemError ByteArray)
  readInput : m (Except SystemError ByteArray)

namespace Host

variable {m : Type → Type} [Monad m]

def readText (host : Host m) (path : String) : m (Except ReadError String) := do
  if path.toList.contains '\x00' then return .error .nulInPath
  match ← host.readFile path with
  | .ok bytes => return decodeText bytes
  | .error cause => return .error (.system cause)

def readInputText (host : Host m) : m (Except ReadError String) := do
  match ← host.readInput with
  | .ok bytes => return decodeText bytes
  | .error cause => return .error (.system cause)

end Host

/-- A directory that holds these files, each under the names on the way to it. -/
structure FileTree where
  files : List (List String × ByteArray)

namespace FileTree

/-- The names of a path, without those that change nothing. -/
def names (path : String) : List String :=
  (path.splitOn "/").filter fun name => name != "" && name != "."

/-- The last file of a path is the one that is there. -/
def ofFiles (files : List (String × ByteArray)) : FileTree :=
  ⟨files.reverse.map fun (path, bytes) => (names path, bytes)⟩

inductive Entry where
  | file (bytes : ByteArray)
  | directory

def entry? (t : FileTree) (place : List String) : Option Entry :=
  match t.files.lookup place with
  | some bytes => some (.file bytes)
  | none =>
    if place.isEmpty || t.files.any fun file => place.isPrefixOf file.1 then some .directory
    else none

/-- A place on the way along a path. Nothing is known of what lies outside. -/
inductive Position where
  | inside (names : List String)
  | outside

/-- Bytes that a name may have. -/
def nameLimit : Nat := 255

/-- Bytes that a path may have. -/
def pathLimit : Nat := 4095

def missing (name : String) : SystemError :=
  if nameLimit < name.utf8ByteSize then .nameTooLong else .notFound

/-- Follows a path name by name. Every name but the last must be that of a directory. A name is
looked at only when its turn comes, so the first fault on the way is the one that counts. -/
def walk (t : FileTree) : Position → List String → Except SystemError Entry
  | .outside, [] => .ok .directory
  | .outside, name :: rest =>
    if name == "" || name == "." || name == ".." then t.walk .outside rest
    else .error (missing name)
  | .inside here, [] =>
    match t.entry? here with
    | some entry => .ok entry
    | none => .error .notFound
  | .inside here, name :: rest =>
    match t.entry? here with
    | none => .error .notFound
    | some (.file _) => .error .notADirectory
    | some .directory =>
      if name == "" || name == "." then t.walk (.inside here) rest
      else if name == ".." then
        t.walk (if here.isEmpty then .outside else .inside here.dropLast) rest
      else if nameLimit < name.utf8ByteSize then .error .nameTooLong
      else t.walk (.inside (here ++ [name])) rest

/-- What a path leads to from the directory, or from outside when it starts with a slash. -/
def resolve (t : FileTree) (path : String) : Except SystemError Entry :=
  if path.isEmpty then .error .notFound
  else if pathLimit < path.utf8ByteSize then .error .nameTooLong
  else if path.startsWith "/" then t.walk .outside (path.splitOn "/")
  else t.walk (.inside []) (path.splitOn "/")

def read (t : FileTree) (path : String) : Except SystemError ByteArray :=
  match t.resolve path with
  | .ok (.file bytes) => .ok bytes
  | .ok .directory => .error .isADirectory
  | .error cause => .error cause

/-- The tree as a host. Standard input can be read once; after that it is at its end. -/
def host (t : FileTree) : Host (StateM ByteArray) where
  fileExists path := return (t.resolve path).toBool
  readFile path := return t.read path
  readInput := do
    let bytes ← get
    set ByteArray.empty
    return .ok bytes

end FileTree

end QueryScan
