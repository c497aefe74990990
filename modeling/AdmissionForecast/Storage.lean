/-! # Storage

The few operations on files that loading and publishing need, in any monad, and the reasons
why they fail. A file tree is a storage that is a value.
-/

namespace AdmissionForecast

inductive FileError where
  | notFound
  | notDirectory
  | isDirectory
  | nameTooLong
  | busy
  | notText
  | nulInName
  /-- A reason that the system gives in words. -/
  | other (reason : String)
  deriving DecidableEq, Repr

def FileError.message : FileError → String
  | notFound => "No such file or directory (os error 2)"
  | notDirectory => "Not a directory (os error 20)"
  | isDirectory => "Is a directory (os error 21)"
  | nameTooLong => "File name too long (os error 36)"
  | busy => "Device or resource busy (os error 16)"
  | nulInName => "file name contained an unexpected NUL byte"
  | notText => "stream did not contain valid UTF-8"
  | other reason => reason

structure Storage (m : Type → Type) where
  exists? : String → m Bool
  read : String → m (Except FileError String)
  write : String → String → m (Except FileError Unit)
  rename : String → String → m (Except FileError Unit)

namespace Path

def isAbsolute (path : String) : Bool := path.toList.head? = some '/'

/-- Whether a path ends in a slash, and so asks for a directory. -/
def endsInSlash (path : String) : Bool := path.toList.getLast? = some '/'

/-- The path of a name in a directory; an absolute name stands for itself. -/
def join (dir name : String) : String :=
  if isAbsolute name || dir.isEmpty then name
  else if endsInSlash dir then dir ++ name
  else dir ++ "/" ++ name

/-- The names that a path goes through. -/
def names (path : String) : List String :=
  ((path.toList.splitOn '/').map String.ofList).filter (· ≠ "")

/-- The text without a slash, or a slash and a point, at its end. -/
def dropTrailing (reversed : List Char) : List Char :=
  match reversed with
  | '/' :: rest => dropTrailing rest
  | '.' :: '/' :: rest => dropTrailing rest
  | cs => cs

/-- The stem of a reversed file name: what comes before its last point, unless that point is
its only one and comes first. -/
def dropExtension (reversedName : List Char) : List Char :=
  match reversedName.dropWhile (· ≠ '.') with
  | '.' :: stem => if stem.isEmpty then reversedName else stem
  | _ => reversedName

/-- The path with another extension; a path that ends in no file name stays as it is. The old
extension goes first, and the name `..x` is none any more without its extension. -/
def withExtension (path extension : String) : String :=
  let whole := path.toList.reverse
  let reversed := dropTrailing whole
  let name := reversed.takeWhile (· ≠ '/')
  let dir := reversed.dropWhile (· ≠ '/')
  if name.isEmpty || name = ['.'] || name = ['.', '.'] then path
  else if dropExtension name = ['.'] && reversed = whole then
    String.ofList ('.' :: '.' :: dir).reverse
  else String.ofList (dropExtension name ++ dir).reverse ++ "." ++ extension

end Path

inductive FileEntry where
  | file (content : ByteArray)
  | directory

/-- Files and directories by the names on the way to them from the root, together with the
working directory. -/
structure FileTree where
  entries : List (List String × FileEntry)
  workingDirectory : List String := []

namespace FileTree

/-- The entry at a place; the root is always a directory. -/
def entry? (t : FileTree) (place : List String) : Option FileEntry :=
  if place.isEmpty then some .directory
  else (t.entries.find? fun e => e.1 = place).map Prod.snd

def set (t : FileTree) (place : List String) (e : FileEntry) : FileTree :=
  { t with entries := (place, e) :: t.entries.filter fun e => e.1 ≠ place }

def erase (t : FileTree) (place : List String) : FileTree :=
  { t with entries := t.entries.filter fun e => e.1 ≠ place }

def maxNameSize : Nat := 255

def maxPathSize : Nat := 4095

/-- The place of a name in a directory. -/
def enter (place : List String) (name : String) : List String :=
  if name = "." then place
  else if name = ".." then place.dropLast
  else place ++ [name]

/-- Follows names from a place; each place on the way has to be a directory. -/
def follow (t : FileTree) (place : List String) : List String → Except FileError (List String)
  | [] => .ok place
  | name :: rest =>
    match t.entry? place with
    | none => .error .notFound
    | some (.file _) => .error .notDirectory
    | some .directory =>
      if maxNameSize < name.utf8ByteSize then .error .nameTooLong
      else follow t (enter place name) rest

/-- The place that a path leads to. A slash at the end asks for a directory. -/
def locate (t : FileTree) (path : String) : Except FileError (List String) := do
  if path.isEmpty then throw .notFound
  if path.toList.contains '\x00' then throw .nulInName
  if maxPathSize < path.utf8ByteSize then throw .nameTooLong
  let place ← t.follow (if Path.isAbsolute path then [] else t.workingDirectory) (Path.names path)
  if Path.endsInSlash path then
    match t.entry? place with
    | some (.file _) => throw .notDirectory
    | _ => return place
  return place

def exists? (t : FileTree) (path : String) : Bool :=
  match t.locate path with
  | .ok place => (t.entry? place).isSome
  | .error _ => false

def read (t : FileTree) (path : String) : Except FileError String := do
  match t.entry? (← t.locate path) with
  | none => throw .notFound
  | some .directory => throw .isDirectory
  | some (.file content) => (String.fromUTF8? content).elim (throw .notText) pure

def write (t : FileTree) (path content : String) : Except FileError FileTree := do
  let place ← t.locate path
  match t.entry? place with
  | some .directory => throw .isDirectory
  | _ =>
    match t.entry? place.dropLast with
    | some .directory => return t.set place (.file content.toUTF8)
    | some (.file _) => throw .notDirectory
    | none => throw .notFound

/-- Moves a file, in place of the file that was there. The target has to be named, and not as
a directory. -/
def rename (t : FileTree) (source target : String) : Except FileError FileTree := do
  let origin ← t.locate source
  let place ← t.locate target
  if [".", ".."].contains ((Path.names target).getLast?.getD ".") then throw .busy
  match t.entry? origin with
  | some (.file content) =>
    if Path.endsInSlash target then throw .notDirectory
    match t.entry? place with
    | some .directory => throw .isDirectory
    | _ => return (t.erase origin).set place (.file content)
  | some .directory => throw .isDirectory
  | none => throw .notFound

/-- A change of the tree that is kept only if it works. -/
def change (f : FileTree → Except FileError FileTree) : StateM FileTree (Except FileError Unit) :=
  fun t =>
    match f t with
    | .ok t' => (.ok (), t')
    | .error e => (.error e, t)

def storage : Storage (StateM FileTree) where
  exists? path := fun t => (t.exists? path, t)
  read path := fun t => (t.read path, t)
  write path content := change fun t => t.write path content
  rename source target := change fun t => t.rename source target

end FileTree

end AdmissionForecast
