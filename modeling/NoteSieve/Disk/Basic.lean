import NoteSieve.Text.Basic

/-!
# Disks

What a run sees of the files: for every place, whether a file or a directory is there, and what may
not be done with it. A place is reached by a path, name by name, and every name but the last has to
lead through a directory in which names may be looked up. A file holds a text, or bytes that are no
text.

Nothing is ever changed in place: what a run would write is a list of changes, and `Disk.apply` is
the disk after them. What is made is open to its maker, and what is written over stays as open as it
was.
-/

namespace NoteSieve

/-- What a file holds. -/
inductive Content where
  /-- Bytes that encode a text. -/
  | text (s : Text)
  /-- Bytes that encode none. -/
  | bytes (raw : List UInt8)
  deriving DecidableEq

/-- The content that bytes make up: a text wherever they encode one in UTF-8. -/
def Content.ofBytes (raw : ByteArray) : Content :=
  match String.fromUTF8? raw with
  | some s => .text s.toList
  | none => .bytes raw.toList

/-- What is at a place. -/
inductive Entry where
  | directory
  | file (content : Content)
  deriving DecidableEq

/-- Where an entry is: the names on the way from the working directory, where an absolute path
begins with the name `/`. -/
abbrev Place : Type := List Text

/-- What can be done with a file or a directory. -/
inductive Access where
  /-- Names are looked up in it. -/
  | search
  /-- It is read. -/
  | read
  /-- It is written over, or something is put into it. -/
  | write
  deriving DecidableEq, Repr

/-- Why something may not be done. -/
inductive Refusal where
  | permissionDenied
  | readOnly
  deriving DecidableEq, Repr

/-- The entries of a file system by their places. -/
@[ext] structure Disk where
  /-- What is at a place, if anything. -/
  get? : Place → Option Entry
  /-- Why something may not be done with what is at a place, if that is so. -/
  refusal? : Place → Access → Option Refusal

/-- Why a path cannot be read or written. -/
inductive DiskError where
  | notFound
  | alreadyExists
  | notDirectory
  | isDirectory
  | nameTooLong
  | notText
  | refused (cause : Refusal)
  deriving DecidableEq, Repr

/-- The wording of the operating system. -/
def DiskError.message : DiskError → Text
  | notFound => "No such file or directory (os error 2)".toList
  | alreadyExists => "File exists (os error 17)".toList
  | notDirectory => "Not a directory (os error 20)".toList
  | isDirectory => "Is a directory (os error 21)".toList
  | nameTooLong => "File name too long (os error 36)".toList
  | notText => "stream did not contain valid UTF-8".toList
  | refused .permissionDenied => "Permission denied (os error 13)".toList
  | refused .readOnly => "Read-only file system (os error 30)".toList

namespace Place

/-- The root of all absolute paths. -/
def root : Place := [['/']]

/-- Whether a place is the working directory, one of those above it, or the root: these are always
there. -/
def isAnchor (p : Place) : Bool := p == root || p.all (· == ['.', '.'])

/-- The place one level up. -/
def up (p : Place) : Place :=
  if p == root then root else if p.all (· == ['.', '.']) then p ++ [['.', '.']] else p.dropLast

/-- The most bytes that a name may have. -/
def maxNameBytes : Nat := 255

/-- The place that a name leads to, by the name alone. -/
def next (p : Place) (name : Text) : Except DiskError Place :=
  if name = [] ∨ name = ['.'] then .ok p
  else if name = ['.', '.'] then .ok p.up
  else if maxNameBytes < (String.ofList name).utf8ByteSize then .error .nameTooLong
  else .ok (p ++ [name])

end Place

namespace Disk

/-- The disk with these entries, where nothing is refused. -/
def ofEntries (get? : Place → Option Entry) : Disk := ⟨get?, fun _ _ => none⟩

/-! ### Following a path -/

/-- What is at a place, the directories that are always there included. -/
def lookup (disk : Disk) (p : Place) : Option Entry :=
  if p.isAnchor then some .directory else disk.get? p

/-- Whether there is a directory at a place. -/
def isDirectory (disk : Disk) (p : Place) : Bool := disk.lookup p == some .directory

/-- Refuses what may not be done with what is at a place. -/
def permit (disk : Disk) (p : Place) (access : Access) : Except DiskError Unit :=
  match disk.refusal? p access with
  | none => .ok ()
  | some cause => .error (.refused cause)

/-- The place that a name leads to from a directory. Only an empty name is not looked up. -/
def enter (disk : Disk) (p : Place) (name : Text) : Except DiskError Place :=
  match disk.lookup p with
  | none => .error .notFound
  | some (.file _) => .error .notDirectory
  | some .directory => do
    if name ≠ [] then disk.permit p .search
    p.next name

/-- The place that names lead to from a directory. -/
def walk (disk : Disk) (p : Place) (names : List Text) : Except DiskError Place :=
  names.foldlM disk.enter p

/-- The most bytes that a path may have. -/
def maxPathBytes : Nat := 4095

/-- Refuses a path that is empty or too long, before anything is looked up. -/
def checkPath (path : Text) : Except DiskError Unit :=
  if path.isEmpty then .error .notFound
  else if maxPathBytes < (String.ofList path).utf8ByteSize then .error .nameTooLong
  else .ok ()

/-- The place that the fragments of a path lead to. -/
def follow (disk : Disk) (path : Text) : Except DiskError Place :=
  match Text.fragments (· == '/') path with
  | [] :: rest => disk.walk Place.root rest
  | names => disk.walk [] names

/-- The place that a path leads to, whether or not there is anything. -/
def resolve (disk : Disk) (path : Text) : Except DiskError Place := do
  checkPath path
  disk.follow path

/-- Whether there is anything at a path. -/
def exists? (disk : Disk) (path : Text) : Bool :=
  match disk.resolve path with
  | .ok p => (disk.lookup p).isSome
  | .error _ => false

/-- **The text of the file at a path.** -/
def readText (disk : Disk) (path : Text) : Except DiskError Text := do
  let p ← disk.resolve path
  match disk.lookup p with
  | none => .error .notFound
  | some entry =>
    disk.permit p .read
    match entry with
    | .directory => .error .isDirectory
    | .file (.bytes _) => .error .notText
    | .file (.text s) => return s

/-! ### Changes -/

/-- A change of one entry. -/
structure Change where
  /-- Where it is made. -/
  place : Place
  /-- What is there afterwards. -/
  entry : Entry
  deriving DecidableEq

/-- The disk after a change. Nothing is refused of what was not there before. -/
def change (disk : Disk) (c : Change) : Disk where
  get? p := if p = c.place then some c.entry else disk.get? p
  refusal? p access :=
    if p = c.place ∧ disk.lookup p = none then none else disk.refusal? p access

/-- The disk after changes, in their order. -/
def apply (disk : Disk) (changes : List Change) : Disk := changes.foldl change disk

/-- The paths of the directories on the way to the last name of a path, from the innermost to the
outermost. Each is a piece of the path as it stands. Empty fragments are no names, and neither is
`.` unless the path begins with it. -/
def directoriesTo (path : Text) : List Text :=
  let fragments := Text.fragments (· == '/') path
  let isName := fun (name, i) => name ≠ [] ∧ (name ≠ ['.'] ∨ i = 0)
  ((fragments.zipIdx.filter isName).dropLast.reverse).map fun (_, i) =>
    Text.joinWith ['/'] (fragments.take (i + 1))

/-- Refuses to write over what is at a place, or to put something there. -/
def permitWrite (disk : Disk) (p : Place) : Except DiskError Unit :=
  disk.permit (if disk.lookup p = none then p.up else p) .write

/-- Makes a directory in one that is there. -/
def makeDirectory (disk : Disk) (path : Text) : Except DiskError Change := do
  let p ← disk.resolve path
  match disk.lookup p with
  | some _ => .error .alreadyExists
  | none =>
    disk.permitWrite p
    return ⟨p, .directory⟩

/-- Whether a path leads to a directory. -/
def leadsToDirectory (disk : Disk) (path : Text) : Bool :=
  match disk.resolve path with
  | .ok p => disk.isDirectory p
  | .error _ => false

/-- Makes a directory and those on the way to it that are missing, given their paths from the
innermost to the outermost. A directory that is there already is no error. -/
def makeDirectories (disk : Disk) : List Text → List Change × Except DiskError Unit
  | [] => ([], .ok ())
  | path :: outer =>
    match disk.makeDirectory path with
    | .ok made => ([made], .ok ())
    | .error .notFound =>
      match makeDirectories disk outer with
      | (changes, .error e) => (changes, .error e)
      | (changes, .ok ()) =>
        let disk := disk.apply changes
        match disk.makeDirectory path with
        | .ok made => (changes ++ [made], .ok ())
        | .error e => (changes, if disk.leadsToDirectory path then .ok () else .error e)
    | .error e => ([], if disk.leadsToDirectory path then .ok () else .error e)

/-- Cuts a path before its last name, where that name is followed by a slash. The names `.` and `..`
are none, since they stand for a directory in any case. -/
def beforeSlashedName? (path : Text) : Option Text :=
  let core := path.trimEnd (· == '/')
  let name := (core.reverse.takeWhile (· != '/')).reverse
  if core.length < path.length ∧ name ≠ [] ∧ name ≠ ['.'] ∧ name ≠ ['.', '.'] then
    some (core.take (core.length - name.length))
  else none

/-- **Writes a text to a path**, over the file that is there. A name with a slash after it is taken
for a directory and is not even looked up. -/
def writeText (disk : Disk) (path s : Text) : Except DiskError Change := do
  checkPath path
  match beforeSlashedName? path with
  | some before =>
    let _ ← disk.follow (before ++ ['.'])
    .error .isDirectory
  | none =>
    let p ← disk.follow path
    match disk.lookup p with
    | some .directory => .error .isDirectory
    | _ =>
      disk.permitWrite p
      return ⟨p, .file (.text s)⟩

end Disk

end NoteSieve
