/-
  The files that plugins and their host see.

  A file system is a finite map from places to entries.  A place is the list of names on the way
  from the root; an entry is a file with its bytes, a directory, or a symbolic link.  The root is
  always a directory.  `walk` follows a path the way an operating system does: from the root or
  the current directory, step by step, through symbolic links.
-/
import EditorPlugins.Path

namespace EditorPlugins

/-- The names on the way from the root to a file. -/
abbrev Place := List String

/-- What can stand at a place. -/
inductive Entry where
  | file (bytes : ByteArray)
  | directory
  | link (target : Path)
deriving Inhabited

/-- Why a file operation did not succeed. -/
inductive FileFault where
  | notFound
  | notDirectory
  | isDirectory
  | alreadyExists
  | tooManyLinks
  | nameTooLong
  | containsNul
  | notText
deriving DecidableEq, Repr

def FileFault.message : FileFault → String
  | notFound => "No such file or directory (os error 2)"
  | notDirectory => "Not a directory (os error 20)"
  | isDirectory => "Is a directory (os error 21)"
  | alreadyExists => "File exists (os error 17)"
  | tooManyLinks => "Too many levels of symbolic links (os error 40)"
  | nameTooLong => "File name too long (os error 36)"
  | containsNul => "file name contained an unexpected NUL byte"
  | notText => "stream did not contain valid UTF-8"

/-- A file system with a current directory, from which relative paths are taken. -/
structure Files where
  entries : List (Place × Entry)
  current : Place
deriving Inhabited

namespace Files

/-! ## Entries -/

/-- The entry at a place. -/
def entryAt (f : Files) (at_ : Place) : Option Entry :=
  if at_.isEmpty then some .directory
  else (f.entries.find? (fun e => e.1 == at_)).map (·.2)

/-- Put an entry at a place, in place of what was there. -/
def put (f : Files) (at_ : Place) (e : Entry) : Files :=
  { f with entries := (at_, e) :: f.entries.filter (fun x => x.1 != at_) }

/-- Take away the entry at a place and everything below it. -/
def removeTree (f : Files) (at_ : Place) : Files :=
  { f with entries := f.entries.filter (fun x => !at_.isPrefixOf x.1) }

/-- The names directly below a place, in increasing order. -/
def namesBelow (f : Files) (at_ : Place) : List String :=
  let names := f.entries.filterMap fun x =>
    match x.1.getLast? with
    | some name => if x.1.dropLast == at_ then some name else none
    | none => none
  names.mergeSort (fun a b => decide (a ≤ b))

/-- What is put at a place other than the root is found there, and nothing changes elsewhere. -/
theorem entryAt_put (f : Files) (k k' : Place) (e : Entry) (hk : k ≠ []) :
    (f.put k e).entryAt k' = if k' = k then some e else f.entryAt k' := by
  by_cases h : k' = k
  · subst h
    simp [entryAt, put, hk]
  · by_cases hk' : k' = []
    · subst hk'; simp [entryAt, h]
    · have hne : (k == k') = false := by simpa using Ne.symm h
      simp only [entryAt, put, List.isEmpty_iff, hk', if_false, h, List.find?_cons, hne]
      congr 1
      induction f.entries with
      | nil => rfl
      | cons x r ih =>
        by_cases hx : x.1 = k
        · have : (x.1 == k') = false := by simpa [hx] using Ne.symm h
          simp [hx, hne, ih]
        · by_cases hx' : x.1 = k'
          · simp [hx', h]
          · simp [hx, hx', ih]

/-! ## Following a path -/

/-- Where a path leads. -/
inductive Spot where
  | directory (at_ : Place)
  | file (at_ : Place) (bytes : ByteArray)
  /-- Nothing is there yet, but the directory that would hold it is. -/
  | missing (at_ : Place)

/-- The most bytes that a name may have. -/
def maxName : Nat := 255

/-- The number of bytes from which on a whole path is too long. -/
def maxPath : Nat := 4096

/-- The most symbolic links that are followed on the way. -/
def maxLinks : Nat := 40

/-- The names to pass through.  A separator at the end asks for a directory, like a last `.`. -/
def steps (p : Path) : List String :=
  let names := ((Text.pieces '/' p.text).filter (· ≠ ""))
  if p.text.toList.getLast? == some '/' && !names.isEmpty then names ++ ["."] else names

/-- Go on from a directory.  `follow` goes on from the target of a link. -/
def descend (f : Files) (follow : Path → Place → List String → Except FileFault Spot) :
    Place → List String → Except FileFault Spot
  | at_, [] => .ok (.directory at_)
  | at_, name :: rest =>
    if name = "." then descend f follow at_ rest
    else if name = ".." then descend f follow at_.dropLast rest
    else if name.utf8ByteSize > maxName then .error .nameTooLong
    else
      let next := at_ ++ [name]
      match f.entryAt next with
      | some .directory => descend f follow next rest
      | some (.file bytes) => if rest.isEmpty then .ok (.file next bytes) else .error .notDirectory
      | some (.link target) => follow target at_ rest
      | none => if rest.isEmpty then .ok (.missing next) else .error .notFound

/-- Go on from a directory, following at most so many links. -/
def walk (f : Files) : Nat → Place → List String → Except FileFault Spot
  | 0 => descend f (fun _ _ _ => .error .tooManyLinks)
  | links + 1 => descend f fun target at_ rest =>
    walk f links (if target.isAbsolute then [] else at_) (steps target ++ rest)

/-- Refuse a spelling that names nothing. -/
def checkSpelling (p : Path) : Except FileFault Unit :=
  if p.text.toList.contains '\x00' then .error .containsNul
  else if p.text.isEmpty then .error .notFound
  else if p.text.utf8ByteSize ≥ maxPath then .error .nameTooLong
  else .ok ()

/-- The directory from which a path is taken. -/
def origin (f : Files) (p : Path) : Place := if p.isAbsolute then [] else f.current

/-- Where a path leads, every link followed. -/
def locate (f : Files) (p : Path) : Except FileFault Spot := do
  checkSpelling p
  f.walk maxLinks (f.origin p) (steps p)

/-! ## Asking -/

def exists? (f : Files) (p : Path) : Bool :=
  match f.locate p with
  | .ok (.directory _) | .ok (.file _ _) => true
  | _ => false

def isFile (f : Files) (p : Path) : Bool :=
  match f.locate p with
  | .ok (.file _ _) => true
  | _ => false

def isDirectory (f : Files) (p : Path) : Bool :=
  match f.locate p with
  | .ok (.directory _) => true
  | _ => false

end Files

end EditorPlugins
