/-
  Reading and changing files.

  Every operation either succeeds with the new file system or reports a fault and changes
  nothing; only `makeDirectories` may have made some of the directories on the way to one it
  cannot make.
-/
import EditorPlugins.Files.Basic
import EditorPlugins.Text.Utf8

namespace EditorPlugins.Files

/-! ## Reading -/

/-- The bytes of a file. -/
def read (f : Files) (p : Path) : Except FileFault ByteArray := do
  match ← f.locate p with
  | .file _ bytes => .ok bytes
  | .directory _ => .error .isDirectory
  | .missing _ => .error .notFound

/-- The text of a file whose bytes are valid UTF-8. -/
def readText (f : Files) (p : Path) : Except FileFault String := do
  match Text.decode? (← f.read p) with
  | some s => .ok s
  | none => .error .notText

/-- The names in a directory, in increasing order. -/
def list (f : Files) (p : Path) : Except FileFault (List String) := do
  match ← f.locate p with
  | .directory at_ => .ok (f.namesBelow at_)
  | .file _ _ => .error .notDirectory
  | .missing _ => .error .notFound

/-- The spelling of a place: absolute, without links and idle parts. -/
def spell (at_ : Place) : Path :=
  ⟨if at_.isEmpty then "/" else String.join (at_.map ("/" ++ ·))⟩

/-- The one spelling that all paths to an existing place share. -/
def canonical (f : Files) (p : Path) : Except FileFault Path := do
  match ← f.locate p with
  | .file at_ _ | .directory at_ => .ok (spell at_)
  | .missing _ => .error .notFound

/-! ## Writing -/

/-- Put bytes into a file in place of what it held; the file is made if it is missing. -/
def write (f : Files) (p : Path) (bytes : ByteArray) : Except FileFault Files := do
  match ← f.locate p with
  | .file at_ _ | .missing at_ => .ok (f.put at_ (.file bytes))
  | .directory _ => .error .isDirectory

def writeText (f : Files) (p : Path) (s : String) : Except FileFault Files :=
  f.write p (Text.encode s)

/-- Put bytes behind those of a file; the file is made if it is missing. -/
def append (f : Files) (p : Path) (bytes : ByteArray) : Except FileFault Files := do
  match ← f.locate p with
  | .file at_ old => .ok (f.put at_ (.file (old ++ bytes)))
  | .missing at_ => .ok (f.put at_ (.file bytes))
  | .directory _ => .error .isDirectory

/-! ## Directories -/

/-- The place for a new entry: its directory exists and nothing, not even a link, stands there. -/
def vacant (f : Files) (p : Path) : Except FileFault Place := do
  checkSpelling p
  let names := (Text.pieces '/' p.text).filter (· ≠ "")
  match names.getLast? with
  | none => .error .alreadyExists
  | some name =>
    match ← f.walk maxLinks (f.origin p) (names.dropLast ++ ["."]) with
    | .directory at_ =>
      if name = "." ∨ name = ".." then .error .alreadyExists
      else if name.utf8ByteSize > maxName then .error .nameTooLong
      else
        match f.entryAt (at_ ++ [name]) with
        | some _ => .error .alreadyExists
        | none => .ok (at_ ++ [name])
    | _ => .error .notDirectory

/-- Make one directory. -/
def makeDirectory (f : Files) (p : Path) : Except FileFault Files := do
  .ok (f.put (← f.vacant p) .directory)

/-- Make one directory, unless it is there already. -/
def ensureDirectory (f : Files) (p : Path) : Except FileFault Files :=
  match f.makeDirectory p with
  | .ok g => .ok g
  | .error e => if f.isDirectory p then .ok f else .error e

/-- Make a directory and those above it that are missing: up to the first that is there or can be
made, then back down.  What was made stays also when a later one cannot be made; the fuel bounds
the number of components. -/
def makeDirectoriesFrom : Nat → Files → Path → Files × Option FileFault
  | 0, f, _ => (f, some .notFound)
  | fuel + 1, f, p =>
    if p.text.isEmpty then (f, none)
    else
      match f.ensureDirectory p with
      | .ok g => (g, none)
      | .error .notFound =>
        match p.parent? with
        | none => (f, some .notFound)
        | some parent =>
          match makeDirectoriesFrom fuel f parent with
          | (g, some e) => (g, some e)
          | (g, none) =>
            match g.ensureDirectory p with
            | .ok h => (h, none)
            | .error e => (g, some e)
      | .error e => (f, some e)

/-- Make a directory and those above it that are missing. -/
def makeDirectories (f : Files) (p : Path) : Files × Option FileFault :=
  makeDirectoriesFrom (p.text.length + 1) f p

/-! ## Links and removal -/

/-- Make a symbolic link. -/
def link (f : Files) (p target : Path) : Except FileFault Files := do
  .ok (f.put (← f.vacant p) (.link target))

/-- Take away a file, a link or a directory with all it holds. -/
def remove (f : Files) (p : Path) : Files :=
  let names := (Text.pieces '/' p.text).filter (· ≠ "")
  match names.getLast? with
  | none => f
  | some name =>
    match f.walk maxLinks (f.origin p) (names.dropLast ++ ["."]) with
    | .ok (.directory at_) => f.removeTree (at_ ++ [name])
    | _ => f

end EditorPlugins.Files
