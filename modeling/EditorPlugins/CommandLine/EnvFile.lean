/-
  Files of environment variables.

  A file holds one assignment a line: a name, `=`, and a value that may be quoted, may hold
  backslash escapes, and may refer to other variables by `$`.  A quoted value may go on over
  several lines (`joined`).  A variable that is set already keeps its value, and the first line
  that is no assignment ends the reading (`extend?`).  No variable can hold a NUL: there is no
  environment after a file that asks for one.
-/
import EditorPlugins.Configuration
import EditorPlugins.Files.Operations
import EditorPlugins.Text.Letter

namespace EditorPlugins.EnvFile

/-! ## Lines -/

/-- Where a line stands in quotes. -/
inductive Quotation where
  | plain
  | escape
  | single
  | singleEscape
  | double
  | doubleEscape
  /-- Behind a blank, where a remark may begin. -/
  | gap
deriving DecidableEq, Repr

/-- The place behind one more character; nothing when a remark begins there. -/
def Quotation.next (q : Quotation) (c : Char) : Option Quotation :=
  let opened : Quotation :=
    if c = '\\' then .escape
    else if c = '"' then .double
    else if c = '\'' then .single
    else .plain
  match q with
  | gap => if c = '#' then none else some opened
  | plain => some (if Text.isBlank c && c != '\n' && c != '\r' then .gap else opened)
  | escape => some .plain
  | double => some (if c = '\\' then .doubleEscape else if c = '"' then .plain else .double)
  | doubleEscape => some .double
  | single => some (if c = '\\' then .singleEscape else if c = '\'' then .plain else .single)
  | singleEscape => some .single

/-- Follow a line to its end, or to a remark: the place there, and the characters before a
remark. -/
def follow : Quotation → List Char → Option Quotation × List Char
  | q, [] => (some q, [])
  | q, c :: r =>
    match q.next c with
    | none => (none, [])
    | some q => let (end_, before) := follow q r; (end_, c :: before)

/-- A line without the break at its end. -/
def withoutBreak (cs : List Char) : List Char :=
  match cs.reverse with
  | '\n' :: '\r' :: r | '\n' :: r => r.reverse
  | _ => cs

/-- Lines joined where a quotation goes on; `begun` is what has been read of a line that is not
complete yet.  A line that never becomes complete is dropped. -/
def joinFrom : Quotation → List Char → List (List Char) → List (List Char)
  | _, _, [] => []
  | q, begun, line :: rest =>
    if ((begun ++ line).dropWhile Text.isBlank).head? = some '#' then
      [] :: joinFrom .plain [] rest
    else
      match follow q line with
      | (none, before) => (begun ++ before) :: joinFrom .plain [] rest
      | (some .plain, _) => withoutBreak (begun ++ line) :: joinFrom .plain [] rest
      | (some q, _) => joinFrom q (begun ++ line) rest

/-- The lines of a file, joined where a quotation goes on. -/
def joined (lines : List (List Char)) : List (List Char) := joinFrom .plain [] lines

/-- The physical lines of a file, each with its break. -/
def splitLines : List UInt8 → List (List UInt8)
  | [] => []
  | b :: r =>
    if b = 0x0a then [b] :: splitLines r
    else
      match splitLines r with
      | line :: lines => (b :: line) :: lines
      | [] => [[b]]

/-- The lines up to the first that is not valid UTF-8. -/
def readable : List (List UInt8) → List (List Char)
  | [] => []
  | line :: rest =>
    match Text.decode? ⟨line.toArray⟩ with
    | some s => s.toList :: readable rest
    | none => []

/-- The bytes behind a byte order mark. -/
def withoutMark : List UInt8 → List UInt8
  | 0xef :: 0xbb :: 0xbf :: r => r
  | bs => bs

/-! ## Values -/

/-- Where the reader of a value stands. -/
inductive Place where
  | text
  | single
  | escape
  /-- In the name of a variable. -/
  | name (soFar : List Char)
  /-- In the name of a variable between braces. -/
  | braced (soFar : List Char)
  /-- Behind the value, where only a remark may follow. -/
  | behind

/-- The value of a variable; one that is not set is empty. -/
def lookUp (env : Environment) (name : List Char) : List Char :=
  ((env.get? (String.ofList name)).getD "").toList

/-- What an escaped character stands for. -/
def unescape? : Char → Option Char
  | 'n' => some '\n'
  | c => if c = '\\' ∨ c = '\'' ∨ c = '"' ∨ c = '$' ∨ c = ' ' then some c else none

/-- The characters before a point `at_` and those of the rest. -/
def emit (before : List Char) (rest : Option (List Char)) : Option (List Char) :=
  rest.map (before ++ ·)

/-- The value that the characters spell; `quoted` tells whether a double quote is open. -/
def valueFrom (env : Environment) : Place → Bool → List Char → Option (List Char)
  | .text, quoted, [] => if quoted then none else some []
  | .escape, quoted, [] => if quoted then none else some []
  | .name soFar, quoted, [] => if quoted then none else some (lookUp env soFar)
  | .behind, _, [] => some []
  | .single, _, [] => none
  | .braced _, _, [] => none
  | .behind, quoted, c :: r =>
    if c = ' ' ∨ c = '\t' then valueFrom env .behind quoted r
    else if c = '#' then some []
    else none
  | .escape, quoted, c :: r => do emit [← unescape? c] (valueFrom env .text quoted r)
  | .single, quoted, c :: r =>
    if c = '\'' then valueFrom env .text quoted r
    else emit [c] (valueFrom env .single quoted r)
  | .name soFar, quoted, c :: r =>
    if Text.isLetterOrNumber c then valueFrom env (.name (soFar ++ [c])) quoted r
    else if c = '\x7b' ∧ soFar = [] then valueFrom env (.braced []) quoted r
    else if c = '$' then emit (lookUp env soFar) (valueFrom env (.name []) quoted r)
    else emit (lookUp env soFar ++ [c]) (valueFrom env .text quoted r)
  | .braced soFar, quoted, c :: r =>
    if Text.isLetterOrNumber c then valueFrom env (.braced (soFar ++ [c])) quoted r
    else if c = '\x7d' then emit (lookUp env soFar) (valueFrom env .text quoted r)
    else valueFrom env (.braced (soFar ++ [c])) quoted r
  | .text, quoted, c :: r =>
    if c = '$' then valueFrom env (.name []) quoted r
    else if c = '\\' then valueFrom env .escape quoted r
    else if c = '"' then valueFrom env .text (!quoted) r
    else if quoted then emit [c] (valueFrom env .text quoted r)
    else if c = '\'' then valueFrom env .single quoted r
    else if c = ' ' ∨ c = '\t' then valueFrom env .behind quoted r
    else emit [c] (valueFrom env .text quoted r)

/-! ## Assignments -/

/-- A name at the beginning, and the rest. -/
def nameAt (cs : List Char) : Option (List Char × List Char) :=
  match cs with
  | c :: _ =>
    if c.isAlpha || c = '_' then
      let inName (c : Char) : Bool := c.isAlphanum || c = '_' || c = '.'
      some (cs.takeWhile inName, cs.dropWhile inName)
    else none
  | [] => none

/-- What stands behind `=`. -/
def behindEqual? (cs : List Char) : Option (List Char) :=
  match cs with
  | '=' :: r => some r
  | _ => none

/-- The name of an assignment and what stands behind its `=`; the word `export` may come first. -/
def assignmentAt (cs : List Char) : Option (List Char × List Char) := do
  let (name, rest) ← nameAt cs
  let rest := rest.dropWhile Text.isBlank
  match behindEqual? rest with
  | some value => some (name, value)
  | none =>
    if String.ofList name = "export" then
      let (name, rest) ← nameAt rest
      some (name, ← behindEqual? (rest.dropWhile Text.isBlank))
    else none

/-- What a line says. -/
inductive Line where
  | nothing
  | assignment (name value : String)
  | unreadable
deriving DecidableEq, Repr

/-- Read one line; references are to the given variables. -/
def readLine (env : Environment) (cs : List Char) : Line :=
  let cs := Text.trimChars cs
  if cs.isEmpty ∨ cs.head? = some '#' then .nothing
  else
    match assignmentAt cs with
    | none => .unreadable
    | some (name, value) =>
      let value := value.dropWhile Text.isBlank
      if value.head? = some '#' then .assignment (String.ofList name) ""
      else
        match valueFrom env .text false value with
        | some value => .assignment (String.ofList name) (String.ofList value)
        | none => .unreadable

/-- Set a variable that is not set yet. -/
def assign? (env : Environment) (name value : String) : Option Environment :=
  if env.contains name then some env
  else if value.toList.contains '\x00' then none
  else some (env.insert name value)

/-- The variables after the lines of a file, up to the first that cannot be read. -/
def extendFrom? (env : Environment) : List (List Char) → Option Environment
  | [] => some env
  | line :: rest =>
    match readLine env line with
    | .nothing => extendFrom? env rest
    | .assignment name value => (assign? env name value).bind (fun env => extendFrom? env rest)
    | .unreadable => some env

/-- The variables after a file of assignments. -/
def extend? (env : Environment) (bytes : ByteArray) : Option Environment :=
  extendFrom? env (joined (readable (splitLines (withoutMark bytes.data.toList))))

/-! ## The file of a directory -/

/-- The name of the file. -/
def fileName : String := ".env"

/-- The bytes of the file in a directory, or else in the nearest directory above that has one.
The directory is given by its names, innermost first. -/
def findFrom (f : Files) (names : List String) : Option ByteArray :=
  match f.locate (Files.spell (names.reverse ++ [fileName])) with
  | .ok (.file _ bytes) => some bytes
  | .ok _ | .error .notFound =>
    match names with
    | [] => none
    | _ :: above => findFrom f above
  | .error _ => none

/-- The variables of a program that starts in the current directory. -/
def load? (f : Files) (env : Environment) : Option Environment :=
  match findFrom f f.current.reverse with
  | some bytes => extend? env bytes
  | none => some env

/-! ## Examples -/

example : readLine ∅ "export A = 'x y'\"z\" # note".toList = .assignment "A" "x yz" := by decide
example : readLine (Dict.ofList [("A", "1")]) "B=$A-$\x7bA\x7d$C".toList = .assignment "B" "1-1" := by
  decide
example : readLine ∅ "A=b c".toList = .unreadable := by decide

end EditorPlugins.EnvFile
