/-
  File paths.

  A path keeps its spelling, because messages and listings show it.  What it MEANS are its
  components: repeated separators, inner `.` and a separator at the end do not count, so two
  spellings may name the same place (`Path.same`).  A path that begins with a separator is
  absolute; joining one to a directory gives the absolute path itself.
-/
import EditorPlugins.Text.Split

namespace EditorPlugins

/-- A path as it is spelled. -/
structure Path where
  text : String
deriving DecidableEq, Repr, Inhabited

namespace Path

/-! ## Components -/

/-- A step on the way that a path describes. -/
inductive Component where
  | root
  /-- A leading `.`; elsewhere it does not count. -/
  | current
  | parent
  | normal (name : String)
deriving DecidableEq, Repr

def isAbsolute (p : Path) : Bool := p.text.toList.head? == some '/'

/-- The part of the spelling that every component but the first follows: the root, or a leading
`.`, or nothing. -/
inductive Base where
  | root
  | current
  | nothing
deriving DecidableEq

def Base.text : Base → List Char
  | root => ['/']
  | current => ['.']
  | nothing => []

/-- The base of a spelling and what follows it. -/
def splitBase : List Char → Base × List Char
  | '/' :: r => (.root, r)
  | ['.'] => (.current, [])
  | '.' :: '/' :: r => (.current, '/' :: r)
  | cs => (.nothing, cs)

/-- A piece between separators that does not count. -/
def isIdle (piece : List Char) : Bool := piece.isEmpty || piece == ['.']

/-- The pieces after the base, idle ones included. -/
def piecesAfterBase (p : Path) : List (List Char) :=
  Text.piecesChars '/' (splitBase p.text.toList).2

/-- The component that a piece stands for. -/
def pieceComponent (piece : List Char) : Component :=
  if piece = ['.', '.'] then .parent else .normal (String.ofList piece)

/-- The components of a path, first one first. -/
def components (p : Path) : List Component :=
  let rest := (p.piecesAfterBase.filter (fun piece => !isIdle piece)).map pieceComponent
  match (splitBase p.text.toList).1 with
  | .root => .root :: rest
  | .current => .current :: rest
  | .nothing => rest

/-- Whether two spellings have the same components. -/
def same (a b : Path) : Bool := a.components == b.components

/-! ## Putting together -/

/-- `b` taken from the directory `a`; an absolute `b` stands for itself. -/
def join (a b : Path) : Path :=
  if b.isAbsolute then b
  else
    let cs := a.text.toList
    if cs.isEmpty || cs.getLast? == some '/' then ⟨a.text ++ b.text⟩
    else ⟨a.text ++ "/" ++ b.text⟩

instance : HDiv Path String Path := ⟨fun a b => join a ⟨b⟩⟩

/-! ## Taking apart -/

/-- The pieces without the idle ones at the end. -/
def dropIdleEnd (pieces : List (List Char)) : List (List Char) :=
  (pieces.reverse.dropWhile isIdle).reverse

/-- The pieces with separators between them. -/
def joinPieces (pieces : List (List Char)) : List Char := List.intercalate ['/'] pieces

/-- The path without its last component; nothing for the root and for the empty path. -/
def parent? (p : Path) : Option Path :=
  let base := (splitBase p.text.toList).1
  let pieces := dropIdleEnd p.piecesAfterBase
  if pieces.isEmpty then
    match base with
    | .current => some ⟨""⟩
    | _ => none
  else
    some ⟨String.ofList (base.text ++ joinPieces (dropIdleEnd pieces.dropLast))⟩

/-- The last component, when it is a name. -/
def fileName? (p : Path) : Option String :=
  match (dropIdleEnd p.piecesAfterBase).getLast? with
  | some piece => if piece = ['.', '.'] then none else some (String.ofList piece)
  | none => none

/-- Whether some component steps up to the parent. -/
def hasParentStep (p : Path) : Bool := p.components.contains .parent

example : (Path.mk "a//b/./c/").components = [.normal "a", .normal "b", .normal "c"] := by decide
example : (Path.mk "a//b/").parent? = some ⟨"a"⟩ := by decide
example : (Path.mk "//a").parent? = some ⟨"/"⟩ := by decide
example : (Path.mk "./a/b").parent? = some ⟨"./a"⟩ := by decide
example : (Path.mk "/").parent? = none := by decide
example : (Path.mk "a/..").fileName? = none := by decide
example : (Path.mk "a" / "b").text = "a/b" := by decide

end Path

end EditorPlugins
