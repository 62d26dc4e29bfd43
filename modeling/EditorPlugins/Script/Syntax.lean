/-
  The scripts that plugins are written in.

  A script is a list of statements; it is stored as JSON text.  Names refer to the globals of the
  plugin's sandbox.  A function sees its arguments by position and captures nothing else.
-/
import EditorPlugins.Session.Operation
import EditorPlugins.Json.Parser
import EditorPlugins.Script.Remark

namespace EditorPlugins.Script

/-! ## Programs -/

mutual

/-- An expression. -/
inductive Expr where
  | nil
  | bool (b : Bool)
  | integer (n : Int64)
  | float (x : Binary64)
  | string (bytes : ByteArray)
  /-- A new table: its sequence, then entries under keys. -/
  | table (items : List Expr) (entries : List (Expr × Expr))
  | function (body : List Stmt)
  /-- The argument at a position, counted from one. -/
  | argument (position : Nat)
  | argumentCount
  | global (name : String)
  /-- A global, or a field of one: `fs.read`. -/
  | capability (name : String)
  /-- The first result of a capability. -/
  | call (name : String) (args : List Expr)
  /-- How many results a capability gives. -/
  | resultCount (name : String) (args : List Expr)
  /-- What a capability raises. -/
  | caught (name : String) (args : List Expr)
  /-- The first result of a function value. -/
  | invoke (f : Expr) (args : List Expr)
  | index (table key : Expr)
  | concat (parts : List Expr)
  | add (left right : Expr)
  | or (left right : Expr)
  | eq (left right : Expr)
  | typeOf (e : Expr)
  | length (e : Expr)
  /-- A string so many times over. -/
  | replicate (string count : Expr)
  | require (module : Expr)
  /-- The embedding application acts while the script is running. -/
  | host (op : Operation)
  /-- A table that contains itself. -/
  | cycle
  | thread
  | userdata

/-- A statement. -/
inductive Stmt where
  | set (name : String) (e : Expr)
  | evaluate (e : Expr)
  | «show» (e : Expr)
  /-- Evaluate, and show the value or what was raised. -/
  | «try» (e : Expr)
  | «return» (values : List Expr)
  | error (e : Expr)
  | branch (condition : Expr) (yes no : List Stmt)

end

instance : Inhabited Expr := ⟨.nil⟩

/-- Statements in order. -/
abbrev Block := List Stmt

/-! ## Reading -/

def int64? (n : Int) : Option Int64 :=
  if Int64.minValue.toInt ≤ n ∧ n ≤ Int64.maxValue.toInt then some (Int64.ofInt n) else none

/-- A whole number in decimal digits. -/
def intOfText? (s : String) : Option Int :=
  let magnitude (cs : List Char) : Option Int :=
    if cs.isEmpty || !cs.all Json.isDigit then none
    else some (cs.foldl (fun n c => n * 10 + (Json.digitValue c : Int)) 0)
  match s.toList with
  | '-' :: r => (magnitude r).map (fun n => -n)
  | cs => magnitude cs

/-- The number whose bits are written in hexadecimal, or a NaN. -/
def floatOfText (s : String) : Binary64 :=
  if s = "nan" then ⟨0x7ff8000000000000⟩
  else ⟨(s.toList.foldl (fun n c => n * 16 + FileChange.hexValue c) 0).toUInt64⟩

mutual

/-- The expression that a JSON value stands for; the fuel bounds the depth. -/
def readExpr : Nat → Json → Option Expr
  | 0, _ => none
  | _ + 1, .null => some .nil
  | _ + 1, .bool b => some (.bool b)
  | _ + 1, .integer n => (int64? n).map .integer
  | _ + 1, .float x => some (.float x)
  | _ + 1, .text s => some (.string (Text.encode s))
  | _ + 1, .array _ => none
  | fuel + 1, .object fields => readForm fuel (.object fields)

/-- The expression that an object stands for. -/
def readForm : Nat → Json → Option Expr
  | 0, _ => none
  | fuel + 1, j =>
    let expr (key : String) : Option Expr := (j.field? key).bind (readExpr fuel)
    let exprs (key : String) : Option (List Expr) :=
      match j.itemsField? key with
      | some items => items.mapM (readExpr fuel)
      | none => some []
    let pair (key : String) : Option (Expr × Expr) := do
      match ← exprs key with
      | [a, b] => some (a, b)
      | _ => none
    let entry (j : Json) : Option (Expr × Expr) := do
      match ← j.items? with
      | [k, v] => some (← readExpr fuel k, ← readExpr fuel v)
      | _ => none
    let has (key : String) : Bool := (j.field? key).isSome
    if has "i" then (j.textField? "i").bind intOfText? |>.bind int64? |>.map .integer
    else if has "f" then (j.textField? "f").map (fun s => .float (floatOfText s))
    else if has "b" then (j.textField? "b").map (fun s => .string (FileChange.ofHex s))
    else if has "t" || has "k" then do
      some (.table (← exprs "t") (← ((j.itemsField? "k").getD []).mapM entry))
    else if has "fn" then do some (.function (← readBlock fuel (← j.itemsField? "fn")))
    else if has "arg" then do some (.argument (← (← j.field? "arg").int?).toNat)
    else if has "nargs" then some .argumentCount
    else if has "var" then (j.textField? "var").map .global
    else if has "cap" then (j.textField? "cap").map .capability
    else if has "call" then do some (.call (← j.textField? "call") (← exprs "args"))
    else if has "count" then do some (.resultCount (← j.textField? "count") (← exprs "args"))
    else if has "caught" then do some (.caught (← j.textField? "caught") (← exprs "args"))
    else if has "invoke" then do some (.invoke (← expr "invoke") (← exprs "args"))
    else if has "index" then (pair "index").map (fun p => .index p.1 p.2)
    else if has "cat" then (exprs "cat").map .concat
    else if has "add" then (pair "add").map (fun p => .add p.1 p.2)
    else if has "or" then (pair "or").map (fun p => .or p.1 p.2)
    else if has "eq" then (pair "eq").map (fun p => .eq p.1 p.2)
    else if has "type" then (expr "type").map .typeOf
    else if has "len" then (expr "len").map .length
    else if has "rep" then (pair "rep").map (fun p => .replicate p.1 p.2)
    else if has "require" then (expr "require").map .require
    else if has "host" then (j.field? "host").bind Operation.ofJson? |>.map .host
    else if has "cycle" then some .cycle
    else if has "thread" then some .thread
    else if has "userdata" then some .userdata
    else none

/-- The statement that a JSON array stands for. -/
def readStmt : Nat → Json → Option Stmt
  | 0, _ => none
  | fuel + 1, j => do
    match ← j.items? with
    | [.text "set", .text name, e] => (readExpr fuel e).map (.set name)
    | [.text "do", e] => (readExpr fuel e).map .evaluate
    | [.text "show", e] => (readExpr fuel e).map .show
    | [.text "try", e] => (readExpr fuel e).map .try
    | .text "return" :: es => (es.mapM (readExpr fuel)).map .return
    | [.text "error", e] => (readExpr fuel e).map .error
    | .text "if" :: c :: yes :: rest => do
      let no ← match rest with
        | [] => some []
        | [no] => no.items?
        | _ => none
      some (.branch (← readExpr fuel c) (← readBlock fuel (← yes.items?)) (← readBlock fuel no))
    | _ => none

def readBlock : Nat → List Json → Option Block
  | 0, _ => none
  | fuel + 1, js => js.mapM (readStmt fuel)

end

/-- The statements that a text holds; a text of remarks holds none. -/
def parse? (text : String) : Option Block :=
  if isRemark text then some []
  else
    match Json.parseWithin (text.length + 1) text with
    | .ok (.array items) => readBlock (4 * text.length + 4) items
    | _ => none

end EditorPlugins.Script
