/-
  Values on the host's side of the boundary.

  A capability receives its arguments and gives its results as such values.  They are trees: a
  table is split into its sequence and its named fields, and tables are nested at most
  `maxDepth` deep.  `exportValue` takes a script's value out of its heap, `importValue` puts a
  host's value into one.
-/
import EditorPlugins.Script.Heap

namespace EditorPlugins

open Script (Value Table Heap Function)

/-- A value that crosses the boundary between host and script. -/
inductive HostValue where
  | absent
  | boolean (b : Bool)
  | integer (n : Int64)
  | number (x : Binary64)
  | text (s : String)
  /-- A string of a script that is not valid UTF-8. -/
  | bytes (b : ByteArray)
  /-- A sequence, and fields in increasing order of their names. -/
  | table (array : List HostValue) (fields : List (String × HostValue))
  | callable (f : Function)
deriving Inhabited

/-- A table that crosses the boundary. -/
structure HostTable where
  array : List HostValue
  fields : List (String × HostValue)
deriving Inhabited

namespace HostValue

/-- A string of a script: text when it is valid UTF-8. -/
def ofBytes (b : ByteArray) : HostValue :=
  match Text.decode? b with
  | some s => .text s
  | none => .bytes b

def ofText? : Option String → HostValue
  | some s => .text s
  | none => .absent

/-! ## Views -/

/-- The type of a value in messages about arguments. -/
def typeName : HostValue → String
  | absent => "nil"
  | boolean _ => "boolean"
  | integer _ | number _ => "number"
  | text _ | bytes _ => "string"
  | table _ _ => "table"
  | callable _ => "function"

def isAbsent : HostValue → Bool
  | absent => true
  | _ => false

def text? : HostValue → Option String
  | text s => some s
  | _ => none

/-- The written form of a number: a whole one of moderate size without a fraction. -/
def numberText (x : Binary64) : String :=
  match x.toInt? with
  | some n => if n.natAbs < 9000000000000000 then toString n else x.positional
  | none => x.positional

/-- The text form of strings and numbers. -/
def coerceText : HostValue → Option String
  | text s => some s
  | bytes b => some (Text.decodeLossy b)
  | integer n => some (toString n.toInt)
  | number x => some (numberText x)
  | _ => none

/-- The bytes of strings, and of numbers in their text form. -/
def coerceBytes : HostValue → Option ByteArray
  | bytes b => some b
  | v => v.coerceText.map Text.encode

/-! ## Out of a sandbox -/

/-- How deep tables may be nested. -/
def maxDepth : Nat := 32

/-- A value that is not a table. -/
def exportScalar : Value → Except ArgumentFault HostValue
  | .nil => .ok .absent
  | .bool b => .ok (.boolean b)
  | .integer n => .ok (.integer n)
  | .float x => .ok (.number x)
  | .string b => .ok (ofBytes b)
  | .function f => .ok (.callable f)
  | v => .error (.unsupported v.hostTypeName)

/-- The name of the field for a key; nothing for keys that are dropped. -/
def fieldName? : Value → Option String
  | .string b => some (Text.decodeLossy b)
  | .integer n => some (toString n.toInt)
  | .float x => some (numberText x)
  | .bool b => some (if b then "true" else "false")
  | _ => none

/-- Add one entry of a table of the given length to what was taken out already. -/
def exportEntry (convert : Value → Except ArgumentFault HostValue) (length : Nat)
    (acc : Array HostValue × List (String × HostValue)) (entry : Value × Value) :
    Except ArgumentFault (Array HostValue × List (String × HostValue)) := do
  let v ← convert entry.2
  let named : Array HostValue × List (String × HostValue) :=
    match fieldName? entry.1 with
    | some name => (acc.1, Assoc.insert name v acc.2)
    | none => acc
  match entry.1 with
  | .integer n =>
    if 1 ≤ n.toInt ∧ n.toInt ≤ length then
      .ok (acc.1.setIfInBounds (n.toInt.toNat - 1) v, acc.2)
    else .ok named
  | _ => .ok named

/-- A table whose values are taken out by `convert`. -/
def exportEntries (convert : Value → Except ArgumentFault HostValue) (t : Table) :
    Except ArgumentFault HostTable := do
  let (array, fields) ←
    t.pairs.foldlM (exportEntry convert t.length) (Array.replicate t.length .absent, [])
  .ok ⟨array.toList, fields⟩

/-- A value taken out of a heap, with tables nested at most so deep. -/
def exportWithin (h : Heap) : Nat → Value → Except ArgumentFault HostValue
  | 0, v =>
    match v with
    | .table _ => .error (.nestedTooDeep maxDepth)
    | v => exportScalar v
  | depth + 1, v =>
    match v with
    | .table id =>
      match exportEntries (exportWithin h depth) (h.table id) with
      | .ok t => .ok (.table t.array t.fields)
      | .error e => .error e
    | v => exportScalar v

/-- A value taken out of a heap. -/
def exportValue (h : Heap) (v : Value) : Except ArgumentFault HostValue :=
  exportWithin h maxDepth v

/-! ## Into a sandbox -/

/-- A number as a script gets it: a whole one within 64 bits is an integer. -/
def importNumber (x : Binary64) : Value :=
  match x.toInt? with
  | some n =>
    if Int64.minValue.toInt ≤ n ∧ n ≤ Int64.maxValue.toInt + 1 then .integer (Binary64.clampInt64 n) else .float x
  | none => .float x

mutual

/-- A value put into a heap, with the heap afterwards. -/
def importValue : HostValue → Heap → Value × Heap
  | .absent, h => (.nil, h)
  | .boolean b, h => (.bool b, h)
  | .integer n, h => (.integer n, h)
  | .number x, h => (importNumber x, h)
  | .text s, h => (.text s, h)
  | .bytes b, h => (.string b, h)
  | .callable f, h => (.function f, h)
  | .table array fields, h =>
    let (items, h) := importItems array h
    let (entries, h) := importFields fields h
    let (id, h) := h.addTable ⟨items.toArray, entries⟩
    (.table id, h)

def importItems : List HostValue → Heap → List Value × Heap
  | [], h => ([], h)
  | v :: r, h =>
    let (v, h) := importValue v h
    let (r, h) := importItems r h
    (v :: r, h)

/-- Fields whose value is absent are not stored. -/
def importFields : List (String × HostValue) → Heap → List (Value × Value) × Heap
  | [], h => ([], h)
  | (k, v) :: r, h =>
    let (v, h) := importValue v h
    let (r, h) := importFields r h
    match v with
    | .nil => (r, h)
    | v => ((.text k, v) :: r, h)

end

end HostValue

namespace HostTable

/-! ## Tables -/

def toValue (t : HostTable) : HostValue := .table t.array t.fields

/-- A table taken out of a heap; anything else is refused. -/
def exportTable (h : Heap) : Value → Except ArgumentFault HostTable
  | .table id =>
    HostValue.exportEntries (HostValue.exportWithin h (HostValue.maxDepth - 1)) (h.table id)
  | v => .error (.expectedTable v.hostTypeName)

/-- A sequence of texts. -/
def ofTexts (l : List String) : HostTable := ⟨l.map .text, []⟩

/-- The entries of a dictionary as fields. -/
def ofDict (d : Dict String) : HostTable := ⟨[], d.entries.map (fun e => (e.1, .text e.2))⟩

def field? (t : HostTable) (name : String) : Option HostValue := Assoc.get? name t.fields

def textField? (t : HostTable) (name : String) : Option String :=
  (t.field? name).bind HostValue.text?

def callableField? (t : HostTable) (name : String) : Option Function :=
  match t.field? name with
  | some (.callable f) => some f
  | _ => none

/-- The fields that have a text form; the sequence does not count. -/
def toDict (t : HostTable) : Dict String :=
  Dict.ofList (t.fields.filterMap (fun e => e.2.coerceText.map (fun s => (e.1, s))))

end HostTable

end EditorPlugins
