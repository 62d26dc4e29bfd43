/-
  The heap of a sandbox: what its tables hold.

  The first tables of every heap have fixed numbers: the globals, the functions of strings, the
  values of the loaded modules, and the table that says what strings can do.  So the globals are a
  table like any other, which a script may know under a name.
-/
import EditorPlugins.Script.Table
import EditorPlugins.Text.Split

namespace EditorPlugins.Script

/-- What the tables hold, by their numbers, and how many other objects were made. -/
structure Heap where
  tables : Array Table
  objects : Nat
deriving Inhabited

namespace Heap

/-! ## Objects -/

/-- What a table holds. -/
def table (h : Heap) (id : ObjectId) : Table := (h.tables[id]?).getD default

/-- A new table. -/
def addTable (h : Heap) (t : Table) : ObjectId × Heap :=
  (h.tables.size, { h with tables := h.tables.push t })

/-- The number of a new object that is not a table. -/
def addObject (h : Heap) : ObjectId × Heap := (h.objects, { h with objects := h.objects + 1 })

/-- Store under a key of a table. -/
def put (h : Heap) (id : ObjectId) (k v : Value) : Heap :=
  { h with tables := h.tables.modify id (fun t => t.put k v) }

/-! ## Tables with fixed numbers -/

def globalsId : ObjectId := 0
def stringsId : ObjectId := 1
def loadedId : ObjectId := 2
def stringBehaviourId : ObjectId := 3

/-- A heap with nothing but the tables that have fixed numbers, all empty. -/
def start : Heap := ⟨Array.replicate 4 default, 0⟩

/-- The value of a global. -/
def global (h : Heap) (name : String) : Value := (h.table globalsId).get (.text name)

/-- Assign a global. -/
def setGlobal (h : Heap) (name : String) (v : Value) : Heap := h.put globalsId (.text name) v

/-- The value of a loaded module; nil for the others. -/
def loaded (h : Heap) (name : String) : Value := (h.table loadedId).get (.text name)

/-- Keep the value of a module. -/
def setLoaded (h : Heap) (name : String) (v : Value) : Heap := h.put loadedId (.text name) v

/-! ## Operators -/

/-- The value under a key of a table; a string has the functions of strings. -/
def index (h : Heap) (t k : Value) : Except Raised Value :=
  match t with
  | .table id => .ok ((h.table id).get k)
  | .string _ => .ok ((h.table stringsId).get k)
  | v => .error (complain ("attempt to index a " ++ v.typeName ++ " value"))

/-- The length of a table or a string. -/
def length (h : Heap) (v : Value) : Except Raised Value :=
  match v with
  | .table id => .ok (.integer (Int64.ofNat (h.table id).length))
  | .string b => .ok (.integer (Int64.ofNat b.size))
  | v => .error (complain ("attempt to get length of a " ++ v.typeName ++ " value"))

/-- A global, or behind points a field of it: `fs.read`. -/
def lookUp (h : Heap) (name : String) : Except Raised Value :=
  match Text.pieces '.' name with
  | [] => .ok .nil
  | first :: fields => fields.foldlM (fun v field => h.index v (.text field)) (h.global first)

end Heap

end EditorPlugins.Script
