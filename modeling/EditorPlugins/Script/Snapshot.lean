/-
  What a value looked like at one moment: the view of it that a session shows.

  A table is shown by the items up to its length and by its other entries.
-/
import EditorPlugins.Script.Heap

namespace EditorPlugins.Script

/-- A view of a value. -/
inductive Snapshot where
  | nil
  | bool (b : Bool)
  | integer (n : Int64)
  | float (x : Binary64)
  | string (bytes : ByteArray)
  | table (items : List Snapshot) (entries : List (Snapshot × Snapshot))
  /-- Everything else is shown by its type. -/
  | other (type : String)
deriving Inhabited

/-- How many tables inside one another are shown. -/
def Snapshot.maxDepth : Nat := 100

/-- The view of a value, tables nested at most so deep. -/
def Snapshot.within (h : Heap) : Nat → Value → Snapshot
  | _, .nil => .nil
  | _, .bool b => .bool b
  | _, .integer n => .integer n
  | _, .float x => .float x
  | _, .string b => .string b
  | depth + 1, .table id =>
    let t := h.table id
    let size := t.length
    let items := (List.range size).map (fun i => within h depth (t.itemAt (i + 1)))
    let others := t.pairs.filter (fun e => !Table.inSequence size e.1)
    .table items (others.map (fun e => (within h depth e.1, within h depth e.2)))
  | _, v => .other v.typeName

def Snapshot.of (h : Heap) (v : Value) : Snapshot := within h maxDepth v

end EditorPlugins.Script
