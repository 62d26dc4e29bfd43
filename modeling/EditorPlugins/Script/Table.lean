/-
  Tables of scripts.

  A table has a sequence part, which may hold nil, and entries under other keys.  Its length is a
  border: a position that holds a value while the next one holds none.  With several borders the
  one found first by the search below counts.
-/
import EditorPlugins.Script.Value

namespace EditorPlugins.Script

/-- What a table holds. -/
structure Table where
  /-- The values at 1, 2, …; some may be nil. -/
  items : Array Value
  /-- The other entries, in the order in which they were made; no key twice, no nil. -/
  entries : List (Value × Value)
deriving Inhabited

namespace Table

/-! ## Making -/

/-- A key as it is stored: a whole floating-point number becomes the integer. -/
def storedKey (k : Value) : Value :=
  match k with
  | .float x =>
    match x.toInt?.bind int64? with
    | some n => .integer n
    | none => k
  | _ => k

/-- Store under a key, in place of what was there; nil is not stored. -/
def putEntry (k v : Value) (entries : List (Value × Value)) : List (Value × Value) :=
  if entries.any (fun e => e.1.same k) then
    match v with
    | .nil => entries.filter (fun e => !e.1.same k)
    | _ => entries.map (fun e => if e.1.same k then (e.1, v) else e)
  else
    match v with
    | .nil => entries
    | _ => entries ++ [(k, v)]

/-- A key has a value equal to itself. -/
def checkKey (k : Value) : Except Raised Unit :=
  match k with
  | .nil => .error (complain "table index is nil")
  | .float x => if x.isNaN then .error (complain "table index is NaN") else .ok ()
  | _ => .ok ()

/-- Whether a key lies in a sequence part of the given size. -/
def inSequence (size : Nat) (k : Value) : Bool :=
  match k with
  | .integer n => 1 ≤ n.toInt && n.toInt ≤ (size : Int)
  | _ => false

/-- Store under a key that is one, in place of what was there. -/
def put (t : Table) (k v : Value) : Table :=
  let k := storedKey k
  match k with
  | .integer n =>
    if inSequence t.items.size k then
      { t with items := t.items.setIfInBounds (n.toInt.toNat - 1) v }
    else { t with entries := putEntry k v t.entries }
  | _ => { t with entries := putEntry k v t.entries }

/-- A sequence that is written down goes into its table in portions of so many values. -/
def portion : Nat := 50

/-- How many values of a sequence are in the table before the entries under keys are made. -/
def storedFirst (length : Nat) : Nat := length / portion * portion

/-- Make one entry of a table that is written down with a sequence of the given length.  Of its
positions, those stored already take the new value; the others have their own still to come. -/
def makeEntry (length : Nat) (t : Table) (entry : Value × Value) : Except Raised Table := do
  checkKey entry.1
  let k := storedKey entry.1
  .ok (if inSequence length k && !inSequence (storedFirst length) k then t else t.put k entry.2)

/-- The table that is written down as a sequence and entries under keys. -/
def ofParts (items : List Value) (fields : List (Value × Value)) : Except Raised Table :=
  fields.foldlM (makeEntry items.length) ⟨items.toArray, []⟩

/-! ## Looking up -/

/-- The value at a position. -/
def itemAt (t : Table) (n : Nat) : Value :=
  if 1 ≤ n ∧ n ≤ t.items.size then (t.items[n - 1]?).getD .nil
  else
    ((t.entries.find? (fun e => e.1.same (.integer (Int64.ofNat n)))).map (·.2)).getD .nil

/-- The value under a key. -/
def get (t : Table) (k : Value) : Value :=
  let k := storedKey k
  match k with
  | .integer n =>
    if inSequence t.items.size k then t.itemAt n.toInt.toNat
    else ((t.entries.find? (fun e => e.1.same k)).map (·.2)).getD .nil
  | _ => ((t.entries.find? (fun e => e.1.same k)).map (·.2)).getD .nil

def holds (t : Table) (n : Nat) : Bool :=
  match t.itemAt n with
  | .nil => false
  | _ => true

/-! ## Length -/

/-- Halve the distance between a position `low` that is zero or holds a value and a position
`high` that holds none. -/
def search (present : Nat → Bool) : Nat → Nat → Nat → Nat
  | 0, low, _ => low
  | fuel + 1, low, high =>
    if high - low > 1 then
      let middle := (low + high) / 2
      if present middle then search present fuel middle high else search present fuel low middle
    else low

/-- The last position that a whole number of 64 bits can name. -/
def maxPosition : Nat := 0x7fffffffffffffff

/-- Double a position that holds a value until one is found that holds none, then search between
them. -/
def searchUp (present : Nat → Bool) : Nat → Nat → Nat
  | 0, low => low
  | fuel + 1, low =>
    let high := if low ≤ maxPosition / 2 then low * 2 else maxPosition
    if present high then (if high = maxPosition then high else searchUp present fuel high)
    else search present 64 low high

/-- The length of a table. -/
def length (t : Table) : Nat :=
  let size := t.items.size
  if 0 < size ∧ !t.holds size then
    if 2 ≤ size ∧ t.holds (size - 1) then size - 1 else search t.holds 64 0 size
  else if t.holds (size + 1) then searchUp t.holds 64 (max size 1)
  else size

/-! ## All entries -/

/-- The entries in the order in which they are visited: the sequence part, then the others. -/
def pairs (t : Table) : List (Value × Value) :=
  let numbered := (t.items.toList.zipIdx 1).filterMap fun (p : Value × Nat) =>
    match p.1 with
    | .nil => none
    | v => some (.integer (Int64.ofNat p.2), v)
  numbered ++ t.entries

end Table

end EditorPlugins.Script
