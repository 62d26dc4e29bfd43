/-
  JSON values.

  An object keeps its fields as they were written: in order, with repeated names.  `sorted` is the
  form in which the order and the repetitions no longer show: the fields of every object increase
  by name and, of a repeated name, the last value has won.
-/
import EditorPlugins.Dict
import EditorPlugins.Binary64

namespace EditorPlugins

/-- A JSON value.  Whole numbers that fit 64 bits are integers; all others are floating point. -/
inductive Json where
  | null
  | bool (b : Bool)
  | integer (n : Int)
  | float (x : Binary64)
  | text (s : String)
  | array (items : List Json)
  | object (fields : List (String × Json))
deriving Inhabited

namespace Json

/-! ## The form without order and repetition -/

mutual

/-- Every object with its fields in increasing order, the last of equal names kept. -/
def sorted : Json → Json
  | .array items => .array (sortedItems items)
  | .object fields => .object (sortedFields fields [])
  | j => j

def sortedItems : List Json → List Json
  | [] => []
  | j :: r => sorted j :: sortedItems r

/-- Insert the fields one after the other into those already kept. -/
def sortedFields : List (String × Json) → List (String × Json) → List (String × Json)
  | [], kept => kept
  | (k, j) :: r, kept => sortedFields r (Assoc.insert k (sorted j) kept)

end

/-! ## Looking inside -/

/-- The last value written under a name. -/
def field? (j : Json) (name : String) : Option Json :=
  match j with
  | .object fields => Assoc.get? name fields.reverse
  | _ => none

def text? : Json → Option String
  | .text s => some s
  | _ => none

def bool? : Json → Option Bool
  | .bool b => some b
  | _ => none

def int? : Json → Option Int
  | .integer n => some n
  | _ => none

def items? : Json → Option (List Json)
  | .array items => some items
  | _ => none

def isObject : Json → Bool
  | .object _ => true
  | _ => false

/-- The text under a name, if there is one. -/
def textField? (j : Json) (name : String) : Option String := (j.field? name).bind text?

/-- The items under a name, if there are any. -/
def itemsField? (j : Json) (name : String) : Option (List Json) := (j.field? name).bind items?

/-- An object of texts, in increasing order of names. -/
def ofDict (d : Dict String) : Json := .object (d.entries.map (fun e => (e.1, .text e.2)))

def ofTexts (l : List String) : Json := .array (l.map .text)

end Json

end EditorPlugins
