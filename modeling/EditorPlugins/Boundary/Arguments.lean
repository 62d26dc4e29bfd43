/-
  The arguments of one call of a capability.

  Positions are counted from one.  Each reader says what it was looking for, for the message when
  it does not find it.
-/
import EditorPlugins.Boundary.HostValue

namespace EditorPlugins

/-- The name of a capability and the values it was called with. -/
structure Arguments where
  function : String
  values : List HostValue

namespace Arguments

def length (a : Arguments) : Nat := a.values.length

/-- The argument at a position, if so many were passed. -/
def get? (a : Arguments) (n : Nat) : Option HostValue :=
  if n = 0 then none else a.values[n - 1]?

/-- Whether nothing, or nil, was passed at a position. -/
def isAbsent (a : Arguments) (n : Nat) : Bool :=
  match a.get? n with
  | some v => v.isAbsent
  | none => true

/-- The fault of another type than expected at a position. -/
def mismatch (a : Arguments) (n : Nat) (what expected : String) : ArgumentFault :=
  .mismatch a.function n what expected
    (match a.get? n with
      | some v => v.typeName
      | none => "nil")

/-- A string, or a number in its text form. -/
def text (a : Arguments) (n : Nat) (what : String) : Except ArgumentFault String :=
  match (a.get? n).bind HostValue.coerceText with
  | some s => .ok s
  | none => .error (a.mismatch n what "string")

/-- The bytes of a string, or of a number in its text form. -/
def bytes (a : Arguments) (n : Nat) (what : String) : Except ArgumentFault ByteArray :=
  match (a.get? n).bind HostValue.coerceBytes with
  | some b => .ok b
  | none => .error (a.mismatch n what "string")

/-- A string that may be absent. -/
def text? (a : Arguments) (n : Nat) (what : String) : Except ArgumentFault (Option String) :=
  if a.isAbsent n then .ok none else (a.text n what).map some

def table (a : Arguments) (n : Nat) (what : String) : Except ArgumentFault HostTable :=
  match a.get? n with
  | some (.table array fields) => .ok ⟨array, fields⟩
  | _ => .error (a.mismatch n what "table")

def callable (a : Arguments) (n : Nat) (what : String) : Except ArgumentFault Script.Function :=
  match a.get? n with
  | some (.callable f) => .ok f
  | _ => .error (a.mismatch n what "function")

/-- A whole number that may be absent; one beyond 64 bits counts as the nearest within. -/
def integer? (a : Arguments) (n : Nat) (what : String) : Except ArgumentFault (Option Int64) :=
  match a.get? n with
  | none | some .absent => .ok none
  | some (.integer i) => .ok (some i)
  | some (.number x) =>
    match x.toInt? with
    | some i => .ok (some (Binary64.clampInt64 i))
    | none => .error (a.mismatch n what "integer")
  | _ => .error (a.mismatch n what "integer")

/-- The text of any argument: truth values by name, what has no text form as the empty text. -/
def anyText : HostValue → String
  | .boolean b => if b then "true" else "false"
  | v => v.coerceText.getD ""

/-- The texts of all arguments from a position on. -/
def textsFrom (a : Arguments) (n : Nat) : List String := (a.values.drop (n - 1)).map anyText

end Arguments

end EditorPlugins
