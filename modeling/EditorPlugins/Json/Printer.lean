/-
  Writing JSON: `compact` on one line without blanks, `pretty` with one item a line and two
  spaces of indentation.

  A text is written between quotes; quotes, backslashes and control characters below U+0020 are
  escaped, everything else stands for itself.
-/
import EditorPlugins.Json.Basic
import EditorPlugins.Decimal.Notation

namespace EditorPlugins.Json

/-! ## Texts -/

/-- One hexadecimal digit, in lower case. -/
def hexDigit (n : Nat) : Char := if n < 10 then Char.ofNat (0x30 + n) else Char.ofNat (0x57 + n)

/-- One character of a text as it is written. -/
def escapeChar (c : Char) : List Char :=
  if c = '"' then ['\\', '"']
  else if c = '\\' then ['\\', '\\']
  else if c = '\x08' then ['\\', 'b']
  else if c = '\t' then ['\\', 't']
  else if c = '\n' then ['\\', 'n']
  else if c = '\x0c' then ['\\', 'f']
  else if c = '\r' then ['\\', 'r']
  else if c.toNat < 0x20 then ['\\', 'u', '0', '0', hexDigit (c.toNat / 16), hexDigit (c.toNat % 16)]
  else [c]

/-- A text between quotes. -/
def writeText (s : String) : List Char := '"' :: s.toList.flatMap escapeChar ++ ['"']

/-! ## Scalars -/

/-- A value that is neither an array nor an object. -/
def writeScalar : Json → List Char
  | .null => "null".toList
  | .bool true => "true".toList
  | .bool false => "false".toList
  | .integer n => (toString n).toList
  | .float x => if x.isFinite then x.scientific.toList else "null".toList
  | .text s => writeText s
  | .array _ | .object _ => []

/-! ## On one line -/

mutual

/-- The value without blanks. -/
def write : Json → List Char
  | .array items => '[' :: writeItems items ++ [']']
  | .object fields => '\x7b' :: writeFields fields ++ ['\x7d']
  | .null => writeScalar .null
  | .bool b => writeScalar (.bool b)
  | .integer n => writeScalar (.integer n)
  | .float x => writeScalar (.float x)
  | .text s => writeScalar (.text s)

def writeItems : List Json → List Char
  | [] => []
  | [j] => write j
  | j :: r => write j ++ ',' :: writeItems r

def writeFields : List (String × Json) → List Char
  | [] => []
  | [(k, j)] => writeText k ++ ':' :: write j
  | (k, j) :: r => writeText k ++ ':' :: (write j ++ ',' :: writeFields r)

end

def compact (j : Json) : String := String.ofList (write j)

/-! ## One item a line -/

/-- A line end and the indentation of the given depth. -/
def lineBreak (depth : Nat) : List Char := '\n' :: List.replicate (2 * depth) ' '

mutual

/-- The value at a depth of indentation; empty containers stay on their line. -/
def layOut (depth : Nat) : Json → List Char
  | .array [] => ['[', ']']
  | .array items => '[' :: layOutItems (depth + 1) items ++ lineBreak depth ++ [']']
  | .object [] => ['\x7b', '\x7d']
  | .object fields => '\x7b' :: layOutFields (depth + 1) fields ++ lineBreak depth ++ ['\x7d']
  | .null => writeScalar .null
  | .bool b => writeScalar (.bool b)
  | .integer n => writeScalar (.integer n)
  | .float x => writeScalar (.float x)
  | .text s => writeScalar (.text s)

def layOutItems (depth : Nat) : List Json → List Char
  | [] => []
  | [j] => lineBreak depth ++ layOut depth j
  | j :: r => lineBreak depth ++ layOut depth j ++ ',' :: layOutItems depth r

def layOutFields (depth : Nat) : List (String × Json) → List Char
  | [] => []
  | [(k, j)] => lineBreak depth ++ writeText k ++ ':' :: ' ' :: layOut depth j
  | (k, j) :: r =>
    lineBreak depth ++ writeText k ++ ':' :: ' ' :: (layOut depth j ++ ',' :: layOutFields depth r)

end

def pretty (j : Json) : String := String.ofList (layOut 0 j)

example : pretty (ofDict (Dict.ofList [("b", "2"), ("a", "\n")]))
    = "\x7b\n  \"a\": \"\\n\",\n  \"b\": \"2\"\n\x7d" := by decide +kernel

example : compact (.array [.null, .integer (-3), .object []]) = "[null,-3,\x7b\x7d]" := by
  decide +kernel

end EditorPlugins.Json
