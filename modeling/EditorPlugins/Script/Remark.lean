/-
  The parts of a script file that do nothing: blanks, remarks, and a heading.

  A remark runs from `--` to the end of its line, or, when square brackets follow the dashes, from
  the opening pair of brackets to a closing pair with as many `=` between them.  A reader of such
  parts is a fold of one-character steps (`Remark.Place.next?`) over the text.
-/
import EditorPlugins.Text.Blank
import EditorPlugins.Text.Utf8

namespace EditorPlugins.Script

namespace Remark

/-! ## Reading -/

/-- Where a reader is. -/
inductive Place where
  /-- Between remarks. -/
  | outside
  /-- Behind one dash. -/
  | dash
  /-- Behind two dashes. -/
  | opened
  /-- Behind two dashes, a bracket and so many `=`. -/
  | bracket (level : Nat)
  /-- In a remark that ends with its line. -/
  | line
  /-- In a remark between brackets with so many `=`. -/
  | long (level : Nat)
  /-- In such a remark, behind a closing bracket and so many `=`. -/
  | closing (level seen : Nat)
deriving DecidableEq, Inhabited

namespace Place

/-- In a remark that ends with its line, or behind it. -/
def inLine (c : Char) : Place := if c = '\n' || c = '\x0d' then outside else line

/-- In a remark between brackets. -/
def inLong (level : Nat) (c : Char) : Place := if c = ']' then closing level 0 else long level

/-- The place behind a character; nothing when the character is part of a statement. -/
def next? : Place → Char → Option Place
  | outside, c =>
    if Text.isAsciiBlank c || c = ';' then some outside
    else if c = '-' then some dash
    else none
  | dash, c => if c = '-' then some opened else none
  | opened, c => some (if c = '[' then bracket 0 else inLine c)
  | bracket level, c =>
    some (if c = '=' then bracket (level + 1) else if c = '[' then long level else inLine c)
  | line, c => some (inLine c)
  | long level, c => some (inLong level c)
  | closing level seen, c =>
    some (if c = ']' && seen = level then outside
      else if c = '=' then closing level (seen + 1)
      else inLong level c)

/-- Whether a text may end here. -/
def mayEnd : Place → Bool
  | outside | opened | bracket _ | line => true
  | dash | long _ | closing _ _ => false

end Place

end Remark

/-- Whether a text is nothing but blanks and remarks. -/
def isRemark (text : String) : Bool :=
  ((text.toList.foldlM Remark.Place.next? .outside).map (·.mayEnd)).getD false

example : isRemark "" = true := by decide +kernel
example : isRemark " ;-- one\n--[[ two\n]]--[=[ ]] ]=]\t--" = true := by decide +kernel
example : isRemark "--[[ one ]" = false := by decide +kernel
example : isRemark "-- one\nx" = false := by decide +kernel

/-! ## Headings -/

/-- The text of a file behind its heading: a byte order mark, and then a first line that begins with
`#`. -/
def skipHeading (text : List Char) : List Char :=
  match (if text.head? = some '\uFEFF' then text.tail else text) with
  | '#' :: r => r.dropWhile (· ≠ '\n')
  | r => r

/-- What the bytes of a file say behind its heading, unreadable bytes replaced. -/
def sourceText (b : ByteArray) : String :=
  String.ofList (skipHeading (Text.decodeLossy b).toList)

example : skipHeading "\uFEFF#!x\n--".toList = ['\n', '-', '-'] := by decide +kernel

end EditorPlugins.Script
