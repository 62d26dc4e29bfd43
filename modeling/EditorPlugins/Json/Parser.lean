/-
  Reading JSON.

  Every function works on the characters that remain and hands back what is left.  A fault names
  its cause and the place where it was noticed, as the characters remaining there; `parse` turns
  that into a line and a column.  Lines are counted from one; the column counts the bytes from the
  start of the line to the place, the offending byte included when there is one.

  Nesting is bounded: `depth` containers may stand inside one another, the next one is refused.
-/
import EditorPlugins.Json.Basic

namespace EditorPlugins.Json

/-! ## Faults -/

/-- What is wrong with a text that is not JSON. -/
inductive SyntaxFault where
  | unfinishedList
  | unfinishedObject
  | unfinishedString
  | unfinishedValue
  | expectedColon
  | expectedListCommaOrEnd
  | expectedObjectCommaOrEnd
  | expectedIdent
  | expectedValue
  | invalidEscape
  | invalidNumber
  | numberOutOfRange
  | controlCharacter
  | keyMustBeText
  | loneSurrogate
  | trailingComma
  | trailingCharacters
  | unfinishedHexEscape
  | tooDeep
deriving DecidableEq, Repr

def SyntaxFault.message : SyntaxFault → String
  | unfinishedList => "EOF while parsing a list"
  | unfinishedObject => "EOF while parsing an object"
  | unfinishedString => "EOF while parsing a string"
  | unfinishedValue => "EOF while parsing a value"
  | expectedColon => "expected `:`"
  | expectedListCommaOrEnd => "expected `,` or `]`"
  | expectedObjectCommaOrEnd => "expected `,` or `\x7d`"
  | expectedIdent => "expected ident"
  | expectedValue => "expected value"
  | invalidEscape => "invalid escape"
  | invalidNumber => "invalid number"
  | numberOutOfRange => "number out of range"
  | controlCharacter => "control character (\\u0000-\\u001F) found while parsing a string"
  | keyMustBeText => "key must be a string"
  | loneSurrogate => "lone leading surrogate in hex escape"
  | trailingComma => "trailing comma"
  | trailingCharacters => "trailing characters"
  | unfinishedHexEscape => "unexpected end of hex escape"
  | tooDeep => "recursion limit exceeded"

/-- A fault, the characters that remain at it, and how many bytes further it was noticed. -/
structure Stop where
  fault : SyntaxFault
  rest : List Char
  offset : Nat

/-- The result of reading an `α`: the value and the characters after it. -/
abbrev Reading (α : Type) := Except Stop (α × List Char)

/-- A fault noticed at the character that comes next. -/
def stopAt (fault : SyntaxFault) (rest : List Char) : Except Stop α := .error ⟨fault, rest, 1⟩

/-- A fault noticed before the character that comes next. -/
def stopBefore (fault : SyntaxFault) (rest : List Char) : Except Stop α := .error ⟨fault, rest, 0⟩

/-! ## Blanks and words -/

def isGap (c : Char) : Bool := c = ' ' || c = '\n' || c = '\t' || c = '\r'

def skipGap (cs : List Char) : List Char := cs.dropWhile isGap

/-- Pass over the letters of a word. -/
def readWord : List Char → List Char → Except Stop (List Char)
  | [], cs => .ok cs
  | _ :: _, [] => stopBefore .unfinishedValue []
  | w :: ws, c :: cs => if w = c then readWord ws cs else stopAt .expectedIdent (c :: cs)

/-! ## Texts -/

def hexValue? (c : Char) : Option Nat :=
  let n := c.toNat
  if 0x30 ≤ n ∧ n ≤ 0x39 then some (n - 0x30)
  else if 0x41 ≤ n ∧ n ≤ 0x46 then some (n - 0x37)
  else if 0x61 ≤ n ∧ n ≤ 0x66 then some (n - 0x57)
  else none

/-- The character after a backslash, when it stands for one. -/
def shortEscape? (c : Char) : Option Char :=
  match c with
  | '"' => some '"'
  | '\\' => some '\\'
  | '/' => some '/'
  | 'b' => some '\x08'
  | 'f' => some '\x0c'
  | 'n' => some '\n'
  | 'r' => some '\r'
  | 't' => some '\t'
  | _ => none

def byteCount (cs : List Char) : Nat := cs.foldl (fun n c => n + c.utf8Size) 0

/-- Four hexadecimal digits. -/
def readHex (cs : List Char) : Reading Nat :=
  match cs with
  | a :: b :: c :: d :: r =>
    match hexValue? a, hexValue? b, hexValue? c, hexValue? d with
    | some a, some b, some c, some d => .ok (((a * 16 + b) * 16 + c) * 16 + d, r)
    | _, _, _, _ => .error ⟨.invalidEscape, cs, 4⟩
  | _ =>
    if byteCount cs < 4 then stopBefore .unfinishedString []
    else .error ⟨.invalidEscape, cs, 4⟩

/-- The number of an escaped character: a pair of surrogates stands for one beyond U+FFFF, a lone
surrogate for none. -/
def readCodePoint (cs : List Char) : Reading Char :=
  match readHex cs with
  | .error e => .error e
  | .ok (n, r) =>
    if 0xdc00 ≤ n ∧ n ≤ 0xdfff then stopBefore .loneSurrogate r
    else if 0xd800 ≤ n ∧ n ≤ 0xdbff then
      match r with
      | [] | ['\\'] => stopBefore .unfinishedString []
      | '\\' :: 'u' :: r' =>
        match readHex r' with
        | .error e => .error e
        | .ok (m, r'') =>
          if 0xdc00 ≤ m ∧ m ≤ 0xdfff then
            .ok (Char.ofNat (0x10000 + (n - 0xd800) * 0x400 + (m - 0xdc00)), r'')
          else stopBefore .loneSurrogate r''
      | '\\' :: r' => stopAt .unfinishedHexEscape r'
      | r' => stopAt .unfinishedHexEscape r'
    else .ok (Char.ofNat n, r)

/-- What follows a backslash. -/
def readEscape : List Char → Reading Char
  | [] => stopBefore .unfinishedString []
  | 'u' :: r => readCodePoint r
  | c :: r =>
    match shortEscape? c with
    | some e => .ok (e, r)
    | none => stopAt .invalidEscape (c :: r)

/-- The characters of a text up to its closing quote, added in reverse to those already read.  The
fuel bounds the number of characters. -/
def readText : Nat → List Char → List Char → Reading String
  | 0, _, cs => stopBefore .unfinishedString cs
  | fuel + 1, acc, cs =>
    match cs with
    | [] => stopBefore .unfinishedString []
    | '"' :: r => .ok (String.ofList acc.reverse, r)
    | '\\' :: r =>
      match readEscape r with
      | .ok (c, r') => readText fuel (c :: acc) r'
      | .error e => .error e
    | c :: r =>
      if c.toNat < 0x20 then stopAt .controlCharacter (c :: r)
      else readText fuel (c :: acc) r

/-! ## Numbers -/

def isDigit (c : Char) : Bool := '0' ≤ c && c ≤ '9'

def digitValue (c : Char) : Nat := c.toNat - 0x30

/-- The largest number that fits 64 bits. -/
def maxWord : Nat := UInt64.size - 1

/-- Take digits into a word as long as it does not overflow: the word, how many were taken, and
what remains. -/
def takeDigits (n taken : Nat) : List Char → Nat × Nat × List Char
  | [] => (n, taken, [])
  | c :: r =>
    if isDigit c && n * 10 + digitValue c ≤ maxWord then
      takeDigits (n * 10 + digitValue c) (taken + 1) r
    else (n, taken, c :: r)

/-- `10 ^ e` as a floating-point number; `e` is at most 308. -/
def powerOfTen (e : Nat) : Float := Float.ofScientific 1 false e

/-- Scale by a power of ten in steps that the table of powers holds; nothing when the number is
too large. -/
def scale : Nat → Float → Int → Option Float
  | 0, f, _ => some f
  | fuel + 1, f, e =>
    if e.natAbs ≤ 308 then
      if e ≥ 0 then
        let g := f * powerOfTen e.toNat
        if g.isInf then none else some g
      else some (f / powerOfTen e.natAbs)
    else if f == 0 then some f
    else if e ≥ 0 then none
    else scale fuel (f / powerOfTen 308) (e + 308)

/-- The number `± significand · 10 ^ e`. -/
def scaled (positive : Bool) (significand : Nat) (e : Int) (rest : List Char) : Reading Json :=
  match scale (e.natAbs / 308 + 2) significand.toUInt64.toFloat e with
  | some f => .ok (.float (Binary64.ofFloat (if positive then f else -f)), rest)
  | none => stopBefore .numberOutOfRange rest

/-- The largest exponent that is read. -/
def maxExponent : Nat := 0x7fffffff

/-- The digits of an exponent; nothing when it does not fit 32 bits, with what remains there. -/
def takeExponent (n : Nat) : List Char → Option Nat × List Char
  | [] => (some n, [])
  | c :: r =>
    if isDigit c then
      if n * 10 + digitValue c ≤ maxExponent then takeExponent (n * 10 + digitValue c) r
      else (none, r)
    else (some n, c :: r)

/-- Keep an exponent within 32 bits. -/
def clampExponent (e : Int) : Int := max (-(maxExponent : Int) - 1) (min maxExponent e)

/-- What follows the letter of the exponent. -/
def readExponent (positive : Bool) (significand : Nat) (e : Int) (cs : List Char) :
    Reading Json :=
  let (up, cs) := match cs with
    | '+' :: r => (true, r)
    | '-' :: r => (false, r)
    | r => (true, r)
  match cs with
  | [] => stopBefore .unfinishedValue []
  | c :: r =>
    if isDigit c then
      match takeExponent (digitValue c) r with
      | (some n, r) =>
        scaled positive significand (clampExponent (if up then e + n else e - n)) r
      | (none, r) =>
        if significand ≠ 0 && up then stopBefore .numberOutOfRange r
        else .ok (.float (if positive then .zero else .negativeZero), r.dropWhile isDigit)
    else stopAt .invalidNumber (c :: r)

/-- What follows the digits before or after the point: an exponent or the end of the number. -/
def readScale (positive : Bool) (significand : Nat) (e : Int) (cs : List Char) : Reading Json :=
  match cs with
  | 'e' :: r | 'E' :: r => readExponent positive significand e r
  | r => scaled positive significand e r

/-- What follows the point; digits beyond the word are passed over. -/
def readFraction (positive : Bool) (significand : Nat) (e : Int) (cs : List Char) :
    Reading Json :=
  let (n, taken, r) := takeDigits significand 0 cs
  match r with
  | c :: _ =>
    if isDigit c then readScale positive n (e - taken) (r.dropWhile isDigit)
    else if taken = 0 then stopAt .invalidNumber r
    else readScale positive n (e - taken) r
  | [] => if taken = 0 then stopBefore .unfinishedValue [] else scaled positive n (e - taken) []

/-- What follows the digits of the word: digits that no longer fit count as powers of ten. -/
def readLong (positive : Bool) (significand : Nat) (e : Int) : List Char → Reading Json
  | [] => scaled positive significand e []
  | c :: r =>
    if isDigit c then readLong positive significand (e + 1) r
    else if c = '.' then readFraction positive significand e r
    else if c = 'e' ∨ c = 'E' then readExponent positive significand e r
    else scaled positive significand e (c :: r)

/-- The number after the word that its digits make: a point, an exponent, or a whole number. -/
def readNumber (positive : Bool) (n : Nat) (cs : List Char) : Reading Json :=
  match cs with
  | '.' :: r => readFraction positive n 0 r
  | 'e' :: r | 'E' :: r => readExponent positive n 0 r
  | r =>
    if positive then .ok (.integer n, r)
    else if n = 0 ∨ n > UInt64.size / 2 then
      .ok (.float (Binary64.ofFloat (-(n.toUInt64.toFloat))), r)
    else .ok (.integer (-(n : Int)), r)

/-- A number without its sign. -/
def readDigits (positive : Bool) (cs : List Char) : Reading Json :=
  match cs with
  | [] => stopBefore .unfinishedValue []
  | c :: r =>
    if c = '0' then
      match r with
      | d :: _ => if isDigit d then stopAt .invalidNumber r else readNumber positive 0 r
      | [] => readNumber positive 0 []
    else if isDigit c then
      let (n, _, r) := takeDigits (digitValue c) 0 r
      match r with
      | d :: _ => if isDigit d then readLong positive n 0 r else readNumber positive n r
      | [] => readNumber positive n []
    else stopAt .invalidNumber cs

/-! ## Values -/

mutual

/-- A value, blanks before it skipped.  `depth` more containers may be opened less one; the fuel
bounds the length of the text. -/
def readValue : Nat → Nat → List Char → Reading Json
  | 0, _, cs => stopBefore .unfinishedValue cs
  | fuel + 1, depth, cs =>
    match skipGap cs with
    | [] => stopBefore .unfinishedValue []
    | 'n' :: r => (readWord "ull".toList r).map (fun r => (.null, r))
    | 't' :: r => (readWord "rue".toList r).map (fun r => (.bool true, r))
    | 'f' :: r => (readWord "alse".toList r).map (fun r => (.bool false, r))
    | '-' :: r => readDigits false r
    | '"' :: r => (readText (r.length + 1) [] r).map (fun p => (.text p.1, p.2))
    | '[' :: r =>
      if depth ≤ 1 then stopAt .tooDeep ('[' :: r) else readItems fuel (depth - 1) true [] r
    | '\x7b' :: r =>
      if depth ≤ 1 then stopAt .tooDeep ('\x7b' :: r) else readFields fuel (depth - 1) true [] r
    | c :: r => if isDigit c then readDigits true (c :: r) else stopAt .expectedValue (c :: r)

/-- The items of an array up to its end, added in reverse to those already read. -/
def readItems : Nat → Nat → Bool → List Json → List Char → Reading Json
  | 0, _, _, _, cs => stopBefore .unfinishedList cs
  | fuel + 1, depth, first, acc, cs =>
    let item (cs : List Char) : Reading Json :=
      match readValue fuel depth cs with
      | .ok (j, r) => readItems fuel depth false (j :: acc) r
      | .error e => .error e
    match skipGap cs with
    | [] => stopBefore .unfinishedList []
    | c :: r =>
      if c = ']' then .ok (.array acc.reverse, r)
      else if first then item (c :: r)
      else if c = ',' then
        match skipGap r with
        | [] => stopBefore .unfinishedValue []
        | d :: r' => if d = ']' then stopAt .trailingComma (d :: r') else item (d :: r')
      else stopAt .expectedListCommaOrEnd (c :: r)

/-- The fields of an object up to its end, added in reverse to those already read. -/
def readFields : Nat → Nat → Bool → List (String × Json) → List Char → Reading Json
  | 0, _, _, _, cs => stopBefore .unfinishedObject cs
  | fuel + 1, depth, first, acc, cs =>
    let field (cs : List Char) : Reading Json :=
      match readText (cs.length + 1) [] cs with
      | .error e => .error e
      | .ok (k, r) =>
        match skipGap r with
        | [] => stopBefore .unfinishedObject []
        | c :: r =>
          if c = ':' then
            match readValue fuel depth r with
            | .ok (j, r) => readFields fuel depth false ((k, j) :: acc) r
            | .error e => .error e
          else stopAt .expectedColon (c :: r)
    match skipGap cs with
    | [] => stopBefore .unfinishedObject []
    | c :: r =>
      if c = '\x7d' then .ok (.object acc.reverse, r)
      else if first then if c = '"' then field r else stopAt .keyMustBeText (c :: r)
      else if c = ',' then
        match skipGap r with
        | [] => stopBefore .unfinishedValue []
        | d :: r' =>
          if d = '"' then field r'
          else if d = '\x7d' then stopAt .trailingComma (d :: r')
          else stopAt .keyMustBeText (d :: r')
      else stopAt .expectedObjectCommaOrEnd (c :: r)

end

/-! ## Whole texts -/

/-- A fault with its place in the text. -/
structure SyntaxError where
  fault : SyntaxFault
  line : Nat
  column : Nat
deriving DecidableEq, Repr

def SyntaxError.message (e : SyntaxError) : String :=
  e.fault.message ++ " at line " ++ toString e.line ++ " column " ++ toString e.column

/-- Line and column of the place `n` bytes into the text: the line is that of the byte before the
place, the column counts from the byte after the last line end before it. -/
def placeOf (n : Nat) (text : List UInt8) : Nat × Nat :=
  (text.take n).foldl (fun p b => if b = 0x0a then (p.1 + 1, 0) else (p.1, p.2 + 1)) (1, 0)

def Stop.locate (s : Stop) (text : String) : SyntaxError :=
  let bytes := text.toUTF8.data.toList
  let n := min bytes.length (bytes.length - byteCount s.rest + s.offset)
  let (line, column) := placeOf n bytes
  ⟨s.fault, line, column⟩

/-- How many containers less one may stand inside one another. -/
def defaultDepth : Nat := 128

/-- The value that a text holds, and nothing else but blanks around it. -/
def parseWithin (depth : Nat) (text : String) : Except SyntaxError Json :=
  let cs := text.toList
  match readValue (2 * cs.length + 4) depth cs with
  | .error s => .error (s.locate text)
  | .ok (j, r) =>
    match skipGap r with
    | [] => .ok j
    | c :: r => .error ((Stop.mk .trailingCharacters (c :: r) 1).locate text)

/-- The value that a text holds. -/
def parse (text : String) : Except SyntaxError Json := parseWithin defaultDepth text

end EditorPlugins.Json
