/-
  Semantic versions: `major.minor.patch`, a pre-release part after `-`, build data after `+`.

  The order is total.  A pre-release comes before the release; identifiers are compared one by
  one, numbers before words and by value, and a list that ends first comes first.  Build data
  counts last: none comes before some, and of two numbers of equal value the one with fewer
  leading zeros comes first.
-/
import EditorPlugins.Text.Split

namespace EditorPlugins

/-- A semantic version. -/
structure SemVer where
  major : Nat
  minor : Nat
  patch : Nat
  /-- The identifiers of the pre-release part; none for a release. -/
  pre : List String
  /-- The identifiers of the build data. -/
  build : List String
deriving DecidableEq, Repr

namespace SemVer

/-! ## Reading -/

def isDigit (c : Char) : Bool := '0' ≤ c && c ≤ '9'

def isIdentifierChar (c : Char) : Bool :=
  isDigit c || ('a' ≤ c && c ≤ 'z') || ('A' ≤ c && c ≤ 'Z') || c == '-'

def valueOf (ds : List Char) : Nat := ds.foldl (fun n c => n * 10 + (c.toNat - 0x30)) 0

/-- A whole number without leading zeros that fits 64 bits, and what follows it. -/
def readNumber (cs : List Char) : Option (Nat × List Char) :=
  let ds := cs.takeWhile isDigit
  if ds.isEmpty then none
  else if ds.length > 1 ∧ ds.head? = some '0' then none
  else if valueOf ds < UInt64.size then some (valueOf ds, cs.dropWhile isDigit)
  else none

/-- Pass over a point. -/
def readPoint : List Char → Option (List Char)
  | '.' :: r => some r
  | _ => none

/-- Whether an identifier may stand in a pre-release part: a number has no leading zeros. -/
def isPreIdentifier (ds : List Char) : Bool :=
  !(ds.length > 1 && ds.head? == some '0' && ds.all isDigit)

/-- The identifiers between points; each has at least one character. -/
def readIdentifiers (ok : List Char → Bool) (cs : List Char) : Option (List String) :=
  let parts := Text.piecesChars '.' cs
  if parts.all (fun p => !p.isEmpty && p.all isIdentifierChar && ok p) then
    some (parts.map String.ofList)
  else none

/-- The pre-release part and the build data. -/
def readSuffix (cs : List Char) : Option (List String × List String) :=
  match cs with
  | [] => some ([], [])
  | '-' :: r => do
    let pre ← readIdentifiers isPreIdentifier (r.takeWhile (· ≠ '+'))
    match r.dropWhile (· ≠ '+') with
    | [] => some (pre, [])
    | _ :: b => do some (pre, ← readIdentifiers (fun _ => true) b)
  | '+' :: r => do some ([], ← readIdentifiers (fun _ => true) r)
  | _ => none

/-- The version that a text spells. -/
def parse? (s : String) : Option SemVer := do
  let (major, r) ← readNumber s.toList
  let (minor, r) ← readNumber (← readPoint r)
  let (patch, r) ← readNumber (← readPoint r)
  let (pre, build) ← readSuffix r
  some ⟨major, minor, patch, pre, build⟩

/-! ## Order -/

def isNumeric (s : String) : Bool := s.toList.all isDigit

def dropLeadingZeros (s : String) : List Char := s.toList.dropWhile (· = '0')

/-- Numbers come before words; words are ordered as texts. -/
def compareWith (numbers : String → String → Ordering) (a b : String) : Ordering :=
  match isNumeric a, isNumeric b with
  | true, true => numbers a b
  | true, false => .lt
  | false, true => .gt
  | false, false => compare a b

/-- Numbers without leading zeros, by value. -/
def comparePre (a b : String) : Ordering :=
  compareWith (fun a b => (compare a.length b.length).then (compare a b)) a b

/-- Numbers by value, then by their leading zeros. -/
def compareBuild (a b : String) : Ordering :=
  compareWith (fun a b =>
    let x := dropLeadingZeros a
    let y := dropLeadingZeros b
    ((compare x.length y.length).then (compare (String.ofList x) (String.ofList y))).then
      (compare a.length b.length)) a b

/-- Identifier by identifier; a list that ends first comes first. -/
def compareLists (c : String → String → Ordering) : List String → List String → Ordering
  | [], [] => .eq
  | [], _ :: _ => .lt
  | _ :: _, [] => .gt
  | a :: as, b :: bs => (c a b).then (compareLists c as bs)

/-- A pre-release comes before the release. -/
def comparePreLists : List String → List String → Ordering
  | [], [] => .eq
  | [], _ :: _ => .gt
  | _ :: _, [] => .lt
  | as, bs => compareLists comparePre as bs

/-- The order of versions. -/
def order (a b : SemVer) : Ordering :=
  (compare a.major b.major).then <|
  (compare a.minor b.minor).then <|
  (compare a.patch b.patch).then <|
  (comparePreLists a.pre b.pre).then <|
  compareLists compareBuild a.build b.build

/-- Whether `v` lies between `min` and `max`, both included. -/
def isBetween (min max v : SemVer) : Bool := order v min != .lt && order v max != .gt

example : parse? "1.2.3-rc.1+b" = some ⟨1, 2, 3, ["rc", "1"], ["b"]⟩ := by decide +kernel
example : parse? "01.2.3" = none := by decide +kernel
example : order ⟨1, 0, 0, ["2"], []⟩ ⟨1, 0, 0, ["11"], []⟩ = .lt := by decide +kernel

end SemVer

end EditorPlugins
