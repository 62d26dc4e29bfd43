/-
  Changes that the embedding application makes to the files around plugins.

  A script may be given as the JSON text of its statements; it is stored in that form.
-/
import EditorPlugins.Json.Printer
import EditorPlugins.Files.Operations

namespace EditorPlugins

/-- What is put at a path. -/
inductive FileContent where
  | bytes (b : ByteArray)
  | link (target : Path)
  | directory
  /-- Take away what is there. -/
  | nothing
deriving Inhabited

/-- A change at a path. -/
structure FileChange where
  path : Path
  content : FileContent
deriving Inhabited

namespace FileChange

/-- The text of a script file that no program can be read from. -/
def unreadableScript : String := "not a script ("

/-- The value of a hexadecimal digit. -/
def hexValue (c : Char) : Nat :=
  let n := c.toNat
  if 0x30 ≤ n ∧ n ≤ 0x39 then n - 0x30
  else if 0x41 ≤ n ∧ n ≤ 0x46 then n - 0x37
  else if 0x61 ≤ n ∧ n ≤ 0x66 then n - 0x57
  else 0

/-- Bytes written as pairs of hexadecimal digits. -/
def bytesOfHex : List Char → List UInt8
  | a :: b :: r => (hexValue a * 16 + hexValue b).toUInt8 :: bytesOfHex r
  | _ => []

def ofHex (s : String) : ByteArray := ⟨(bytesOfHex s.toList).toArray⟩

/-- The content that a change asks for. -/
def contentOfJson (j : Json) : FileContent :=
  match j.textField? "text", j.textField? "hex", j.textField? "link", j.field? "script" with
  | some s, _, _, _ => .bytes (Text.encode s)
  | _, some s, _, _ => .bytes (ofHex s)
  | _, _, some s, _ => .link ⟨s⟩
  | _, _, _, some script => .bytes (Text.encode script.compact)
  | none, none, none, none =>
    if (j.field? "bad_script").isSome then .bytes (Text.encode unreadableScript)
    else if (j.field? "remove").isSome then .nothing
    else .directory

/-- The change that a JSON object asks for. -/
def ofJson (j : Json) : FileChange :=
  ⟨⟨(j.textField? "path").getD ""⟩, contentOfJson j⟩

def listOfJson (j : Option Json) : List FileChange :=
  ((j.bind Json.items?).getD []).map ofJson

/-- The files after a change; directories above the path are made.  A change that cannot be made
is passed over. -/
def apply (f : Files) (c : FileChange) : Files :=
  let above (f : Files) : Files :=
    match c.path.parent? with
    | some dir => (f.makeDirectories dir).1
    | none => f
  match c.content with
  | .bytes b => let g := above f; ((g.write c.path b).toOption).getD g
  | .link target => let g := above f; ((g.link c.path target).toOption).getD g
  | .directory => (f.makeDirectories c.path).1
  | .nothing => f.remove c.path

/-- The files after changes made in order. -/
def applyAll (f : Files) (cs : List FileChange) : Files := cs.foldl apply f

end FileChange

end EditorPlugins
