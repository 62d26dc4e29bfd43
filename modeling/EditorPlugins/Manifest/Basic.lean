/-
  Plugin manifests: what a plugin says about itself.

  `Manifest.ofJson?` reads the fields in increasing order of their names and reports the first
  that holds another type than it should; `Manifest.checked` then tests the name and the entry.
  `Manifest.toJson` writes a manifest back, fields that the host does not know included.
-/
import EditorPlugins.Failure
import EditorPlugins.Text.Blank
import EditorPlugins.Text.Quoted
import EditorPlugins.Decimal.Notation

namespace EditorPlugins

/-- A command that a plugin declares. -/
structure DeclaredCommand where
  id : String
  title : String
deriving DecidableEq, Repr, Inhabited

/-- What a plugin says about itself. -/
structure Manifest where
  name : String := ""
  version : String := ""
  description : String := ""
  author : String := ""
  /-- The entry script, relative to the plugin's root. -/
  entry : Option String := none
  /-- The host versions that the plugin accepts. -/
  compatibleVersions : Option String := none
  commands : List DeclaredCommand := []
  /-- Fields that the host does not use, in increasing order of their names. -/
  extra : List (String × Json) := []
deriving Inhabited

namespace Manifest

/-! ## Reading the fields -/

/-- The name of a value's type in a message, with the value when it is a scalar. -/
def describe : Json → String
  | .null => "null"
  | .bool b => "boolean `" ++ (if b then "true" else "false") ++ "`"
  | .integer n => "integer `" ++ toString n ++ "`"
  | .float x => "floating point `" ++ x.scientific ++ "`"
  | .text s => "string " ++ Text.quoted s
  | .array _ => "sequence"
  | .object _ => "map"

/-- A value that should have been something else. -/
def wrongType (j : Json) (expected : String) : Except ManifestFault α :=
  .error (.wrongType (describe j) expected)

def readText : Json → Except ManifestFault String
  | .text s => .ok s
  | j => wrongType j "a string"

/-- A text, or nothing when the value is null. -/
def readOptionalText : Json → Except ManifestFault (Option String)
  | .null => .ok none
  | j => (readText j).map some

/-- One field of a command; other names are passed over. -/
def readCommandField (c : DeclaredCommand) (field : String × Json) :
    Except ManifestFault DeclaredCommand :=
  if field.1 = "id" then (readText field.2).map (fun s => { c with id := s })
  else if field.1 = "title" then (readText field.2).map (fun s => { c with title := s })
  else .ok c

/-- A command: an object of id and title, or an array of them; what is absent is empty. -/
def readCommand : Json → Except ManifestFault DeclaredCommand
  | .object fields => fields.foldlM readCommandField ⟨"", ""⟩
  | .array [] => .ok ⟨"", ""⟩
  | .array [id] => do .ok ⟨← readText id, ""⟩
  | .array [id, title] => do .ok ⟨← readText id, ← readText title⟩
  | .array (id :: title :: rest) => do
    let _ ← readText id
    let _ ← readText title
    .error (.tooManyItems (rest.length + 2))
  | j => wrongType j "struct CommandDecl"

def readCommands : Json → Except ManifestFault (List DeclaredCommand)
  | .array items => items.mapM readCommand
  | j => wrongType j "a sequence"

/-- One field of a manifest; a field of another name is kept as it is. -/
def readField (m : Manifest) (field : String × Json) : Except ManifestFault Manifest :=
  let (key, j) := field
  if key = "name" then (readText j).map (fun s => { m with name := s })
  else if key = "version" then (readText j).map (fun s => { m with version := s })
  else if key = "description" then (readText j).map (fun s => { m with description := s })
  else if key = "author" then (readText j).map (fun s => { m with author := s })
  else if key = "entry" then (readOptionalText j).map (fun e => { m with entry := e })
  else if key = "nnp-compatible-versions" then
    (readOptionalText j).map (fun r => { m with compatibleVersions := r })
  else if key = "commands" then (readCommands j).map (fun cs => { m with commands := cs })
  else .ok { m with extra := m.extra ++ [(key, j)] }

/-! ## Rules -/

/-- The characters that a plugin name must not contain: the name begins every command id and is
the stem of the plugin's configuration file. -/
def forbiddenInName : List Char := ['.', '/', '\\']

def checkName (name : String) : Except Failure Unit :=
  if Text.isBlankText name then .error .emptyName
  else
    match name.toList.find? forbiddenInName.contains with
    | some c => .error (.malformedManifest (.forbiddenCharacter c name))
    | none => .ok ()

/-- The entry script lies below the plugin's root. -/
def checkEntry (entry : String) : Except Failure Unit :=
  let path : Path := ⟨entry⟩
  if path.isAbsolute then .error (.malformedManifest (.absoluteEntry entry))
  else if path.hasParentStep then .error (.malformedManifest (.entryStepsUp entry))
  else .ok ()

/-- The manifest, tested, without the commands that lack an id or a title. -/
def checked (m : Manifest) : Except Failure Manifest := do
  checkName m.name
  match m.entry with
  | some entry => checkEntry entry
  | none => .ok ()
  .ok { m with commands := m.commands.filter (fun c => !c.id.isEmpty && !c.title.isEmpty) }

/-- The manifest that a JSON value stands for. -/
def ofJson? (j : Json) : Except Failure Manifest :=
  match j.sorted with
  | .object fields =>
    match fields.foldlM readField {} with
    | .ok m => m.checked
    | .error fault => .error (.malformedManifest fault)
  | _ => .error (.malformedManifest .notAnObject)

/-- The manifest that a text holds. -/
def parse (text : String) : Except Failure Manifest :=
  match Json.parse text with
  | .ok j => ofJson? j
  | .error e => .error (.malformedManifest (.syntaxError e))

/-! ## Writing -/

def commandToJson (c : DeclaredCommand) : Json :=
  .object [("id", .text c.id), ("title", .text c.title)]

def optionalField (key : String) (value : Option String) : List (String × Json) :=
  match value with
  | some s => [(key, .text s)]
  | none => []

/-- The fields that the host knows, then the others. -/
def toJson (m : Manifest) : Json :=
  .object <|
    [("name", .text m.name), ("version", .text m.version), ("description", .text m.description),
      ("author", .text m.author)]
    ++ optionalField "entry" m.entry
    ++ optionalField "nnp-compatible-versions" m.compatibleVersions
    ++ [("commands", .array (m.commands.map commandToJson))]
    ++ m.extra

/-! ## The entry script -/

/-- The entry script of a plugin that names none. -/
def defaultEntry : String := "init.lua"

/-- The entry script, relative to the plugin's root. -/
def entryScript (m : Manifest) : String :=
  match m.entry with
  | some entry => if entry.isEmpty then defaultEntry else entry
  | none => defaultEntry

end Manifest

end EditorPlugins
