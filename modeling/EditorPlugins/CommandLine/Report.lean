/-
  What a run of the program reports: the plugins that were loaded and that failed to load, the
  commands on offer, and what became of the commands and events that were asked for.

  A report is printed for people (`Report.toText`) or as JSON (`Report.toJson`).
-/
import EditorPlugins.World.Basic

namespace EditorPlugins

/-- What became of a command. -/
structure CommandRun where
  id : String
  /-- Why it failed, if it did. -/
  error : Option String
deriving DecidableEq, Repr, Inhabited

/-- What became of an event. -/
structure EventRun where
  event : String
  summary : Summary
deriving DecidableEq, Repr, Inhabited

/-- What a run of the program reports. -/
structure Report where
  loaded : List PluginInfo
  /-- Why loads failed, by name or folder. -/
  failed : Dict String
  commands : List CommandInfo
  runs : List CommandRun
  events : List EventRun
deriving Inhabited

/-! ## For people -/

/-- A list under its heading; nothing when it is empty. -/
def headed (heading : String) (lines : List String) : List String :=
  if lines.isEmpty then [] else heading :: lines

def PluginInfo.toLines (i : PluginInfo) : List String :=
  ("  " ++ i.identity.name ++ " " ++ i.identity.version ++ " (" ++ i.identity.root.text ++ ")") ::
    (i.lastError.map (fun e => "    last error: " ++ e)).toList

def CommandInfo.toLine (c : CommandInfo) : String :=
  "  " ++ c.id ++ "  " ++ c.title ++ (if c.hasHandler then "" else " (no handler)")

def CommandRun.toLine (r : CommandRun) : String :=
  match r.error with
  | none => "ran " ++ r.id
  | some e => "FAILED " ++ r.id ++ ": " ++ e

def EventRun.toLine (e : EventRun) : String :=
  e.event ++ ": delivered " ++ toString e.summary.delivered.length
    ++ ", skipped " ++ toString e.summary.skipped.length
    ++ ", failed " ++ toString e.summary.failed.length

namespace Report

def toLines (r : Report) : List String :=
  ("Loaded plugins (" ++ toString r.loaded.length ++ "):") ::
    (r.loaded.flatMap PluginInfo.toLines
      ++ headed ("Failed plugins (" ++ toString r.failed.size ++ "):")
          (r.failed.entries.map (fun e => "  " ++ e.1 ++ ": " ++ e.2))
      ++ headed "Commands:" (r.commands.map CommandInfo.toLine)
      ++ r.runs.map CommandRun.toLine
      ++ r.events.map EventRun.toLine)

/-- The report for people, every line with its break. -/
def toText (r : Report) : String := String.join (r.toLines.map (· ++ "\n"))

end Report

/-! ## As JSON -/

def Summary.fields (s : Summary) : List (String × Json) :=
  [("delivered", Json.ofTexts s.delivered), ("skipped", Json.ofTexts s.skipped),
    ("failed", Json.ofTexts s.failed)]

def CommandInfo.toJson (c : CommandInfo) : Json :=
  .object [("id", .text c.id), ("plugin", .text c.plugin), ("title", .text c.title),
    ("declared", .bool c.declared), ("has_handler", .bool c.hasHandler)]

def PluginInfo.toJson (i : PluginInfo) : Json :=
  .object [("name", .text i.identity.name), ("version", .text i.identity.version),
    ("description", .text i.identity.description), ("author", .text i.identity.author),
    ("root_path", .text i.identity.root.text), ("enabled", .bool i.enabled),
    ("last_error", (i.lastError.map Json.text).getD .null),
    ("environment_id", .integer i.sandbox), ("config", Json.ofDict i.config),
    ("registered_commands", Json.ofTexts i.commands),
    ("registered_events", Json.ofTexts i.events), ("manifest", i.manifest.toJson)]

def CommandRun.toJson (r : CommandRun) : Json :=
  .object ([("id", .text r.id), ("ok", .bool r.error.isNone)]
    ++ (r.error.map (fun e => ("error", Json.text e))).toList)

def EventRun.toJson (e : EventRun) : Json := .object (("event", .text e.event) :: e.summary.fields)

def Report.toJson (r : Report) : Json :=
  .object [("loaded", .array (r.loaded.map PluginInfo.toJson)), ("failed", Json.ofDict r.failed),
    ("commands", .array (r.commands.map CommandInfo.toJson)),
    ("runs", .array (r.runs.map CommandRun.toJson)),
    ("events", .array (r.events.map EventRun.toJson))]

end EditorPlugins
