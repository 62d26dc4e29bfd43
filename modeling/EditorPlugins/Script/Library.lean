/-
  The language's own library: what every sandbox starts with, and what its functions do.

  A function in a table of the library is named with its table, `math.floor`.  Functions that only
  look at their arguments and the heap are carried out by `act?`.  Those that run other code are
  programs (`program?`).  The remaining ones are there, but calling them raises.
-/
import EditorPlugins.Script.Library.Base
import EditorPlugins.Script.Library.Strings
import EditorPlugins.Script.Library.Numbers
import EditorPlugins.Script.Library.Tables
import EditorPlugins.Script.Program

namespace EditorPlugins.Script.Library

/-! ## Contents -/

/-- The functions that are globals. -/
def globalFunctions : List String :=
  ["assert", "collectgarbage", "dofile", "error", "getmetatable", "ipairs", "load", "loadfile",
    "next", "pairs", "pcall", "print", "rawequal", "rawget", "rawlen", "rawset", "require",
    "select", "setmetatable", "tonumber", "tostring", "type", "warn", "xpcall"]

/-- The tables that are globals, with the functions in them. -/
def tableFunctions : List (String × List String) := [
  ("coroutine", ["close", "create", "isyieldable", "resume", "running", "status", "wrap", "yield"]),
  ("io", ["close", "flush", "input", "lines", "open", "output", "popen", "read", "tmpfile", "type",
    "write"]),
  ("math", ["abs", "acos", "asin", "atan", "ceil", "cos", "deg", "exp", "floor", "fmod", "log",
    "max", "min", "modf", "rad", "random", "randomseed", "sin", "sqrt", "tan", "tointeger", "type",
    "ult"]),
  ("os", ["clock", "date", "difftime", "execute", "exit", "getenv", "remove", "rename",
    "setlocale", "time", "tmpname"]),
  ("package", ["loadlib", "searchpath"]),
  ("string", ["byte", "char", "dump", "find", "format", "gmatch", "gsub", "len", "lower", "match",
    "pack", "packsize", "rep", "reverse", "sub", "unpack", "upper"]),
  ("table", ["concat", "insert", "move", "pack", "remove", "sort", "unpack"]),
  ("utf8", ["char", "codepoint", "codes", "len", "offset"])]

/-- The values in a table of the library that are not functions; `path` is where modules are
looked for. -/
def tableValues (path : String) : String → List (String × Value)
  | "math" => [("huge", .float .infinity), ("pi", .float ⟨0x400921fb54442d18⟩),
      ("maxinteger", .integer Int64.maxValue), ("mininteger", .integer Int64.minValue)]
  | "package" => [("path", .text path), ("loaded", .table Heap.loadedId),
      ("cpath", .text
        "/usr/local/lib/lua/5.4/?.so;/usr/local/lib/lua/5.4/loadall.so;./?.so"),
      ("config", .text "/\n;\n?\n!\n-\n")]
  | "utf8" => [("charpattern", ofBytes
      [0x5b, 0, 0x2d, 0x7f, 0xc2, 0x2d, 0xfd, 0x5d, 0x5b, 0x80, 0x2d, 0xbf, 0x5d, 0x2a])]
  | _ => []

/-- The objects of a heap that a table of the library holds; all are new. -/
def addObjects (h : Heap) (id : ObjectId) (name : String) : Heap :=
  match name with
  | "io" => ["stdin", "stdout", "stderr"].foldl (fun h field =>
      let (n, h) := h.addObject
      h.put id (.text field) (.userdata n)) h
  | "package" => ["preload", "searchers"].foldl (fun h field =>
      let (n, h) := h.addTable default
      h.put id (.text field) (.table n)) h
  | _ => h

/-- Put a table of the library among the globals and the loaded modules. -/
def addLibrary (path : String) (h : Heap) (name : String) (functions : List String) : Heap :=
  let (id, h) := if name = "string" then (Heap.stringsId, h) else h.addTable default
  let h := functions.foldl (fun h f =>
    h.put id (.text f) (.function (.library (name ++ "." ++ f)))) h
  let h := (tableValues path name).foldl (fun h e => h.put id (.text e.1) e.2) h
  let h := addObjects h id name
  (h.setGlobal name (.table id)).setLoaded name (.table id)

/-- The heap of a sandbox at its start. -/
def heap (path : String) : Heap :=
  let h := globalFunctions.foldl (fun h f => h.setGlobal f (.function (.library f))) Heap.start
  let h := (h.setGlobal "_VERSION" (.text "Lua 5.4")).setGlobal "_G" (.table Heap.globalsId)
  let h := h.setLoaded "_G" (.table Heap.globalsId)
  let h := h.put Heap.stringBehaviourId (.text "__index") (.table Heap.stringsId)
  tableFunctions.foldl (fun h e => addLibrary path h e.1 e.2) h

/-! ## Functions -/

/-- What a function does that runs no code; `limit` is the memory of the sandbox. -/
def act? (limit : UInt64) (name : String) (args : List Value) : Option (Act (List Value)) :=
  match Text.cut '.' name with
  | none => base? ⟨name, args⟩
  | some ("string", f) => strings? limit ⟨f, args⟩
  | some ("math", f) => numbers? ⟨f, args⟩
  | some ("table", f) => tables? limit ⟨f, args⟩
  | some _ => none

open Program (request) in
/-- Call a function, and tell whether it raised. -/
def protectedCall (f : Value) (args : List Value) (handle : Value → Program (List Value)) :
    Program (List Value) := do
  match ← (request (.call f args)).attempt with
  | .ok vs => return .bool true :: vs
  | .error r => return .bool false :: (← handle r.caught)

/-- What a handler makes of an error; one that raises makes a text of it. -/
def handleWith (handler v : Value) : Program (List Value) := do
  match ← (Program.request (.call handler [v])).attempt with
  | .ok vs => return vs
  | .error _ => return [.text "error in error handling"]

/-- The program of a function that runs other code. -/
def program? (name : String) (args : List Value) : Option (Program (List Value)) :=
  match name, args with
  | "pcall", f :: args => some (protectedCall f args (fun v => return [v]))
  | "pcall", [] => some (.raise (complain "not enough arguments to pcall"))
  | "xpcall", f :: handler :: args => some (protectedCall f args (handleWith handler))
  | "xpcall", _ => some (.raise (complain "not enough arguments to xpcall"))
  | "require", args => some (Program.request (.require (args.headD .nil)))
  | _, _ => none

end EditorPlugins.Script.Library
