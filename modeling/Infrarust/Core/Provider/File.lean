import Infrarust.Core.Provider.Registry

/-!
# `Infrarust.Core.Provider.File`: server files and their changes

The file provider reads every `.toml` file of one directory. It does so once for the initial
load, once more when it starts to watch the directory, and then after every batch of
notifications, when it compares what it reads with what it knew and reports the difference.

A directory is what one scan sees of it. TOML parsing is a library function and stands here
as an argument, and so do the orders in which hash maps are visited.
-/

set_option autoImplicit false

namespace Infrarust

/-! ### File names -/

/-- `rsplit_file_at_dot` of the standard library: a name before and after its last dot. A
dot at the start does not count. -/
def rsplitFileAtDot {α : Type} [DecidableEq α] (dot : α) (name : List α) :
    Option (List α) × Option (List α) :=
  if name = [dot, dot] then (some name, none)
  else
    match name.reverse.dropWhile (· ≠ dot) with
    -- no dot
    | [] => (none, some name)
    -- the only dot is the first character
    | [_] => (some name, none)
    | _ :: before => (some before.reverse, some (name.reverse.takeWhile (· ≠ dot)).reverse)

/-- `Path::extension` of a file name. -/
def extension {α : Type} [DecidableEq α] (dot : α) (name : List α) : Option (List α) :=
  let (before, after) := rsplitFileAtDot dot name
  if before.isSome then after else none

/-- `Path::file_stem` of a file name. -/
def fileStem {α : Type} [DecidableEq α] (dot : α) (name : List α) : Option (List α) :=
  let (before, after) := rsplitFileAtDot dot name
  before.or after

/-- A file name as the operating system has it: text, or bytes that are not UTF-8. -/
inductive OsName where
  | text (name : String)
  | bytes (name : List UInt8)
deriving DecidableEq, Repr

namespace OsName

def toStr : OsName → Option String
  | text name => some name
  | bytes _ => none

/-- The extension is `toml`. -/
def isToml : OsName → Bool
  | text name => extension '.' name.toList = some "toml".toList
  | bytes name => extension 46 name = some [116, 111, 109, 108]

/-- The stem, if it is text. With an ASCII extension it is text exactly if the name is. -/
def stem : OsName → Option String
  | text name => (fileStem '.' name.toList).map String.ofList
  | bytes _ => none

/-- The id the provider gives to a file. -/
def providerId (name : OsName) : ProviderId := .file (name.toStr.getD "unknown.toml")

end OsName

/-! ### One scan -/

/-- A directory entry: its name, and its content if it can be read as text. -/
structure DirEntry where
  name : OsName
  content : Option String
deriving DecidableEq, Repr

/-- What one scan of `servers_dir` sees, in the order of `read_dir`. No name occurs twice. -/
structure Directory where
  entries : List DirEntry
  nodup : (entries.map DirEntry.name).Nodup

variable (parse : String → Option ServerConfig)

def loadServerConfig (entry : DirEntry) : Except ConfigError ServerConfig := do
  let some content := entry.content | throw .readFile
  let some config := parse content | throw .parseToml
  validateServerConfig config
  -- a file without an id is named after its stem
  match config.id, entry.name.stem with
  | none, some stem => pure { config with id := some stem }
  | _, _ => pure config

/-- The configuration of an entry that is a `.toml` file and can be loaded. -/
def tomlConfig (entry : DirEntry) : Option ServerConfig :=
  if entry.name.isToml then (loadServerConfig parse entry).toOption else none

/-- `do_load_initial`. A file that cannot be loaded is skipped. -/
def doLoadInitial (dir : Directory) : List ProviderConfig :=
  dir.entries.filterMap fun entry =>
    (tomlConfig parse entry).map fun config => ⟨entry.name.providerId, config⟩

/-- The `known` map `do_watch` starts with. -/
def initialKnown (dir : Directory) : Dict OsName ServerConfig :=
  Dict.collect DirEntry.name (tomlConfig parse) dir.entries

/-- `current_files` of `compute_diff`: every `.toml` file with its configuration, or without
one if it cannot be loaded. -/
def currentFiles (dir : Directory) : Dict OsName (Option ServerConfig) :=
  Dict.collect DirEntry.name (fun entry =>
      if entry.name.isToml then some (loadServerConfig parse entry).toOption else none)
    dir.entries

/-- One turn of the first loop of `compute_diff`, over the current files. -/
def diffFile (state : List ProviderEvent × Dict OsName ServerConfig)
    (file : OsName × Option ServerConfig) : List ProviderEvent × Dict OsName ServerConfig :=
  let (events, known) := state
  let (name, maybeConfig) := file
  match maybeConfig with
  -- the load failed: the previous version stays
  | none => (events, known)
  | some config =>
    match known.lookup name with
    | some oldConfig =>
      if oldConfig = config then (events, known)
      else (events ++ [.updated ⟨name.providerId, config⟩], known.insert name config)
    | none => (events ++ [.added ⟨name.providerId, config⟩], known.insert name config)

/-- One turn of the second loop of `compute_diff`, over the removed paths. -/
def diffRemoved (state : List ProviderEvent × Dict OsName ServerConfig) (name : OsName) :
    List ProviderEvent × Dict OsName ServerConfig :=
  (state.1 ++ [.removed name.providerId], state.2.erase name)

def computeDiff (currentOrder : Dict.Order OsName (Option ServerConfig))
    (knownOrder : Dict.Order OsName ServerConfig) (dir : Directory)
    (known : Dict OsName ServerConfig) : List ProviderEvent × Dict OsName ServerConfig :=
  let current := currentFiles parse dir
  let state := (currentOrder.iter current).foldl diffFile ([], known)
  -- the first loop only adds to what is known, and all it adds is in `current`
  let removedPaths :=
    ((knownOrder.iter state.2).map Prod.fst).filter fun name => (current.lookup name).isNone
  removedPaths.foldl diffRemoved state

/-! ### The provider and the router over time -/

/-- The router and the map the watcher keeps. -/
structure FileWatch where
  router : DomainRouter
  known : Dict OsName ServerConfig

/-- The initial load has seen one state of the directory and the start of the watcher
another. -/
def FileWatch.Started (strings : Strings) (loaded watched : Directory) (s : FileWatch) : Prop :=
  Starts strings (doLoadInitial parse loaded) s.router ∧ s.known = initialKnown parse watched

/-- A debounced scan sees `dir`, and the router has taken the events of the difference. The
channel keeps their order. -/
def FileWatch.Scan (strings : Strings) (s : FileWatch) (dir : Directory) (s' : FileWatch) : Prop :=
  ∃ currentOrder knownOrder, (computeDiff parse currentOrder knownOrder dir s.known).2 = s'.known ∧
      Machine.Run (EventStep strings) s.router
        (computeDiff parse currentOrder knownOrder dir s.known).1 s'.router

end Infrarust
