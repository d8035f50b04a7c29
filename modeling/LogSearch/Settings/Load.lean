import LogSearch.Json.Reader
import LogSearch.Settings.DotEnv
import LogSearch.Settings.Sections
import LogSearch.Text.Case
import LogSearch.Validation.Lax

/-!
# Loading the settings

The settings of a section come from four places, the first of which wins: what is given
directly, the variables of the process, the variables of a file, and the defaults.  The name of
a variable is the name of the setting behind the name of the section, in any letter case.

Lists and whole sections are written as JSON in a variable.  A section that is given in two
places is put together of both.  A section that is given nowhere is loaded by itself, and if
that fails, nothing else is reported.
-/

namespace LogSearch

open Validation

/-- Settings by name. -/
abbrev Members := List (Text × Json)

/-- The variables of the process, and the text of the file of variables, if there is one. -/
structure Environment where
  process : List (Text × Text)
  file : Option Text

/-- Why settings cannot be loaded. -/
inductive LoadFault where
  /-- The variable of a setting is not JSON. -/
  | notJson (setting source : Text)
  | invalid (problems : List Problem)
deriving DecidableEq, Repr

/-- How a setting is written in a variable. -/
inductive Form where
  | plain
  | json
  /-- As a JSON object with these keys, in any letter case. -/
  | members (keys : List Text)

/-- A setting: its name and how it is written. -/
structure Setting where
  name : Text
  form : Form

/-! ## Sources -/

/-- The object with the given keys in place of those that differ from them in case only. -/
def fitKeys (keys : List Text) (members : Members) : Members :=
  members.foldl (fun ms m =>
    Json.put ((keys.find? fun k => Text.lower k = Text.lower m.1).getD m.1) m.2 ms) []

/-- The value of a setting in a source, if it says something about it. -/
def Setting.value? (s : Setting) (source : Text) (written : Option Text) :
    Except LoadFault (Option Json) :=
  match written with
  | none => .ok none
  | some t =>
    match s.form with
    | .plain => .ok (some (.text t))
    | form =>
      match form, Json.readText? Json.lenient t with
      | _, none => .error (.notJson s.name source)
      | _, some .null => .ok none
      | .members keys, some (.object ms) => .ok (some (.object (fitKeys keys ms)))
      | _, some j => .ok (some j)

/-- The settings of a section that a source knows.  Of variables whose names differ in case
only, the last one counts. -/
def sourceMembers (source : Text) (known : List (Text × Option Text)) (start : Text) :
    List Setting → Except LoadFault Members
  | [] => .ok []
  | s :: rest => do
    let name := Text.lower (start ++ s.name)
    let written := (known.reverse.find? fun v => Text.lower v.1 = name).bind (·.2)
    let value ← s.value? source written
    let more ← sourceMembers source known start rest
    return (value.map fun j => (s.name, j)).toList ++ more

/-- The settings of two sources, of which the second one wins. -/
def mergeMembers (low high : Members) : Members :=
  high.foldl (fun ms m =>
    match Json.find? low m.1, m.2 with
    | some (.object before), .object after =>
      Json.put m.1 (.object (after.foldl (fun b a => Json.put a.1 a.2 b) before)) ms
    | _, j => Json.put m.1 j ms) low

/-- What all sources say about a section. -/
def Environment.members (e : Environment) (start : Text) (settings : List Setting)
    (given : Members) : Except LoadFault Members := do
  let process := e.process.map fun v => (v.1, some v.2)
  let fromProcess ← sourceMembers "EnvSettingsSource" process start settings
  let fileVariables := (e.file.map (DotEnv.bindings e.process)).getD []
  let fromFile ← sourceMembers "DotEnvSettingsSource" fileVariables start settings
  return mergeMembers (mergeMembers fromFile fromProcess) given

/-- The section, if nothing is wrong with it. -/
def LoadFault.ofChecked {α : Type} (c : Checked α) : Except LoadFault α := c.mapError .invalid

/-! ## Sections -/

/-- The settings with these names, all of them written plainly. -/
def plainSettings (names : List String) : List Setting := names.map fun n => ⟨n.toList, .plain⟩

/-- The number, if it is above zero or none. -/
def aboveZero (c : Checked Binary64) : Checked Binary64 :=
  Checked.require isAboveZero (.notAbove 0) c

/-- The host of the search backend has to begin with one of these. -/
def hostStarts : List Text := ["http://", "https://"].map String.toList

/-- Why a host is refused. -/
def hostRefusal : Text :=
  "Search backend host must be an http(s) URL. Example: http://localhost:9200"

/-- The settings with the slashes at the end of the host taken away, if the host is a URL. -/
def SearchSettings.withHost (s : SearchSettings) : Checked SearchSettings :=
  if hostStarts.any fun start => start.isPrefixOf s.host then
    .ok { s with host := Text.trimEndBy (· == '/') s.host }
  else Checked.fail (.refused hostRefusal)

/-- The settings of the search section. -/
def searchSettings : List Setting :=
  plainSettings ["host", "username", "password", "index", "enabled", "ingest_enabled",
    "search_enabled", "connect_timeout", "read_timeout"]

/-- The search section that the members say. -/
def SearchSettings.check (ms : Members) : Checked SearchSettings :=
  let fields : Checked SearchSettings :=
    Checked.ap (Checked.ap (Checked.ap (Checked.ap (Checked.ap (Checked.ap (Checked.ap
      (Checked.ap (Checked.ap (.ok SearchSettings.mk)
        (member ms "host" "http://localhost:9200" readText))
        (member ms "username" none readText?))
        (member ms "password" none readText?))
        (member ms "index" "application-logs" readText))
        (member ms "enabled" false readBool))
        (member ms "ingest_enabled" true readBool))
        (member ms "search_enabled" true readBool))
        (member ms "connect_timeout" (Binary64.ofInt 5) fun j => aboveZero (readNumber j)))
        (member ms "read_timeout" (Binary64.ofInt 30) fun j => aboveZero (readNumber j))
  fields.bind SearchSettings.withHost

/-- Loads the search section. -/
def SearchSettings.load (e : Environment) (given : Members) : Except LoadFault SearchSettings := do
  LoadFault.ofChecked (check (← e.members "SEARCH_" searchSettings given))

/-- The settings of the ingestion section. -/
def ingestionSettings : List Setting :=
  plainSettings ["enabled", "bulk_size", "poll_interval", "initial_delay"] ++
    [⟨"paths".toList, .json⟩]

/-- The ingestion section that the members say. -/
def IngestionSettings.check (ms : Members) : Checked IngestionSettings :=
  Checked.ap (Checked.ap (Checked.ap (Checked.ap (Checked.ap (.ok IngestionSettings.mk)
    (member ms "enabled" false readBool))
    (member ms "paths" ["logs/application.log".toList] readTexts))
    (member ms "bulk_size" 200 fun j => Checked.require (1 ≤ ·) (.below 1) (readInt j)))
    (member ms "poll_interval" (Binary64.ofInt 30) fun j => aboveZero (readNumber j)))
    (member ms "initial_delay" (Binary64.ofInt 5) fun j =>
      Checked.require (fun x => !x.isNegative) (.below 0) (readNumber j))

/-- Loads the ingestion section. -/
def IngestionSettings.load (e : Environment) (given : Members) :
    Except LoadFault IngestionSettings := do
  LoadFault.ofChecked (check (← e.members "INGEST_" ingestionSettings given))

/-- The settings of the server section. -/
def serverSettings : List Setting :=
  plainSettings ["host", "port", "workers", "reload", "log_level"]

/-- The server section that the members say. -/
def ServerSettings.check (ms : Members) : Checked ServerSettings :=
  Checked.ap (Checked.ap (Checked.ap (Checked.ap (Checked.ap (.ok ServerSettings.mk)
    (member ms "host" "0.0.0.0" readText))
    (member ms "port" 8000 readInt))
    (member ms "workers" 1 readInt))
    (member ms "reload" false readBool))
    (member ms "log_level" "INFO" (readChoice Settings.logLevels))

/-- Loads the server section. -/
def ServerSettings.load (e : Environment) (given : Members) : Except LoadFault ServerSettings := do
  LoadFault.ofChecked (check (← e.members "API_" serverSettings given))

/-! ## All settings -/

/-- The reason for which a section is refused whose sources cannot be read. -/
def unreadableSource (setting source : Text) : Text :=
  "error parsing value for field \"" ++ setting ++ "\" from source \"" ++ source ++ "\""

/-- A section that is a setting.  If it is given, the problems with it are problems of all
settings; if it is not, a fault in loading it ends the loading. -/
def sectionMember {α : Type} (ms : Members) (key record : Text)
    (load : Members → Except LoadFault α) : Except LoadFault (Checked α) :=
  match Json.find? ms key with
  | none => (load []).map .ok
  | some (.object given) =>
    match load given with
    | .ok a => .ok (.ok a)
    | .error (.invalid ps) => .ok (.error (ps.map (·.under (.member key))))
    | .error (.notJson setting source) =>
      .ok (.error [⟨[.member key], .refused (unreadableSource setting source)⟩])
  | some _ => .ok (.error [⟨[.member key], .notRecord record⟩])

/-- The settings of the outermost section. -/
def outerSettings : List Setting :=
  plainSettings ["name", "version", "description", "debug", "environment"] ++
    [⟨"api".toList, .members (serverSettings.map (·.name))⟩,
      ⟨"search".toList, .members (searchSettings.map (·.name))⟩,
      ⟨"ingestion".toList, .members (ingestionSettings.map (·.name))⟩]

/-- The settings that the members and the sections say. -/
def Settings.check (ms : Members) (server : Checked ServerSettings)
    (search : Checked SearchSettings) (ingestion : Checked IngestionSettings) :
    Checked Settings :=
  Checked.ap (Checked.ap (Checked.ap (Checked.ap (Checked.ap (Checked.ap (Checked.ap
    (Checked.ap (.ok Settings.mk)
      (member ms "name" "LogLens API" readText))
      (member ms "version" "0.1.0" readText))
      (member ms "description" "Log ingestion and field-query search over a search backend"
        readText))
      (member ms "debug" false readBool))
      (member ms "environment" "development" (readChoice Settings.environments)))
      server) search) ingestion

/-- Loads the server section, as one of all settings. -/
def Settings.loadServer (e : Environment) (ms : Members) :
    Except LoadFault (Checked ServerSettings) :=
  sectionMember ms "api" "APISettings" (ServerSettings.load e)

/-- Loads all settings. -/
def Settings.load (e : Environment) (given : Members) : Except LoadFault Settings := do
  let ms ← e.members "APP_" outerSettings given
  let server ← loadServer e ms
  let search ← sectionMember ms "search" "SearchBackendSettings" (SearchSettings.load e)
  let ingestion ← sectionMember ms "ingestion" "IngestionSettings" (IngestionSettings.load e)
  LoadFault.ofChecked (check ms server search ingestion)

/-- Loads all settings around a search and an ingestion section that are loaded first, each by
itself and with settings given directly. -/
def Settings.loadAround (e : Environment) (search ingestion : Members) :
    Except LoadFault Settings := do
  let search ← SearchSettings.load e search
  let ingestion ← IngestionSettings.load e ingestion
  let ms ← e.members "APP_" outerSettings []
  LoadFault.ofChecked (check ms (← loadServer e ms) (.ok search) (.ok ingestion))

/-! ## Settings that are loaded once

The settings are loaded when they are first asked for, and the same ones are given out from
then on, until they are forgotten.  Settings that could not be loaded are not kept. -/

/-- The settings that are kept, with their number, and how many have been loaded so far. -/
structure SettingsCache where
  kept : Option (Nat × Settings)
  loaded : Nat

namespace SettingsCache

/-- Nothing has been loaded. -/
def new : SettingsCache := ⟨none, 0⟩

/-- The settings and their number. -/
def get (c : SettingsCache) (e : Environment) :
    Except LoadFault (Nat × Settings) × SettingsCache :=
  match c.kept with
  | some kept => (.ok kept, c)
  | none =>
    match Settings.load e [] with
    | .error fault => (.error fault, c)
    | .ok s => (.ok (c.loaded, s), ⟨some (c.loaded, s), c.loaded + 1⟩)

/-- Forgets the settings. -/
def clear (c : SettingsCache) : SettingsCache := { c with kept := none }

end SettingsCache

/-! ## What the web server is told -/

/-- The arguments of the web server. -/
structure LaunchArguments where
  target : Text
  /-- The target makes the application and is not the application itself. -/
  factory : Bool
  host : Text
  port : Int
  reload : Bool
  workers : Int
  logLevel : Text
deriving DecidableEq

/-- The arguments that settings call for. -/
def LaunchArguments.ofSettings (s : Settings) : LaunchArguments :=
  ⟨"loglens.server.core:create_app", true, s.server.host, s.server.port, s.server.reload,
    s.server.workers, Text.lower s.server.logLevel⟩

end LogSearch
