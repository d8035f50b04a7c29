import LogSearch.Number.Binary64
import LogSearch.Text.Basic

/-!
# The settings

What can be set, in sections, and what is set when nothing is said.
-/

namespace LogSearch

/-- How the search backend is reached. -/
structure SearchSettings where
  host : Text
  username : Option Text
  password : Option Text
  index : Text
  /-- The switch for ingestion and search together. -/
  enabled : Bool
  ingestEnabled : Bool
  searchEnabled : Bool
  /-- Seconds. -/
  connectTimeout : Binary64
  readTimeout : Binary64
deriving DecidableEq

/-- User name and password, if both are given and neither is empty. -/
def SearchSettings.basicAuth (s : SearchSettings) : Option (Text × Text) :=
  match s.username, s.password with
  | some user, some password =>
    if user.isEmpty || password.isEmpty then none else some (user, password)
  | _, _ => none

/-- Which log files are read, and when. -/
structure IngestionSettings where
  enabled : Bool
  paths : List Text
  /-- The number of documents that go into one request. -/
  bulkSize : Int
  /-- Seconds between the end of one pass and the beginning of the next. -/
  pollInterval : Binary64
  /-- Seconds before the first pass. -/
  initialDelay : Binary64
deriving DecidableEq

/-- Where the service listens and what it reports. -/
structure ServerSettings where
  host : Text
  port : Int
  workers : Int
  reload : Bool
  logLevel : Text
deriving DecidableEq

/-- All settings. -/
structure Settings where
  name : Text
  version : Text
  description : Text
  debug : Bool
  environment : Text
  server : ServerSettings
  search : SearchSettings
  ingestion : IngestionSettings
deriving DecidableEq

/-- Reading from log files and search are on. -/
def Settings.ingestionActive (search : SearchSettings) (ingestion : IngestionSettings) : Bool :=
  ingestion.enabled && search.enabled && search.ingestEnabled

namespace Settings

/-- The service runs for its users. -/
def isProduction (s : Settings) : Bool := s.environment = "production".toList

/-- The service is being worked on. -/
def isDevelopment (s : Settings) : Bool := s.environment = "development".toList

/-- The environments in which the service can run. -/
def environments : List Text := ["development", "staging", "production"].map String.toList

/-- The levels from which on entries are reported. -/
def logLevels : List Text := ["DEBUG", "INFO", "WARNING", "ERROR", "CRITICAL"].map String.toList

end Settings

end LogSearch
