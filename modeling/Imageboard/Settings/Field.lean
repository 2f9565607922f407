import Imageboard.Rule

/-!
The settings of the board: what they are, what they are called, and what they are unless something
else is said.
-/
namespace Imageboard

/-- How much the board reports about its work. -/
inductive LogLevel where
  | debug
  | info
  | warning
  | error
  | critical
deriving DecidableEq, Repr

namespace LogLevel

def name : LogLevel → List Char
  | .debug => "DEBUG".toList
  | .info => "INFO".toList
  | .warning => "WARNING".toList
  | .error => "ERROR".toList
  | .critical => "CRITICAL".toList

def all : List LogLevel := [.debug, .info, .warning, .error, .critical]

/-- The level with exactly the given name. -/
def ofName? (name : List Char) : Option LogLevel := all.find? (·.name == name)

end LogLevel

structure Settings where
  appName : List Char
  databaseUrl : List Char
  logLevel : LogLevel
  filterRules : List Rule
deriving DecidableEq, Repr

namespace Settings

/-- The settings where nothing is said. -/
def standard : Settings :=
  ⟨"boardpost".toList, "sqlite:///boardpost.db".toList, .warning, []⟩

/-- One of the settings. -/
inductive Field where
  | appName
  | databaseUrl
  | logLevel
  | filterRules
deriving DecidableEq, Repr

namespace Field

/-- All settings, in the order in which they are looked at. -/
def all : List Field := [.appName, .databaseUrl, .logLevel, .filterRules]

/-- The name of a setting in files. -/
def name : Field → String
  | .appName => "app_name"
  | .databaseUrl => "db_url"
  | .logLevel => "log_level"
  | .filterRules => "filter_rules"

/-- The environment variable for a setting. -/
def variableName : Field → String
  | .appName => "BOARDPOST_APP_NAME"
  | .databaseUrl => "BOARDPOST_DB_URL"
  | .logLevel => "BOARDPOST_LOG_LEVEL"
  | .filterRules => "BOARDPOST_FILTER_RULES"

end Field

end Settings

end Imageboard
