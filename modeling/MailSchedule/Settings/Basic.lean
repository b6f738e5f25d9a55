import MailSchedule.Report
import MailSchedule.System

/-!
# Settings

What can be configured: where the account store lies, how checks are scheduled, and how much is
logged.
-/

namespace MailSchedule

/-- The settings of the program. -/
structure Settings where
  databasePath : Text := "data/mail_poller.db"
  watchdogDelaySeconds : Int := 600
  forceOneMinuteRefresh : Bool := false
  /-- Without repetitions, in order. -/
  polledProtocols : List Text := ["imap", "pop3"]
  backgroundDataEnabled : Bool := true
  logLevel : Text := "INFO"
  deriving DecidableEq, Repr

namespace Settings

/-- Milliseconds after which a check that reports nothing is given up. -/
def watchdogDelay (s : Settings) : Int := s.watchdogDelaySeconds * 1000

/-- The rules that a poller with these settings follows. -/
def policy (s : Settings) : Policy where
  polling := { protocols := s.polledProtocols, oneMinute := s.forceOneMinuteRefresh }
  watchdogDelay := s.watchdogDelay
  backgroundData := s.backgroundDataEnabled

/-- The settings by name. -/
inductive Field
  | databasePath
  | watchdogDelaySeconds
  | forceOneMinuteRefresh
  | polledProtocols
  | backgroundDataEnabled
  | logLevel
  deriving DecidableEq, Repr

/-- The name of a setting. -/
def Field.name : Field → String
  | .databasePath => "database_path"
  | .watchdogDelaySeconds => "watchdog_delay_seconds"
  | .forceOneMinuteRefresh => "force_one_minute_refresh"
  | .polledProtocols => "polled_protocols"
  | .backgroundDataEnabled => "background_data_enabled"
  | .logLevel => "log_level"

/-- All settings. -/
def Field.all : List Field := [
  .databasePath, .watchdogDelaySeconds, .forceOneMinuteRefresh, .polledProtocols,
  .backgroundDataEnabled, .logLevel]

/-- What is wrong with a value. -/
inductive Problem
  | intParsing
  | intParsingSize
  | intFromFloat
  | intType
  | finiteNumber
  | boolParsing
  | boolType
  | stringType
  | stringUnicode
  | setType
  | pathType
  deriving DecidableEq, Repr

/-- The word for a problem. -/
def Problem.word : Problem → String
  | .intParsing => "int_parsing"
  | .intParsingSize => "int_parsing_size"
  | .intFromFloat => "int_from_float"
  | .intType => "int_type"
  | .finiteNumber => "finite_number"
  | .boolParsing => "bool_parsing"
  | .boolType => "bool_type"
  | .stringType => "string_type"
  | .stringUnicode => "string_unicode"
  | .setType => "set_type"
  | .pathType => "path_type"

/-- Where settings come from. -/
inductive Source
  | environment
  | file
  deriving DecidableEq, Repr

/-- The name of a source. -/
def Source.name : Source → String
  | .environment => "EnvSettingsSource"
  | .file => "DotEnvSettingsSource"

/-- Why there are no settings. -/
inductive Error
  /-- A source has a text for a setting that cannot be read at all. -/
  | unreadable (field : Field) (source : Source)
  /-- A source cannot be asked for a setting. -/
  | unobtainable (field : Field) (source : Source)
  /-- A file of variables cannot be found. -/
  | fault (f : Fault)
  /-- Values that are not of the right kind, by their places. -/
  | invalid (problems : List (String × Problem))
  deriving DecidableEq, Repr

end Settings

end MailSchedule
