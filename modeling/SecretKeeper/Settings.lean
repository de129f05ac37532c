/-
# Settings

What can be set from outside.  Each setting has a variable of its own in the environment
and a default; a variable that is not set, is not text, or does not read as the number it
should be, leaves the default.
-/
import SecretKeeper.Text.Bytes
import SecretKeeper.Text.Columns
import SecretKeeper.Time.Duration
import SecretKeeper.Dict

namespace SecretKeeper

/-- The settings of the controller. -/
structure Settings where
  /-- The port of metrics and probes. -/
  metricsPort : Nat := 5000
  /-- How long to wait for the probe server, in seconds. -/
  serverStartupSecs : Nat := 10
  /-- The pause between two looks at the probe server, in milliseconds. -/
  serverPollMillis : Nat := 50
  /-- The deadline of a cycle, in seconds. -/
  reconcileTimeoutSecs : Nat := 30
  /-- The least backoff, in minutes. -/
  backoffMinMinutes : Nat := 1
  /-- The greatest backoff, in minutes. -/
  backoffMaxMinutes : Nat := 10
  /-- The number of claims reconciled at the same time. -/
  maxConcurrent : Nat := 10
  /-- The name under which fields are written. -/
  fieldManager : String := "secret-claim-controller"
  logFormat : String := "json"
deriving DecidableEq

namespace Settings

/-- The settings of an empty environment. -/
def standard : Settings := {}

/-- The names of the variables. -/
def variableNames : List String :=
  ["METRICS_PORT", "SERVER_STARTUP_TIMEOUT_SECS", "SERVER_POLL_INTERVAL_MS",
    "RECONCILE_TIMEOUT_SECS", "BACKOFF_MIN_MINUTES", "BACKOFF_MAX_MINUTES",
    "MAX_CONCURRENT_RECONCILIATIONS", "FIELD_MANAGER", "LOG_FORMAT"]

/-- The value of a variable, if it is set and is text. -/
def text? (environment : Dict Bytes) (name : String) : Option String :=
  environment[name]?.bind Bytes.text?

/-- A variable that holds a number of at most `bits` bits. -/
def number (environment : Dict Bytes) (name : String) (bits standard : Nat) : Nat :=
  ((text? environment name).bind (Text.natBelow? bits)).getD standard

/-- The settings of an environment. -/
def ofEnvironment (environment : Dict Bytes) : Settings where
  metricsPort := number environment "METRICS_PORT" 16 standard.metricsPort
  serverStartupSecs :=
    number environment "SERVER_STARTUP_TIMEOUT_SECS" 64 standard.serverStartupSecs
  serverPollMillis := number environment "SERVER_POLL_INTERVAL_MS" 64 standard.serverPollMillis
  reconcileTimeoutSecs :=
    number environment "RECONCILE_TIMEOUT_SECS" 64 standard.reconcileTimeoutSecs
  backoffMinMinutes := number environment "BACKOFF_MIN_MINUTES" 64 standard.backoffMinMinutes
  backoffMaxMinutes := number environment "BACKOFF_MAX_MINUTES" 64 standard.backoffMaxMinutes
  maxConcurrent :=
    number environment "MAX_CONCURRENT_RECONCILIATIONS" 16 standard.maxConcurrent
  fieldManager := (text? environment "FIELD_MANAGER").getD standard.fieldManager
  logFormat := (text? environment "LOG_FORMAT").getD standard.logFormat

/-- The deadline of a cycle. -/
def reconcileTimeout (s : Settings) : Duration := .ofSeconds s.reconcileTimeoutSecs

/-- How long to wait for the probe server. -/
def serverStartup (s : Settings) : Duration := .ofSeconds s.serverStartupSecs

/-- The pause between two looks at the probe server. -/
def serverPoll (s : Settings) : Duration := .ofMillis s.serverPollMillis

end Settings

end SecretKeeper
