import SymbolGraph.Text.Blank
import SymbolGraph.Text.Decimal

/-!
# Settings

`Config` holds the limits of the program. Each is read from an environment variable: a decimal
number that may have one leading `+` and blanks around it, within the width of the setting;
anything else leaves the default (`Config.load`).
-/

set_option autoImplicit false

namespace SymbolGraph

/-- The settings. -/
structure Config where
  /-- Open connections to the store. -/
  poolSize : Nat
  /-- Connections kept open when idle. -/
  poolMinIdle : Nat
  /-- Files read at the same time. -/
  ingestWorkers : Nat
  /-- Imports or calls resolved in one step. -/
  resolveBatchSize : Nat
  /-- Levels of callers that an impact query follows. -/
  impactMaxDepth : Nat
  /-- Milliseconds that an impact query may take. -/
  impactTimeoutMs : Nat
  /-- Call sites after which an impact query stops. -/
  impactMaxResults : Nat
  /-- Symbols shown in a dead-code report. -/
  deadCodeLimit : Nat
  /-- Size in bytes above which a file is not read. -/
  maxFileBytes : Nat
  deriving DecidableEq, Repr

namespace Config

/-- The settings that apply where the environment gives none. -/
def default : Config where
  poolSize := 10
  poolMinIdle := 2
  ingestWorkers := 1
  resolveBatchSize := 1000
  impactMaxDepth := 5
  impactTimeoutMs := 5000
  impactMaxResults := 10000
  deadCodeLimit := 50
  maxFileBytes := 10 * 1024 * 1024

/-- The variables of the environment that are read. -/
def variableNames : List String :=
  ["CODESEER_POOL_SIZE", "CODESEER_POOL_MIN_IDLE", "CODESEER_INGEST_WORKERS",
   "CODESEER_RESOLVE_BATCH_SIZE", "CODESEER_IMPACT_MAX_DEPTH", "CODESEER_IMPACT_TIMEOUT_MS",
   "CODESEER_IMPACT_MAX_RESULTS", "CODESEER_DEAD_CODE_LIMIT", "CODESEER_MAX_FILE_BYTES"]

/-- A setting read from the environment, or its default. -/
def setting (environment : String → Option String) (name : String) (bits fallback : Nat) : Nat :=
  match environment name with
  | none => fallback
  | some value => (Text.unsigned? bits (Text.trim value.toList)).getD fallback

/-- The settings of an environment. There is always a worker, and a step resolves at least one
row. -/
def load (environment : String → Option String) : Config where
  poolSize := setting environment "CODESEER_POOL_SIZE" 32 default.poolSize
  poolMinIdle := setting environment "CODESEER_POOL_MIN_IDLE" 32 default.poolMinIdle
  ingestWorkers := max 1 (setting environment "CODESEER_INGEST_WORKERS" 64 default.ingestWorkers)
  resolveBatchSize :=
    max 1 (setting environment "CODESEER_RESOLVE_BATCH_SIZE" 64 default.resolveBatchSize)
  impactMaxDepth := setting environment "CODESEER_IMPACT_MAX_DEPTH" 64 default.impactMaxDepth
  impactTimeoutMs := setting environment "CODESEER_IMPACT_TIMEOUT_MS" 64 default.impactTimeoutMs
  impactMaxResults := setting environment "CODESEER_IMPACT_MAX_RESULTS" 64 default.impactMaxResults
  deadCodeLimit := setting environment "CODESEER_DEAD_CODE_LIMIT" 64 default.deadCodeLimit
  maxFileBytes := setting environment "CODESEER_MAX_FILE_BYTES" 64 default.maxFileBytes

end Config

end SymbolGraph
