import DocStore.Error
import DocStore.Json.Decode
import DocStore.Json.Reader
import DocStore.Text.Numeral

/-!
# Configuration

Where the store is, how many connections a client keeps, how long operations may take, and how
many documents a cursor fetches at once. A configuration is read from JSON text, from a file or
from variables of the environment; missing parts take their defaults.
-/

namespace DocStore

/-- The settings of a pool of connections. -/
structure PoolConfig where
  maxSize : Nat := 10
  acquireTimeoutMs : Nat := 5000

/-- The settings of a client. -/
structure Config where
  uri : String := "mongodb://localhost:27017"
  database : String := "doclite"
  pool : PoolConfig := {}
  /-- How long an operation may take; without it there is no bound. -/
  deadlineMs : Option Nat := none
  batchSize : Nat := 101

namespace PoolConfig

/-- The JSON form of the settings of a pool. -/
def toJson (p : PoolConfig) : Json :=
  .obj [("max_size", .nat p.maxSize), ("acquire_timeout_ms", .nat p.acquireTimeoutMs)]

/-- The names of the settings of a pool. -/
def keys : List String := ["max_size", "acquire_timeout_ms"]

/-- The settings of a pool from their values by position. -/
def ofFields? : List (Option Json) → Option PoolConfig
  | [maxSize, acquireTimeoutMs] => do
    pure {
      maxSize := ← Json.defaulted? 10 Json.asNat64? maxSize
      acquireTimeoutMs := ← Json.defaulted? 5000 Json.asNat64? acquireTimeoutMs }
  | _ => none

end PoolConfig

namespace Config

/-- The settings for a database, all others by default. -/
def forDatabase (database : String) : Config := { database }

/-- The JSON form of the settings. -/
def toJson (c : Config) : Json :=
  .obj [("uri", .str c.uri), ("database", .str c.database), ("pool", c.pool.toJson),
    ("deadline_ms", (c.deadlineMs.map Json.nat).getD .null), ("batch_size", .nat c.batchSize)]

/-- The names of the settings. -/
def keys : List String := ["uri", "database", "pool", "deadline_ms", "batch_size"]

/-- The settings from their values by position, the pool apart. -/
def ofFields? (pool : PoolConfig) (uri database deadlineMs batchSize : Option Json) :
    Option Config := do
  pure {
    uri := ← Json.defaulted? "mongodb://localhost:27017" Json.text? uri
    database := ← Json.defaulted? "doclite" Json.text? database
    pool
    deadlineMs := ← Json.optional? Json.asNat64? deadlineMs
    batchSize := ← Json.defaulted? 101 Json.asNat32? batchSize }

/-- The settings that a value stands for. -/
def ofJson? (v : Json) : Option Config := do
  match ← v.recordFields? keys with
  | [uri, database, pool, deadlineMs, batchSize] =>
    let pool ← Json.defaulted? {}
      (fun p => (p.recordFields? PoolConfig.keys).bind PoolConfig.ofFields?) pool
    ofFields? pool uri database deadlineMs batchSize
  | _ => none

/-- The value of a part of a text, if it is there. -/
def partValue? : Option Json.Syntax → Option (Option Json)
  | none => some none
  | some s => (s.value? Json.Syntax.depthLimit).map some

/-- The settings that a text stands for. Parts that are no settings are skipped unread. -/
def ofSyntax? (s : Json.Syntax) : Option Config := do
  match ← s.recordFields? keys with
  | [uri, database, pool, deadlineMs, batchSize] =>
    let pool ← match pool with
      | none => some {}
      | some p => do PoolConfig.ofFields? (← (← p.recordFields? PoolConfig.keys).mapM partValue?)
    ofFields? pool (← partValue? uri) (← partValue? database) (← partValue? deadlineMs)
      (← partValue? batchSize)
  | _ => none

/-- Refuses settings that the pools cannot keep. -/
def validate (c : Config) : Result Unit :=
  if c.pool.maxSize = 0 then .error (.validation "pool.max_size" .atLeastOne (.text "0"))
  else if c.batchSize = 0 then .error (.validation "batch_size" .atLeastOne (.text "0"))
  else if c.database.isEmpty then .error (.validation "database" .nonEmptyName (.text "\"\""))
  else .ok ()

/-- Reads and checks settings from JSON text. -/
def ofText (text : String) : Result Config :=
  match (Json.Syntax.parse? text).bind ofSyntax? with
  | none => .error (.validation "config" .clientConfig (.text "malformed settings"))
  | some c => do
    c.validate
    pure c

/-- Reads and checks settings from the content of a file, or says why there is none. -/
def ofFile (path : String) : Except String String → Result Config
  | .ok content => ofText content
  | .error reason => .error (.validation path .readableConfig (.text reason))

/-- Reads a number from a variable, if it is set. -/
def numberVariable (name : String) (expected : Expected) (lookup : String → Option String) :
    Result (Option Nat) :=
  match lookup name with
  | none => .ok none
  | some s =>
    match Text.nat64? s.toList with
    | some n => .ok (some n)
    | none => .error (.validation name expected (.text s))

/-- Reads and checks settings from variables, all others by default. -/
def ofEnvironment (lookup : String → Option String) : Result Config := do
  let size ← numberVariable "MONGO_POOL_SIZE" .positiveInteger lookup
  let timeout ← numberVariable "MONGO_TIMEOUT_MS" .milliseconds lookup
  let c : Config := {}
  let c := { c with
    uri := (lookup "MONGO_URI").getD c.uri
    database := (lookup "MONGO_DB").getD c.database
    pool := { c.pool with maxSize := size.getD c.pool.maxSize }
    deadlineMs := timeout }
  c.validate
  pure c

end Config

end DocStore
