/-
**The settings of the service.**

The service reads ten environment variables, each of them once, and makes its configuration from
what it has read. Numbers are unsigned decimals of 64 bits, with a default where the variable is not
set; the database URL, the bind address and the log level are read by parsers of other crates, which
are parameters here.

* `parseU64_toString`: a number is read back from its decimal text.
* `environment_read`: the snapshot of the ten variables is as good as the environment itself. No
  setting is looked up that was not read.
* `environment_round_trip`: every valid configuration in whole units is the one of some environment.
-/

import AccountManagement.Library.Lookups
import AccountManagement.Runtime.Config

namespace AccountManagement.Runtime

open AccountManagement.Library AccountManagement.Task

/-! ### Numbers -/

/-- An unsigned decimal number: a plus sign may come first, and the number has to fit. -/
def parseU64 (text : String) : Option UInt64 :=
  let digits := if text.toList.head? = some '+' then text.toList.tail else text.toList
  if digits ≠ [] ∧ digits.all Char.isDigit then
    if Nat.ofDigitChars 10 digits 0 < 2 ^ 64 then some (.ofNat (Nat.ofDigitChars 10 digits 0))
    else none
  else none

/-- **A number is read back from its decimal text.** -/
theorem parseU64_toString (number : UInt64) : parseU64 (toString number.toNat) = some number := by
  have text : (toString number.toNat).toList = Nat.toDigits 10 number.toNat := Nat.toList_repr
  have digits : ∀ char ∈ Nat.toDigits 10 number.toNat, char.isDigit = true := fun char member =>
    Nat.isDigit_of_mem_toDigits (by decide) (by decide) member
  have unsigned : (Nat.toDigits 10 number.toNat).head? ≠ some '+' := fun first =>
    absurd (digits '+' (List.mem_of_head? first)) (by decide)
  unfold parseU64
  simp only [text, if_neg unsigned]
  rw [if_pos ⟨Nat.toDigits_ne_nil, List.all_eq_true.mpr digits⟩,
    Nat.ofDigitChars_toDigits (by decide) (by decide), if_pos number.toNat_lt]
  exact congrArg some (UInt64.ofNat_toNat)

/-- What the settings are looked up in. -/
abbrev Lookup := String → Option String

def readU64 (lookup : Lookup) (name : String) (default : UInt64) : Option UInt64 :=
  match lookup name with
  | none => some default
  | some value => parseU64 value

/-- A missing value is an error. -/
def okOr {Error Result : Type} (error : Error) : Option Result → Except Error Result
  | none => .error error
  | some result => .ok result

theorem okOr_bind {Error First Second : Type} (error : Error) (value : First)
    (next : First → Except Error Second) : (okOr error (some value) >>= next) = next value := rfl

/-! ### The task runtime -/

def TaskStorageConfig.fromLookup (lookup : Lookup) :
    Except TaskStorageConfigError TaskStorageConfig := do
  let millis ← okOr .invalidEnvironmentValue (readU64 lookup "OUTBOX_STORAGE_TIMEOUT_MS" 6000)
  TaskStorageConfig.new (Duration.fromMillis millis)

/-- A number of the worker pool. The error names the setting. -/
def readWorkerU64 (lookup : Lookup) (name : String) (default : UInt64) :
    Except TaskWorkerPoolConfigError UInt64 :=
  okOr (.invalidEnvironmentValue name) (readU64 lookup name default)

/-- A 64-bit number is a size, so the conversions to `usize` do not fail. -/
def TaskWorkerPoolConfig.fromLookup (lookup : Lookup) :
    Except TaskWorkerPoolConfigError TaskWorkerPoolConfig := do
  let concurrency ← readWorkerU64 lookup "OUTBOX_WORKER_CONCURRENCY" 128
  let queueCapacity ← readWorkerU64 lookup "OUTBOX_QUEUE_CAPACITY" 128
  let pollInterval ← readWorkerU64 lookup "OUTBOX_POLL_INTERVAL_MS" 1000
  let handlerTimeout ← readWorkerU64 lookup "OUTBOX_HANDLER_TIMEOUT_SECS" 15
  let leaseDuration ← readWorkerU64 lookup "OUTBOX_LEASE_SECS" 60
  TaskWorkerPoolConfig.new concurrency.toNat queueCapacity.toNat (Duration.fromMillis pollInterval)
    (Duration.fromSecs handlerTimeout) (Duration.fromSecs leaseDuration)

theorem TaskStorageConfig.new_self (config : TaskStorageConfig) :
    TaskStorageConfig.new config.storageTimeout = .ok config :=
  dif_pos ⟨config.timeoutPositive, config.timeoutFits⟩

theorem TaskRuntimeConfig.new_self (config : TaskRuntimeConfig) :
    TaskRuntimeConfig.new config.storage config.worker = .ok config := by
  unfold TaskRuntimeConfig.new
  split
  · rename_i error rejected
    rw [config.valid] at rejected
    cases rejected
  · rfl

def TaskRuntimeConfig.fromLookup (lookup : Lookup) :
    Except TaskRuntimeConfigError TaskRuntimeConfig := do
  let storage ← (TaskStorageConfig.fromLookup lookup).mapError .storage
  let worker ← (TaskWorkerPoolConfig.fromLookup lookup).mapError .worker
  TaskRuntimeConfig.new storage worker

/-! ### The queue -/

inductive PostgresTaskQueueConfigError where
  | invalidEnvironmentValue
  | invalidStatementTimeout
deriving DecidableEq

/-- The cap of a statement, in the range of the server's setting. -/
structure PostgresTaskQueueConfig where
  statementTimeout : Duration
  timeoutValid : statementTimeout.asMillis ≠ 0 ∧ statementTimeout.asMillis ≤ 2 ^ 31 - 1

def PostgresTaskQueueConfig.new (statementTimeout : Duration) :
    Except PostgresTaskQueueConfigError PostgresTaskQueueConfig :=
  if valid : statementTimeout.asMillis ≠ 0 ∧ statementTimeout.asMillis ≤ 2 ^ 31 - 1 then
    .ok ⟨statementTimeout, valid⟩
  else .error .invalidStatementTimeout

theorem PostgresTaskQueueConfig.new_self (config : PostgresTaskQueueConfig) :
    PostgresTaskQueueConfig.new config.statementTimeout = .ok config :=
  dif_pos config.timeoutValid

def PostgresTaskQueueConfig.fromLookup (lookup : Lookup) :
    Except PostgresTaskQueueConfigError PostgresTaskQueueConfig := do
  let millis ← okOr .invalidEnvironmentValue
    (readU64 lookup "OUTBOX_POSTGRES_STATEMENT_TIMEOUT_MS" 4000)
  PostgresTaskQueueConfig.new (Duration.fromMillis millis)

end AccountManagement.Runtime

namespace AccountManagement.Host

open AccountManagement.Library AccountManagement.Runtime

/-! ### The service -/

/-- The parsers of other crates. -/
structure SettingParsers (Database Address Level : Type) where
  database : String → Option Database
  bindAddress : String → Option Address
  level : String → Option Level

structure ServiceConfig (Database Address Level : Type) where
  database : Database
  bindAddress : Address
  logging : Level
  taskRuntime : TaskRuntimeConfig
  taskQueue : PostgresTaskQueueConfig

inductive VarError where
  | notPresent
  | notUnicode
deriving DecidableEq

inductive ServiceConfigError where
  | missing (name : String)
  | nonUnicode (name : String)
  | databaseScheme
  | database
  | bind
  | logging
  | tasks (error : TaskRuntimeConfigError)
  | postgresQueue (error : PostgresTaskQueueConfigError)
deriving DecidableEq

/-- What stands before the first `://`. -/
def scheme : List Char → Option (List Char)
  | [] => none
  | char :: rest =>
    if [':', '/', '/'].isPrefixOf (char :: rest) then some []
    else (scheme rest).map fun front => char :: front

/-- The scheme is compared without regard to ASCII case. -/
def isPostgresUrl (url : String) : Bool :=
  (scheme url.toList).any fun front =>
    front.map Char.toLower = "postgres".toList || front.map Char.toLower = "postgresql".toList

def envKeys : List String :=
  ["DATABASE_URL", "BIND_ADDRESS", "RUST_LOG", "OUTBOX_STORAGE_TIMEOUT_MS",
    "OUTBOX_WORKER_CONCURRENCY", "OUTBOX_QUEUE_CAPACITY", "OUTBOX_POLL_INTERVAL_MS",
    "OUTBOX_HANDLER_TIMEOUT_SECS", "OUTBOX_LEASE_SECS", "OUTBOX_POSTGRES_STATEMENT_TIMEOUT_MS"]

section Settings

variable {Database Address Level : Type} (parsers : SettingParsers Database Address Level)

def ServiceConfig.fromLookup (lookup : Lookup) :
    Except ServiceConfigError (ServiceConfig Database Address Level) := do
  let url ← okOr (.missing "DATABASE_URL") (lookup "DATABASE_URL")
  if isPostgresUrl url then
    let database ← okOr .database (parsers.database url)
    let address ← okOr (.missing "BIND_ADDRESS") (lookup "BIND_ADDRESS")
    let bindAddress ← okOr .bind (parsers.bindAddress address)
    let logging ← okOr .logging (parsers.level ((lookup "RUST_LOG").getD "info"))
    let taskRuntime ← (TaskRuntimeConfig.fromLookup lookup).mapError .tasks
    let taskQueue ← (PostgresTaskQueueConfig.fromLookup lookup).mapError .postgresQueue
    return ⟨database, bindAddress, logging, taskRuntime, taskQueue⟩
  else throw .databaseScheme

/-- One variable is read into the settings, if it is set. -/
def readSetting (read : String → Except VarError String) (settings : List (String × String))
    (name : String) : Except ServiceConfigError (List (String × String)) :=
  match read name with
  | .ok value => .ok (settings ++ [(name, value)])
  | .error .notPresent => .ok settings
  | .error .notUnicode => .error (.nonUnicode name)

/-- The value of a setting that was read. -/
def lookupIn (settings : List (String × String)) : Lookup := fun name =>
  (settings.find? fun setting => setting.1 = name).map Prod.snd

def ServiceConfig.fromEnvironment (read : String → Except VarError String) :
    Except ServiceConfigError (ServiceConfig Database Address Level) := do
  let settings ← envKeys.foldlM (readSetting read) []
  ServiceConfig.fromLookup parsers (lookupIn settings)

/-! ### The snapshot -/

variable {read : String → Except VarError String}

/-- The variables that are set. -/
def settingsOf (read : String → Except VarError String) (keys : List String) :
    List (String × String) :=
  keys.filterMap fun name => (read name).toOption.map fun value => (name, value)

/-- Without a bad variable, what is read is what is set. -/
theorem foldlM_readSetting {keys : List String} (settings : List (String × String))
    (unicode : ∀ name ∈ keys, read name ≠ .error .notUnicode) :
    keys.foldlM (readSetting read) settings = .ok (settings ++ settingsOf read keys) := by
  induction keys generalizing settings with
  | nil => exact congrArg Except.ok (List.append_nil settings).symm
  | cons name rest ih =>
    obtain ⟨here, later⟩ := List.forall_mem_cons.mp unicode
    rw [List.foldlM_cons]
    unfold readSetting settingsOf
    cases value : read name with
    | ok text =>
      rw [List.filterMap_cons_some (by rw [value]; rfl)]
      show rest.foldlM (readSetting read) (settings ++ [(name, text)]) = _
      rw [ih _ later, List.append_assoc]
      rfl
    | error error =>
      cases error with
      | notPresent =>
        rw [List.filterMap_cons_none (by rw [value]; rfl)]
        exact ih settings later
      | notUnicode => exact absurd value here

theorem mem_settingsOf {keys : List String} {setting : String × String} :
    setting ∈ settingsOf read keys ↔ setting.1 ∈ keys ∧ read setting.1 = .ok setting.2 := by
  unfold settingsOf
  rw [List.mem_filterMap]
  constructor
  · rintro ⟨name, member, made⟩
    cases value : read name with
    | ok text =>
      rw [value] at made
      obtain rfl := Option.some.inj made
      exact ⟨member, value⟩
    | error error =>
      rw [value] at made
      cases made
  · rintro ⟨member, value⟩
    refine ⟨setting.1, member, ?_⟩
    rw [value]
    rfl

/-- The settings that were read are looked up as in the environment. -/
theorem lookupIn_settingsOf {keys : List String} {name : String} (member : name ∈ keys) :
    lookupIn (settingsOf read keys) name = (read name).toOption := by
  unfold lookupIn
  cases found : (settingsOf read keys).find? fun setting => setting.1 = name with
  | some setting =>
    have named : setting.1 = name := by simpa using List.find?_some found
    have value := (mem_settingsOf.mp (List.mem_of_find?_eq_some found)).2
    rw [← named, value]
    rfl
  | none =>
    cases value : read name with
    | error error => rfl
    | ok text =>
      have listed : (name, text) ∈ settingsOf read keys := mem_settingsOf.mpr ⟨member, value⟩
      exact absurd (List.find?_eq_none.mp found (name, text) listed) (by simp)

/-- Nothing else is looked up. -/
theorem fromLookup_congr {first second : Lookup}
    (same : ∀ name ∈ envKeys, first name = second name) :
    ServiceConfig.fromLookup parsers first = ServiceConfig.fromLookup parsers second := by
  unfold envKeys at same
  simp only [List.forall_mem_cons] at same
  obtain ⟨url, address, level, storage, concurrency, capacity, poll, handler, lease, statement,
    _⟩ := same
  simp only [ServiceConfig.fromLookup, TaskRuntimeConfig.fromLookup, TaskStorageConfig.fromLookup,
    TaskWorkerPoolConfig.fromLookup, PostgresTaskQueueConfig.fromLookup, readWorkerU64, readU64,
    url, address, level, storage, concurrency, capacity, poll, handler, lease, statement]

theorem fromEnvironment_eq (unicode : ∀ name ∈ envKeys, read name ≠ .error .notUnicode) :
    ServiceConfig.fromEnvironment parsers read
      = ServiceConfig.fromLookup parsers fun name => (read name).toOption := by
  unfold ServiceConfig.fromEnvironment
  rw [foldlM_readSetting [] unicode]
  exact fromLookup_congr parsers fun name member => lookupIn_settingsOf member

/-- **The environment is read once, and nothing else is looked up.** Without a variable that is no
text, the configuration is the one of the environment itself. Otherwise the first such variable is
reported, whatever the others hold. -/
theorem environment_read (read : String → Except VarError String) :
    ((∀ name ∈ envKeys, read name ≠ .error .notUnicode) →
      ServiceConfig.fromEnvironment parsers read
        = ServiceConfig.fromLookup parsers fun name => (read name).toOption) ∧
    ∀ front name back, envKeys = front ++ name :: back →
      (∀ earlier ∈ front, read earlier ≠ .error .notUnicode) →
      read name = .error .notUnicode →
      ServiceConfig.fromEnvironment parsers read = .error (.nonUnicode name) := by
  refine ⟨fromEnvironment_eq parsers, fun front name back keys unicode bad => ?_⟩
  unfold ServiceConfig.fromEnvironment
  rw [keys, List.foldlM_append, foldlM_readSetting [] unicode]
  show ((name :: back).foldlM (readSetting read) _ >>= _) = _
  rw [List.foldlM_cons]
  unfold readSetting
  rw [bad]
  rfl

/-! ### The round trip -/

/-- The numbers of a configuration, in the units of their settings. -/
structure Numbers where
  storageTimeout : UInt64
  concurrency : UInt64
  queueCapacity : UInt64
  pollInterval : UInt64
  handlerTimeout : UInt64
  leaseDuration : UInt64
  statementTimeout : UInt64

namespace Numbers

/-- They say what is configured. -/
structure Describe (numbers : Numbers) (runtime : TaskRuntimeConfig)
    (queue : PostgresTaskQueueConfig) : Prop where
  storageTimeout : runtime.storage.storageTimeout = Duration.fromMillis numbers.storageTimeout
  concurrency : runtime.worker.concurrency = numbers.concurrency.toNat
  queueCapacity : runtime.worker.queueCapacity = numbers.queueCapacity.toNat
  pollInterval : runtime.worker.pollInterval = Duration.fromMillis numbers.pollInterval
  handlerTimeout : runtime.worker.handlerTimeout = Duration.fromSecs numbers.handlerTimeout
  leaseDuration : runtime.worker.leaseDuration = Duration.fromSecs numbers.leaseDuration
  statementTimeout : queue.statementTimeout = Duration.fromMillis numbers.statementTimeout

/-- The settings that say so. -/
def settings (numbers : Numbers) (url address level : String) : List (String × String) :=
  [("DATABASE_URL", url), ("BIND_ADDRESS", address), ("RUST_LOG", level),
    ("OUTBOX_STORAGE_TIMEOUT_MS", toString numbers.storageTimeout.toNat),
    ("OUTBOX_WORKER_CONCURRENCY", toString numbers.concurrency.toNat),
    ("OUTBOX_QUEUE_CAPACITY", toString numbers.queueCapacity.toNat),
    ("OUTBOX_POLL_INTERVAL_MS", toString numbers.pollInterval.toNat),
    ("OUTBOX_HANDLER_TIMEOUT_SECS", toString numbers.handlerTimeout.toNat),
    ("OUTBOX_LEASE_SECS", toString numbers.leaseDuration.toNat),
    ("OUTBOX_POSTGRES_STATEMENT_TIMEOUT_MS", toString numbers.statementTimeout.toNat)]

end Numbers

/-- An environment in which the given settings are all that is set. -/
def environmentOf (settings : List (String × String)) (name : String) : Except VarError String :=
  match lookupIn settings name with
  | none => .error .notPresent
  | some value => .ok value

theorem environmentOf_ne (settings : List (String × String)) (name : String) :
    environmentOf settings name ≠ .error .notUnicode := by
  unfold environmentOf
  split <;> simp

theorem environmentOf_toOption (settings : List (String × String)) (name : String) :
    (environmentOf settings name).toOption = lookupIn settings name := by
  unfold environmentOf
  split
  · rename_i missing
    rw [missing]
    rfl
  · rename_i value found
    rw [found]
    rfl

theorem lookupIn_of_mem {settings : List (String × String)}
    (distinct : (settings.map Prod.fst).Nodup) {setting : String × String}
    (member : setting ∈ settings) : lookupIn settings setting.1 = some setting.2 := by
  unfold lookupIn
  rw [find?_of_keyed distinct member]
  rfl

variable {numbers : Numbers} {runtime : TaskRuntimeConfig} {queue : PostgresTaskQueueConfig}
  {url address level : String}

theorem Numbers.lookup_settings {setting : String × String}
    (member : setting ∈ numbers.settings url address level) :
    lookupIn (numbers.settings url address level) setting.1 = some setting.2 := by
  refine lookupIn_of_mem ?_ member
  show envKeys.Nodup
  decide

/-- Each number is read as it was written. -/
theorem Numbers.read_settings {name : String} {number : UInt64}
    (member : (name, toString number.toNat) ∈ numbers.settings url address level)
    (default : UInt64) :
    readU64 (lookupIn (numbers.settings url address level)) name default = some number := by
  unfold readU64
  rw [Numbers.lookup_settings member]
  exact parseU64_toString number

theorem storage_of_settings (describe : numbers.Describe runtime queue) :
    TaskStorageConfig.fromLookup (lookupIn (numbers.settings url address level))
      = .ok runtime.storage := by
  have millis := @Numbers.read_settings numbers url address level "OUTBOX_STORAGE_TIMEOUT_MS"
    numbers.storageTimeout (by simp [Numbers.settings]) 6000
  unfold TaskStorageConfig.fromLookup
  rw [millis, okOr_bind, ← describe.storageTimeout]
  exact runtime.storage.new_self

theorem worker_of_settings (describe : numbers.Describe runtime queue) :
    TaskWorkerPoolConfig.fromLookup (lookupIn (numbers.settings url address level))
      = .ok runtime.worker := by
  have reads : ∀ {name : String} {number : UInt64},
      (name, toString number.toNat) ∈ numbers.settings url address level → ∀ default,
      readWorkerU64 (lookupIn (numbers.settings url address level)) name default = .ok number := by
    intro name number member default
    unfold readWorkerU64
    rw [Numbers.read_settings member]
    rfl
  unfold TaskWorkerPoolConfig.fromLookup
  rw [@reads "OUTBOX_WORKER_CONCURRENCY" numbers.concurrency (by simp [Numbers.settings]),
    @reads "OUTBOX_QUEUE_CAPACITY" numbers.queueCapacity (by simp [Numbers.settings]),
    @reads "OUTBOX_POLL_INTERVAL_MS" numbers.pollInterval (by simp [Numbers.settings]),
    @reads "OUTBOX_HANDLER_TIMEOUT_SECS" numbers.handlerTimeout (by simp [Numbers.settings]),
    @reads "OUTBOX_LEASE_SECS" numbers.leaseDuration (by simp [Numbers.settings])]
  show TaskWorkerPoolConfig.new numbers.concurrency.toNat numbers.queueCapacity.toNat
    (Duration.fromMillis numbers.pollInterval) (Duration.fromSecs numbers.handlerTimeout)
    (Duration.fromSecs numbers.leaseDuration) = _
  rw [← describe.concurrency, ← describe.queueCapacity, ← describe.pollInterval,
    ← describe.handlerTimeout, ← describe.leaseDuration]
  exact runtime.worker.new_self

theorem queue_of_settings (describe : numbers.Describe runtime queue) :
    PostgresTaskQueueConfig.fromLookup (lookupIn (numbers.settings url address level))
      = .ok queue := by
  have millis := @Numbers.read_settings numbers url address level
    "OUTBOX_POSTGRES_STATEMENT_TIMEOUT_MS" numbers.statementTimeout (by simp [Numbers.settings])
    4000
  unfold PostgresTaskQueueConfig.fromLookup
  rw [millis, okOr_bind, ← describe.statementTimeout]
  exact queue.new_self

/-- **Every configuration in whole units can be set.** If the numbers describe a valid runtime and
queue configuration, and the parsers accept the URL, the address and the level, then the environment
with these settings is read as that configuration. -/
theorem environment_round_trip (describe : numbers.Describe runtime queue)
    {database : Database} {bindAddress : Address} {logging : Level}
    (postgres : isPostgresUrl url = true) (connects : parsers.database url = some database)
    (binds : parsers.bindAddress address = some bindAddress)
    (logs : parsers.level level = some logging) :
    ServiceConfig.fromEnvironment parsers (environmentOf (numbers.settings url address level))
      = .ok ⟨database, bindAddress, logging, runtime, queue⟩ := by
  have runtimeRead : TaskRuntimeConfig.fromLookup
      (lookupIn (numbers.settings url address level)) = .ok runtime := by
    unfold TaskRuntimeConfig.fromLookup
    rw [storage_of_settings describe, worker_of_settings describe]
    exact runtime.new_self
  have urlSet : lookupIn (numbers.settings url address level) "DATABASE_URL" = some url :=
    Numbers.lookup_settings List.mem_cons_self
  have addressSet : lookupIn (numbers.settings url address level) "BIND_ADDRESS" = some address :=
    Numbers.lookup_settings (List.mem_cons_of_mem _ List.mem_cons_self)
  have levelSet : lookupIn (numbers.settings url address level) "RUST_LOG" = some level :=
    Numbers.lookup_settings
      (List.mem_cons_of_mem _ (List.mem_cons_of_mem _ List.mem_cons_self))
  rw [fromEnvironment_eq parsers fun name _ => environmentOf_ne _ name,
    funext (environmentOf_toOption (numbers.settings url address level))]
  unfold ServiceConfig.fromLookup
  rw [urlSet, okOr_bind, if_pos postgres, connects, okOr_bind, addressSet, okOr_bind, binds,
    okOr_bind, levelSet, Option.getD_some, logs, okOr_bind, runtimeRead,
    queue_of_settings describe]
  rfl

end Settings

/-- Parsers that accept every text. -/
def plainParsers : SettingParsers String String String := ⟨some, some, some⟩

theorem environment_read_badLevel :
    ServiceConfig.fromEnvironment plainParsers
      (fun name => .error (if name = "RUST_LOG" then .notUnicode else .notPresent))
        = .error (.nonUnicode "RUST_LOG") ∧
    (ServiceConfig.fromEnvironment plainParsers
        (environmentOf [("DATABASE_URL", "postgres://localhost"), ("OUTBOX_LEASE_SECS", "0"),
          ("BIND_ADDRESS", "127.0.0.1:8080")])
      = ServiceConfig.fromLookup plainParsers fun name =>
        (environmentOf [("DATABASE_URL", "postgres://localhost"), ("OUTBOX_LEASE_SECS", "0"),
          ("BIND_ADDRESS", "127.0.0.1:8080")] name).toOption) ∧
    ServiceConfig.fromEnvironment plainParsers
        (environmentOf [("DATABASE_URL", "postgres://localhost"), ("OUTBOX_LEASE_SECS", "0"),
          ("BIND_ADDRESS", "127.0.0.1:8080")])
      = .error (.tasks (.worker .invalidLeaseDuration)) := by
  have unicode := fun settings (name : String) (_ : name ∈ envKeys) =>
    environmentOf_ne settings name
  refine ⟨?_, ?_, ?_⟩
  · exact (environment_read plainParsers _).2 ["DATABASE_URL", "BIND_ADDRESS"] "RUST_LOG" _ rfl
      (by decide) rfl
  · exact (environment_read plainParsers _).1 (unicode _)
  · rw [(environment_read plainParsers _).1 (unicode _)]
    rfl

/-- Twelve places for four workers, and a minute and a half for the lease. -/
def smallNumbers : Numbers := ⟨2500, 4, 12, 250, 12, 90, 1500⟩

theorem environment_round_trip_small :
    ∃ runtime queue, smallNumbers.Describe runtime queue ∧
      ServiceConfig.fromEnvironment plainParsers (environmentOf
          (smallNumbers.settings "postgresql://db/accounts" "0.0.0.0:80" "debug"))
        = .ok ⟨"postgresql://db/accounts", "0.0.0.0:80", "debug", runtime, queue⟩ := by
  let worker : TaskWorkerPoolConfig := ⟨4, 12, .fromMillis 250, .fromSecs 12, .fromSecs 90,
    by decide, by decide, by decide, by decide, by decide⟩
  let runtime : TaskRuntimeConfig :=
    ⟨⟨.fromMillis 2500, by decide, by decide⟩, worker, by decide +kernel⟩
  let queue : PostgresTaskQueueConfig := ⟨.fromMillis 1500, by decide⟩
  have describe : smallNumbers.Describe runtime queue := ⟨rfl, rfl, rfl, rfl, rfl, rfl, rfl⟩
  exact ⟨runtime, queue, describe,
    environment_round_trip plainParsers describe (by decide +kernel) rfl rfl rfl⟩

end AccountManagement.Host
