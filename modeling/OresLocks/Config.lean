import OresLocks.MaintainedRust
import OresLocks.Shared.Checks

/-!
# The lock configuration of the Rust crate

The TOML parser is a parameter. A map from environment keys to bindings is the list of
its entries.
-/

namespace OresLocks.Config

set_option autoImplicit false

open Shared.Utf8
open Shared.Checks
open Maintained (AcquireOptions)

def lockConfigSchemaV1 : String := "ores.lock.config.v1"

def maxConfigEnvs : Nat := 128

def maxConfigProfiles : Nat := 64

def maxWaitTimeoutMs : Nat := 86400000

def maxRetryIntervalMs : Nat := 60000

def maxTtlMs : Nat := 86400000

def maxRenewIntervalMs : Nat := 43200000

inductive EnvKind where
  | string
  | boolean
  | integer
  | double
  | url
  | path
  deriving DecidableEq

inductive OuterLeaseAuthority where
  | fiducia
  | cloudflareDurableObject
  | beamScaleCriticalSection
  | redis
  deriving DecidableEq

structure EnvBinding where
  key : String
  kind : EnvKind
  required : Bool
  secret : Bool
  purpose : String

structure ProviderSelection where
  localFile : Bool
  fiducia : Bool
  pgAdvisory : Bool

structure LocalFileProviderConfig where
  rootEnv : String
  requireExistingRoot : Bool

structure FiduciaProviderConfig where
  endpointEnv : String
  authTokenEnv : String

structure CloudflareDurableObjectProviderConfig where
  endpointEnv : String
  apiTokenEnv : String

structure BeamScaleCriticalSectionProviderConfig where
  endpointEnv : String
  apiTokenEnv : String
  deploymentIdEnv : String

structure RedisProviderConfig where
  endpointEnv : String
  authTokenEnv : String
  «namespace» : Option String

inductive PostgresLockScope where
  | transaction
  | session
  deriving DecidableEq

inductive PgScope where
  | transaction
  | session
  deriving DecidableEq

def PgScope.from : PostgresLockScope → PgScope
  | .transaction => .transaction
  | .session => .session

structure PostgresProviderConfig where
  databaseUrlEnv : String
  scope : PostgresLockScope

structure LockProfileConfig where
  profileId : String
  wait : Bool
  waitTimeoutMs : Nat
  retryIntervalMs : Nat
  ttlMs : Option Nat
  renewIntervalMs : Option Nat
  providers : ProviderSelection
  outerAuthority : Option OuterLeaseAuthority
  localFile : Option LocalFileProviderConfig
  fiducia : Option FiduciaProviderConfig
  cloudflareDurableObject : Option CloudflareDurableObjectProviderConfig
  beamscaleCriticalSection : Option BeamScaleCriticalSectionProviderConfig
  redis : Option RedisProviderConfig
  postgres : Option PostgresProviderConfig

structure OresLockConfigV1 where
  schemaVersion : String
  defaultProfile : String
  selectedProfileEnv : Option String
  env : List EnvBinding
  profiles : List LockProfileConfig

structure LockConfigError where
  code : String
  path : String
  message : String
  deriving DecidableEq

/-! ## Projections of a profile -/

/-- `Duration::from_millis`. -/
def fromMillis (ms : Nat) : Duration := ms * 1000000

structure LockLayers where
  fiducia : Bool
  pgAdvisory : Bool
  deriving DecidableEq

structure LocalFileLockOptions where
  wait : Bool
  waitTimeout : Duration
  retryInterval : Duration

namespace LockProfileConfig

def layers (profile : LockProfileConfig) : LockLayers :=
  ⟨profile.providers.fiducia, profile.providers.pgAdvisory⟩

/-- The method `outer_authority`; the field has the same name in the source. -/
def selectedAuthority (profile : LockProfileConfig) : Option OuterLeaseAuthority :=
  if profile.providers.fiducia then some (profile.outerAuthority.getD .fiducia) else none

def pgScope (profile : LockProfileConfig) : Option PgScope :=
  profile.postgres.map fun config => .from config.scope

def localFileOptions (profile : LockProfileConfig) : Option LocalFileLockOptions :=
  if profile.providers.localFile then
    some ⟨profile.wait, fromMillis profile.waitTimeoutMs, fromMillis profile.retryIntervalMs⟩
  else none

def leaseAcquireOptions (profile : LockProfileConfig) :
    Except LockConfigError (Option (AcquireOptions × Bool)) :=
  if !profile.providers.fiducia then .ok none
  else do
    let ttlMs ← required profile.ttlMs
      ⟨"ttl_missing", "profiles.ttl_ms", "enabled managed outer lease requires ttl_ms"⟩
    .ok (some (⟨fromMillis ttlMs, fromMillis profile.waitTimeoutMs,
      fromMillis profile.retryIntervalMs, none⟩, profile.wait))

end LockProfileConfig

/-! ## Validation -/

def isAsciiUppercase (byte : UInt8) : Bool := 0x41 ≤ byte && byte ≤ 0x5a

def isAsciiLowercase (byte : UInt8) : Bool := 0x61 ≤ byte && byte ≤ 0x7a

def isAsciiDigit (byte : UInt8) : Bool := 0x30 ≤ byte && byte ≤ 0x39

def validEnvKey (value : String) : Bool :=
  match utf8 value with
  | [] => false
  | first :: bytes =>
    if 128 < (first :: bytes).length then false
    else (isAsciiUppercase first || first == 0x5f) &&
      bytes.all fun byte => isAsciiUppercase byte || isAsciiDigit byte || byte == 0x5f

def edge (byte : UInt8) : Bool := isAsciiLowercase byte || isAsciiDigit byte

def validId (value : String) : Bool :=
  match utf8 value with
  | [] => false
  | first :: bytes =>
    if 128 < (first :: bytes).length then false
    else edge first && edge ((first :: bytes).getLast (List.cons_ne_nil first bytes)) &&
      (first :: bytes).all fun byte => edge byte || byte == 0x2d || byte == 0x5f

abbrev EnvMap := List (String × EnvBinding)

def validateEnvBinding (binding : EnvBinding) : Except LockConfigError Unit := do
  rejectIf (!validEnvKey binding.key)
    ⟨"env_key", "env.key", "environment keys must use portable UPPER_SNAKE_CASE"⟩
  rejectIf ((utf8 binding.purpose).isEmpty || 255 < (utf8 binding.purpose).length)
    ⟨"env_purpose", "env.purpose", "environment binding purpose must contain 1..=255 bytes"⟩

def lookupBinding (env : EnvMap) (key path : String) : Except LockConfigError EnvBinding :=
  required (env.lookup key)
    ⟨"env_reference_missing", path, "provider environment reference must name a declared binding"⟩

def requireBinding (binding : EnvBinding) (kind : EnvKind) (secret : Bool) (path message : String) :
    Except LockConfigError Unit :=
  rejectIf (binding.kind != kind || binding.secret != secret) ⟨"env_reference_policy", path, message⟩

def endpointMessage : String → String
  | "Fiducia" => "Fiducia endpoint must be a non-secret URL environment binding"
  | "Cloudflare Durable Object" =>
    "Cloudflare Durable Object endpoint must be a non-secret URL environment binding"
  | "BeamScale critical section" =>
    "BeamScale critical-section endpoint must be a non-secret URL environment binding"
  | "Redis" => "Redis endpoint must be a non-secret URL environment binding"
  | _ => "authority endpoint must be a non-secret URL environment binding"

def secretMessage : String → String
  | "Fiducia" => "Fiducia auth token must be a secret string environment binding"
  | "Cloudflare Durable Object" =>
    "Cloudflare Durable Object API token must be a secret string environment binding"
  | "BeamScale critical section" =>
    "BeamScale API token must be a secret string environment binding"
  | "Redis" => "Redis auth token must be a secret string environment binding"
  | _ => "authority credential must be a secret string environment binding"

def validateEndpointAndSecret (env : EnvMap)
    (endpointEnv secretEnv endpointPath secretPath authorityName : String) :
    Except LockConfigError Unit := do
  let endpoint ← lookupBinding env endpointEnv endpointPath
  requireBinding endpoint .url false endpointPath (endpointMessage authorityName)
  let secret ← lookupBinding env secretEnv secretPath
  requireBinding secret .string true secretPath (secretMessage authorityName)

/-- One arm of the match on the authority: no other table, its own table, the check
of that table. -/
def authorityTable {α : Type} (others : Bool) (conflict : String) (table : Option α)
    (missing : LockConfigError) (check : α → Except LockConfigError Unit) :
    Except LockConfigError Unit := do
  rejectIf others ⟨"outer_authority_conflict", "profiles.outer_authority", conflict⟩
  let table ← required table missing
  check table

def validateFiducia (profile : LockProfileConfig) (env : EnvMap) : Except LockConfigError Unit :=
  authorityTable
    (profile.cloudflareDurableObject.isSome || profile.beamscaleCriticalSection.isSome ||
      profile.redis.isSome)
    "Fiducia authority must not carry Cloudflare, BeamScale, or Redis config"
    profile.fiducia
    ⟨"fiducia_missing", "profiles.fiducia", "Fiducia authority requires its config table"⟩
    fun fiducia => validateEndpointAndSecret env fiducia.endpointEnv fiducia.authTokenEnv
      "profiles.fiducia.endpoint_env" "profiles.fiducia.auth_token_env" "Fiducia"

def validateCloudflare (profile : LockProfileConfig) (env : EnvMap) :
    Except LockConfigError Unit :=
  authorityTable
    (profile.fiducia.isSome || profile.beamscaleCriticalSection.isSome || profile.redis.isSome)
    "Cloudflare authority must not carry Fiducia, BeamScale, or Redis config"
    profile.cloudflareDurableObject
    ⟨"cloudflare_missing", "profiles.cloudflare_durable_object",
      "Cloudflare Durable Object authority requires its config table"⟩
    fun cloudflare => validateEndpointAndSecret env cloudflare.endpointEnv cloudflare.apiTokenEnv
      "profiles.cloudflare_durable_object.endpoint_env"
      "profiles.cloudflare_durable_object.api_token_env" "Cloudflare Durable Object"

def validateBeamscale (profile : LockProfileConfig) (env : EnvMap) : Except LockConfigError Unit :=
  authorityTable
    (profile.fiducia.isSome || profile.cloudflareDurableObject.isSome || profile.redis.isSome)
    "BeamScale authority must not carry Fiducia, Cloudflare, or Redis config"
    profile.beamscaleCriticalSection
    ⟨"beamscale_missing", "profiles.beamscale_critical_section",
      "BeamScale critical-section authority requires its config table"⟩
    fun beamscale => do
      validateEndpointAndSecret env beamscale.endpointEnv beamscale.apiTokenEnv
        "profiles.beamscale_critical_section.endpoint_env"
        "profiles.beamscale_critical_section.api_token_env" "BeamScale critical section"
      let deployment ← lookupBinding env beamscale.deploymentIdEnv
        "profiles.beamscale_critical_section.deployment_id_env"
      requireBinding deployment .string false
        "profiles.beamscale_critical_section.deployment_id_env"
        "BeamScale deployment id must be a non-secret string environment binding"

def validateRedis (profile : LockProfileConfig) (env : EnvMap) : Except LockConfigError Unit :=
  authorityTable
    (profile.fiducia.isSome || profile.cloudflareDurableObject.isSome ||
      profile.beamscaleCriticalSection.isSome)
    "Redis authority must not carry Fiducia, Cloudflare, or BeamScale config"
    profile.redis
    ⟨"redis_missing", "profiles.redis", "Redis authority requires its config table"⟩
    fun redis => do
      validateEndpointAndSecret env redis.endpointEnv redis.authTokenEnv
        "profiles.redis.endpoint_env" "profiles.redis.auth_token_env" "Redis"
      rejectIf (redis.namespace.any String.isEmpty) ⟨"redis_namespace", "profiles.redis.namespace",
        "Redis namespace must be absent or non-empty"⟩

/-- The checks when the managed outer lease is off. -/
def validateDormantAuthority (profile : LockProfileConfig) : Except LockConfigError Unit := do
  rejectIf profile.outerAuthority.isSome ⟨"outer_authority_dormant", "profiles.outer_authority",
    "outer_authority must be absent when the managed outer lease layer is disabled"⟩
  rejectIf (profile.fiducia.isSome || profile.cloudflareDurableObject.isSome ||
      profile.beamscaleCriticalSection.isSome || profile.redis.isSome)
    ⟨"outer_authority_config_dormant", "profiles",
      "disabled managed outer lease must not carry authority config"⟩
  rejectIf (profile.ttlMs.isSome || profile.renewIntervalMs.isSome) ⟨"outer_tuning_dormant",
    "profiles.ttl_ms",
    "managed-lease timing must be absent when the outer lease layer is disabled"⟩

def validateOuterAuthority (profile : LockProfileConfig) (env : EnvMap) :
    Except LockConfigError Unit :=
  if !profile.providers.fiducia then validateDormantAuthority profile
  else do
    let ttl ← required profile.ttlMs
      ⟨"ttl_missing", "profiles.ttl_ms", "enabled managed outer lease requires ttl_ms"⟩
    rejectIf (ttl == 0 || maxTtlMs < ttl)
      ⟨"ttl", "profiles.ttl_ms", "ttl_ms is outside the portable range"⟩
    rejectIf (profile.renewIntervalMs.any fun renew =>
        renew == 0 || maxRenewIntervalMs < renew || ttl / 2 < renew)
      ⟨"renew_interval", "profiles.renew_interval_ms",
        "renew_interval_ms must be positive, bounded, and no greater than ttl_ms / 2"⟩
    match profile.outerAuthority.getD .fiducia with
    | .fiducia => validateFiducia profile env
    | .cloudflareDurableObject => validateCloudflare profile env
    | .beamScaleCriticalSection => validateBeamscale profile env
    | .redis => validateRedis profile env

def validateTiming (profile : LockProfileConfig) : Except LockConfigError Unit := do
  rejectIf (maxWaitTimeoutMs < profile.waitTimeoutMs) ⟨"wait_timeout", "profiles.wait_timeout_ms",
    "wait_timeout_ms exceeds the portable maximum"⟩
  rejectIf (maxRetryIntervalMs < profile.retryIntervalMs) ⟨"retry_interval",
    "profiles.retry_interval_ms", "retry_interval_ms exceeds the portable maximum"⟩
  rejectIf (profile.wait && profile.retryIntervalMs == 0) ⟨"retry_interval",
    "profiles.retry_interval_ms", "retry_interval_ms must be positive when wait=true"⟩
  rejectIf (!profile.wait && profile.waitTimeoutMs != 0) ⟨"wait_timeout",
    "profiles.wait_timeout_ms", "wait_timeout_ms must be zero when wait=false"⟩

/-- The match on a provider and its table: present exactly when it is enabled. -/
def providerTable {α : Type} (enabled : Bool) (table : Option α) (missing dormant : LockConfigError)
    (check : α → Except LockConfigError Unit) : Except LockConfigError Unit :=
  match enabled, table with
  | true, some table => check table
  | true, none => .error missing
  | false, some _ => .error dormant
  | false, none => .ok ()

def validateLocalFile (profile : LockProfileConfig) (env : EnvMap) : Except LockConfigError Unit :=
  providerTable profile.providers.localFile profile.localFile
    ⟨"local_file_missing", "profiles.local_file",
      "enabled local_file provider requires its config table"⟩
    ⟨"local_file_dormant", "profiles.local_file",
      "disabled local_file provider must not carry dormant config"⟩
    fun table => do
      let binding ← lookupBinding env table.rootEnv "profiles.local_file.root_env"
      requireBinding binding .path false "profiles.local_file.root_env"
        "local lock root must be a non-secret path environment binding"

def validatePostgres (profile : LockProfileConfig) (env : EnvMap) : Except LockConfigError Unit :=
  providerTable profile.providers.pgAdvisory profile.postgres
    ⟨"postgres_missing", "profiles.postgres",
      "enabled pg_advisory provider requires its postgres config table"⟩
    ⟨"postgres_dormant", "profiles.postgres",
      "disabled pg_advisory provider must not carry dormant postgres config"⟩
    fun postgres => do
      let database ← lookupBinding env postgres.databaseUrlEnv "profiles.postgres.database_url_env"
      requireBinding database .string true "profiles.postgres.database_url_env"
        "database URL must be a secret string environment binding"

def validateProfile (profile : LockProfileConfig) (env : EnvMap) : Except LockConfigError Unit := do
  validateTiming profile
  rejectIf (!profile.providers.localFile && !profile.providers.fiducia &&
      !profile.providers.pgAdvisory)
    ⟨"provider_selection", "profiles.providers", "at least one lock provider must be enabled"⟩
  validateLocalFile profile env
  validateOuterAuthority profile env
  validatePostgres profile env

/-- The loop over the environment bindings. -/
def declareEnv : List EnvBinding → EnvMap → Except LockConfigError EnvMap
  | [], env => .ok env
  | binding :: rest, env => do
    validateEnvBinding binding
    rejectIf (env.lookup binding.key).isSome
      ⟨"duplicate_env", "env", "environment binding keys must be unique"⟩
    declareEnv rest ((binding.key, binding) :: env)

def validateSelector (selector : Option String) (env : EnvMap) : Except LockConfigError Unit :=
  match selector with
  | none => .ok ()
  | some selector => do
    let binding ← required (env.lookup selector) ⟨"selected_profile_env_missing",
      "selected_profile_env", "selected_profile_env must name a declared environment binding"⟩
    requireBinding binding .string false "selected_profile_env"
      "profile selector must be a non-secret string environment binding"

/-- The loop over the profiles, with the identifiers met so far. -/
def declareProfiles (env : EnvMap) :
    List LockProfileConfig → List String → Except LockConfigError (List String)
  | [], profileIds => .ok profileIds
  | profile :: rest, profileIds => do
    rejectIf (!validId profile.profileId) ⟨"profile_id", "profiles.profile_id",
      "profile_id must be a lowercase portable identifier"⟩
    rejectIf (profileIds.contains profile.profileId)
      ⟨"duplicate_profile", "profiles.profile_id", "profile_id values must be unique"⟩
    validateProfile profile env
    declareProfiles env rest (profile.profileId :: profileIds)

namespace OresLockConfigV1

def validate (config : OresLockConfigV1) : Except LockConfigError Unit := do
  rejectIf (config.schemaVersion != lockConfigSchemaV1)
    ⟨"schema_version", "schema_version", "unsupported lock config schema version"⟩
  rejectIf (config.env.isEmpty || maxConfigEnvs < config.env.length)
    ⟨"env_count", "env", "env must contain between 1 and 128 declarations"⟩
  rejectIf (config.profiles.isEmpty || maxConfigProfiles < config.profiles.length)
    ⟨"profile_count", "profiles", "profiles must contain between 1 and 64 declarations"⟩
  let env ← declareEnv config.env []
  validateSelector config.selectedProfileEnv env
  let profileIds ← declareProfiles env config.profiles []
  rejectIf (!validId config.defaultProfile || !profileIds.contains config.defaultProfile)
    ⟨"default_profile", "default_profile", "default_profile must name one declared profile"⟩

def fromTomlStr (parse : String → Option OresLockConfigV1) (source : String) :
    Except LockConfigError OresLockConfigV1 := do
  let config ← required (parse source) ⟨"invalid_toml", ".ores-lock.toml",
    "lock config must be valid TOML matching the v1 shape"⟩
  config.validate
  .ok config

def profile (config : OresLockConfigV1) (profileId : String) : Option LockProfileConfig :=
  config.profiles.find? fun profile => profile.profileId == profileId

def selectProfile (config : OresLockConfigV1) (resolvedSelector : Option String) :
    Except LockConfigError LockProfileConfig :=
  let selected := (resolvedSelector.filter fun value => !value.isEmpty).getD config.defaultProfile
  required (config.profile selected) ⟨"selected_profile", "selected_profile_env",
    "selected lock profile is not declared"⟩

end OresLockConfigV1

end OresLocks.Config
