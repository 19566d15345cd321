import Mathlib.Data.List.Nodup
import OresLocks.Config

/-!
# A valid configuration can be used

What the validation establishes, said of the profiles and of their projections.
-/

namespace OresLocks.Config

set_option autoImplicit false

open Shared.Checks
open Maintained (LeaseMaintenanceOptions)

/-! ## What a profile needs -/

/-- A name of an environment variable, with the kind and secrecy its user requires. -/
structure EnvReference where
  key : String
  kind : EnvKind
  secret : Bool

def Declared (bindings : List EnvBinding) (reference : EnvReference) : Prop :=
  ∃ binding ∈ bindings, binding.key = reference.key ∧ binding.kind = reference.kind ∧
    binding.secret = reference.secret

namespace LockProfileConfig

def hasTable (profile : LockProfileConfig) : OuterLeaseAuthority → Bool
  | .fiducia => profile.fiducia.isSome
  | .cloudflareDurableObject => profile.cloudflareDurableObject.isSome
  | .beamScaleCriticalSection => profile.beamscaleCriticalSection.isSome
  | .redis => profile.redis.isSome

def authorityReferences (profile : LockProfileConfig) : OuterLeaseAuthority → List EnvReference
  | .fiducia => profile.fiducia.toList.flatMap fun table =>
    [⟨table.endpointEnv, .url, false⟩, ⟨table.authTokenEnv, .string, true⟩]
  | .cloudflareDurableObject => profile.cloudflareDurableObject.toList.flatMap fun table =>
    [⟨table.endpointEnv, .url, false⟩, ⟨table.apiTokenEnv, .string, true⟩]
  | .beamScaleCriticalSection => profile.beamscaleCriticalSection.toList.flatMap fun table =>
    [⟨table.endpointEnv, .url, false⟩, ⟨table.apiTokenEnv, .string, true⟩,
      ⟨table.deploymentIdEnv, .string, false⟩]
  | .redis => profile.redis.toList.flatMap fun table =>
    [⟨table.endpointEnv, .url, false⟩, ⟨table.authTokenEnv, .string, true⟩]

def localFileReferences (profile : LockProfileConfig) : List EnvReference :=
  profile.localFile.toList.map fun table => ⟨table.rootEnv, .path, false⟩

def postgresReferences (profile : LockProfileConfig) : List EnvReference :=
  profile.postgres.toList.map fun table => ⟨table.databaseUrlEnv, .string, true⟩

/-- Every environment variable a table of the profile names. -/
def references (profile : LockProfileConfig) : List EnvReference :=
  profile.localFileReferences ++ profile.postgresReferences ++
    profile.authorityReferences .fiducia ++ profile.authorityReferences .cloudflareDurableObject ++
    profile.authorityReferences .beamScaleCriticalSection ++ profile.authorityReferences .redis

structure Usable (bindings : List EnvBinding) (profile : LockProfileConfig) : Prop where
  acquireOptions : ∃ options, profile.leaseAcquireOptions = .ok options ∧
    options.isSome = profile.layers.fiducia
  projected : ∀ acquire wait, profile.leaseAcquireOptions = .ok (some (acquire, wait)) →
    profile.ttlMs.map fromMillis = some acquire.ttl ∧
    acquire.waitTimeout = fromMillis profile.waitTimeoutMs ∧
    acquire.retryInterval = fromMillis profile.retryIntervalMs ∧ acquire.holder = none ∧
    wait = profile.wait
  authorityOn : profile.layers.fiducia = true →
    ∃ authority, profile.selectedAuthority = some authority ∧
      ∀ other, profile.hasTable other = true ↔ other = authority
  authorityOff : profile.layers.fiducia = false →
    profile.selectedAuthority = none ∧ ∀ other, profile.hasTable other = false
  declared : ∀ reference ∈ profile.references, Declared bindings reference
  localFile : profile.localFile.isSome = profile.providers.localFile
  postgres : profile.postgres.isSome = profile.providers.pgAdvisory
  maintained : ∀ renewIntervalMs, profile.renewIntervalMs = some renewIntervalMs →
    ∃ acquire wait, profile.leaseAcquireOptions = .ok (some (acquire, wait)) ∧
      ∀ key : LockKey,
        (LeaseMaintenanceOptions.mk (fromMillis renewIntervalMs)).validate key acquire wait = .ok ()

end LockProfileConfig

structure OresLockConfigV1.Usable (config : OresLockConfigV1) : Prop where
  profileIds : (config.profiles.map (·.profileId)).Nodup
  envKeys : (config.env.map (·.key)).Nodup
  default : ∃ profile ∈ config.profiles, profile.profileId = config.defaultProfile ∧
    config.selectProfile none = .ok profile ∧ config.selectProfile (some "") = .ok profile
  select : ∀ profileId, profileId ≠ "" → ∀ profile,
    config.selectProfile (some profileId) = .ok profile ↔
      profile ∈ config.profiles ∧ profile.profileId = profileId
  unique : ∀ profile ∈ config.profiles, ∀ other ∈ config.profiles,
    profile.profileId = other.profileId → profile = other
  selector : ∀ key ∈ config.selectedProfileEnv, Declared config.env ⟨key, .string, false⟩
  profiles : ∀ profile ∈ config.profiles, profile.Usable config.env

/-! ## The environment bindings -/

/-- The entries of the map are bindings, under their own keys. -/
def Known (bindings : List EnvBinding) (env : EnvMap) : Prop :=
  ∀ key binding, env.lookup key = some binding → binding ∈ bindings ∧ binding.key = key

theorem Known.nil (bindings : List EnvBinding) : Known bindings [] := by
  intro key binding h
  cases h

theorem Known.cons {bindings : List EnvBinding} {env : EnvMap} {binding : EnvBinding}
    (h : Known bindings env) (hmem : binding ∈ bindings) :
    Known bindings ((binding.key, binding) :: env) := by
  intro key other hlookup
  rw [List.lookup_cons] at hlookup
  cases hkey : key == binding.key with
  | true =>
    rw [hkey] at hlookup
    cases hlookup
    exact ⟨hmem, (eq_of_beq hkey).symm⟩
  | false =>
    rw [hkey] at hlookup
    exact h key other hlookup

theorem lookup_of_cons_eq_none {env : EnvMap} {key : String} {binding : EnvBinding}
    (h : List.lookup key ((binding.key, binding) :: env) = none) :
    key ≠ binding.key ∧ env.lookup key = none := by
  rw [List.lookup_cons] at h
  cases hkey : key == binding.key with
  | true =>
    rw [hkey] at h
    cases h
  | false =>
    rw [hkey] at h
    exact ⟨ne_of_beq_false hkey, h⟩

theorem declareEnv_cons_eq_ok {binding : EnvBinding} {rest : List EnvBinding} {env env' : EnvMap} :
    declareEnv (binding :: rest) env = .ok env' ↔
      validateEnvBinding binding = .ok () ∧ env.lookup binding.key = none ∧
      declareEnv rest ((binding.key, binding) :: env) = .ok env' := by
  rw [declareEnv]
  simp only [bind_eq_ok, rejectIf_eq_ok, Option.isSome_eq_false_iff, Option.isNone_iff_eq_none]
  constructor
  · rintro ⟨_, hbinding, _, hnew, hrest⟩
    exact ⟨hbinding, hnew, hrest⟩
  · rintro ⟨hbinding, hnew, hrest⟩
    exact ⟨(), hbinding, (), hnew, hrest⟩

/-- The bindings added to a map have keys distinct from each other and from its own. -/
theorem keys_of_declareEnv {bindings : List EnvBinding} {env env' : EnvMap}
    (h : declareEnv bindings env = .ok env') :
    (bindings.map (·.key)).Nodup ∧ ∀ binding ∈ bindings, env.lookup binding.key = none := by
  induction bindings generalizing env with
  | nil =>
    refine ⟨List.nodup_nil, ?_⟩
    intro binding hmem
    cases hmem
  | cons binding rest ih =>
    obtain ⟨_, hnew, hrest⟩ := declareEnv_cons_eq_ok.mp h
    obtain ⟨hnodup, hold⟩ := ih hrest
    constructor
    · rw [List.map_cons, List.nodup_cons]
      refine ⟨?_, hnodup⟩
      intro hmem
      obtain ⟨other, hother, hkey⟩ := List.mem_map.mp hmem
      exact (lookup_of_cons_eq_none (hold other hother)).1 hkey
    · intro other hmem
      rcases List.mem_cons.mp hmem with rfl | hother
      · exact hnew
      · exact (lookup_of_cons_eq_none (hold other hother)).2

theorem known_of_declareEnv {bindings all : List EnvBinding} {env env' : EnvMap}
    (h : declareEnv bindings env = .ok env') (hsub : ∀ binding ∈ bindings, binding ∈ all)
    (henv : Known all env) : Known all env' := by
  induction bindings generalizing env with
  | nil =>
    cases h
    exact henv
  | cons binding rest ih =>
    obtain ⟨_, _, hrest⟩ := declareEnv_cons_eq_ok.mp h
    refine ih hrest ?_ (henv.cons (hsub binding List.mem_cons_self))
    intro other hmem
    exact hsub other (List.mem_cons_of_mem binding hmem)

/-! ## The references -/

section References

variable {bindings : List EnvBinding} {env : EnvMap} (hknown : Known bindings env)

include hknown

theorem declared_of_required {key path message : String} {kind : EnvKind} {secret : Bool}
    {binding : EnvBinding} (hlookup : env.lookup key = some binding)
    (hrequire : requireBinding binding kind secret path message = .ok ()) :
    Declared bindings ⟨key, kind, secret⟩ := by
  obtain ⟨hmem, hkey⟩ := hknown key binding hlookup
  unfold requireBinding at hrequire
  rw [rejectIf_eq_ok, Bool.or_eq_false_iff] at hrequire
  refine ⟨binding, hmem, hkey, ?_, ?_⟩
  · simpa using hrequire.1
  · simpa using hrequire.2

theorem declared_of_lookupBinding {key path path' message : String} {kind : EnvKind}
    {secret : Bool} (h : (lookupBinding env key path >>= fun binding =>
      requireBinding binding kind secret path' message) = .ok ()) :
    Declared bindings ⟨key, kind, secret⟩ := by
  obtain ⟨binding, hlookup, hrequire⟩ := bind_eq_ok.mp h
  exact declared_of_required hknown (required_eq_ok.mp hlookup) hrequire

theorem declared_of_endpointAndSecret {endpointEnv secretEnv endpointPath secretPath name : String}
    (h : validateEndpointAndSecret env endpointEnv secretEnv endpointPath secretPath name = .ok ()) :
    Declared bindings ⟨endpointEnv, .url, false⟩ ∧ Declared bindings ⟨secretEnv, .string, true⟩ := by
  unfold validateEndpointAndSecret at h
  obtain ⟨endpoint, hendpoint, h⟩ := bind_eq_ok.mp h
  obtain ⟨_, hurl, h⟩ := bind_eq_ok.mp h
  exact ⟨declared_of_required hknown (required_eq_ok.mp hendpoint) hurl,
    declared_of_lookupBinding hknown h⟩

theorem selector_declared {selector : Option String} (h : validateSelector selector env = .ok ()) :
    ∀ key ∈ selector, Declared bindings ⟨key, .string, false⟩ := by
  intro key hkey
  rw [Option.mem_def.mp hkey] at h
  obtain ⟨binding, hlookup, hrequire⟩ := bind_eq_ok.mp h
  exact declared_of_required hknown (required_eq_ok.mp hlookup) hrequire

/-! ## The tables of a profile -/

variable {profile : LockProfileConfig}

omit hknown in
theorem providerTable_eq_ok {α : Type} {enabled : Bool} {table : Option α}
    {missing dormant : LockConfigError} {check : α → Except LockConfigError Unit} :
    providerTable enabled table missing dormant check = .ok () ↔
      table.isSome = enabled ∧ ∀ value, table = some value → check value = .ok () := by
  unfold providerTable
  cases enabled with
  | true =>
    cases table with
    | none => simp
    | some value => simp
  | false =>
    cases table with
    | none => simp
    | some value => simp

theorem localFile_of_ok (h : validateLocalFile profile env = .ok ()) :
    profile.localFile.isSome = profile.providers.localFile ∧
    ∀ reference ∈ profile.localFileReferences, Declared bindings reference := by
  obtain ⟨hpresent, hcheck⟩ := providerTable_eq_ok.mp h
  refine ⟨hpresent, ?_⟩
  intro reference hmem
  obtain ⟨table, htable, rfl⟩ := List.mem_map.mp hmem
  exact declared_of_lookupBinding hknown (hcheck table (Option.mem_toList.mp htable))

theorem postgres_of_ok (h : validatePostgres profile env = .ok ()) :
    profile.postgres.isSome = profile.providers.pgAdvisory ∧
    ∀ reference ∈ profile.postgresReferences, Declared bindings reference := by
  obtain ⟨hpresent, hcheck⟩ := providerTable_eq_ok.mp h
  refine ⟨hpresent, ?_⟩
  intro reference hmem
  obtain ⟨table, htable, rfl⟩ := List.mem_map.mp hmem
  exact declared_of_lookupBinding hknown (hcheck table (Option.mem_toList.mp htable))

omit hknown in
theorem authorityTable_eq_ok {α : Type} {others : Bool} {conflict : String} {table : Option α}
    {missing : LockConfigError} {check : α → Except LockConfigError Unit} :
    authorityTable others conflict table missing check = .ok () ↔
      others = false ∧ ∃ value, table = some value ∧ check value = .ok () := by
  unfold authorityTable
  rw [rejectIf_bind_eq_ok]
  simp only [bind_eq_ok, required_eq_ok]

/-- What the arm of an authority establishes. -/
structure Selected (bindings : List EnvBinding) (profile : LockProfileConfig)
    (authority : OuterLeaseAuthority) : Prop where
  only : ∀ other, profile.hasTable other = true ↔ other = authority
  declared : ∀ reference ∈ profile.authorityReferences authority, Declared bindings reference

theorem selected_fiducia (h : validateFiducia profile env = .ok ()) :
    Selected bindings profile .fiducia := by
  obtain ⟨hothers, table, htable, hcheck⟩ := authorityTable_eq_ok.mp h
  obtain ⟨hendpoint, hsecret⟩ := declared_of_endpointAndSecret hknown hcheck
  constructor
  · intro other
    cases other <;> simp_all [LockProfileConfig.hasTable]
  · simp [LockProfileConfig.authorityReferences, htable, hendpoint, hsecret]

theorem selected_cloudflare (h : validateCloudflare profile env = .ok ()) :
    Selected bindings profile .cloudflareDurableObject := by
  obtain ⟨hothers, table, htable, hcheck⟩ := authorityTable_eq_ok.mp h
  obtain ⟨hendpoint, hsecret⟩ := declared_of_endpointAndSecret hknown hcheck
  constructor
  · intro other
    cases other <;> simp_all [LockProfileConfig.hasTable]
  · simp [LockProfileConfig.authorityReferences, htable, hendpoint, hsecret]

theorem selected_beamscale (h : validateBeamscale profile env = .ok ()) :
    Selected bindings profile .beamScaleCriticalSection := by
  obtain ⟨hothers, table, htable, hcheck⟩ := authorityTable_eq_ok.mp h
  obtain ⟨_, hpair, hrest⟩ := bind_eq_ok.mp hcheck
  obtain ⟨hendpoint, hsecret⟩ := declared_of_endpointAndSecret hknown hpair
  have hdeployment := declared_of_lookupBinding hknown hrest
  constructor
  · intro other
    cases other <;> simp_all [LockProfileConfig.hasTable]
  · simp [LockProfileConfig.authorityReferences, htable, hendpoint, hsecret, hdeployment]

theorem selected_redis (h : validateRedis profile env = .ok ()) :
    Selected bindings profile .redis := by
  obtain ⟨hothers, table, htable, hcheck⟩ := authorityTable_eq_ok.mp h
  obtain ⟨_, hpair, _⟩ := bind_eq_ok.mp hcheck
  obtain ⟨hendpoint, hsecret⟩ := declared_of_endpointAndSecret hknown hpair
  constructor
  · intro other
    cases other <;> simp_all [LockProfileConfig.hasTable]
  · simp [LockProfileConfig.authorityReferences, htable, hendpoint, hsecret]

omit hknown in
theorem authorityReferences_eq_nil {authority : OuterLeaseAuthority}
    (h : profile.hasTable authority = false) : profile.authorityReferences authority = [] := by
  cases authority with
  | fiducia =>
    have hnone : profile.fiducia = none :=
      Option.isNone_iff_eq_none.mp (Option.isSome_eq_false_iff.mp h)
    simp [LockProfileConfig.authorityReferences, hnone]
  | cloudflareDurableObject =>
    have hnone : profile.cloudflareDurableObject = none :=
      Option.isNone_iff_eq_none.mp (Option.isSome_eq_false_iff.mp h)
    simp [LockProfileConfig.authorityReferences, hnone]
  | beamScaleCriticalSection =>
    have hnone : profile.beamscaleCriticalSection = none :=
      Option.isNone_iff_eq_none.mp (Option.isSome_eq_false_iff.mp h)
    simp [LockProfileConfig.authorityReferences, hnone]
  | redis =>
    have hnone : profile.redis = none :=
      Option.isNone_iff_eq_none.mp (Option.isSome_eq_false_iff.mp h)
    simp [LockProfileConfig.authorityReferences, hnone]

/-- What the outer checks establish when the managed lease is on. -/
structure Leased (bindings : List EnvBinding) (profile : LockProfileConfig) (ttlMs : Nat) :
    Prop where
  ttl : profile.ttlMs = some ttlMs
  ttlBounds : 0 < ttlMs ∧ ttlMs ≤ maxTtlMs
  renew : ∀ renewIntervalMs, profile.renewIntervalMs = some renewIntervalMs →
    0 < renewIntervalMs ∧ renewIntervalMs ≤ ttlMs / 2
  selected : Selected bindings profile (profile.outerAuthority.getD .fiducia)

theorem leased_of_ok (hon : profile.providers.fiducia = true)
    (h : validateOuterAuthority profile env = .ok ()) :
    ∃ ttlMs, Leased bindings profile ttlMs := by
  unfold validateOuterAuthority at h
  rw [hon] at h
  obtain ⟨ttlMs, httl, h⟩ := bind_eq_ok.mp h
  obtain ⟨hrange, h⟩ := rejectIf_bind_eq_ok.mp h
  obtain ⟨hrenew, h⟩ := rejectIf_bind_eq_ok.mp h
  refine ⟨ttlMs, required_eq_ok.mp httl, ?_, ?_, ?_⟩
  · simp only [Bool.or_eq_false_iff, beq_eq_false_iff_ne, decide_eq_false_iff_not] at hrange
    omega
  · intro renewIntervalMs hsome
    simp only [hsome, Option.any_some, Bool.or_eq_false_iff, beq_eq_false_iff_ne,
      decide_eq_false_iff_not] at hrenew
    omega
  · cases hauthority : profile.outerAuthority.getD .fiducia with
    | fiducia =>
      rw [hauthority] at h
      exact selected_fiducia hknown h
    | cloudflareDurableObject =>
      rw [hauthority] at h
      exact selected_cloudflare hknown h
    | beamScaleCriticalSection =>
      rw [hauthority] at h
      exact selected_beamscale hknown h
    | redis =>
      rw [hauthority] at h
      exact selected_redis hknown h

end References

/-- What the outer checks establish when the managed lease is off. -/
structure Dormant (profile : LockProfileConfig) : Prop where
  authority : profile.outerAuthority = none
  tables : ∀ authority, profile.hasTable authority = false
  ttl : profile.ttlMs = none
  renew : profile.renewIntervalMs = none

theorem dormant_of_ok {profile : LockProfileConfig} {env : EnvMap}
    (hoff : profile.providers.fiducia = false)
    (h : validateOuterAuthority profile env = .ok ()) : Dormant profile := by
  unfold validateOuterAuthority at h
  rw [hoff] at h
  obtain ⟨hauthority, h⟩ := rejectIf_bind_eq_ok.mp h
  obtain ⟨htables, h⟩ := rejectIf_bind_eq_ok.mp h
  have htuning := rejectIf_eq_ok.mp h
  simp only [Bool.or_eq_false_iff, Option.isSome_eq_false_iff, Option.isNone_iff_eq_none]
    at hauthority htables htuning
  refine ⟨hauthority, ?_, htuning.1, htuning.2⟩
  intro authority
  cases authority <;> simp [LockProfileConfig.hasTable, htables]

/-! ## The projections of a valid profile -/

theorem durationMs_fromMillis {ms : Nat} (h : ms ≤ maxTtlMs) : durationMs (fromMillis ms) = ms := by
  have hms : ms * 1000000 / 1000000 = ms := Nat.mul_div_cancel ms (by omega)
  unfold durationMs fromMillis
  rw [hms]
  unfold maxTtlMs at h
  unfold u64Max
  omega

/-- The maintained routine accepts the timing the configuration accepts. -/
theorem maintenance_accepts {ttlMs renewIntervalMs waitTimeoutMs retryIntervalMs : Nat} {wait : Bool}
    (httl : 0 < ttlMs ∧ ttlMs ≤ maxTtlMs)
    (hrenew : 0 < renewIntervalMs ∧ renewIntervalMs ≤ ttlMs / 2)
    (hretry : wait = true → 0 < retryIntervalMs) (key : LockKey) :
    (LeaseMaintenanceOptions.mk (fromMillis renewIntervalMs)).validate key
      ⟨fromMillis ttlMs, fromMillis waitTimeoutMs, fromMillis retryIntervalMs, none⟩ wait =
      .ok () := by
  have hmax : ¬ Renewal.maxRenewalTtlMs < ttlMs := by
    have hbound := httl.2
    unfold maxTtlMs at hbound
    unfold Renewal.maxRenewalTtlMs
    omega
  have hpositive : ∀ ms, 0 < ms → fromMillis ms ≠ 0 := by
    intro ms hms
    change ms * 1000000 ≠ 0
    omega
  have hhalf : ¬ fromMillis ttlMs / 2 < fromMillis renewIntervalMs := by
    change ¬ ttlMs * 1000000 / 2 < renewIntervalMs * 1000000
    omega
  have hwait : ¬ (wait = true ∧ fromMillis retryIntervalMs = 0) := by
    intro hboth
    exact hpositive retryIntervalMs (hretry hboth.1) hboth.2
  unfold LeaseMaintenanceOptions.validate
  rw [durationMs_fromMillis httl.2, if_neg (hpositive ttlMs httl.1), if_neg hmax,
    if_neg (hpositive renewIntervalMs hrenew.1), if_neg hhalf, if_neg hwait]

theorem retry_of_validateTiming {profile : LockProfileConfig}
    (h : validateTiming profile = .ok ()) : profile.wait = true → 0 < profile.retryIntervalMs := by
  unfold validateTiming at h
  obtain ⟨_, h⟩ := rejectIf_bind_eq_ok.mp h
  obtain ⟨_, h⟩ := rejectIf_bind_eq_ok.mp h
  obtain ⟨hretry, _⟩ := rejectIf_bind_eq_ok.mp h
  intro hwait
  rw [hwait, Bool.true_and, beq_eq_false_iff_ne] at hretry
  omega

theorem leaseAcquireOptions_of_on {profile : LockProfileConfig} {ttlMs : Nat}
    (hon : profile.providers.fiducia = true) (httl : profile.ttlMs = some ttlMs) :
    profile.leaseAcquireOptions = .ok (some (⟨fromMillis ttlMs, fromMillis profile.waitTimeoutMs,
      fromMillis profile.retryIntervalMs, none⟩, profile.wait)) := by
  unfold LockProfileConfig.leaseAcquireOptions
  rw [hon, httl]
  rfl

theorem leaseAcquireOptions_of_off {profile : LockProfileConfig}
    (hoff : profile.providers.fiducia = false) : profile.leaseAcquireOptions = .ok none := by
  unfold LockProfileConfig.leaseAcquireOptions
  rw [hoff]
  rfl

theorem leaseAcquireOptions_projects {profile : LockProfileConfig}
    {acquire : Maintained.AcquireOptions} {wait : Bool}
    (h : profile.leaseAcquireOptions = .ok (some (acquire, wait))) :
    profile.ttlMs.map fromMillis = some acquire.ttl ∧
    acquire.waitTimeout = fromMillis profile.waitTimeoutMs ∧
    acquire.retryInterval = fromMillis profile.retryIntervalMs ∧ acquire.holder = none ∧
    wait = profile.wait := by
  cases hon : profile.providers.fiducia with
  | false =>
    rw [leaseAcquireOptions_of_off hon] at h
    cases h
  | true =>
    cases httl : profile.ttlMs with
    | none =>
      unfold LockProfileConfig.leaseAcquireOptions at h
      rw [hon, httl] at h
      cases h
    | some ttlMs =>
      rw [leaseAcquireOptions_of_on hon httl] at h
      cases h
      exact ⟨rfl, rfl, rfl, rfl, rfl⟩

section Profiles

variable {bindings : List EnvBinding} {profile : LockProfileConfig}

theorem authorityReferences_declared {selected : OuterLeaseAuthority}
    (h : Selected bindings profile selected) (authority : OuterLeaseAuthority) :
    ∀ reference ∈ profile.authorityReferences authority, Declared bindings reference := by
  by_cases hsame : authority = selected
  · rw [hsame]
    exact h.declared
  · have hnone : profile.hasTable authority = false := by
      rw [Bool.eq_false_iff]
      intro hsome
      exact hsame ((h.only authority).mp hsome)
    rw [authorityReferences_eq_nil hnone]
    intro reference hmem
    cases hmem

theorem references_declared
    (hlocal : ∀ reference ∈ profile.localFileReferences, Declared bindings reference)
    (hpostgres : ∀ reference ∈ profile.postgresReferences, Declared bindings reference)
    (hauthority : ∀ authority, ∀ reference ∈ profile.authorityReferences authority,
      Declared bindings reference) :
    ∀ reference ∈ profile.references, Declared bindings reference := by
  intro reference hmem
  simp only [LockProfileConfig.references, List.mem_append, or_assoc] at hmem
  rcases hmem with hmem | hmem | hmem | hmem | hmem | hmem
  · exact hlocal reference hmem
  · exact hpostgres reference hmem
  all_goals exact hauthority _ reference hmem

theorem usable_of_leased {ttlMs : Nat} (hon : profile.providers.fiducia = true)
    (hleased : Leased bindings profile ttlMs)
    (hretry : profile.wait = true → 0 < profile.retryIntervalMs)
    (hlocal : profile.localFile.isSome = profile.providers.localFile ∧
      ∀ reference ∈ profile.localFileReferences, Declared bindings reference)
    (hpostgres : profile.postgres.isSome = profile.providers.pgAdvisory ∧
      ∀ reference ∈ profile.postgresReferences, Declared bindings reference) :
    profile.Usable bindings := by
  have hoptions := leaseAcquireOptions_of_on hon hleased.ttl
  constructor
  case acquireOptions => exact ⟨_, hoptions, hon.symm⟩
  case projected => exact fun _ _ h => leaseAcquireOptions_projects h
  case authorityOn =>
    intro _
    refine ⟨profile.outerAuthority.getD .fiducia, ?_, hleased.selected.only⟩
    unfold LockProfileConfig.selectedAuthority
    rw [if_pos hon]
  case authorityOff =>
    intro hoff
    cases hon.symm.trans hoff
  case declared =>
    exact references_declared hlocal.2 hpostgres.2 (authorityReferences_declared hleased.selected)
  case localFile => exact hlocal.1
  case postgres => exact hpostgres.1
  case maintained =>
    intro renewIntervalMs hsome
    exact ⟨_, _, hoptions,
      maintenance_accepts hleased.ttlBounds (hleased.renew renewIntervalMs hsome) hretry⟩

theorem usable_of_dormant (hoff : profile.providers.fiducia = false) (hdormant : Dormant profile)
    (hlocal : profile.localFile.isSome = profile.providers.localFile ∧
      ∀ reference ∈ profile.localFileReferences, Declared bindings reference)
    (hpostgres : profile.postgres.isSome = profile.providers.pgAdvisory ∧
      ∀ reference ∈ profile.postgresReferences, Declared bindings reference) :
    profile.Usable bindings := by
  constructor
  case acquireOptions => exact ⟨none, leaseAcquireOptions_of_off hoff, hoff.symm⟩
  case projected => exact fun _ _ h => leaseAcquireOptions_projects h
  case authorityOn =>
    intro hon
    cases hoff.symm.trans hon
  case authorityOff =>
    intro _
    refine ⟨?_, hdormant.tables⟩
    unfold LockProfileConfig.selectedAuthority
    rw [hoff]
    rfl
  case declared =>
    refine references_declared hlocal.2 hpostgres.2 ?_
    intro authority reference hmem
    rw [authorityReferences_eq_nil (hdormant.tables authority)] at hmem
    cases hmem
  case localFile => exact hlocal.1
  case postgres => exact hpostgres.1
  case maintained =>
    intro renewIntervalMs hsome
    rw [hdormant.renew] at hsome
    cases hsome

theorem usable_of_validateProfile {env : EnvMap} (hknown : Known bindings env)
    (h : validateProfile profile env = .ok ()) : profile.Usable bindings := by
  unfold validateProfile at h
  obtain ⟨_, htiming, h⟩ := bind_eq_ok.mp h
  obtain ⟨_, h⟩ := rejectIf_bind_eq_ok.mp h
  obtain ⟨_, hlocal, h⟩ := bind_eq_ok.mp h
  obtain ⟨_, houter, hpostgres⟩ := bind_eq_ok.mp h
  have hlocal := localFile_of_ok hknown hlocal
  have hpostgres := postgres_of_ok hknown hpostgres
  cases hon : profile.providers.fiducia with
  | true =>
    obtain ⟨ttlMs, hleased⟩ := leased_of_ok hknown hon houter
    exact usable_of_leased hon hleased (retry_of_validateTiming htiming) hlocal hpostgres
  | false => exact usable_of_dormant hon (dormant_of_ok hon houter) hlocal hpostgres

/-- The other projections are there exactly when their tables are. -/
theorem LockProfileConfig.Usable.projections (h : profile.Usable bindings) :
    profile.pgScope.isSome = profile.layers.pgAdvisory ∧
    profile.localFileOptions.isSome = profile.localFile.isSome := by
  constructor
  · unfold LockProfileConfig.pgScope
    rw [Option.isSome_map, h.postgres]
    rfl
  · unfold LockProfileConfig.localFileOptions
    rw [h.localFile]
    cases profile.providers.localFile with
    | true => rfl
    | false => rfl

end Profiles

/-! ## The profiles of a configuration -/

theorem declareProfiles_cons_eq_ok {env : EnvMap} {profile : LockProfileConfig}
    {rest : List LockProfileConfig} {ids ids' : List String} :
    declareProfiles env (profile :: rest) ids = .ok ids' ↔
      validId profile.profileId = true ∧ profile.profileId ∉ ids ∧
      validateProfile profile env = .ok () ∧
      declareProfiles env rest (profile.profileId :: ids) = .ok ids' := by
  rw [declareProfiles]
  simp only [bind_eq_ok, rejectIf_eq_ok, Bool.not_eq_eq_eq_not, Bool.not_false,
    List.contains_eq_mem, decide_eq_false_iff_not]
  constructor
  · rintro ⟨_, hvalid, _, hnew, _, hprofile, hrest⟩
    exact ⟨hvalid, hnew, hprofile, hrest⟩
  · rintro ⟨hvalid, hnew, hprofile, hrest⟩
    exact ⟨(), hvalid, (), hnew, (), hprofile, hrest⟩

theorem ids_of_declareProfiles {env : EnvMap} {profiles : List LockProfileConfig}
    {ids ids' : List String} (h : declareProfiles env profiles ids = .ok ids') :
    (profiles.map (·.profileId)).Nodup ∧ (∀ profile ∈ profiles, profile.profileId ∉ ids) ∧
    ∀ id ∈ ids', id ∈ ids ∨ id ∈ profiles.map (·.profileId) := by
  induction profiles generalizing ids with
  | nil =>
    cases h
    exact ⟨List.nodup_nil, by simp, by simp⟩
  | cons profile rest ih =>
    obtain ⟨_, hnew, _, hrest⟩ := declareProfiles_cons_eq_ok.mp h
    obtain ⟨hnodup, hold, hids⟩ := ih hrest
    refine ⟨?_, ?_, ?_⟩
    · rw [List.map_cons, List.nodup_cons]
      refine ⟨?_, hnodup⟩
      intro hmem
      obtain ⟨other, hother, hid⟩ := List.mem_map.mp hmem
      exact hold other hother (hid ▸ List.mem_cons_self)
    · intro other hmem
      rcases List.mem_cons.mp hmem with rfl | hother
      · exact hnew
      · intro hid
        exact hold other hother (List.mem_cons_of_mem _ hid)
    · intro id hid
      rw [List.map_cons, List.mem_cons]
      rcases hids id hid with hid | hid
      · rcases List.mem_cons.mp hid with hid | hid
        · exact Or.inr (Or.inl hid)
        · exact Or.inl hid
      · exact Or.inr (Or.inr hid)

theorem valid_of_declareProfiles {env : EnvMap} {profiles : List LockProfileConfig}
    {ids ids' : List String} (h : declareProfiles env profiles ids = .ok ids') :
    ∀ profile ∈ profiles, validateProfile profile env = .ok () := by
  induction profiles generalizing ids with
  | nil =>
    intro profile hmem
    cases hmem
  | cons profile rest ih =>
    obtain ⟨_, _, hprofile, hrest⟩ := declareProfiles_cons_eq_ok.mp h
    intro other hmem
    rcases List.mem_cons.mp hmem with rfl | hother
    · exact hprofile
    · exact ih hrest other hother

section Selection

variable {config : OresLockConfigV1}

theorem profile_eq_some_iff (hnodup : (config.profiles.map (·.profileId)).Nodup)
    {profileId : String} {profile : LockProfileConfig} :
    config.profile profileId = some profile ↔
      profile ∈ config.profiles ∧ profile.profileId = profileId := by
  unfold OresLockConfigV1.profile
  constructor
  · intro h
    have hid := List.find?_some h
    exact ⟨List.mem_of_find?_eq_some h, eq_of_beq hid⟩
  · rintro ⟨hmem, rfl⟩
    cases hfound : config.profiles.find? fun other => other.profileId == profile.profileId with
    | none =>
      have hnot := List.find?_eq_none.mp hfound profile hmem
      exact absurd (beq_self_eq_true _) hnot
    | some other =>
      have hid := List.find?_some hfound
      rw [List.inj_on_of_nodup_map hnodup (List.mem_of_find?_eq_some hfound) hmem (eq_of_beq hid)]

theorem selectProfile_eq_ok {selector : Option String} {profile : LockProfileConfig} :
    config.selectProfile selector = .ok profile ↔
      config.profile ((selector.filter fun value => !value.isEmpty).getD config.defaultProfile) =
        some profile := required_eq_ok

theorem selectProfile_some_eq_ok {profileId : String} (hne : profileId ≠ "")
    {profile : LockProfileConfig} :
    config.selectProfile (some profileId) = .ok profile ↔ config.profile profileId = some profile := by
  have hfilter : (some profileId).filter (fun value => !value.isEmpty) = some profileId := by
    simp [hne]
  rw [selectProfile_eq_ok, hfilter]
  rfl

end Selection

theorem parts_of_validate {config : OresLockConfigV1} (h : config.validate = .ok ()) :
    ∃ env ids, declareEnv config.env [] = .ok env ∧
      validateSelector config.selectedProfileEnv env = .ok () ∧
      declareProfiles env config.profiles [] = .ok ids ∧ config.defaultProfile ∈ ids := by
  unfold OresLockConfigV1.validate at h
  obtain ⟨_, h⟩ := rejectIf_bind_eq_ok.mp h
  obtain ⟨_, h⟩ := rejectIf_bind_eq_ok.mp h
  obtain ⟨_, h⟩ := rejectIf_bind_eq_ok.mp h
  obtain ⟨env, henv, h⟩ := bind_eq_ok.mp h
  obtain ⟨_, hselector, h⟩ := bind_eq_ok.mp h
  obtain ⟨ids, hids, h⟩ := bind_eq_ok.mp h
  have hdefault := rejectIf_eq_ok.mp h
  simp only [Bool.or_eq_false_iff, Bool.not_eq_false', List.contains_eq_mem, decide_eq_true_eq]
    at hdefault
  exact ⟨env, ids, henv, hselector, hids, hdefault.2⟩

theorem validate_of_fromTomlStr {parse : String → Option OresLockConfigV1} {source : String}
    {config : OresLockConfigV1} (h : OresLockConfigV1.fromTomlStr parse source = .ok config) :
    config.validate = .ok () := by
  unfold OresLockConfigV1.fromTomlStr at h
  obtain ⟨parsed, _, h⟩ := bind_eq_ok.mp h
  obtain ⟨_, hvalid, h⟩ := bind_eq_ok.mp h
  cases h
  exact hvalid

theorem validate_usable (config : OresLockConfigV1) (h : config.validate = .ok ()) :
    config.Usable := by
  obtain ⟨env, ids, henv, hselector, hids, hdefault⟩ := parts_of_validate h
  have hknown : Known config.env env :=
    known_of_declareEnv henv (fun _ hmem => hmem) (Known.nil config.env)
  obtain ⟨hnodup, _, hcovered⟩ := ids_of_declareProfiles hids
  constructor
  case profileIds => exact hnodup
  case envKeys => exact (keys_of_declareEnv henv).1
  case default =>
    rcases hcovered _ hdefault with hid | hid
    · cases hid
    · obtain ⟨profile, hmem, hid⟩ := List.mem_map.mp hid
      have hfound := (profile_eq_some_iff hnodup).mpr ⟨hmem, hid⟩
      exact ⟨profile, hmem, hid, selectProfile_eq_ok.mpr hfound, selectProfile_eq_ok.mpr hfound⟩
  case select =>
    intro profileId hne profile
    rw [selectProfile_some_eq_ok hne, profile_eq_some_iff hnodup]
  case unique =>
    intro profile hmem other hother hid
    exact List.inj_on_of_nodup_map hnodup hmem hother hid
  case selector => exact selector_declared hknown hselector
  case profiles =>
    intro profile hmem
    exact usable_of_validateProfile hknown (valid_of_declareProfiles hids profile hmem)

/-- A local profile, and one with a renewed lease outside an advisory lock. -/
def sampleConfig : OresLockConfigV1 where
  schemaVersion := "ores.lock.config.v1"
  defaultProfile := "fiducia-postgres"
  selectedProfileEnv := some "ORES_LOCK_PROFILE"
  env := [⟨"ORES_LOCK_PROFILE", .string, false, false, "profile"⟩,
    ⟨"ORES_LOCK_ROOT", .path, false, false, "lock root"⟩,
    ⟨"FIDUCIA_URL", .url, false, false, "endpoint"⟩,
    ⟨"FIDUCIA_TOKEN", .string, false, true, "token"⟩,
    ⟨"DATABASE_URL", .string, false, true, "database"⟩]
  profiles := [
    { profileId := "local"
      wait := true
      waitTimeoutMs := 1000
      retryIntervalMs := 50
      ttlMs := none
      renewIntervalMs := none
      providers := ⟨true, false, false⟩
      outerAuthority := none
      localFile := some ⟨"ORES_LOCK_ROOT", true⟩
      fiducia := none
      cloudflareDurableObject := none
      beamscaleCriticalSection := none
      redis := none
      postgres := none },
    { profileId := "fiducia-postgres"
      wait := true
      waitTimeoutMs := 30000
      retryIntervalMs := 250
      ttlMs := some 60000
      renewIntervalMs := some 20000
      providers := ⟨false, true, true⟩
      outerAuthority := none
      localFile := none
      fiducia := some ⟨"FIDUCIA_URL", "FIDUCIA_TOKEN"⟩
      cloudflareDurableObject := none
      beamscaleCriticalSection := none
      redis := none
      postgres := some ⟨"DATABASE_URL", .transaction⟩ }]

theorem sample_usable : sampleConfig.validate = .ok () ∧ sampleConfig.Usable :=
  ⟨rfl, validate_usable sampleConfig rfl⟩

end OresLocks.Config
