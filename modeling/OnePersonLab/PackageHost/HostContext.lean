import OnePersonLab.Cordis.Composition

/-!
# Package-host contexts

A package asks its host for services at an integration point. The host resolves each of them
against the plugins of its composition snapshots and seals what it found as a context.
-/

namespace OnePersonLab.PackageHost

open Contract
open Cordis
open Lib

/-! ## Integrations -/

inductive PackageHostIntegrationKind where
  | standardAgentRuntime
  | capabilityProvider
  | remoteCompanionConnector
  | hostClient
  | workflowProfileSource
  deriving DecidableEq, Repr

inductive PackageHostIntegrationTrigger where
  | handlerRef
  | stageBinding
  | foundryBinding
  | appContribution
  | channelProvider
  | remoteCompanionConnector
  | profileMaterialization
  | descriptorDiscovery
  deriving DecidableEq, Repr

inductive PackageHostProfileId where
  | baseHeadless
  | appFull
  | foundryDev
  deriving DecidableEq, Repr

def PackageHostProfileId.text : PackageHostProfileId → String
  | .baseHeadless => "base-headless"
  | .appFull => "app-full"
  | .foundryDev => "foundry-dev"

structure PackageHostCapabilityRequirement where
  serviceId : String
  apiVersions : List String
  scope : CordisPluginScope
  deriving DecidableEq, Repr

structure PackageHostIntegrationPoint where
  integrationId : String
  trigger : PackageHostIntegrationTrigger
  allowedProfiles : List PackageHostProfileId
  required : List PackageHostCapabilityRequirement
  optional : List PackageHostCapabilityRequirement
  deriving DecidableEq, Repr

inductive CompositionFreeze where
  | compositionStart
  | invocationStart
  | attemptStart
  deriving DecidableEq, Repr

inductive TeardownOwner where
  | oplHost
  | package
  deriving DecidableEq, Repr

/-- `composition_policy`; `hot_swap` is always false. -/
structure CompositionPolicy where
  freeze : CompositionFreeze
  teardownOwner : TeardownOwner
  deriving DecidableEq, Repr

structure PackageHostIntegration where
  integrationKind : PackageHostIntegrationKind
  integrationPoints : List PackageHostIntegrationPoint
  compositionPolicy : CompositionPolicy
  forbiddenAuthorities : List String
  deriving DecidableEq, Repr

/-- The pattern of an integration id: a lower-case letter, then lower-case letters, digits, full
stops, underscores and hyphens. -/
def isIntegrationId (text : String) : Bool :=
  text.toList.head?.any Char.isLower &&
    text.toList.all fun c => c.isLower || c.isDigit || c == '.' || c == '_' || c == '-'

def PackageHostCapabilityRequirement.Valid (requirement : PackageHostCapabilityRequirement) :
    Prop :=
  requirement.serviceId ≠ "" ∧ ApiVersions requirement.apiVersions

instance (requirement : PackageHostCapabilityRequirement) : Decidable requirement.Valid :=
  inferInstanceAs (Decidable (_ ∧ _))

def PackageHostIntegrationPoint.Valid (point : PackageHostIntegrationPoint) : Prop :=
  isIntegrationId point.integrationId = true ∧
    point.allowedProfiles ≠ [] ∧ point.allowedProfiles.Nodup ∧
    (∀ requirement ∈ point.required, requirement.Valid) ∧
    ∀ requirement ∈ point.optional, requirement.Valid

instance (point : PackageHostIntegrationPoint) : Decidable point.Valid :=
  inferInstanceAs (Decidable (_ ∧ _ ∧ _ ∧ _ ∧ _))

/-- What the schema asks of an integration beyond its type. -/
def PackageHostIntegration.Valid (integration : PackageHostIntegration) : Prop :=
  integration.integrationPoints ≠ [] ∧ (∀ point ∈ integration.integrationPoints, point.Valid) ∧
    TextList integration.forbiddenAuthorities

instance (integration : PackageHostIntegration) : Decidable integration.Valid :=
  inferInstanceAs (Decidable (_ ∧ _ ∧ _))

def assertPackageHostIntegration (integration : PackageHostIntegration) : Verdict Unit :=
  assertJsonSchemaPayload integration.Valid

/-! ## Environments -/

structure PackageHostCompositionSnapshot where
  compositionId : String
  snapshot : CordisCompositionSnapshot
  deriving DecidableEq, Repr

structure PackageHostEnvironment where
  profileId : PackageHostProfileId
  snapshots : List PackageHostCompositionSnapshot
  deriving DecidableEq, Repr

/-- `left.localeCompare(right) <= 0`. -/
structure LocaleOrder where
  before : String → String → Bool
  order : TotalPreorder before

/-! ## Resolving a capability -/

/-- A plugin that provides a service, with the snapshot it stands in. -/
structure Candidate where
  plugin : CordisPluginDescriptor
  snapshot : CordisCompositionSnapshot
  deriving DecidableEq, Repr

/-- The plugins of a snapshot that provide the service. -/
def candidatesOf (serviceId : String) (entry : PackageHostCompositionSnapshot) : List Candidate :=
  (entry.snapshot.plugins.filter fun plugin => serviceId ∈ plugin.provides).map fun plugin =>
    { plugin, snapshot := entry.snapshot }

def candidates (environment : PackageHostEnvironment) (serviceId : String) : List Candidate :=
  environment.snapshots.flatMap (candidatesOf serviceId)

def providersForService (locale : LocaleOrder) (environment : PackageHostEnvironment)
    (serviceId : String) : List Candidate :=
  stableSort locale.before (·.plugin.pluginId) (candidates environment serviceId)

structure CapabilityProvider where
  pluginId : String
  pluginApiVersion : String
  scope : CordisPluginScope
  snapshotId : String
  snapshotDigest : String
  disposer : DisposerBoundary
  deriving DecidableEq, Repr

def providerReadback (candidate : Candidate) : CapabilityProvider where
  pluginId := candidate.plugin.pluginId
  pluginApiVersion := candidate.plugin.pluginApiVersion
  scope := candidate.plugin.scope
  snapshotId := candidate.snapshot.snapshotId
  snapshotDigest := candidate.snapshot.snapshotDigest
  disposer := candidate.plugin.disposer

inductive ResolutionStatus where
  | resolved
  | missing
  | apiIncompatible
  | scopeIncompatible
  deriving DecidableEq, Repr

def ResolutionStatus.text : ResolutionStatus → String
  | .resolved => "resolved"
  | .missing => "missing"
  | .apiIncompatible => "api_incompatible"
  | .scopeIncompatible => "scope_incompatible"

structure PackageHostCapabilityResolution where
  serviceId : String
  requestedApiVersions : List String
  requestedScope : CordisPluginScope
  status : ResolutionStatus
  provider : Option CapabilityProvider
  deriving DecidableEq, Repr

/-- The candidate has an accepted API version. -/
def VersionMatch (requirement : PackageHostCapabilityRequirement) (candidate : Candidate) : Bool :=
  candidate.plugin.pluginApiVersion ∈ requirement.apiVersions

/-- The candidate has an accepted API version and at least the requested scope. -/
def Exact (requirement : PackageHostCapabilityRequirement) (candidate : Candidate) : Bool :=
  VersionMatch requirement candidate &&
    decide (scopeRank requirement.scope ≤ scopeRank candidate.plugin.scope)

def resolveCapability (locale : LocaleOrder) (environment : PackageHostEnvironment)
    (requirement : PackageHostCapabilityRequirement) : PackageHostCapabilityResolution :=
  let candidates := providersForService locale environment requirement.serviceId
  let versionMatch := candidates.find? (VersionMatch requirement)
  let resolution (status : ResolutionStatus) (provider : Option Candidate) :
      PackageHostCapabilityResolution :=
    { serviceId := requirement.serviceId
      requestedApiVersions := requirement.apiVersions
      requestedScope := requirement.scope
      status
      provider := provider.map providerReadback }
  match candidates.find? (Exact requirement) with
  | some exact => resolution .resolved (some exact)
  | none => resolution
      (if candidates.length = 0 then .missing
        else if versionMatch.isSome then .scopeIncompatible else .apiIncompatible)
      (versionMatch <|> candidates.head?)

/-! ## Contexts -/

inductive HostContextStatus where
  | ready
  | degraded
  | blocked
  deriving DecidableEq, Repr

structure CompositionSnapshotRef where
  compositionId : String
  snapshotId : String
  snapshotDigest : String
  deriving DecidableEq, Repr

/-- What the digest of a context is computed from. -/
structure UnsignedContext where
  packageId : String
  integrationKind : PackageHostIntegrationKind
  integrationPoint : String
  profileId : PackageHostProfileId
  status : HostContextStatus
  compositionSnapshotRefs : List CompositionSnapshotRef
  required : List PackageHostCapabilityResolution
  optional : List PackageHostCapabilityResolution
  blockers : List String
  compositionPolicy : CompositionPolicy
  forbiddenAuthorities : List String
  deriving DecidableEq, Repr

structure PackageHostContext extends UnsignedContext where
  contextId : String
  contextDigest : String
  deriving DecidableEq, Repr

/-- What the host computes: digests of snapshots and contexts, and the order of its locale. -/
structure HostPlatform where
  snapshotDigest : UnsignedSnapshot → Digest
  contextDigest : UnsignedContext → Digest
  locale : LocaleOrder

def CompositionSnapshotRef.Valid (ref : CompositionSnapshotRef) : Prop :=
  ref.compositionId ≠ "" ∧ ref.snapshotId ≠ "" ∧ isSha256Digest ref.snapshotDigest = true

instance (ref : CompositionSnapshotRef) : Decidable ref.Valid :=
  inferInstanceAs (Decidable (_ ∧ _ ∧ _))

def CapabilityProvider.Valid (provider : CapabilityProvider) : Prop :=
  provider.pluginId ≠ "" ∧ isApiVersion provider.pluginApiVersion = true ∧
    provider.snapshotId ≠ "" ∧ isSha256Digest provider.snapshotDigest = true

instance (provider : CapabilityProvider) : Decidable provider.Valid :=
  inferInstanceAs (Decidable (_ ∧ _ ∧ _ ∧ _))

def PackageHostCapabilityResolution.Valid (resolution : PackageHostCapabilityResolution) : Prop :=
  resolution.serviceId ≠ "" ∧ ApiVersions resolution.requestedApiVersions ∧
    ∀ provider ∈ resolution.provider, provider.Valid

instance (resolution : PackageHostCapabilityResolution) : Decidable resolution.Valid :=
  inferInstanceAs (Decidable (_ ∧ _ ∧ _))

/-- What the schema asks of a context beyond its type. It knows no remote companion connector. -/
def PackageHostContext.Valid (context : PackageHostContext) : Prop :=
  (context.contextId ≠ "" ∧ isSha256Digest context.contextDigest = true ∧
    context.packageId ≠ "" ∧ context.integrationKind ≠ .remoteCompanionConnector ∧
    context.integrationPoint ≠ "") ∧
  (context.compositionSnapshotRefs ≠ [] ∧ ∀ ref ∈ context.compositionSnapshotRefs, ref.Valid) ∧
  (∀ resolution ∈ context.required, resolution.Valid) ∧
  (∀ resolution ∈ context.optional, resolution.Valid) ∧
  TextList context.blockers ∧ TextList context.forbiddenAuthorities

instance (context : PackageHostContext) : Decidable context.Valid :=
  inferInstanceAs (Decidable ((_ ∧ _ ∧ _ ∧ _ ∧ _) ∧ (_ ∧ _) ∧ _ ∧ _ ∧ _ ∧ _))

/-- The input of `buildPackageHostContext`. -/
structure HostContextInput where
  packageId : String
  integration : PackageHostIntegration
  integrationTrigger : PackageHostIntegrationTrigger
  environment : PackageHostEnvironment
  deriving DecidableEq, Repr

def PackageHostCompositionSnapshot.ref (entry : PackageHostCompositionSnapshot) :
    CompositionSnapshotRef where
  compositionId := entry.compositionId
  snapshotId := entry.snapshot.snapshotId
  snapshotDigest := entry.snapshot.snapshotDigest

/-- What stops a required capability that is not resolved. -/
def requiredBlocker (resolution : PackageHostCapabilityResolution) : Option String :=
  if resolution.status = .resolved then none
  else some s!"required_host_capability_{resolution.status.text}:{resolution.serviceId}"

def hostBlockers (point : PackageHostIntegrationPoint) (profileId : PackageHostProfileId)
    (required : List PackageHostCapabilityResolution) : List String :=
  (if profileId ∈ point.allowedProfiles then [] else [s!"host_profile_not_allowed:{profileId.text}"])
    ++ required.filterMap requiredBlocker

def hostStatus (blockers : List String) (optional : List PackageHostCapabilityResolution) :
    HostContextStatus :=
  if blockers ≠ [] then .blocked
  else if optional.any (fun resolution => resolution.status ≠ .resolved) then .degraded
  else .ready

/-- `composition_snapshot_refs`. -/
def snapshotRefs (locale : LocaleOrder) (environment : PackageHostEnvironment) :
    List CompositionSnapshotRef :=
  stableSort locale.before (·.compositionId) (environment.snapshots.map (·.ref))

/-- `unsigned`. -/
def unsignedContext (locale : LocaleOrder) (input : HostContextInput)
    (point : PackageHostIntegrationPoint) : UnsignedContext :=
  let required := point.required.map (resolveCapability locale input.environment)
  let optional := point.optional.map (resolveCapability locale input.environment)
  let blockers := hostBlockers point input.environment.profileId required
  { packageId := input.packageId
    integrationKind := input.integration.integrationKind
    integrationPoint := point.integrationId
    profileId := input.environment.profileId
    status := hostStatus blockers optional
    compositionSnapshotRefs := snapshotRefs locale input.environment
    required
    optional
    blockers
    compositionPolicy := input.integration.compositionPolicy
    forbiddenAuthorities := input.integration.forbiddenAuthorities }

/-- The integration point of the trigger. -/
def HostContextInput.point? (input : HostContextInput) : Option PackageHostIntegrationPoint :=
  input.integration.integrationPoints.find? fun entry => entry.trigger = input.integrationTrigger

def PackageHostIntegrationTrigger.text : PackageHostIntegrationTrigger → String
  | .handlerRef => "handler_ref"
  | .stageBinding => "stage_binding"
  | .foundryBinding => "foundry_binding"
  | .appContribution => "app_contribution"
  | .channelProvider => "channel_provider"
  | .remoteCompanionConnector => "remote_companion_connector"
  | .profileMaterialization => "profile_materialization"
  | .descriptorDiscovery => "descriptor_discovery"

def HostContextInput.point (input : HostContextInput) : Verdict PackageHostIntegrationPoint :=
  match input.point? with
  | some point => .ok point
  | none => .error (.error
      s!"Package host integration does not declare trigger: {input.integrationTrigger.text}")

section

variable (platform : HostPlatform)

def contextIdOf (digest : Digest) : String := s!"opl:host-context:{digest.val}"

def sealContext (unsigned : UnsignedContext) : PackageHostContext where
  toUnsignedContext := unsigned
  contextId := contextIdOf (platform.contextDigest unsigned)
  contextDigest := (platform.contextDigest unsigned).val

def buildPackageHostContext (input : HostContextInput) : Verdict PackageHostContext := do
  assertPackageHostIntegration input.integration
  demand (input.packageId ≠ "") (.error "Package host context requires package_id.")
  demand (input.environment.snapshots ≠ [])
    (.error "Package host context requires at least one composition snapshot.")
  input.environment.snapshots.forM fun entry =>
    assertCordisCompositionSnapshot platform.snapshotDigest entry.snapshot
  let point ← input.point
  let context := sealContext platform (unsignedContext platform.locale input point)
  assertJsonSchemaPayload context.Valid
  return context

def assertPackageHostContext (context : PackageHostContext) : Verdict Unit := do
  assertJsonSchemaPayload context.Valid
  let digest := platform.contextDigest context.toUnsignedContext
  demand (context.contextDigest = digest.val ∧ context.contextId = contextIdOf digest)
    (.error "Package host context digest does not match its canonical payload.")

end

end OnePersonLab.PackageHost
