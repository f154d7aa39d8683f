import OnePersonLab.Contract.Text
import OnePersonLab.Lib.Dictionary
import OnePersonLab.Lib.Outcome
import OnePersonLab.Lib.StableSort
import OnePersonLab.Lib.Utf16

/-!
# Cordis compositions

A composition snapshot binds plugins to the services they provide and inject. Its identity is
the digest of its content.
-/

namespace OnePersonLab.Cordis

open Contract
open Lib

/-- `sha256:` and the digest in lower-case hexadecimal digits. -/
abbrev Digest := { text : String // isSha256Digest text = true }

inductive CordisCompositionContractErrorCode where
  | missingRequiredProvider
  | pluginApiIncompatible
  | trustLaneConflict
  | scopeConflict
  | sourceIdentityMismatch
  | snapshotDigestMismatch
  deriving DecidableEq, Repr

inductive CordisFailure where
  /-- A `CordisAbiContractError`. -/
  | abi (message : String)
  /-- A `CordisCompositionContractError`. -/
  | composition (code : CordisCompositionContractErrorCode) (message : String)
  | error (message : String)
  deriving DecidableEq, Repr

abbrev Verdict := Except CordisFailure

/-- Throw the failure unless the condition holds. -/
def demand (condition : Prop) [Decidable condition] (failure : CordisFailure) : Verdict Unit :=
  if condition then .ok () else .error failure

@[simp] theorem demand_eq_ok {condition : Prop} [Decidable condition] {failure : CordisFailure}
    {result : Unit} : demand condition failure = .ok result ↔ condition := by
  by_cases holds : condition <;> simp [demand, holds]

theorem forM_eq_ok {α : Type} {check : α → Verdict Unit} {items : List α} {result : Unit} :
    items.forM check = .ok result ↔ ∀ item ∈ items, check item = .ok () := by
  induction items with
  | nil => exact ⟨fun _ => List.forall_mem_nil _, fun _ => rfl⟩
  | cons item rest ih =>
    rw [List.forM, ok_of_bind, List.forall_mem_cons, ih]
    constructor
    · rintro ⟨_, checked, others⟩
      exact ⟨checked, others⟩
    · rintro ⟨checked, others⟩
      exact ⟨(), checked, others⟩

def assertJsonSchemaPayload (valid : Prop) [Decidable valid] : Verdict Unit :=
  demand valid (.abi "Payload failed JSON Schema validation.")

/-! ## Descriptors -/

inductive CordisPluginScope where
  | process
  | composition
  | session
  | attempt
  | request
  deriving DecidableEq, Repr

inductive CordisPluginTrust where
  | firstPartyPrivileged
  | firstPartyRestricted
  | thirdPartyUntrusted
  deriving DecidableEq, Repr

inductive CordisPluginEventMode where
  | emit
  | parallel
  | serial
  | bail
  | waterfall
  | observe
  deriving DecidableEq, Repr

def CordisPluginEventMode.text : CordisPluginEventMode → String
  | .emit => "emit"
  | .parallel => "parallel"
  | .serial => "serial"
  | .bail => "bail"
  | .waterfall => "waterfall"
  | .observe => "observe"

inductive CordisPluginEventRole where
  | publish
  | observe
  deriving DecidableEq, Repr

def CordisPluginEventRole.text : CordisPluginEventRole → String
  | .publish => "publish"
  | .observe => "observe"

structure CordisPluginInjection where
  serviceId : String
  pluginApiVersions : List String
  deriving DecidableEq, Repr

/-- The payload schema may be absent, `null` or a reference. -/
structure CordisPluginEvent where
  name : String
  mode : CordisPluginEventMode
  role : CordisPluginEventRole
  payloadSchemaRef : Option (Option String)
  deriving DecidableEq, Repr

structure CordisPackageRef where
  packageId : String
  packageVersion : String
  packageRef : String
  manifestSha256 : Option String
  contentSha256 : Option String
  deriving DecidableEq, Repr

structure CordisPluginInjects where
  required : List CordisPluginInjection
  optional : List CordisPluginInjection
  deriving DecidableEq, Repr

/-- `disposer.boundary`. -/
inductive DisposerBoundary where
  | pluginFiber
  | compositionContext
  deriving DecidableEq, Repr

/-- What a descriptor and the input it is built from share. -/
structure CordisPluginBase where
  pluginId : String
  pluginApiVersion : String
  sourceRef : String
  sourceCommit : String
  packageRef : Option CordisPackageRef
  required : Bool
  provides : List String
  injects : CordisPluginInjects
  events : List CordisPluginEvent
  scope : CordisPluginScope
  trust : CordisPluginTrust
  disposer : DisposerBoundary
  forbiddenAuthorities : List String
  deriving DecidableEq, Repr

structure CordisPluginDescriptor extends CordisPluginBase where
  id : String
  pluginRef : String
  sourceIdentity : String
  deriving DecidableEq, Repr

structure CordisPluginDescriptorInput extends CordisPluginBase where
  id : Option String
  pluginRef : Option String
  sourceIdentity : Option String
  deriving DecidableEq, Repr

/-- A descriptor is an input with all optional fields. -/
def CordisPluginDescriptor.input (descriptor : CordisPluginDescriptor) :
    CordisPluginDescriptorInput where
  toCordisPluginBase := descriptor.toCordisPluginBase
  id := some descriptor.id
  pluginRef := some descriptor.pluginRef
  sourceIdentity := some descriptor.sourceIdentity

/-! ## The descriptor schema -/

/-- What follows a run of at least one digit. -/
def afterDigits : List Char → Option (List Char)
  | [] => none
  | c :: rest => if c.isDigit then some (rest.dropWhile Char.isDigit) else none

/-- What follows a full stop. -/
def afterStop : List Char → Option (List Char)
  | [] => none
  | c :: rest => if c = '.' then some rest else none

/-- The pattern of three numbers that full stops separate. -/
def isApiVersion (text : String) : Bool :=
  ((afterDigits text.toList).bind afterStop |>.bind afterDigits |>.bind afterStop
    |>.bind afterDigits) == some []

/-- A list of distinct non-empty strings. -/
def TextList (texts : List String) : Prop := texts.Nodup ∧ ∀ text ∈ texts, text ≠ ""

instance (texts : List String) : Decidable (TextList texts) :=
  inferInstanceAs (Decidable (_ ∧ _))

/-- A list of at least one version, all distinct. -/
def ApiVersions (versions : List String) : Prop :=
  versions ≠ [] ∧ versions.Nodup ∧ ∀ version ∈ versions, isApiVersion version = true

instance (versions : List String) : Decidable (ApiVersions versions) :=
  inferInstanceAs (Decidable (_ ∧ _ ∧ _))

def CordisPluginInjection.Valid (injection : CordisPluginInjection) : Prop :=
  injection.serviceId ≠ "" ∧ ApiVersions injection.pluginApiVersions

instance (injection : CordisPluginInjection) : Decidable injection.Valid :=
  inferInstanceAs (Decidable (_ ∧ _))

def ValidInjections (injections : List CordisPluginInjection) : Prop :=
  injections.Nodup ∧ ∀ injection ∈ injections, injection.Valid

instance (injections : List CordisPluginInjection) : Decidable (ValidInjections injections) :=
  inferInstanceAs (Decidable (_ ∧ _))

def ValidEvents (events : List CordisPluginEvent) : Prop :=
  events.Nodup ∧ ∀ event ∈ events, event.name ≠ ""

instance (events : List CordisPluginEvent) : Decidable (ValidEvents events) :=
  inferInstanceAs (Decidable (_ ∧ _))

def CordisPackageRef.Valid (ref : CordisPackageRef) : Prop :=
  ref.packageId ≠ "" ∧ ref.packageVersion ≠ "" ∧ ref.packageRef ≠ "" ∧
    (∀ sha256 ∈ ref.manifestSha256, isSha256Digest sha256 = true) ∧
    ∀ sha256 ∈ ref.contentSha256, isSha256Digest sha256 = true

instance (ref : CordisPackageRef) : Decidable ref.Valid :=
  inferInstanceAs (Decidable (_ ∧ _ ∧ _ ∧ _ ∧ _))

/-- What the schema asks of a descriptor beyond its type. -/
def CordisPluginDescriptor.Valid (descriptor : CordisPluginDescriptor) : Prop :=
  (descriptor.id ≠ "" ∧ descriptor.pluginId ≠ "" ∧ descriptor.pluginRef ≠ "" ∧
    isApiVersion descriptor.pluginApiVersion = true ∧ descriptor.sourceRef ≠ "" ∧
    descriptor.sourceCommit ≠ "" ∧ descriptor.sourceIdentity ≠ "") ∧
  (∀ ref ∈ descriptor.packageRef, ref.Valid) ∧ TextList descriptor.provides ∧
  ValidInjections descriptor.injects.required ∧ ValidInjections descriptor.injects.optional ∧
  ValidEvents descriptor.events ∧ TextList descriptor.forbiddenAuthorities

instance (descriptor : CordisPluginDescriptor) : Decidable descriptor.Valid :=
  inferInstanceAs (Decidable ((_ ∧ _ ∧ _ ∧ _ ∧ _ ∧ _ ∧ _) ∧ _ ∧ _ ∧ _ ∧ _ ∧ _ ∧ _))

/-! ## Building a descriptor -/

/-- `compareStrings(left, right) < 0`: strings are compared by their code units. -/
def compareStrings (left right : String) : Bool :=
  dictionary (fun unit other => decide (unit < other)) (unitsOf left) (unitsOf right)

theorem codeUnit_strictOrder :
    StrictOrder fun unit other : CodeUnit => decide (unit < other) where
  irrefl unit := decide_eq_false (lt_irrefl unit)
  trans first second := decide_eq_true ((of_decide_eq_true first).trans (of_decide_eq_true second))
  connected apart := (lt_or_gt_of_ne apart).imp decide_eq_true decide_eq_true

theorem compareStrings_strictOrder : StrictOrder compareStrings where
  irrefl text := codeUnit_strictOrder.dictionary.irrefl (unitsOf text)
  trans first second := codeUnit_strictOrder.dictionary.trans first second
  connected apart := codeUnit_strictOrder.dictionary.connected (unitsOf_injective.ne apart)

/-- `values.sort((left, right) => compareStrings(key(left), key(right)))`. -/
def sortByString {α : Type} (key : α → String) (values : List α) : List α :=
  sortOn compareStrings key values

def sortedUnique (values : List String) : List String := sortByString id values.eraseDups

@[simp] theorem mem_sortedUnique {values : List String} {value : String} :
    value ∈ sortedUnique values ↔ value ∈ values := by
  rw [sortedUnique, sortByString, mem_sortOn, List.mem_eraseDups]

def injectionKey (injection : CordisPluginInjection) : String :=
  injection.serviceId ++ ":" ++ String.intercalate "," injection.pluginApiVersions

def normalizeInjections (values : List CordisPluginInjection) : List CordisPluginInjection :=
  sortByString injectionKey (values.map fun value =>
    { value with pluginApiVersions := sortedUnique value.pluginApiVersions })

/-- `event.payload_schema_ref ?? ''`. -/
def CordisPluginEvent.schemaText (event : CordisPluginEvent) : String :=
  event.payloadSchemaRef.join.getD ""

def eventKey (event : CordisPluginEvent) : String :=
  s!"{event.name}:{event.mode.text}:{event.role.text}:{event.schemaText}"

def normalizeEvents (values : List CordisPluginEvent) : List CordisPluginEvent :=
  sortByString eventKey values

def pluginRef (pluginId pluginApiVersion : String) : String :=
  s!"cordis:plugin:{pluginId}@{pluginApiVersion}"

def sourceIdentity (sourceRef sourceCommit : String) : String := s!"git:{sourceCommit}:{sourceRef}"

def assertPluginIdentity (descriptor : CordisPluginDescriptor) : Verdict Unit := do
  demand (descriptor.id = descriptor.pluginId) (.composition .sourceIdentityMismatch
    "Cordis plugin id alias does not match plugin_id.")
  demand (descriptor.pluginRef = pluginRef descriptor.pluginId descriptor.pluginApiVersion)
    (.composition .pluginApiIncompatible
      "Cordis plugin_ref does not bind the declared plugin API version.")
  demand (descriptor.sourceIdentity = sourceIdentity descriptor.sourceRef descriptor.sourceCommit)
    (.composition .sourceIdentityMismatch
      "Cordis source identity does not bind the declared source ref and commit.")

/-- The descriptor of an input, before it is checked. -/
def CordisPluginDescriptorInput.descriptor (input : CordisPluginDescriptorInput) :
    CordisPluginDescriptor where
  toCordisPluginBase :=
    { input.toCordisPluginBase with
      provides := sortedUnique input.provides
      injects :=
        { required := normalizeInjections input.injects.required
          optional := normalizeInjections input.injects.optional }
      events := normalizeEvents input.events
      forbiddenAuthorities := sortedUnique input.forbiddenAuthorities }
  id := input.id.getD input.pluginId
  pluginRef := input.pluginRef.getD (Cordis.pluginRef input.pluginId input.pluginApiVersion)
  sourceIdentity :=
    input.sourceIdentity.getD (Cordis.sourceIdentity input.sourceRef input.sourceCommit)

def buildCordisPluginDescriptor (input : CordisPluginDescriptorInput) :
    Verdict CordisPluginDescriptor := do
  assertJsonSchemaPayload input.descriptor.Valid
  assertPluginIdentity input.descriptor
  return input.descriptor

/-- `plugins.map((plugin) => buildCordisPluginDescriptor(plugin))`. -/
def buildDescriptors : List CordisPluginDescriptorInput → Verdict (List CordisPluginDescriptor)
  | [] => .ok []
  | input :: rest => do
    let descriptor ← buildCordisPluginDescriptor input
    let descriptors ← buildDescriptors rest
    return descriptor :: descriptors

theorem buildCordisPluginDescriptor_eq_ok {input : CordisPluginDescriptorInput}
    {descriptor : CordisPluginDescriptor}
    (built : buildCordisPluginDescriptor input = .ok descriptor) :
    descriptor = input.descriptor := by
  simp only [buildCordisPluginDescriptor, ok_of_bind, ok_of_pure] at built
  obtain ⟨_, _, _, _, rfl⟩ := built
  rfl

theorem buildDescriptors_eq_ok {inputs : List CordisPluginDescriptorInput}
    {descriptors : List CordisPluginDescriptor}
    (built : buildDescriptors inputs = .ok descriptors) :
    descriptors = inputs.map CordisPluginDescriptorInput.descriptor := by
  induction inputs generalizing descriptors with
  | nil =>
    cases built
    rfl
  | cons input rest ih =>
    simp only [buildDescriptors, ok_of_bind, ok_of_pure] at built
    obtain ⟨descriptor, builtFirst, others, builtRest, rfl⟩ := built
    rw [List.map_cons, buildCordisPluginDescriptor_eq_ok builtFirst, ih builtRest]

/-! ## Checking a composition -/

def scopeRank : CordisPluginScope → Nat
  | .request => 0
  | .attempt => 1
  | .session => 2
  | .composition => 3
  | .process => 4

def trustRank : CordisPluginTrust → Nat
  | .thirdPartyUntrusted => 0
  | .firstPartyRestricted => 1
  | .firstPartyPrivileged => 2

/-- `providers`: who provides a service. -/
abbrev Providers := List (String × CordisPluginDescriptor)

/-- `providers.get(serviceId)`. -/
def Providers.get (providers : Providers) (serviceId : String) : Option CordisPluginDescriptor :=
  (providers.find? fun entry => entry.1 = serviceId).map Prod.snd

def validateInjection (consumer : CordisPluginDescriptor) (injection : CordisPluginInjection)
    (provider : Option CordisPluginDescriptor) (required : Bool) : Verdict Unit :=
  match provider with
  | none => demand (required = false) (.composition .missingRequiredProvider
      "Cordis composition is missing a required service provider.")
  | some provider => do
    demand (provider.pluginApiVersion ∈ injection.pluginApiVersions)
      (.composition .pluginApiIncompatible
        "Cordis provider plugin API version is incompatible with the consumer.")
    demand (trustRank consumer.trust ≤ trustRank provider.trust) (.composition .trustLaneConflict
      "Cordis provider trust lane is weaker than its consumer.")
    demand (scopeRank consumer.scope ≤ scopeRank provider.scope) (.composition .scopeConflict
      "Cordis provider scope is shorter lived than its consumer.")

def validateInjections (providers : Providers) (consumer : CordisPluginDescriptor) :
    Verdict Unit := do
  consumer.injects.required.forM fun injection =>
    validateInjection consumer injection (providers.get injection.serviceId) true
  consumer.injects.optional.forM fun injection =>
    validateInjection consumer injection (providers.get injection.serviceId) false

def bindService (plugin : CordisPluginDescriptor) (providers : Providers) (serviceId : String) :
    Verdict Providers := do
  demand (providers.get serviceId = none) (.composition .sourceIdentityMismatch
    "Cordis composition binds more than one provider to a service.")
  return (serviceId, plugin) :: providers

/-- The plugins and the services met so far. -/
structure Bound where
  pluginIds : List String
  providers : Providers

def bindPlugin (bound : Bound) (plugin : CordisPluginDescriptor) : Verdict Bound := do
  assertPluginIdentity plugin
  demand (plugin.pluginId ∉ bound.pluginIds) (.composition .sourceIdentityMismatch
    "Cordis composition contains duplicate plugin identities.")
  let providers ← plugin.provides.foldlM (bindService plugin) bound.providers
  return { pluginIds := plugin.pluginId :: bound.pluginIds, providers }

def validateCompositionPlugins (plugins : List CordisPluginDescriptor) : Verdict Unit := do
  let bound ← plugins.foldlM bindPlugin { pluginIds := [], providers := [] }
  plugins.forM (validateInjections bound.providers)

/-! ## Snapshots -/

structure CordisFramework where
  package : String
  version : String
  integrity : String
  deriving DecidableEq, Repr

structure SnapshotRef where
  snapshotId : String
  snapshotDigest : String
  deriving DecidableEq, Repr

/-- The children come by their keys, in the order of the canonical form. -/
structure CordisBinding where
  executorAdapterId : String
  executorRoute : String
  childCompositionSnapshotRefs : Option (List (String × SnapshotRef))
  deriving DecidableEq, Repr

/-- What the digest of a snapshot is computed from. -/
structure UnsignedSnapshot where
  framework : CordisFramework
  binding : CordisBinding
  foundryEvidenceRef : Option (Option String)
  plugins : List CordisPluginDescriptor
  deriving DecidableEq, Repr

structure CordisCompositionSnapshot extends UnsignedSnapshot where
  snapshotId : String
  snapshotDigest : String
  deriving DecidableEq, Repr

/-- The pattern `cordis:snapshot:` followed by a digest. -/
def isSnapshotId (text : String) : Bool :=
  startsWith text "cordis:snapshot:" && isSha256Digest (String.ofList (text.toList.drop 16))

def SnapshotRef.Valid (ref : SnapshotRef) : Prop :=
  isSnapshotId ref.snapshotId = true ∧ isSha256Digest ref.snapshotDigest = true

instance (ref : SnapshotRef) : Decidable ref.Valid := inferInstanceAs (Decidable (_ ∧ _))

def CordisFramework.Valid (framework : CordisFramework) : Prop :=
  framework.package ≠ "" ∧ framework.version ≠ "" ∧ framework.integrity ≠ ""

instance (framework : CordisFramework) : Decidable framework.Valid :=
  inferInstanceAs (Decidable (_ ∧ _ ∧ _))

def CordisBinding.Valid (binding : CordisBinding) : Prop :=
  binding.executorAdapterId ≠ "" ∧ binding.executorRoute ≠ "" ∧
    ∀ children ∈ binding.childCompositionSnapshotRefs, ∀ child ∈ children, child.2.Valid

instance (binding : CordisBinding) : Decidable binding.Valid :=
  inferInstanceAs (Decidable (_ ∧ _ ∧ _))

/-- What the schema asks of a snapshot beyond its type. -/
def CordisCompositionSnapshot.Valid (snapshot : CordisCompositionSnapshot) : Prop :=
  isSnapshotId snapshot.snapshotId = true ∧ isSha256Digest snapshot.snapshotDigest = true ∧
    snapshot.framework.Valid ∧ snapshot.binding.Valid ∧
    snapshot.plugins ≠ [] ∧ snapshot.plugins.Nodup ∧ ∀ plugin ∈ snapshot.plugins, plugin.Valid

instance (snapshot : CordisCompositionSnapshot) : Decidable snapshot.Valid :=
  inferInstanceAs (Decidable (_ ∧ _ ∧ _ ∧ _ ∧ _ ∧ _ ∧ _))

section

variable (snapshotDigest : UnsignedSnapshot → Digest)

def assertCordisCompositionSnapshot (snapshot : CordisCompositionSnapshot) : Verdict Unit := do
  assertJsonSchemaPayload snapshot.Valid
  let plugins ← buildDescriptors (snapshot.plugins.map CordisPluginDescriptor.input)
  validateCompositionPlugins plugins
  let actualDigest := snapshotDigest snapshot.toUnsignedSnapshot
  demand (snapshot.snapshotDigest = actualDigest.val ∧
      snapshot.snapshotId = s!"cordis:snapshot:{actualDigest.val}")
    (.composition .snapshotDigestMismatch
      "Cordis composition snapshot digest does not match its canonical payload.")

end

/-! ## One provider for each service -/

theorem Providers.get_eq_none {providers : Providers} {serviceId : String} :
    providers.get serviceId = none ↔ ∀ entry ∈ providers, entry.1 ≠ serviceId := by
  simp only [Providers.get, Option.map_eq_none_iff, List.find?_eq_none, decide_eq_true_eq]

/-- Services that are bound were free, and are bound to the plugin afterwards. -/
theorem bindServices_eq_ok {plugin : CordisPluginDescriptor} {services : List String}
    {providers after : Providers}
    (bound : services.foldlM (bindService plugin) providers = .ok after) :
    (∀ service ∈ services, ∀ entry ∈ providers, entry.1 ≠ service) ∧
      (∀ service ∈ services, (service, plugin) ∈ after) ∧ providers ⊆ after := by
  induction services generalizing providers with
  | nil =>
    cases bound
    exact ⟨List.forall_mem_nil _, List.forall_mem_nil _, List.Subset.refl _⟩
  | cons service rest ih =>
    rw [List.foldlM_cons, ok_of_bind] at bound
    obtain ⟨middle, boundFirst, boundRest⟩ := bound
    simp only [bindService, ok_of_bind, ok_of_pure, demand_eq_ok] at boundFirst
    obtain ⟨_, free, rfl⟩ := boundFirst
    obtain ⟨freeRest, placed, kept⟩ := ih boundRest
    refine ⟨?_, ?_, ?_⟩
    · rw [List.forall_mem_cons]
      refine ⟨Providers.get_eq_none.1 free, ?_⟩
      intro other listed entry known
      exact freeRest other listed entry (List.mem_cons_of_mem _ known)
    · rw [List.forall_mem_cons]
      exact ⟨kept List.mem_cons_self, placed⟩
    · intro entry known
      exact kept (List.mem_cons_of_mem _ known)

/-- Two plugins of a composition provide no service both. -/
def Apart (plugin other : CordisPluginDescriptor) : Prop :=
  ∀ service ∈ plugin.provides, service ∉ other.provides

theorem bindPlugins_eq_ok {plugins : List CordisPluginDescriptor} {before after : Bound}
    (bound : plugins.foldlM bindPlugin before = .ok after) :
    plugins.Pairwise Apart ∧
      ∀ plugin ∈ plugins, ∀ service ∈ plugin.provides,
        ∀ entry ∈ before.providers, entry.1 ≠ service := by
  induction plugins generalizing before with
  | nil => exact ⟨List.Pairwise.nil, List.forall_mem_nil _⟩
  | cons plugin rest ih =>
    rw [List.foldlM_cons, ok_of_bind] at bound
    obtain ⟨middle, boundFirst, boundRest⟩ := bound
    simp only [bindPlugin, ok_of_bind, ok_of_pure] at boundFirst
    obtain ⟨_, _, _, _, providers, services, rfl⟩ := boundFirst
    obtain ⟨free, placed, kept⟩ := bindServices_eq_ok services
    obtain ⟨apart, freeRest⟩ := ih boundRest
    constructor
    · refine List.pairwise_cons.2 ⟨?_, apart⟩
      intro other listed service provided provided'
      exact freeRest other listed service provided' _ (placed service provided) rfl
    · rw [List.forall_mem_cons]
      refine ⟨free, ?_⟩
      intro other listed service provided entry known
      exact freeRest other listed service provided entry (kept known)

/-- The plugins of an accepted snapshot share no service. -/
theorem apart_of_accepted {snapshotDigest : UnsignedSnapshot → Digest}
    {snapshot : CordisCompositionSnapshot} {result : Unit}
    (accepted : assertCordisCompositionSnapshot snapshotDigest snapshot = .ok result) :
    snapshot.plugins.Pairwise Apart := by
  simp only [assertCordisCompositionSnapshot, validateCompositionPlugins, ok_of_bind] at accepted
  obtain ⟨_, _, plugins, built, _, ⟨bound, boundAll, _⟩, _⟩ := accepted
  have apart := (bindPlugins_eq_ok boundAll).1
  rw [buildDescriptors_eq_ok built, List.map_map, List.pairwise_map] at apart
  refine apart.imp ?_
  intro plugin other apart service provided provided'
  exact apart service (mem_sortedUnique.2 provided) (mem_sortedUnique.2 provided')

end OnePersonLab.Cordis
