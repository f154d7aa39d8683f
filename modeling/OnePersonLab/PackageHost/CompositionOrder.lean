import Mathlib.Data.List.Perm.Basic
import OnePersonLab.PackageHost.HostContext

/-!
# Contexts and the order of the compositions

Providers are ordered by the ids of their plugins and snapshot references by the ids of their
compositions. Within one snapshot these keys are distinct, over several snapshots they may tie;
then the order of the snapshots decides, and a context is independent of that order exactly when
everything that ties reads the same.
-/

namespace OnePersonLab.PackageHost

open Contract
open Cordis
open Lib

variable {locale : LocaleOrder} {environment other : PackageHostEnvironment}
  {requirement : PackageHostCapabilityRequirement}

/-! ## Candidates -/

section

variable {serviceId : String} {known : List Candidate}

theorem mem_candidates {candidate : Candidate} :
    candidate ∈ candidates environment serviceId ↔
      ∃ entry ∈ environment.snapshots, candidate.snapshot = entry.snapshot ∧
        candidate.plugin ∈ entry.snapshot.plugins ∧ serviceId ∈ candidate.plugin.provides := by
  simp only [candidates, candidatesOf, List.mem_flatMap, List.mem_map, List.mem_filter,
    decide_eq_true_eq]
  constructor
  · rintro ⟨entry, listed, plugin, ⟨among, provides⟩, rfl⟩
    exact ⟨entry, listed, rfl, among, provides⟩
  · rintro ⟨entry, listed, same, among, provides⟩
    refine ⟨entry, listed, candidate.plugin, ⟨among, provides⟩, ?_⟩
    rw [← same]

theorem candidates_perm (same : environment.snapshots.Perm other.snapshots) (serviceId : String) :
    (candidates environment serviceId).Perm (candidates other serviceId) :=
  same.flatMap_right _

/-- At most one plugin of an accepted snapshot provides a service. -/
theorem candidatesOf_eq {entry : PackageHostCompositionSnapshot} {candidate : Candidate}
    (apart : entry.snapshot.plugins.Pairwise Cordis.Apart)
    (listed : candidate ∈ candidatesOf serviceId entry) :
    candidatesOf serviceId entry = [candidate] := by
  have none : (entry.snapshot.plugins.filter fun plugin => serviceId ∈ plugin.provides).Pairwise
      fun _ _ => False := by
    rw [List.pairwise_filter]
    refine apart.imp ?_
    intro plugin other apart provided provided'
    exact apart serviceId (of_decide_eq_true provided) (of_decide_eq_true provided')
  rw [candidatesOf] at listed ⊢
  generalize (entry.snapshot.plugins.filter fun plugin => serviceId ∈ plugin.provides) =
    plugins at listed none ⊢
  cases plugins with
  | nil => cases listed
  | cons plugin rest =>
    cases rest with
    | nil =>
      rw [List.map_singleton, List.mem_singleton] at listed
      rw [listed, List.map_singleton]
    | cons second rest =>
      exact ((List.pairwise_cons.1 none).1 second List.mem_cons_self).elim

/-! ## The candidate that is read back -/

/-- The candidates among which the first is read back: those that match exactly, where there are
any, else those of an accepted version, else all. -/
def eligible (requirement : PackageHostCapabilityRequirement) (known : List Candidate) :
    Candidate → Bool :=
  if known.any (Exact requirement) then Exact requirement
  else if known.any (VersionMatch requirement) then VersionMatch requirement
  else fun _ => true

/-- A candidate that some order of the snapshots makes the provider. -/
def Choosable (locale : LocaleOrder) (environment : PackageHostEnvironment)
    (requirement : PackageHostCapabilityRequirement) : Candidate → Prop :=
  Least locale.before (·.plugin.pluginId)
    (eligible requirement (candidates environment requirement.serviceId))
    (candidates environment requirement.serviceId)

theorem eligible_perm {others : List Candidate} (same : known.Perm others) :
    eligible requirement known = eligible requirement others := by
  rw [eligible, eligible, same.any_eq, same.any_eq]

/-- The status is a fact about which candidates there are. -/
def statusOf (requirement : PackageHostCapabilityRequirement) (known : List Candidate) :
    ResolutionStatus :=
  if known.any (Exact requirement) then .resolved
  else if known.length = 0 then .missing
  else if known.any (VersionMatch requirement) then .scopeIncompatible
  else .apiIncompatible

theorem statusOf_perm {others : List Candidate} (same : known.Perm others) :
    statusOf requirement known = statusOf requirement others := by
  rw [statusOf, statusOf, same.any_eq, same.any_eq, same.length_eq]

theorem statusOf_eq_resolved :
    statusOf requirement known = .resolved ↔ ∃ candidate ∈ known, Exact requirement candidate = true := by
  rw [← List.any_eq_true, statusOf]
  split_ifs with exact empty version <;> simp [exact]

theorem any_providersForService (wanted : Candidate → Bool) :
    (providersForService locale environment serviceId).any wanted =
      (candidates environment serviceId).any wanted :=
  (stableSort_perm _).any_eq

theorem length_providersForService :
    (providersForService locale environment serviceId).length =
      (candidates environment serviceId).length :=
  (stableSort_perm _).length_eq

theorem find?_true {α : Type} (items : List α) : items.find? (fun _ => true) = items.head? := by
  cases items <;> rfl

theorem resolveCapability_eq : resolveCapability locale environment requirement =
    { serviceId := requirement.serviceId
      requestedApiVersions := requirement.apiVersions
      requestedScope := requirement.scope
      status := statusOf requirement (candidates environment requirement.serviceId)
      provider := ((providersForService locale environment requirement.serviceId).find?
        (eligible requirement (candidates environment requirement.serviceId))).map
          providerReadback } := by
  have known (wanted : Candidate → Bool) :
      (candidates environment requirement.serviceId).any wanted =
        (providersForService locale environment requirement.serviceId).any wanted :=
    (any_providersForService wanted).symm
  have count : (candidates environment requirement.serviceId).length =
      (providersForService locale environment requirement.serviceId).length :=
    length_providersForService.symm
  simp only [resolveCapability, statusOf, eligible, known, count]
  generalize providersForService locale environment requirement.serviceId = sorted
  cases exact : sorted.find? (Exact requirement) with
  | some first =>
    have found : sorted.any (Exact requirement) = true :=
      List.any_eq_true.2 ⟨first, List.mem_of_find?_eq_some exact, List.find?_some exact⟩
    simp only [found, if_true, exact]
  | none =>
    have missing : sorted.any (Exact requirement) = false := by
      rw [List.any_eq_false]
      exact List.find?_eq_none.1 exact
    cases version : sorted.find? (VersionMatch requirement) with
    | some first =>
      have found : sorted.any (VersionMatch requirement) = true :=
        List.any_eq_true.2 ⟨first, List.mem_of_find?_eq_some version, List.find?_some version⟩
      simp [missing, found, version]
    | none =>
      have unmatched : sorted.any (VersionMatch requirement) = false := by
        rw [List.any_eq_false]
        exact List.find?_eq_none.1 version
      simp [missing, unmatched, find?_true]

/-- Whichever candidate is chosen, the provider reads the same. -/
def SettledProvider (locale : LocaleOrder) (environment : PackageHostEnvironment)
    (requirement : PackageHostCapabilityRequirement) : Prop :=
  ∀ candidate other, Choosable locale environment requirement candidate →
    Choosable locale environment requirement other →
      providerReadback candidate = providerReadback other

/-- What is found first may be chosen, under any order of the snapshots. -/
theorem choosable_of_found (same : environment.snapshots.Perm other.snapshots)
    {candidate : Candidate}
    (found : (providersForService locale other requirement.serviceId).find?
      (eligible requirement (candidates other requirement.serviceId)) = some candidate) :
    Choosable locale environment requirement candidate := by
  have perm := candidates_perm same requirement.serviceId
  have least := find?_stableSort_least locale.order found
  rw [← eligible_perm perm] at least
  exact least.of_perm perm.symm

theorem resolveCapability_perm (same : environment.snapshots.Perm other.snapshots)
    (settled : SettledProvider locale environment requirement) :
    resolveCapability locale other requirement =
      resolveCapability locale environment requirement := by
  have perm := candidates_perm same requirement.serviceId
  rw [resolveCapability_eq, resolveCapability_eq, ← statusOf_perm perm]
  congr 1
  cases found : (providersForService locale other requirement.serviceId).find?
      (eligible requirement (candidates other requirement.serviceId)) with
  | some candidate =>
    cases found' : (providersForService locale environment requirement.serviceId).find?
        (eligible requirement (candidates environment requirement.serviceId)) with
    | some candidate' =>
      exact congrArg some (settled candidate candidate' (choosable_of_found same found)
        (choosable_of_found (List.Perm.refl _) found'))
    | none =>
      have chosen := choosable_of_found same found
      have refused := find?_stableSort_eq_none.1 found' candidate chosen.listed
      rw [chosen.holds] at refused
      cases refused
  | none =>
    cases found' : (providersForService locale environment requirement.serviceId).find?
        (eligible requirement (candidates environment requirement.serviceId)) with
    | some candidate' =>
      have chosen := choosable_of_found (List.Perm.refl _) found'
      have refused := find?_stableSort_eq_none.1 found candidate' (perm.mem_iff.1 chosen.listed)
      rw [← eligible_perm perm, chosen.holds] at refused
      cases refused
    | none => rfl

/-- A candidate that may be chosen is the provider once its snapshot stands first. -/
theorem exists_perm_provider
    (apart : ∀ entry ∈ environment.snapshots, entry.snapshot.plugins.Pairwise Cordis.Apart)
    {candidate : Candidate} (chosen : Choosable locale environment requirement candidate) :
    ∃ snapshots, environment.snapshots.Perm snapshots ∧
      (resolveCapability locale { environment with snapshots } requirement).provider =
        some (providerReadback candidate) := by
  obtain ⟨entry, listed, inEntry⟩ := List.mem_flatMap.1 chosen.listed
  obtain ⟨rest, same⟩ := exists_perm_first listed
  refine ⟨entry :: rest, same, ?_⟩
  have perm : (candidates environment requirement.serviceId).Perm
      (candidates { environment with snapshots := entry :: rest } requirement.serviceId) :=
    candidates_perm same requirement.serviceId
  have parts : candidates { environment with snapshots := entry :: rest } requirement.serviceId =
      candidate :: rest.flatMap (candidatesOf requirement.serviceId) := by
    rw [candidates, List.flatMap_cons, candidatesOf_eq (apart entry listed) inEntry]
    rfl
  have least := Least.of_perm perm chosen
  rw [eligible_perm perm, parts] at least
  rw [resolveCapability_eq, providersForService, parts, find?_stableSort_first least]
  rfl

/-! ## The promise -/

/-- Some plugin of some snapshot provides the service with an accepted API version and at least
the requested scope. -/
def Provided (environment : PackageHostEnvironment)
    (requirement : PackageHostCapabilityRequirement) : Prop :=
  ∃ entry ∈ environment.snapshots, ∃ plugin ∈ entry.snapshot.plugins,
    requirement.serviceId ∈ plugin.provides ∧
    plugin.pluginApiVersion ∈ requirement.apiVersions ∧
    scopeRank requirement.scope ≤ scopeRank plugin.scope

theorem resolved_iff : (resolveCapability locale environment requirement).status = .resolved ↔
    Provided environment requirement := by
  rw [resolveCapability_eq]
  refine statusOf_eq_resolved.trans ?_
  constructor
  · rintro ⟨candidate, listed, exact⟩
    obtain ⟨entry, known, _, among, provides⟩ := mem_candidates.1 listed
    simp only [Exact, VersionMatch, Bool.and_eq_true, decide_eq_true_eq] at exact
    exact ⟨entry, known, candidate.plugin, among, provides, exact.1, exact.2⟩
  · rintro ⟨entry, known, plugin, among, provides, version, scope⟩
    refine ⟨{ plugin, snapshot := entry.snapshot }, ?_, ?_⟩
    · exact mem_candidates.2 ⟨entry, known, rfl, among, provides⟩
    · simp only [Exact, VersionMatch, Bool.and_eq_true, decide_eq_true_eq]
      exact ⟨version, scope⟩

theorem Provided.mono (more : environment.snapshots ⊆ other.snapshots)
    (provided : Provided environment requirement) : Provided other requirement := by
  obtain ⟨entry, listed, rest⟩ := provided
  exact ⟨entry, more listed, rest⟩

end

section

variable (platform : HostPlatform)

/-- The input with other snapshots. -/
def HostContextInput.withSnapshots (input : HostContextInput)
    (snapshots : List PackageHostCompositionSnapshot) : HostContextInput :=
  { input with environment := { input.environment with snapshots } }

/-- A capability is resolved exactly when it is provided. -/
def Resolves (environment : PackageHostEnvironment)
    (requirements : List PackageHostCapabilityRequirement)
    (resolutions : List PackageHostCapabilityResolution) : Prop :=
  List.Forall₂ (fun requirement resolution => resolution.serviceId = requirement.serviceId ∧
    (resolution.status = .resolved ↔ Provided environment requirement)) requirements resolutions

/-- What is promised of the context that was built from an input. -/
structure OrderIndependent (input : HostContextInput) (context : PackageHostContext) : Prop where
  permuted : ∀ snapshots, input.environment.snapshots.Perm snapshots →
    buildPackageHostContext platform (input.withSnapshots snapshots) = .ok context
  resolved : ∀ point ∈ input.point?, Resolves input.environment point.required context.required ∧
    Resolves input.environment point.optional context.optional
  kept : ∀ snapshots later, input.environment.snapshots ⊆ snapshots →
    buildPackageHostContext platform (input.withSnapshots snapshots) = .ok later →
      context.status = .ready → later.status = .ready
  accepted : assertPackageHostContext platform context = .ok ()

/-- Providers that may be chosen for one requirement read the same, and compositions whose ids
tie are one reference. -/
structure Unambiguous (input : HostContextInput) : Prop where
  providers : ∀ point ∈ input.point?, ∀ requirement ∈ point.required ++ point.optional,
    SettledProvider platform.locale input.environment requirement
  compositions : ∀ entry ∈ input.environment.snapshots, ∀ other ∈ input.environment.snapshots,
    Ties platform.locale.before (·.compositionId) entry other → entry.ref = other.ref

end

/-! ## Building -/

variable {platform : HostPlatform} {input : HostContextInput} {context : PackageHostContext}

/-- What an accepted input comes to. -/
structure Built (platform : HostPlatform) (input : HostContextInput)
    (point : PackageHostIntegrationPoint) (context : PackageHostContext) : Prop where
  integration : input.integration.Valid
  packageId : input.packageId ≠ ""
  snapshots : input.environment.snapshots ≠ []
  compositions : ∀ entry ∈ input.environment.snapshots,
    assertCordisCompositionSnapshot platform.snapshotDigest entry.snapshot = .ok ()
  declared : input.point? = some point
  valid : context.Valid
  contents : context = sealContext platform (unsignedContext platform.locale input point)

variable {point : PackageHostIntegrationPoint}

theorem point_eq_ok : input.point = .ok point ↔ input.point? = some point := by
  rw [HostContextInput.point]
  cases input.point? <;> simp

theorem buildPackageHostContext_eq_ok : buildPackageHostContext platform input = .ok context ↔
    ∃ point, Built platform input point context := by
  simp only [buildPackageHostContext, assertPackageHostIntegration, assertJsonSchemaPayload,
    ok_of_bind, ok_of_pure, demand_eq_ok, forM_eq_ok, point_eq_ok]
  constructor
  · rintro ⟨_, integration, _, packageId, _, snapshots, _, compositions, point, declared, _, valid,
      rfl⟩
    exact ⟨point, integration, packageId, snapshots, compositions, declared, valid, rfl⟩
  · rintro ⟨point, integration, packageId, snapshots, compositions, declared, valid, rfl⟩
    exact ⟨(), integration, (), packageId, (), snapshots, (), compositions, point, declared, (),
      valid, rfl⟩

theorem resolves_map (requirements : List PackageHostCapabilityRequirement) :
    Resolves environment requirements (requirements.map (resolveCapability locale environment)) := by
  rw [Resolves, List.forall₂_map_right_iff, List.forall₂_same]
  intro requirement _
  refine ⟨?_, resolved_iff⟩
  rw [resolveCapability_eq]

/-- A context is ready when the profile is allowed and every capability is resolved. -/
theorem ready_iff :
    (unsignedContext locale input point).status = .ready ↔
      input.environment.profileId ∈ point.allowedProfiles ∧
        ∀ requirement ∈ point.required ++ point.optional,
          Provided input.environment requirement := by
  have blockers : hostBlockers point input.environment.profileId
      (point.required.map (resolveCapability locale input.environment)) = [] ↔
        input.environment.profileId ∈ point.allowedProfiles ∧
          ∀ requirement ∈ point.required, Provided input.environment requirement := by
    simp only [hostBlockers, List.append_eq_nil_iff, ite_eq_left_iff, List.cons_ne_nil, imp_false,
      not_not, List.filterMap_eq_nil_iff, List.forall_mem_map, requiredBlocker, resolved_iff,
      reduceCtorEq]
  have optional : (point.optional.map (resolveCapability locale input.environment)).any
      (fun resolution => resolution.status ≠ .resolved) = false ↔
        ∀ requirement ∈ point.optional, Provided input.environment requirement := by
    simp only [List.any_eq_false, List.forall_mem_map, decide_eq_true_eq, not_not, resolved_iff]
  rw [List.forall_mem_append, ← and_assoc, ← blockers, ← optional]
  rw [unsignedContext, hostStatus]
  split_ifs with stopped degraded
  · exact ⟨by rintro ⟨⟩, fun both => absurd both.1 stopped⟩
  · refine ⟨by rintro ⟨⟩, fun both => ?_⟩
    rw [degraded] at both
    cases both.2
  · exact ⟨fun _ => ⟨not_not.1 stopped, Bool.eq_false_iff.2 degraded⟩, fun _ => rfl⟩

/-! ## Order independence -/

theorem Built.apart (built : Built platform input point context) :
    ∀ entry ∈ input.environment.snapshots, entry.snapshot.plugins.Pairwise Cordis.Apart :=
  fun entry listed => apart_of_accepted (built.compositions entry listed)

theorem snapshotRefs_perm (same : environment.snapshots.Perm other.snapshots)
    (single : ∀ entry ∈ environment.snapshots, ∀ other ∈ environment.snapshots,
      Ties locale.before (·.compositionId) entry other → entry.ref = other.ref) :
    snapshotRefs locale other = snapshotRefs locale environment := by
  refine (stableSort_eq_of_perm locale.order (same.map _) ?_).symm
  rw [List.forall_mem_map]
  intro entry listed
  rw [List.forall_mem_map]
  intro other listed' tie
  exact single entry listed other listed' tie

/-- An input without ambiguity gives one context, in whatever order its snapshots stand. -/
theorem Built.permuted (built : Built platform input point context)
    (unambiguous : Unambiguous platform input) {snapshots : List PackageHostCompositionSnapshot}
    (same : input.environment.snapshots.Perm snapshots) :
    Built platform (input.withSnapshots snapshots) point context := by
  have declared := built.declared
  have settled := unambiguous.providers point declared
  have required : point.required.map (resolveCapability platform.locale
      (input.withSnapshots snapshots).environment) =
        point.required.map (resolveCapability platform.locale input.environment) := by
    refine List.map_congr_left ?_
    intro requirement listed
    exact resolveCapability_perm same (settled requirement (List.mem_append_left _ listed))
  have optional : point.optional.map (resolveCapability platform.locale
      (input.withSnapshots snapshots).environment) =
        point.optional.map (resolveCapability platform.locale input.environment) := by
    refine List.map_congr_left ?_
    intro requirement listed
    exact resolveCapability_perm same (settled requirement (List.mem_append_right _ listed))
  have refs : snapshotRefs platform.locale (input.withSnapshots snapshots).environment =
      snapshotRefs platform.locale input.environment :=
    snapshotRefs_perm same unambiguous.compositions
  refine { built with
    snapshots := ?_
    compositions := ?_
    contents := ?_ }
  · intro empty
    have none := same.length_eq.trans (congrArg List.length empty)
    exact built.snapshots (List.length_eq_zero_iff.1 none)
  · intro entry listed
    exact built.compositions entry (same.mem_iff.2 listed)
  · rw [built.contents]
    refine congrArg (sealContext platform) ?_
    rw [unsignedContext, unsignedContext, required, optional, refs]
    rfl

theorem Built.resolves (built : Built platform input point context) :
    Resolves input.environment point.required context.required ∧
      Resolves input.environment point.optional context.optional := by
  rw [built.contents]
  exact ⟨resolves_map point.required, resolves_map point.optional⟩

theorem Built.kept {point' : PackageHostIntegrationPoint}
    (built : Built platform input point context) {snapshots : List PackageHostCompositionSnapshot}
    {later : PackageHostContext} (more : input.environment.snapshots ⊆ snapshots)
    (built' : Built platform (input.withSnapshots snapshots) point' later)
    (ready : context.status = .ready) : later.status = .ready := by
  have same : point' = point := by
    have declared : some point' = some point := built'.declared.symm.trans built.declared
    exact Option.some.inj declared
  subst same
  rw [built.contents] at ready
  obtain ⟨allowed, provided⟩ := ready_iff.1 ready
  rw [built'.contents]
  refine ready_iff.2 ⟨allowed, ?_⟩
  intro requirement listed
  exact (provided requirement listed).mono more

theorem Built.accepted {point : PackageHostIntegrationPoint}
    (built : Built platform input point context) :
    assertPackageHostContext platform context = .ok () := by
  simp only [assertPackageHostContext, assertJsonSchemaPayload, ok_of_bind, demand_eq_ok]
  refine ⟨(), built.valid, ?_⟩
  rw [built.contents]
  exact ⟨rfl, rfl⟩

/-- Where all orders give one context, whatever may be chosen reads the same. -/
theorem Built.unambiguous (built : Built platform input point context)
    (fixed : ∀ snapshots, input.environment.snapshots.Perm snapshots →
      buildPackageHostContext platform (input.withSnapshots snapshots) = .ok context) :
    Unambiguous platform input := by
  have contents : ∀ snapshots, input.environment.snapshots.Perm snapshots →
      unsignedContext platform.locale (input.withSnapshots snapshots) point =
        context.toUnsignedContext := by
    intro snapshots same
    obtain ⟨point', built'⟩ := buildPackageHostContext_eq_ok.1 (fixed snapshots same)
    have declared : some point' = some point := built'.declared.symm.trans built.declared
    cases declared
    rw [built'.contents]
    rfl
  constructor
  · intro point' declared requirement listed candidate other chosen chosen'
    have same : some point' = some point := declared.symm.trans built.declared
    cases same
    have resolution : ∀ snapshots, input.environment.snapshots.Perm snapshots →
        resolveCapability platform.locale { input.environment with snapshots } requirement =
          resolveCapability platform.locale input.environment requirement := by
      intro snapshots same
      have agree := (contents snapshots same).trans (contents _ (List.Perm.refl _)).symm
      obtain inRequired | inOptional := List.mem_append.1 listed
      · exact List.map_inj_left.1 (congrArg UnsignedContext.required agree) requirement inRequired
      · exact List.map_inj_left.1 (congrArg UnsignedContext.optional agree) requirement inOptional
    obtain ⟨snapshots, same, provider⟩ := exists_perm_provider built.apart chosen
    obtain ⟨snapshots', same', provider'⟩ := exists_perm_provider built.apart chosen'
    rw [resolution snapshots same] at provider
    rw [resolution snapshots' same', provider] at provider'
    exact Option.some.inj provider'
  · intro entry listed other listed' tie
    have refs : ∀ others, (input.environment.snapshots.map (·.ref)).Perm others →
        stableSort platform.locale.before (·.compositionId) others =
          stableSort platform.locale.before (·.compositionId)
            (input.environment.snapshots.map (·.ref)) := by
      intro others same
      obtain ⟨snapshots, rfl, perm⟩ :=
        (congrFun₂ (List.eq_map_comp_perm PackageHostCompositionSnapshot.ref) _ _).mpr same.symm
      have agree := (contents snapshots perm.symm).trans (contents _ (List.Perm.refl _)).symm
      exact congrArg UnsignedContext.compositionSnapshotRefs agree
    exact eq_of_ties platform.locale.order refs (List.mem_map_of_mem listed)
      (List.mem_map_of_mem listed') tie

def sampleDigestText (c : Char) : String := "sha256:" ++ String.ofList (List.replicate 64 c)

theorem sampleDigest_valid :
    isSha256Digest (sampleDigestText 'a') = true ∧ isSha256Digest (sampleDigestText 'b') = true := by
  decide +kernel

def firstDigest : Digest := ⟨sampleDigestText 'a', sampleDigest_valid.1⟩

def secondDigest : Digest := ⟨sampleDigestText 'b', sampleDigest_valid.2⟩

theorem compareStrings_totalPreorder : TotalPreorder fun left right => !compareStrings right left where
  total left right := by
    cases after : compareStrings right left with
    | false => exact .inl rfl
    | true => exact .inr (congrArg not (compareStrings_strictOrder.asymm after))
  trans left mid right first second := by
    rw [Bool.not_eq_true'] at first second ⊢
    exact compareStrings_strictOrder.not_after_trans first second

/-- Strings in the order of their code units. -/
def codeUnitOrder : LocaleOrder where
  before left right := !compareStrings right left
  order := compareStrings_totalPreorder

/-- The digests tell the two versions apart. -/
def samplePlatform : HostPlatform where
  snapshotDigest content :=
    if content.plugins.any (·.pluginApiVersion = "1.0.0") then firstDigest else secondDigest
  contextDigest context :=
    if context.required.any (·.provider.any (·.pluginApiVersion = "1.0.0")) then firstDigest
    else secondDigest
  locale := codeUnitOrder

def samplePlugin (version : String) : CordisPluginDescriptor where
  pluginId := "notes"
  pluginApiVersion := version
  sourceRef := "packages/notes"
  sourceCommit := "4f1c"
  packageRef := none
  required := true
  provides := ["notes.store"]
  injects := { required := [], optional := [] }
  events := []
  scope := .session
  trust := .firstPartyRestricted
  disposer := .pluginFiber
  forbiddenAuthorities := []
  id := "notes"
  pluginRef := pluginRef "notes" version
  sourceIdentity := sourceIdentity "packages/notes" "4f1c"

def sampleSnapshot (version : String) (digest : Digest) : CordisCompositionSnapshot where
  framework := { package := "cordis", version := "4.0.0", integrity := "sha512-q" }
  binding :=
    { executorAdapterId := "codex", executorRoute := "local", childCompositionSnapshotRefs := none }
  foundryEvidenceRef := none
  plugins := [samplePlugin version]
  snapshotId := s!"cordis:snapshot:{digest.val}"
  snapshotDigest := digest.val

def firstComposition : PackageHostCompositionSnapshot where
  compositionId := "base"
  snapshot := sampleSnapshot "1.0.0" firstDigest

def secondComposition : PackageHostCompositionSnapshot where
  compositionId := "extended"
  snapshot := sampleSnapshot "1.1.0" secondDigest

def samplePoint : PackageHostIntegrationPoint where
  integrationId := "notes"
  trigger := .handlerRef
  allowedProfiles := [.appFull]
  required :=
    [{ serviceId := "notes.store", apiVersions := ["1.0.0", "1.1.0"], scope := .attempt }]
  optional := []

def sampleInput (snapshots : List PackageHostCompositionSnapshot) : HostContextInput where
  packageId := "journal"
  integration :=
    { integrationKind := .hostClient
      integrationPoints := [samplePoint]
      compositionPolicy := { freeze := .compositionStart, teardownOwner := .oplHost }
      forbiddenAuthorities := [] }
  integrationTrigger := .handlerRef
  environment := { profileId := .appFull, snapshots }

/-- The context of an input that is accepted. -/
def sampleContext (snapshots : List PackageHostCompositionSnapshot) : PackageHostContext :=
  sealContext samplePlatform (unsignedContext codeUnitOrder (sampleInput snapshots) samplePoint)

theorem sample_builds :
    buildPackageHostContext samplePlatform (sampleInput [firstComposition]) =
        .ok (sampleContext [firstComposition]) ∧
      buildPackageHostContext samplePlatform (sampleInput [firstComposition, secondComposition]) =
        .ok (sampleContext [firstComposition, secondComposition]) ∧
      buildPackageHostContext samplePlatform (sampleInput [secondComposition, firstComposition]) ≠
        .ok (sampleContext [firstComposition, secondComposition]) := by
  decide +kernel

end OnePersonLab.PackageHost
