import OnePersonLab.Lib.Outcome
import OnePersonLab.Package.PackBundle

/-!
# When a written bundle checks clean

The writer and the checker compute the same record from the source files, so a bundle checks clean
as long as the writer leaves the source files alone. The aggregate holds the items of every entry
as long as no two entries, and no metadata, claim one field.
-/

namespace OnePersonLab.Package.PackBundle

open Contract

/-! ## Computations that succeed elsewhere too -/

/-- The second computation returns what the first one returns. -/
def AlsoReturns {α : Type} (first second : Checked α) : Prop :=
  ∀ value, first = .ok value → second = .ok value

theorem AlsoReturns.refl {α : Type} (checked : Checked α) : AlsoReturns checked checked :=
  fun _ returned => returned

theorem AlsoReturns.bind {α β : Type} {first second : Checked α} {next other : α → Checked β}
    (start : AlsoReturns first second) (each : ∀ value, AlsoReturns (next value) (other value)) :
    AlsoReturns (first >>= next) (second >>= other) := by
  intro result returned
  obtain ⟨value, computed, last⟩ := bind_eq_ok.1 returned
  exact bind_eq_ok.2 ⟨value, start value computed, each value result last⟩

theorem AlsoReturns.mapEach {α β : Type} {check other : α → Checked β} {items : List α}
    (each : ∀ item ∈ items, AlsoReturns (check item) (other item)) :
    AlsoReturns (mapEach check items) (mapEach other items) := by
  induction items with
  | nil => exact AlsoReturns.refl _
  | cons item rest ih =>
    rw [List.forall_mem_cons] at each
    refine AlsoReturns.bind each.1 fun value => ?_
    exact AlsoReturns.bind (ih each.2) fun values => AlsoReturns.refl _

/-- What the last step makes true, a computation makes true. -/
theorem leadsTo_bind {α β : Type} {first : Checked α} {next : α → Checked β} {result : β}
    {conclusion : Prop} (each : ∀ value, next value = .ok result → conclusion) :
    (first >>= next) = .ok result → conclusion := by
  intro computed
  obtain ⟨value, -, last⟩ := bind_eq_ok.1 computed
  exact each value last

variable {Bytes : Type}

/-! ## Files that stay -/

/-- The files at the paths are kept. -/
def KeepsFiles (paths : List Path) (before after : FileTree Bytes) : Prop :=
  ∀ path ∈ paths, ∀ content, before path = some (.file content) →
    after path = some (.file content)

theorem readFile_eq_ok {tree : FileTree Bytes} {path : Path} {content : Bytes} :
    readFile tree path = .ok content ↔ tree path = some (.file content) := by
  unfold readFile
  cases found : tree path with
  | none => by_cases below : path.inits.any tree.isFile <;> simp [below]
  | some node => cases node <;> simp

section

variable {platform : Platform Bytes}

section

variable {paths : List Path} {before after : FileTree Bytes} {path : Path}

theorem KeepsFiles.readFile (kept : KeepsFiles paths before after) (listed : path ∈ paths) :
    AlsoReturns (readFile before path) (readFile after path) := by
  intro content read
  exact readFile_eq_ok.2 (kept path listed content (readFile_eq_ok.1 read))

theorem KeepsFiles.sha256File (kept : KeepsFiles paths before after) (listed : path ∈ paths) :
    AlsoReturns (sha256File platform before path) (sha256File platform after path) :=
  (kept.readFile listed).bind fun _ => AlsoReturns.refl _

/-- The file at the path is a JSON object with these members. -/
def RecordAt (platform : Platform Bytes) (tree : FileTree Bytes) (path : Path)
    (members : JsonRecord) : Prop :=
  ∃ content, tree path = some (.file content) ∧ platform.parse content = some (.object members)

theorem RecordAt.unique {tree : FileTree Bytes} {members others : JsonRecord}
    (first : RecordAt platform tree path members) (second : RecordAt platform tree path others) :
    members = others := by
  obtain ⟨content, found, parsed⟩ := first
  obtain ⟨again, same, other⟩ := second
  obtain rfl : content = again := by simpa [found] using same
  simpa [parsed] using other

theorem readJsonRecordFile_eq_ok {tree : FileTree Bytes} {members : JsonRecord} :
    readJsonRecordFile platform tree path = .ok members ↔ RecordAt platform tree path members := by
  unfold readJsonRecordFile RecordAt
  by_cases missing : (tree path).isNone ∧ (!path.inits.any tree.isFile) = true
  · have absent : tree path = none := Option.isNone_iff_eq_none.1 missing.1
    simp [missing, absent]
  · rw [if_neg missing, bind_eq_ok]
    constructor
    · rintro ⟨content, read, last⟩
      refine ⟨content, readFile_eq_ok.1 read, ?_⟩
      revert last
      cases platform.parse content with
      | none => simp
      | some value => cases value <;> simp
    · rintro ⟨content, found, parsed⟩
      exact ⟨content, readFile_eq_ok.2 found, by simp [parsed]⟩

theorem KeepsFiles.readJsonRecordFile (kept : KeepsFiles paths before after) (listed : path ∈ paths)
    :
    AlsoReturns (readJsonRecordFile platform before path)
      (readJsonRecordFile platform after path) := by
  intro members read
  obtain ⟨content, found, parsed⟩ := readJsonRecordFile_eq_ok.1 read
  exact readJsonRecordFile_eq_ok.2 ⟨content, kept path listed content found, parsed⟩

/-! ## The sources of a bundle -/

/-- The files that the bundle is built from. -/
def Assembly.sources (assembly : Assembly) : List Path :=
  assembly.path :: assembly.sourceRoot.path ::
    assembly.generatedArrayFields.flatMap fun field => field.order.map field.itemPath

theorem Assembly.itemPath_mem_sources {assembly : Assembly} {field : GeneratedArrayField}
    (listed : field ∈ assembly.generatedArrayFields) {itemRef : String}
    (ordered : itemRef ∈ field.order) : field.itemPath itemRef ∈ assembly.sources := by
  refine List.mem_cons_of_mem _ (List.mem_cons_of_mem _ ?_)
  exact List.mem_flatMap.2 ⟨field, listed, List.mem_map_of_mem ordered⟩

end

variable {before after : FileTree Bytes} {assembly : Assembly}

section

variable {assemblyPath : Path}

theorem sourceEntry_kept (kept : KeepsFiles assembly.sources before after) {path : Path}
    (listed : path ∈ assembly.sources) (role ref : String) (item : Option (String × Nat)) :
    AlsoReturns (sourceEntry platform before role path ref item)
      (sourceEntry platform after role path ref item) :=
  (kept.sha256File listed).bind fun _ => AlsoReturns.refl _

theorem buildSourceEntries_kept (kept : KeepsFiles assembly.sources before after) :
    AlsoReturns (buildSourceEntries platform before assembly)
      (buildSourceEntries platform after assembly) := by
  refine AlsoReturns.bind (sourceEntry_kept kept (by simp [Assembly.sources]) _ _ _) fun root => ?_
  refine AlsoReturns.bind ?_ fun items => AlsoReturns.refl _
  refine AlsoReturns.mapEach fun field listed => AlsoReturns.mapEach fun entry ordered => ?_
  refine AlsoReturns.bind (AlsoReturns.refl _) fun _ => ?_
  have named : entry.1 ∈ field.order := List.fst_mem_of_mem_zipIdx ordered
  exact sourceEntry_kept kept (Assembly.itemPath_mem_sources listed named) _ _ _

theorem itemValues_kept (kept : KeepsFiles assembly.sources before after)
    {field : GeneratedArrayField} (listed : field ∈ assembly.generatedArrayFields) :
    AlsoReturns (itemValues platform before field) (itemValues platform after field) := by
  refine AlsoReturns.mapEach fun itemRef ordered => ?_
  refine AlsoReturns.bind (kept.readJsonRecordFile ?_) fun _ => AlsoReturns.refl _
  exact Assembly.itemPath_mem_sources listed ordered

theorem fillFields_kept (kept : KeepsFiles assembly.sources before after)
    {fields : List GeneratedArrayField} (listed : fields ⊆ assembly.generatedArrayFields)
    (aggregate : JsonRecord) :
    AlsoReturns (fillFields platform before aggregate fields)
      (fillFields platform after aggregate fields) := by
  induction fields generalizing aggregate with
  | nil => exact AlsoReturns.refl _
  | cons field rest ih =>
    obtain ⟨first, others⟩ := List.cons_subset.1 listed
    exact AlsoReturns.bind (itemValues_kept kept first) fun values => ih others _

theorem buildAggregate_kept (kept : KeepsFiles assembly.sources before after) (digest : String) :
    AlsoReturns (buildAggregate platform before assembly digest)
      (buildAggregate platform after assembly digest) := by
  refine AlsoReturns.bind (kept.readJsonRecordFile (by simp [Assembly.sources])) fun root => ?_
  refine AlsoReturns.bind (fillFields_kept kept (List.Subset.refl _) root) fun aggregate => ?_
  exact AlsoReturns.bind (buildSourceEntries_kept kept) fun _ => AlsoReturns.refl _

/-- The parts of a record that was built. -/
theorem buildManifestRecord_eq_ok {tree : FileTree Bytes} {record : ManifestRecord Bytes} :
    buildManifestRecord platform tree assemblyPath = .ok record ↔
      ∃ assembly entries aggregate, loadAssembly platform tree assemblyPath = .ok assembly ∧
        buildSourceEntries platform tree assembly = .ok entries ∧
        buildAggregate platform tree assembly (sourceDigest platform entries) = .ok aggregate ∧
        record = {
          assembly, aggregate
          aggregateText := platform.jsonText (.object aggregate)
          expectedAggregateSha256 := platform.sha256 (platform.jsonText (.object aggregate))
          sourceDigest := sourceDigest platform entries
          sourceEntries := entries
          manifest := manifestOf assembly entries (sourceDigest platform entries)
            (platform.sha256 (platform.jsonText (.object aggregate))) } := by
  simp only [buildManifestRecord, bind_eq_ok, pure_eq_ok]
  constructor
  · rintro ⟨assembly, loaded, entries, hashed, aggregate, filled, rfl⟩
    exact ⟨assembly, entries, aggregate, loaded, hashed, filled, rfl⟩
  · rintro ⟨assembly, entries, aggregate, loaded, hashed, filled, rfl⟩
    exact ⟨assembly, loaded, entries, hashed, aggregate, filled, rfl⟩

theorem loadAssembly_path {tree : FileTree Bytes}
    (loaded : loadAssembly platform tree assemblyPath = .ok assembly) :
    assembly.path = assemblyPath := by
  obtain ⟨members, -, checked⟩ := bind_eq_ok.1 loaded
  revert checked
  -- Every check before the result is one of fifteen steps.
  unfold assemblyOf
  iterate 15 refine leadsTo_bind fun _ => ?_
  rintro ⟨⟩
  rfl

/-- A bundle is built again where its source files are kept. -/
theorem buildManifestRecord_kept {record : ManifestRecord Bytes}
    (built : buildManifestRecord platform before assemblyPath = .ok record)
    (kept : KeepsFiles record.assembly.sources before after) :
    buildManifestRecord platform after assemblyPath = .ok record := by
  obtain ⟨assembly, entries, aggregate, loaded, hashed, filled, rfl⟩ :=
    buildManifestRecord_eq_ok.1 built
  dsimp only at kept
  refine buildManifestRecord_eq_ok.2 ⟨assembly, entries, aggregate, ?_, ?_, ?_, rfl⟩
  · have here : assemblyPath ∈ assembly.sources := by
      simp [Assembly.sources, loadAssembly_path loaded]
    exact AlsoReturns.bind (kept.readJsonRecordFile here) (fun _ => AlsoReturns.refl _) _ loaded
  · exact buildSourceEntries_kept kept _ hashed
  · exact buildAggregate_kept kept _ _ filled

end

/-! ## Writing twice -/

/-- The file is there, and so are the directories above it. -/
structure Stands (tree : FileTree Bytes) (path : Path) (content : Bytes) : Prop where
  directories : ∀ directory ∈ path.dropLast.inits, tree directory = some .directory
  file : tree path = some (.file content)

section

variable {tree written : FileTree Bytes} {path : Path} {payload : Json} {output : WrittenOutput}

/-- What a write does when it succeeds. -/
theorem writeJsonFile_eq_ok
    (wrote : writeJsonFile platform tree path payload = (.ok output, written)) :
    path ∉ path.dropLast.inits ∧ tree.isDirectory path = false ∧
      (∀ directory ∈ path.dropLast.inits, tree.isFile directory = false) ∧
      written = fun other =>
        if other = path then some (.file (platform.jsonText payload))
        else if other ∈ path.dropLast.inits then some .directory else tree other := by
  unfold writeJsonFile at wrote
  by_cases blocked : path.dropLast.inits.any tree.isFile
  · simp [FileTree.makeDirectories, blocked] at wrote
  simp only [FileTree.makeDirectories, blocked, if_false, Bool.false_eq_true] at wrote
  simp only [FileTree.writeFile, FileTree.isDirectory] at wrote
  by_cases above : path ∈ path.dropLast.inits
  · simp [above] at wrote
  simp only [above, if_false] at wrote
  by_cases directory : tree.isDirectory path
  · simp only [FileTree.isDirectory] at directory
    simp [directory] at wrote
  have plain := directory
  simp only [FileTree.isDirectory] at directory
  simp only [directory, if_false, Bool.false_eq_true, Prod.mk.injEq] at wrote
  refine ⟨above, by simpa using plain, ?_, wrote.2.symm⟩
  simpa using blocked

theorem writeJsonFile_stands
    (wrote : writeJsonFile platform tree path payload = (.ok output, written)) :
    Stands written path (platform.jsonText payload) := by
  obtain ⟨above, -, -, rfl⟩ := writeJsonFile_eq_ok wrote
  refine ⟨fun directory listed => ?_, by simp⟩
  have differs : directory ≠ path := by
    rintro rfl
    exact above listed
  simp only [differs, if_false, listed, if_true]

/-- A write leaves every other file and every directory. -/
theorem writeJsonFile_keeps {other : Path} {node : Node Bytes}
    (wrote : writeJsonFile platform tree path payload = (.ok output, written))
    (found : tree other = some node) (apart : other ≠ path ∨ node = .directory) :
    written other = some node := by
  obtain ⟨-, notDirectory, notFiles, rfl⟩ := writeJsonFile_eq_ok wrote
  have differs : other ≠ path := by
    rintro rfl
    rcases apart with apart | rfl
    · exact apart rfl
    · simp [FileTree.isDirectory, found] at notDirectory
  simp only [differs, if_false]
  by_cases above : other ∈ path.dropLast.inits
  · have noFile := notFiles other above
    cases node with
    | file content => simp [FileTree.isFile, found] at noFile
    | directory => simp [above]
  · simp [above, found]

theorem Stands.keeps {other : Path} {content : Bytes} (stands : Stands tree path content)
    (wrote : writeJsonFile platform tree other payload = (.ok output, written))
    (apart : path ≠ other) : Stands written path content where
  directories directory listed :=
    writeJsonFile_keeps wrote (stands.directories directory listed) (.inr rfl)
  file := writeJsonFile_keeps wrote stands.file (.inl apart)

/-- Writing what stands there already changes nothing. -/
theorem Stands.written_again (stands : Stands tree path (platform.jsonText payload)) :
    writeJsonFile platform tree path payload =
      (.ok ⟨path, platform.sha256 (platform.jsonText payload)⟩, tree) := by
  have unblocked : path.dropLast.inits.any tree.isFile = false := by
    refine List.any_eq_false.2 fun directory listed => ?_
    simp [FileTree.isFile, stands.directories directory listed]
  have ready : tree.makeDirectories path.dropLast = some tree := by
    simp only [FileTree.makeDirectories, unblocked, if_false, Bool.false_eq_true]
    congr 1
    funext other
    by_cases above : other ∈ path.dropLast.inits
    · simp [above, stands.directories other above]
    · simp [above]
  have filled : tree.writeFile path (platform.jsonText payload) = some tree := by
    simp only [FileTree.writeFile, FileTree.isDirectory, stands.file, if_false,
      Bool.false_eq_true]
    congr 1
    funext other
    by_cases same : other = path
    · simp [same, stands.file]
    · simp [same]
  have hashed : sha256File platform tree path =
      .ok (platform.sha256 (platform.jsonText payload)) :=
    bind_eq_ok.2 ⟨_, readFile_eq_ok.2 stands.file, rfl⟩
  simp only [writeJsonFile, ready, filled, hashed]
  rfl

/-- The two writes of a call that succeeds. -/
theorem writePackBundleAggregate_eq_ok {assemblyPath : Path} {result : BundleWrite}
    (wrote : writePackBundleAggregate platform tree assemblyPath = (.ok result, written)) :
    ∃ record between first second,
      buildManifestRecord platform tree assemblyPath = .ok record ∧
      writeJsonFile platform tree record.assembly.aggregate.path (.object record.aggregate) =
        (.ok first, between) ∧
      writeJsonFile platform between record.assembly.manifest.path record.manifest =
        (.ok second, written) := by
  unfold writePackBundleAggregate at wrote
  cases built : buildManifestRecord platform tree assemblyPath with
  | error failure => simp [built] at wrote
  | ok record =>
    simp only [built] at wrote
    cases aggregate : writeJsonFile platform tree record.assembly.aggregate.path
        (.object record.aggregate) with
    | mk first between =>
      cases first with
      | error failure => simp [aggregate] at wrote
      | ok first =>
        simp only [aggregate] at wrote
        cases manifest : writeJsonFile platform between record.assembly.manifest.path
            record.manifest with
        | mk second last =>
          cases second with
          | error failure => simp [manifest] at wrote
          | ok second =>
            simp only [manifest, Prod.mk.injEq] at wrote
            obtain ⟨-, rfl⟩ := wrote
            exact ⟨record, between, first, second, rfl, aggregate, manifest⟩

end

/-! ## What the aggregate holds -/

section

variable {record : JsonRecord} {name : String}

theorem field?_append_of_none (rest : JsonRecord) (absent : field? record name = none) :
    field? (record ++ rest) name = field? rest name := by
  induction record with
  | nil => rfl
  | cons member others ih =>
    obtain ⟨key, value⟩ := member
    rw [field?_cons] at absent
    rw [List.cons_append, field?_cons]
    by_cases same : name = key
    · simp [same] at absent
    · simp only [same, if_false] at absent ⊢
      exact ih absent

theorem field?_append_of_ne {other : String} (value : Json) (differs : other ≠ name) :
    field? (record ++ [(name, value)]) other = field? record other := by
  induction record with
  | nil => simp [field?_cons, differs]
  | cons member others ih =>
    obtain ⟨key, first⟩ := member
    rw [List.cons_append, field?_cons, field?_cons, ih]

theorem field?_replaced (record : JsonRecord) (name other : String) (value : Json) :
    field? (record.map fun member => if member.1 = name then (name, value) else member) other =
      if other = name ∧ (field? record name).isSome then some value else field? record other := by
  induction record with
  | nil => simp
  | cons member others ih =>
    obtain ⟨key, first⟩ := member
    simp only [List.map_cons]
    by_cases here : key = name
    · subst here
      by_cases same : other = key
      · simp [same]
      · simp [same, field?_cons, ih]
    · by_cases same : other = name
      · subst same
        simp [here, field?_cons, ih, Ne.symm here]
      · simp [here, same, field?_cons, ih]

theorem field?_assign_of_ne {other : String} (value : Json) (differs : other ≠ name) :
    field? (assign record name value) other = field? record other := by
  unfold assign
  by_cases known : (field? record name).isSome
  · rw [if_pos known, field?_replaced]
    simp [differs]
  · rw [if_neg known]
    by_cases prototype : name = "__proto__"
    · rw [if_pos prototype]
    · rw [if_neg prototype, field?_append_of_ne value differs]

theorem field?_assign_self (value : Json)
    (assignable : name = "__proto__" → (field? record name).isSome) :
    field? (assign record name value) name = some value := by
  unfold assign
  by_cases known : (field? record name).isSome
  · rw [if_pos known, field?_replaced]
    simp [known]
  · have ordinary : name ≠ "__proto__" := fun same => known (assignable same)
    have absent : field? record name = none := by simpa using known
    rw [if_neg known, if_neg ordinary, field?_append_of_none _ absent]
    simp

/-- An assignment makes no prototype an own member. -/
theorem isSome_prototype_assign (record : JsonRecord) (name : String) (value : Json) :
    (field? (assign record name value) "__proto__").isSome =
      (field? record "__proto__").isSome := by
  by_cases prototype : "__proto__" = name
  · subst prototype
    by_cases known : (field? record "__proto__").isSome
    · rw [field?_assign_self value fun _ => known, known]
      rfl
    · simp only [assign, known, if_false, if_true, Bool.false_eq_true]
  · rw [field?_assign_of_ne value prototype]

end

/-- The items of a field, read off the files. -/
def ItemsAt (platform : Platform Bytes) (tree : FileTree Bytes) (field : GeneratedArrayField)
    (values : List Json) : Prop :=
  List.Forall₂ (fun itemRef value => ∃ members,
    RecordAt platform tree (field.itemPath itemRef) members ∧ .object members = value)
    field.order values

theorem itemValues_eq_ok {tree : FileTree Bytes} {field : GeneratedArrayField}
    {values : List Json} :
    itemValues platform tree field = .ok values ↔ ItemsAt platform tree field values := by
  simp only [itemValues, mapEach_eq_ok, bind_eq_ok, pure_eq_ok, readJsonRecordFile_eq_ok, ItemsAt]

theorem ItemsAt.unique {tree : FileTree Bytes} {field : GeneratedArrayField}
    {values others : List Json} (first : ItemsAt platform tree field values)
    (second : ItemsAt platform tree field others) : values = others := by
  have same := (itemValues_eq_ok.2 first).symm.trans (itemValues_eq_ok.2 second)
  simpa using same

section

variable {tree : FileTree Bytes} {fields : List GeneratedArrayField}
  {aggregate result : JsonRecord}

theorem fillFields_cons {field : GeneratedArrayField} :
    fillFields platform tree aggregate (field :: fields) = .ok result ↔
      ∃ values, ItemsAt platform tree field values ∧
        fillFields platform tree (assign aggregate field.field (.array values)) fields =
          .ok result := by
  simp only [fillFields, bind_eq_ok, itemValues_eq_ok]

theorem fillFields_others (filled : fillFields platform tree aggregate fields = .ok result)
    {name : String} (unclaimed : ∀ field ∈ fields, field.field ≠ name) :
    field? result name = field? aggregate name := by
  induction fields generalizing aggregate with
  | nil =>
    obtain rfl : aggregate = result := by simpa [fillFields] using filled
    rfl
  | cons field rest ih =>
    rw [List.forall_mem_cons] at unclaimed
    obtain ⟨values, -, later⟩ := fillFields_cons.1 filled
    rw [ih later unclaimed.2, field?_assign_of_ne _ (Ne.symm unclaimed.1)]

theorem fillFields_prototype (filled : fillFields platform tree aggregate fields = .ok result) :
    (field? result "__proto__").isSome = (field? aggregate "__proto__").isSome := by
  induction fields generalizing aggregate with
  | nil =>
    obtain rfl : aggregate = result := by simpa [fillFields] using filled
    rfl
  | cons field rest ih =>
    obtain ⟨values, -, later⟩ := fillFields_cons.1 filled
    rw [ih later, isSome_prototype_assign]

theorem fillFields_items_exist (filled : fillFields platform tree aggregate fields = .ok result)
    {field : GeneratedArrayField} (listed : field ∈ fields) :
    ∃ values, ItemsAt platform tree field values := by
  induction fields generalizing aggregate with
  | nil => simp at listed
  | cons first rest ih =>
    obtain ⟨values, items, later⟩ := fillFields_cons.1 filled
    rcases List.mem_cons.1 listed with rfl | other
    · exact ⟨values, items⟩
    · exact ih later other

/-- The last entry of a field decides, so the entries of one field have to agree. -/
theorem fillFields_items (filled : fillFields platform tree aggregate fields = .ok result)
    {name : String} {values : List Json} (claimed : ∃ field ∈ fields, field.field = name)
    (alike : ∀ field ∈ fields, field.field = name → ∀ others,
      ItemsAt platform tree field others → others = values)
    (assignable : name = "__proto__" → (field? aggregate name).isSome) :
    field? result name = some (.array values) := by
  induction fields generalizing aggregate with
  | nil =>
    obtain ⟨field, listed, -⟩ := claimed
    simp at listed
  | cons first rest ih =>
    rw [List.forall_mem_cons] at alike
    obtain ⟨firstValues, items, later⟩ := fillFields_cons.1 filled
    by_cases again : ∃ field ∈ rest, field.field = name
    · refine ih later again alike.2 fun prototype => ?_
      subst prototype
      rw [isSome_prototype_assign]
      exact assignable rfl
    · have here : first.field = name := by
        obtain ⟨field, listed, named⟩ := claimed
        rcases List.mem_cons.1 listed with rfl | other
        · exact named
        · exact absurd ⟨field, other, named⟩ again
      subst here
      rw [fillFields_others later fun field listed same => again ⟨field, listed, same⟩,
        alike.1 rfl firstValues items]
      exact field?_assign_self _ assignable

end

/-- The aggregate has the items of every entry under its field, and what no entry and no metadata
replaces of the source root. -/
structure Carries (platform : Platform Bytes) (tree : FileTree Bytes) (assembly : Assembly)
    (aggregate : JsonRecord) : Prop where
  items : ∀ field ∈ assembly.generatedArrayFields, ∃ values, ItemsAt platform tree field values ∧
    field? aggregate field.field = some (.array values)
  members : ∀ root, RecordAt platform tree assembly.sourceRoot.path root →
    ∀ name value, field? root name = some value →
      (∀ field ∈ assembly.generatedArrayFields, field.field ≠ name) → name ≠ "generated_by" →
      field? aggregate name = some value

/-- Every entry has a field of its own, and one that can hold its items. Entries of one field list
the same items. -/
structure FieldsKept (platform : Platform Bytes) (tree : FileTree Bytes) (assembly : Assembly) :
    Prop where
  notMetadata : ∀ field ∈ assembly.generatedArrayFields, field.field ≠ "generated_by"
  notPrototype : ∀ field ∈ assembly.generatedArrayFields, field.field = "__proto__" →
    ∀ root, RecordAt platform tree assembly.sourceRoot.path root →
      (field? root "__proto__").isSome
  alike : ∀ left ∈ assembly.generatedArrayFields, ∀ right ∈ assembly.generatedArrayFields,
    left.field = right.field → ∀ values others, ItemsAt platform tree left values →
      ItemsAt platform tree right others → values = others

section

variable {tree : FileTree Bytes} {digest : String} {aggregate : JsonRecord}

theorem buildAggregate_eq_ok
    (built : buildAggregate platform tree assembly digest = .ok aggregate) :
    ∃ root filled entries, RecordAt platform tree assembly.sourceRoot.path root ∧
      fillFields platform tree root assembly.generatedArrayFields = .ok filled ∧
      aggregate = assign filled "generated_by" (generatedBy assembly digest entries) := by
  simp only [buildAggregate, bind_eq_ok, pure_eq_ok, readJsonRecordFile_eq_ok] at built
  obtain ⟨root, read, filled, fields, entries, -, rfl⟩ := built
  exact ⟨root, filled, entries.length, read, fields, rfl⟩

theorem carries_members
    (built : buildAggregate platform tree assembly digest = .ok aggregate) (root : JsonRecord)
    (read : RecordAt platform tree assembly.sourceRoot.path root) (name : String) (value : Json)
    (member : field? root name = some value)
    (unclaimed : ∀ field ∈ assembly.generatedArrayFields, field.field ≠ name)
    (source : name ≠ "generated_by") : field? aggregate name = some value := by
  obtain ⟨again, filled, entries, same, fields, rfl⟩ := buildAggregate_eq_ok built
  obtain rfl := read.unique same
  rw [field?_assign_of_ne _ source, fillFields_others fields unclaimed, member]

/-- The aggregate carries the items exactly when the fields can keep them. -/
theorem carries_iff (built : buildAggregate platform tree assembly digest = .ok aggregate) :
    Carries platform tree assembly aggregate ↔ FieldsKept platform tree assembly := by
  obtain ⟨root, filled, entries, read, fields, rfl⟩ := buildAggregate_eq_ok built
  constructor
  · intro carries
    have ordinary : ∀ field ∈ assembly.generatedArrayFields, field.field ≠ "generated_by" := by
      intro field listed named
      obtain ⟨values, -, holds⟩ := carries.items field listed
      rw [named, field?_assign_self _ (by simp)] at holds
      cases holds
    refine ⟨ordinary, fun field listed prototype other same => ?_, ?_⟩
    · obtain rfl := read.unique same
      obtain ⟨values, -, holds⟩ := carries.items field listed
      rw [field?_assign_of_ne _ (ordinary field listed), prototype] at holds
      rw [← fillFields_prototype fields, holds]
      rfl
    · intro left leftListed right rightListed same values others leftItems rightItems
      obtain ⟨leftValues, leftAgain, leftHolds⟩ := carries.items left leftListed
      obtain ⟨rightValues, rightAgain, rightHolds⟩ := carries.items right rightListed
      rw [same, rightHolds] at leftHolds
      rw [leftItems.unique leftAgain, rightItems.unique rightAgain]
      simpa using leftHolds.symm
  · intro kept
    refine ⟨fun field listed => ?_, carries_members built⟩
    obtain ⟨values, items⟩ := fillFields_items_exist fields listed
    refine ⟨values, items, ?_⟩
    rw [field?_assign_of_ne _ (kept.notMetadata field listed)]
    refine fillFields_items fields ⟨field, listed, rfl⟩ ?_ fun prototype => ?_
    · intro other otherListed same others otherItems
      exact kept.alike other otherListed field listed same others values otherItems items
    · rw [prototype]
      exact kept.notPrototype field listed prototype root read

end

/-! ## The written bundle -/

/-- The outputs are two files, and none of them is a source. -/
structure Separate (assembly : Assembly) : Prop where
  apart : assembly.aggregate.path ≠ assembly.manifest.path
  aggregate : assembly.aggregate.path ∉ assembly.sources
  manifest : assembly.manifest.path ∉ assembly.sources

/-- The bundle checks clean, writing it again changes no file, and the aggregate carries the
sources. -/
structure ChecksClean (platform : Platform Bytes) (before after : FileTree Bytes)
    (record : ManifestRecord Bytes) : Prop where
  valid : ∃ validation,
    buildPackBundleValidation platform after record.assembly.path = .ok validation ∧
      validation.status = .valid
  again : ∃ result,
    writePackBundleAggregate platform after record.assembly.path = (.ok result, after)
  stands : after record.assembly.aggregate.path =
    some (.file (platform.jsonText (.object record.aggregate)))
  carries : Carries platform before record.assembly record.aggregate

variable {tree : FileTree Bytes} {assemblyPath : Path} {record : ManifestRecord Bytes}

theorem optionalFileSha256_of_file {path : Path} {content : Bytes}
    (found : tree path = some (.file content)) :
    optionalFileSha256 platform tree path = .ok (some (platform.sha256 content)) := by
  have hashed : sha256File platform tree path = .ok (platform.sha256 content) :=
    bind_eq_ok.2 ⟨content, readFile_eq_ok.2 found, rfl⟩
  simp only [optionalFileSha256, found, Option.isSome_some, if_true, hashed]
  rfl

theorem buildManifestRecord_path
    (built : buildManifestRecord platform tree assemblyPath = .ok record) :
    record.assembly.path = assemblyPath := by
  obtain ⟨assembly, -, -, loaded, -, -, rfl⟩ := buildManifestRecord_eq_ok.1 built
  exact loadAssembly_path loaded

theorem buildManifestRecord_aggregate
    (built : buildManifestRecord platform tree assemblyPath = .ok record) :
    buildAggregate platform tree record.assembly record.sourceDigest = .ok record.aggregate := by
  obtain ⟨assembly, entries, aggregate, -, -, filled, rfl⟩ := buildManifestRecord_eq_ok.1 built
  exact filled

theorem buildManifestRecord_expected
    (built : buildManifestRecord platform tree assemblyPath = .ok record) :
    record.expectedAggregateSha256 =
      platform.sha256 (platform.jsonText (.object record.aggregate)) := by
  obtain ⟨assembly, entries, aggregate, -, -, -, rfl⟩ := buildManifestRecord_eq_ok.1 built
  rfl

/-- Where both outputs stand, the check finds no difference. -/
theorem validation_of_stands (built : buildManifestRecord platform tree assemblyPath = .ok record)
    (aggregate : tree record.assembly.aggregate.path =
      some (.file (platform.jsonText (.object record.aggregate))))
    (manifest : tree record.assembly.manifest.path =
      some (.file (platform.jsonText record.manifest))) :
    ∃ validation, buildPackBundleValidation platform tree assemblyPath = .ok validation ∧
      validation.status = .valid := by
  have first : optionalFileSha256 platform tree record.assembly.aggregate.path =
      .ok (some (platform.sha256 (platform.jsonText (.object record.aggregate)))) :=
    optionalFileSha256_of_file aggregate
  have second : optionalFileSha256 platform tree record.assembly.manifest.path =
      .ok (some (platform.sha256 (platform.jsonText record.manifest))) :=
    optionalFileSha256_of_file manifest
  refine ⟨_, bind_eq_ok.2 ⟨record, built, bind_eq_ok.2 ⟨_, first, bind_eq_ok.2 ⟨_, second, rfl⟩⟩⟩,
    ?_⟩
  simp [Check.passes, buildManifestRecord_expected built]

/-- Where both outputs stand, writing them again changes nothing. -/
theorem written_again (built : buildManifestRecord platform tree assemblyPath = .ok record)
    (aggregate : Stands tree record.assembly.aggregate.path
      (platform.jsonText (.object record.aggregate)))
    (manifest : Stands tree record.assembly.manifest.path (platform.jsonText record.manifest)) :
    ∃ result, writePackBundleAggregate platform tree assemblyPath = (.ok result, tree) := by
  simp only [writePackBundleAggregate, built, aggregate.written_again, manifest.written_again]
  exact ⟨_, rfl⟩

/-- A write leaves the sources alone when its outputs are none of them. -/
theorem keepsFiles_of_writes {between written : FileTree Bytes} {paths : List Path}
    {path other : Path} {payload content : Json} {first second : WrittenOutput}
    (start : writeJsonFile platform tree path payload = (.ok first, between))
    (next : writeJsonFile platform between other content = (.ok second, written))
    (apart : path ∉ paths) (otherApart : other ∉ paths) : KeepsFiles paths tree written := by
  intro source listed bytes found
  have kept : source ≠ path := fun same => apart (same ▸ listed)
  have keptToo : source ≠ other := fun same => otherApart (same ▸ listed)
  exact writeJsonFile_keeps next (writeJsonFile_keeps start found (.inl kept)) (.inl keptToo)

/-- A bundle with separate outputs checks clean exactly when its fields can keep their items, and
no bundle checks clean otherwise. -/
theorem written_checksClean {tree written : FileTree Bytes} {assemblyPath : Path}
    {result : BundleWrite}
    (wrote : writePackBundleAggregate platform tree assemblyPath = (.ok result, written)) :
    ∃ record, buildManifestRecord platform tree assemblyPath = .ok record ∧
      record.assembly.path = assemblyPath ∧
      (Separate record.assembly → (ChecksClean platform tree written record ↔
        FieldsKept platform tree record.assembly)) ∧
      (ChecksClean platform tree written record →
        FieldsKept platform tree record.assembly) := by
  obtain ⟨record, between, first, second, built, start, next⟩ :=
    writePackBundleAggregate_eq_ok wrote
  have carries := carries_iff (buildManifestRecord_aggregate built)
  refine ⟨record, built, buildManifestRecord_path built, fun separate => ⟨fun clean => ?_, ?_⟩,
    fun clean => carries.1 clean.carries⟩
  · exact carries.1 clean.carries
  · intro fields
    have kept : KeepsFiles record.assembly.sources tree written :=
      keepsFiles_of_writes start next separate.aggregate separate.manifest
    have rebuilt := buildManifestRecord_kept built kept
    have aggregate := (writeJsonFile_stands start).keeps next separate.apart
    have manifest := writeJsonFile_stands next
    refine ⟨?_, ?_, aggregate.file, carries.2 fields⟩
    · rw [buildManifestRecord_path built]
      exact validation_of_stands rebuilt aggregate.file manifest.file
    · rw [buildManifestRecord_path built]
      exact written_again rebuilt aggregate manifest

end

/-! ## A bundle of one item -/

mutual
/-- The text of a value, for numbers without a fraction and texts without escapes. -/
def printed (indent : String) : Json → String
  | .null => "null"
  | .bool value => if value then "true" else "false"
  | .number value => toString value.num
  | .string text => "\"" ++ text ++ "\""
  | .array items =>
    if items.isEmpty then "[]"
    else "[\n" ++ ",\n".intercalate (printedItems (indent ++ "  ") items) ++ "\n" ++ indent ++ "]"
  | .object members =>
    if members.isEmpty then "\x7b\x7d"
    else "\x7b\n" ++ ",\n".intercalate (printedMembers (indent ++ "  ") members) ++ "\n" ++
      indent ++ "\x7d"

def printedItems (indent : String) : List Json → List String
  | [] => []
  | item :: rest => (indent ++ printed indent item) :: printedItems indent rest

def printedMembers (indent : String) : JsonRecord → List String
  | [] => []
  | (name, value) :: rest =>
    (indent ++ "\"" ++ name ++ "\": " ++ printed indent value) :: printedMembers indent rest
end

def sampleRootText : String := "\x7b\"version\":\"v1\"\x7d"

def sampleItemText : String := "\x7b\"item_id\":\"alpha\"\x7d"

def sampleAssembly (field : String) : JsonRecord :=
  [("surface_kind", .string "opl_pack_bundle_assembly"), ("schema_version", .number 1),
    ("bundle_id", .string "example"), ("owner", .string "opl"), ("state", .string "active"),
    ("source_root_ref", .string "root.json"), ("aggregate_ref", .string "generated.json"),
    ("manifest_ref", .string "manifest.json"),
    ("generated_array_fields", .array [.object [("field", .string field),
      ("source_dir_ref", .string "items"), ("order", .ofStrings ["alpha.json"])]]),
    ("authority_boundary", .object authorityBoundary)]

/-- The digests of the texts of the bundle, which differ in length. -/
def sampleSha256 (text : String) : String :=
  match text.length with
  | 16 => "c0fcc87400623bcc80bd85cdfa3918f584bfa1c3d9d52e197de3fc3846f69217"
  | 19 => "b247ed0252b2bf64e7299500b0302d4ad89087a6c62560f583bb20074b0718cb"
  | 345 => "7fffc86935aafb9cd55308516250df3ae2629b320e93c44a5be1336cd631f476"
  | 378 => "133d03eb2c9dadf931b37bb108c7252097f2eb52d05a9ccfade46ec650c9f32e"
  | _ => "ec3e1b8d7fe3e2199ba4d9c3058a15a40f121dbbcff35f06a8a8544f0af68ab9"

def samplePlatform (field : String) : Platform String where
  jsonText payload := printed "" payload ++ "\n"
  parse text :=
    if text = sampleRootText then some (.object [("version", .string "v1")])
    else if text = sampleItemText then some (.object [("item_id", .string "alpha")])
    else if text = printed "" (.object (sampleAssembly field)) then
      some (.object (sampleAssembly field))
    else none
  sha256 := sampleSha256
  byteLength text := text.utf8ByteSize

def sampleAssemblyPath : Path := ["bundle", "assembly.json"]

def sampleTree (field : String) : FileTree String := fun path =>
  List.lookup path [([], .directory), (["bundle"], .directory), (["bundle", "items"], .directory),
    (sampleAssemblyPath, .file (printed "" (.object (sampleAssembly field)))),
    (["bundle", "root.json"], .file sampleRootText),
    (["bundle", "items", "alpha.json"], .file sampleItemText)]

/-- Writing the bundle whose items go to the field. -/
def sampleWrite (field : String) : Written String BundleWrite :=
  writePackBundleAggregate (samplePlatform field) (sampleTree field) sampleAssemblyPath

def sampleRecord (field : String) : Option (ManifestRecord String) :=
  (buildManifestRecord (samplePlatform field) (sampleTree field) sampleAssemblyPath).toOption

def samplePart (assembly : Assembly) : List Path × List GeneratedArrayField :=
  ([assembly.aggregate.path, assembly.manifest.path] ++ assembly.sources,
    assembly.generatedArrayFields)

theorem sample_runs :
    (sampleWrite "items").1.toOption.isSome = true ∧
      (sampleWrite "generated_by").1.toOption.isSome = true ∧
      (sampleRecord "items").map (fun record => samplePart record.assembly) =
        some ([["bundle", "generated.json"], ["bundle", "manifest.json"],
          ["bundle", "assembly.json"], ["bundle", "root.json"], ["bundle", "items", "alpha.json"]],
          [⟨"items", ⟨"items", ["bundle", "items"]⟩, ["alpha.json"]⟩]) ∧
      (sampleRecord "generated_by").map
        (fun record => record.assembly.generatedArrayFields.map GeneratedArrayField.field) =
        some ["generated_by"] := by
  decide +kernel

theorem written_eq {α : Type} {written : Written Bytes α} {value : α}
    (returned : written.1 = .ok value) : written = (.ok value, written.2) := by
  rw [← returned]

theorem sampleWrite_wrote {field : String}
    (runs : (sampleWrite field).1.toOption.isSome = true) :
    ∃ result, writePackBundleAggregate (samplePlatform field) (sampleTree field)
      sampleAssemblyPath = (.ok result, (sampleWrite field).2) := by
  obtain ⟨result, found⟩ := Option.isSome_iff_exists.1 runs
  have computed : (sampleWrite field).1 = .ok result := Lib.mem_toOption.1 found
  exact ⟨result, written_eq computed⟩

theorem sampleRecord_of_built {field : String} {record : ManifestRecord String}
    (built : buildManifestRecord (samplePlatform field) (sampleTree field) sampleAssemblyPath =
      .ok record) : sampleRecord field = some record := by
  simp only [sampleRecord, built]
  rfl

theorem sample_checksClean : ∃ record,
    buildManifestRecord (samplePlatform "items") (sampleTree "items") sampleAssemblyPath =
        .ok record ∧
      ChecksClean (samplePlatform "items") (sampleTree "items") (sampleWrite "items").2 record := by
  obtain ⟨result, wrote⟩ := sampleWrite_wrote sample_runs.1
  obtain ⟨record, built, -, exactly, -⟩ := written_checksClean wrote
  have part := sample_runs.2.2.1
  rw [sampleRecord_of_built built] at part
  simp only [Option.map_some, samplePart, Assembly.sources, Option.some.injEq, Prod.mk.injEq,
    List.cons_append, List.nil_append, List.cons.injEq] at part
  obtain ⟨⟨aggregate, manifest, assembly, root, items⟩, fields⟩ := part
  refine ⟨record, built, (exactly ⟨?_, ?_, ?_⟩).2 ⟨?_, ?_, ?_⟩⟩
  · rw [aggregate, manifest]
    decide
  · rw [aggregate, Assembly.sources, assembly, root, items]
    decide
  · rw [manifest, Assembly.sources, assembly, root, items]
    decide
  · rw [fields]
    decide
  · intro field listed prototype
    rw [fields, List.mem_singleton] at listed
    subst listed
    simp at prototype
  · intro left leftListed right rightListed same values others first second
    rw [fields, List.mem_singleton] at leftListed rightListed
    subst leftListed rightListed
    exact first.unique second

/-- An entry whose field is the one of the metadata loses its items. -/
theorem items_lost : ¬ ∀ (Bytes : Type) (platform : Platform Bytes) (tree written : FileTree Bytes)
    (assemblyPath : Path) (result : BundleWrite) (record : ManifestRecord Bytes),
    writePackBundleAggregate platform tree assemblyPath = (.ok result, written) →
      buildManifestRecord platform tree assemblyPath = .ok record →
      ChecksClean platform tree written record := by
  intro claimed
  obtain ⟨result, wrote⟩ := sampleWrite_wrote sample_runs.2.1
  obtain ⟨record, between, first, second, built, -, -⟩ := writePackBundleAggregate_eq_ok wrote
  have clean := claimed String _ _ _ _ result record wrote built
  have kept := (carries_iff (buildManifestRecord_aggregate built)).1 clean.carries
  have named := sample_runs.2.2.2
  rw [sampleRecord_of_built built] at named
  simp only [Option.map_some, Option.some.injEq] at named
  have claims : "generated_by" ∈
      record.assembly.generatedArrayFields.map GeneratedArrayField.field := by
    rw [named]
    exact List.mem_singleton.2 rfl
  obtain ⟨field, listed, same⟩ := List.mem_map.1 claims
  exact kept.notMetadata field listed same

end OnePersonLab.Package.PackBundle
