import Mathlib.Data.List.Induction
import OnePersonLab.Update.GenerationDigest

/-!
# The digest identifies a generation

Two trees are visited alike exactly when they have the same entries at the same paths. The names in
a path cannot imitate the separator, and the order of the visit is that of the names.
-/

namespace OnePersonLab.Update.GenerationDigest

open Contract Lib

/-- The tree has the entry at the path, with its link target read as text. -/
def Reads (platform : Platform) (tree : Entry) (path : List String) (node : Node String) : Prop :=
  ∃ raw, Holds tree path raw ∧ raw.map platform.readlink = node

/-- The trees agree in paths, kinds, recorded modes, contents and link targets. -/
def SameTree (tree other : Entry) : Prop := ∀ path node, Holds tree path node ↔ Holds other path node

/-- The trees agree, with the link targets as they are read. -/
def SameReading (platform : Platform) (tree other : Entry) : Prop :=
  ∀ path node, Reads platform tree path node ↔ Reads platform other path node

/-- The link targets are UTF-8 texts. -/
def TextLinks (tree : Entry) : Prop :=
  ∀ path target, Holds tree path (.link target) →
    ∃ text : String, target = text.toList.flatMap String.utf8EncodeChar

section

variable {platform : Platform} {tree other child : Entry} {path : List String}
  {name relative : String} {mode : Nat} {entries : List (String × Entry)}

/-! ## Paths -/

variable {node : Node (List UInt8)}

theorem toList_join (below : relative ≠ "") (name : String) :
    (join relative name).toList = relative.toList ++ '/' :: name.toList := by
  rw [join, if_neg below, String.toList_append, String.toList_append, List.append_assoc]
  rfl

theorem join_ne_empty (named : FileName name) (relative : String) : join relative name ≠ "" := by
  by_cases root : relative = ""
  · rw [join, if_pos root]
    exact named.1
  · intro empty
    have text := congrArg String.toList empty
    rw [toList_join root] at text
    cases (List.append_eq_nil_iff.1 text).2

theorem join_inj {relative' name' : String} (named : FileName name) (named' : FileName name')
    (same : join relative name = join relative' name') : relative = relative' ∧ name = name' := by
  have text := congrArg String.toList same
  by_cases root : relative = "" <;> by_cases root' : relative' = ""
  · rw [join, join, if_pos root, if_pos root'] at same
    exact ⟨root.trans root'.symm, same⟩
  · rw [toList_join root', join, if_pos root] at text
    exact absurd (text ▸ List.mem_append_right _ List.mem_cons_self) named.2.1
  · rw [toList_join root, join, if_pos root'] at text
    exact absurd (text ▸ List.mem_append_right _ List.mem_cons_self) named'.2.1
  · rw [toList_join root, toList_join root'] at text
    obtain ⟨front, back⟩ := append_cons_inj_of_last named.2.1 named'.2.1 text
    exact ⟨String.toList_injective front, String.toList_injective back⟩

/-- A path is known from its text. -/
theorem foldl_join_inj (path : List String) :
    ∀ path' : List String, (∀ name ∈ path, FileName name) → (∀ name ∈ path', FileName name) →
      path.foldl join "" = path'.foldl join "" → path = path' := by
  induction path using List.reverseRecOn with
  | nil =>
    intro path' _ named' same
    obtain rfl | ⟨front, last, rfl⟩ := List.eq_nil_or_concat path'
    · rfl
    · rw [List.concat_eq_append, List.foldl_append] at same
      rw [List.concat_eq_append] at named'
      exact absurd same.symm (join_ne_empty (named' last (by simp)) _)
  | append_singleton front last ih =>
    intro path' named named' same
    obtain rfl | ⟨front', last', rfl⟩ := List.eq_nil_or_concat path'
    · rw [List.foldl_append] at same
      exact absurd same (join_ne_empty (named last (by simp)) _)
    · rw [List.concat_eq_append] at named' same ⊢
      rw [List.foldl_append, List.foldl_append] at same
      obtain ⟨fronts, rfl⟩ := join_inj (named last (by simp)) (named' last' (by simp)) same
      rw [ih front' (fun name listed => named name (by simp [listed]))
        (fun name listed => named' name (by simp [listed])) fronts]

/-! ## What a tree holds -/

theorem holds_nil : Holds tree [] node ↔ node = tree.node := by
  constructor
  · intro held
    cases held
    rfl
  · rintro rfl
    exact .here tree

theorem holds_cons :
    Holds (.directory mode entries) (name :: path) node ↔
      ∃ child, (name, child) ∈ entries ∧ Holds child path node := by
  constructor
  · intro held
    cases held with
    | inside listed held => exact ⟨_, listed, held⟩
  · rintro ⟨child, listed, held⟩
    exact .inside listed held

theorem reads_cons {node : Node String} :
    Reads platform (.directory mode entries) (name :: path) node ↔
      ∃ child, (name, child) ∈ entries ∧ Reads platform child path node := by
  constructor
  · rintro ⟨raw, held, read⟩
    obtain ⟨child, listed, held⟩ := holds_cons.1 held
    exact ⟨child, listed, raw, held, read⟩
  · rintro ⟨child, listed, raw, held, read⟩
    exact ⟨raw, holds_cons.2 ⟨child, listed, held⟩, read⟩

theorem reads_nil {node : Node String} :
    Reads platform tree [] node ↔ tree.node.map platform.readlink = node := by
  constructor
  · rintro ⟨raw, held, read⟩
    rw [← holds_nil.1 held]
    exact read
  · intro read
    exact ⟨tree.node, .here tree, read⟩

theorem Valid.of_listed (valid : Valid (.directory mode entries)) (listed : (name, child) ∈ entries) :
    FileName name ∧ Valid child := by
  cases valid with
  | directory named distinct below => exact ⟨named _ listed, below _ listed⟩

theorem Valid.unique {child' : Entry} (valid : Valid (.directory mode entries))
    (listed : (name, child) ∈ entries) (listed' : (name, child') ∈ entries) : child = child' := by
  cases valid with
  | directory named distinct below =>
    exact congrArg Prod.snd (List.inj_on_of_nodup_map distinct listed listed' rfl)

theorem Valid.reads_child (valid : Valid (.directory mode entries))
    (listed : (name, child) ∈ entries) {node : Node String} :
    Reads platform (.directory mode entries) (name :: path) node ↔ Reads platform child path node := by
  rw [reads_cons]
  constructor
  · rintro ⟨child', listed', read⟩
    rwa [valid.unique listed listed']
  · intro read
    exact ⟨child, listed, read⟩

theorem Valid.fileNames (valid : Valid tree) (held : Holds tree path node) :
    ∀ name ∈ path, FileName name := by
  induction held with
  | here entry => exact List.forall_mem_nil _
  | inside listed _ ih =>
    obtain ⟨named, valid⟩ := valid.of_listed listed
    exact List.forall_mem_cons.2 ⟨named, ih valid⟩

/-! ## What is visited -/

theorem visitEntries_eq (platform : Platform) (relative : String) (entries : List (String × Entry)) :
    visitEntries platform relative entries =
      entries.map fun entry => (entry.1, visit platform (join relative entry.1) entry.2) := by
  induction entries with
  | nil => rw [visitEntries, List.map_nil]
  | cons entry rest ih => rw [visitEntries, ih, List.map_cons]

/-- The visit meets every entry of the tree, under the text of its path. -/
theorem mem_visit (tree : Entry) : ∀ relative record, record ∈ visit platform relative tree ↔
    ∃ path, Reads platform tree path record.2 ∧ record.1 = path.foldl join relative := by
  have leaf : ∀ (tree : Entry) (relative : String) (record : String × Node String),
      (∀ path node, Reads platform tree path node → path = []) →
      (record ∈ [(relative, tree.node.map platform.readlink)] ↔
        ∃ path, Reads platform tree path record.2 ∧ record.1 = path.foldl join relative) := by
    intro tree relative record single
    rw [List.mem_singleton]
    constructor
    · rintro rfl
      exact ⟨[], reads_nil.2 rfl, rfl⟩
    · rintro ⟨path, read, named⟩
      obtain rfl := single path record.2 read
      exact Prod.ext named (reads_nil.1 read).symm
  induction tree using Entry.induction with
  | file mode content =>
    intro relative record
    refine leaf (.file mode content) relative record ?_
    rintro path node ⟨raw, held, _⟩
    cases held
    rfl
  | link target =>
    intro relative record
    refine leaf (.link target) relative record ?_
    rintro path node ⟨raw, held, _⟩
    cases held
    rfl
  | directory mode entries ih =>
    intro relative record
    rw [visit, List.mem_cons, List.mem_flatMap]
    constructor
    · rintro (rfl | ⟨row, listed, there⟩)
      · exact ⟨[], reads_nil.2 rfl, rfl⟩
      · rw [mem_sortOn, visitEntries_eq] at listed
        obtain ⟨entry, known, rfl⟩ := List.mem_map.1 listed
        obtain ⟨path, read, named⟩ := (ih entry known _ record).1 there
        exact ⟨entry.1 :: path, reads_cons.2 ⟨entry.2, known, read⟩, named⟩
    · rintro ⟨path, read, named⟩
      cases path with
      | nil => exact .inl (Prod.ext named (reads_nil.1 read).symm)
      | cons name path =>
        obtain ⟨child, listed, read⟩ := reads_cons.1 read
        refine .inr ⟨(name, visit platform (join relative name) child), ?_, ?_⟩
        · rw [mem_sortOn, visitEntries_eq]
          exact List.mem_map.2 ⟨(name, child), listed, rfl⟩
        · exact (ih (name, child) listed _ record).2 ⟨path, read, named⟩

/-! ## Equal visits -/

theorem sameReading_of_visit (valid : Valid tree) (valid' : Valid other)
    (same : visit platform "" tree = visit platform "" other) :
    SameReading platform tree other := by
  have onward : ∀ {tree other : Entry}, Valid tree → Valid other →
      visit platform "" tree = visit platform "" other → ∀ path node,
        Reads platform tree path node → Reads platform other path node := by
    intro tree other valid valid' same path node read
    have visited : (path.foldl join "", node) ∈ visit platform "" other :=
      same ▸ (mem_visit tree "" _).2 ⟨path, read, rfl⟩
    obtain ⟨path', read', named⟩ := (mem_visit other "" _).1 visited
    obtain ⟨raw, held, _⟩ := id read
    obtain ⟨raw', held', _⟩ := id read'
    rw [foldl_join_inj path path' (valid.fileNames held) (valid'.fileNames held') named]
    exact read'
  exact fun path node => ⟨onward valid valid' same path node, onward valid' valid same.symm path node⟩

theorem SameReading.symm (same : SameReading platform tree other) :
    SameReading platform other tree :=
  fun path node => (same path node).symm

theorem sorted_entries (valid : Valid (.directory mode entries)) :
    (sortOn beforeInSort Prod.fst (visitEntries platform relative entries)).Pairwise
      fun row other => beforeInSort row.1 other.1 = true := by
  refine sortOn_ascending beforeInSort_order ?_
  rw [visitEntries_eq, List.map_map]
  cases valid with
  | directory named distinct below => exact distinct

/-- Directories with the same entries have the same names, and the same trees below each. -/
theorem exists_child_of_sameReading {mode' : Nat} {entries' : List (String × Entry)}
    (valid : Valid (.directory mode entries)) (valid' : Valid (.directory mode' entries'))
    (same : SameReading platform (.directory mode entries) (.directory mode' entries'))
    (listed : (name, child) ∈ entries) :
    ∃ child', (name, child') ∈ entries' ∧ SameReading platform child child' := by
  have root : Reads platform (.directory mode entries) [name] (child.node.map platform.readlink) :=
    (valid.reads_child listed).2 (reads_nil.2 rfl)
  obtain ⟨child', listed', _⟩ := reads_cons.1 ((same _ _).1 root)
  refine ⟨child', listed', ?_⟩
  intro path node
  rw [← valid.reads_child listed, ← valid'.reads_child listed']
  exact same _ _

/-- Trees with the same entries are visited alike. -/
theorem visit_of_sameReading (tree : Entry) : ∀ other relative, Valid tree → Valid other →
    SameReading platform tree other →
      visit platform relative tree = visit platform relative other := by
  induction tree using Entry.induction with
  | file mode content =>
    intro other relative _ _ same
    have root := reads_nil.1 ((same [] _).1 (reads_nil.2 rfl))
    cases other with
    | file mode' content' => exact congrArg (fun node => [(relative, node)]) root.symm
    | link target => cases root
    | directory mode' entries => cases root
  | link target =>
    intro other relative _ _ same
    have root := reads_nil.1 ((same [] _).1 (reads_nil.2 rfl))
    cases other with
    | file mode' content' => cases root
    | link target' => exact congrArg (fun node => [(relative, node)]) root.symm
    | directory mode' entries => cases root
  | directory mode entries ih =>
    intro other relative valid valid' same
    have root := reads_nil.1 ((same [] _).1 (reads_nil.2 rfl))
    cases other with
    | file mode' content' => cases root
    | link target => cases root
    | directory mode' entries' =>
      have head : (relative, Node.directory (permissions mode)) =
          (relative, (Node.directory (permissions mode') : Node String)) :=
        congrArg (Prod.mk relative) root.symm
      have rows : sortOn beforeInSort Prod.fst (visitEntries platform relative entries) =
          sortOn beforeInSort Prod.fst (visitEntries platform relative entries') := by
        refine eq_of_ascending beforeInSort_order (sorted_entries valid) (sorted_entries valid') ?_
        rintro ⟨name, records⟩
        rw [mem_sortOn, mem_sortOn, visitEntries_eq, visitEntries_eq, List.mem_map, List.mem_map]
        constructor
        · rintro ⟨⟨_, child⟩, listed, row⟩
          cases row
          obtain ⟨child', listed', alike⟩ := exists_child_of_sameReading valid valid' same listed
          refine ⟨(_, child'), listed', Prod.ext rfl ?_⟩
          exact (ih _ listed child' _ (valid.of_listed listed).2 (valid'.of_listed listed').2 alike).symm
        · rintro ⟨⟨_, child'⟩, listed', row⟩
          cases row
          obtain ⟨child, listed, alike⟩ :=
            exists_child_of_sameReading valid' valid same.symm listed'
          refine ⟨(_, child), listed, Prod.ext rfl ?_⟩
          exact ih _ listed child' _ (valid.of_listed listed).2 (valid'.of_listed listed').2 alike.symm
      rw [visit, visit, head, rows]

theorem sameReading_iff_visit (valid : Valid tree) (valid' : Valid other) :
    visit platform "" tree = visit platform "" other ↔ SameReading platform tree other :=
  ⟨sameReading_of_visit valid valid', visit_of_sameReading tree other "" valid valid'⟩

/-! ## Link targets -/

theorem SameTree.sameReading (same : SameTree tree other) : SameReading platform tree other :=
  fun path _ => exists_congr fun raw => and_congr_left' (same path raw)

/-- Link targets that are texts are known from what is read. -/
theorem sameTree_of_sameReading (texts : TextLinks tree) (texts' : TextLinks other)
    (same : SameReading platform tree other) : SameTree tree other := by
  have onward : ∀ {tree other : Entry}, TextLinks tree → TextLinks other →
      SameReading platform tree other → ∀ path node, Holds tree path node → Holds other path node := by
    intro tree other texts texts' same path node held
    obtain ⟨raw, held', read⟩ := (same path _).1 ⟨node, held, rfl⟩
    cases node with
    | file mode content =>
      cases raw <;> cases read
      exact held'
    | directory mode =>
      cases raw <;> cases read
      exact held'
    | link target =>
      cases raw with
      | file mode content => cases read
      | directory mode => cases read
      | link target' =>
        obtain ⟨text, rfl⟩ := texts path target held
        obtain ⟨text', rfl⟩ := texts' path target' held'
        have alike := Node.link.inj read
        rw [platform.readsText, platform.readsText] at alike
        rwa [alike] at held'
  exact fun path node => ⟨onward texts texts' same path node, onward texts' texts same.symm path node⟩

end

/-! ## The digest -/

/-- Where the digest tells the two streams apart, it tells the two trees apart. -/
theorem digest_eq_iff (platform : Platform) (tree other : Generation)
    (collisionFree : platform.sha256 (stream platform tree.val) =
      platform.sha256 (stream platform other.val) →
        stream platform tree.val = stream platform other.val) :
    (frameworkGenerationDigest platform tree.val = frameworkGenerationDigest platform other.val ↔
        SameReading platform tree.val other.val) ∧
      (TextLinks tree.val → TextLinks other.val →
        (frameworkGenerationDigest platform tree.val =
          frameworkGenerationDigest platform other.val ↔ SameTree tree.val other.val)) := by
  have readings : frameworkGenerationDigest platform tree.val =
      frameworkGenerationDigest platform other.val ↔ SameReading platform tree.val other.val := by
    rw [← sameReading_iff_visit tree.property other.property, ← stream_eq_iff]
    exact ⟨collisionFree, congrArg platform.sha256⟩
  refine ⟨readings, ?_⟩
  intro texts texts'
  exact readings.trans ⟨sameTree_of_sameReading texts texts', SameTree.sameReading⟩

/-! ## Sample generations -/

def replacingRead (bytes : List UInt8) : String :=
  (String.fromUTF8? bytes.toByteArray).getD "\ufffd"

theorem replacingRead_text (text : String) :
    replacingRead (text.toList.flatMap String.utf8EncodeChar) = text := by
  have bytes : (text.toList.flatMap String.utf8EncodeChar).toByteArray = text.toByteArray := by
    have encoded := String.toByteArray_ofList (l := text.toList)
    rw [String.ofList_toList] at encoded
    exact encoded.symm
  unfold replacingRead String.fromUTF8?
  rw [bytes, dif_pos text.isValidUTF8]
  rfl

/-- A directory with one entry. -/
def holding (name : String) (entry : Entry) : Entry := .directory 0o755 [(name, entry)]

def streamText (last : Char) : List UInt8 :=
  ("[\"\",\"directory\",493][\"a\",\"file\",420,1]".toList ++ [last]).flatMap String.utf8EncodeChar

/-- The digests of the two sample streams. -/
def sampleSha256 (bytes : List UInt8) : String :=
  if bytes = streamText 'x' then
    "a0fff61a7e14ff8c4ab33613ff5f5546e47d32500171de99cf1b161f7dfa9bbc"
  else if bytes = streamText 'y' then
    "f227becab3b0b1989299959809ee3ed39b9a04c03e48d17ac358dcf1c54ae0dd"
  else ""

def samplePlatform : Platform where
  readlink := replacingRead
  sha256 := sampleSha256
  readsText := replacingRead_text

theorem holding_valid {name : String} {entry : Entry} (named : FileName name)
    (valid : Valid entry) : Valid (holding name entry) := by
  refine .directory ?_ (List.nodup_singleton _) ?_
  · exact List.forall_mem_singleton.2 named
  · exact List.forall_mem_singleton.2 valid

theorem fileName_a : FileName "a" := by
  unfold FileName
  decide +kernel

def sampleFile (content : UInt8) : Generation :=
  ⟨holding "a" (.file 0o644 [content]), holding_valid fileName_a (.file _ _)⟩

def sampleLink (target : UInt8) : Generation :=
  ⟨holding "a" (.link [target]), holding_valid fileName_a (.link _)⟩

theorem sampleFile_textLinks (content : UInt8) : TextLinks (sampleFile content).val := by
  rintro path target held
  cases held with
  | inside listed held =>
    cases List.mem_singleton.1 listed
    cases held

theorem sample_streams : stream samplePlatform (sampleFile 0x78).val = streamText 'x' ∧
    stream samplePlatform (sampleFile 0x79).val = streamText 'y' ∧
    sampleSha256 (streamText 'x') ≠ sampleSha256 (streamText 'y') := by
  decide +kernel

/-- Two generations that differ in one byte. -/
theorem sampleFiles_differ :
    (frameworkGenerationDigest samplePlatform (sampleFile 0x78).val =
        frameworkGenerationDigest samplePlatform (sampleFile 0x79).val ↔
      SameReading samplePlatform (sampleFile 0x78).val (sampleFile 0x79).val) ∧
    (frameworkGenerationDigest samplePlatform (sampleFile 0x78).val =
        frameworkGenerationDigest samplePlatform (sampleFile 0x79).val ↔
      SameTree (sampleFile 0x78).val (sampleFile 0x79).val) := by
  have identified := digest_eq_iff samplePlatform (sampleFile 0x78) (sampleFile 0x79) (by
    obtain ⟨first, second, apart⟩ := sample_streams
    rw [first, second]
    exact fun same => absurd same apart)
  exact ⟨identified.1, identified.2 (sampleFile_textLinks _) (sampleFile_textLinks _)⟩

theorem sampleLinks_read : replacingRead [0xff] = replacingRead [0xfe] := by decide +kernel

/-- Link targets that are no UTF-8 read alike. -/
theorem sampleLinks_collide :
    frameworkGenerationDigest samplePlatform (sampleLink 0xff).val =
        frameworkGenerationDigest samplePlatform (sampleLink 0xfe).val ∧
      ¬SameTree (sampleLink 0xff).val (sampleLink 0xfe).val := by
  constructor
  · have alike : samplePlatform.readlink [0xff] = samplePlatform.readlink [0xfe] := sampleLinks_read
    simp only [frameworkGenerationDigest, stream, sampleLink, holding, visit, visitEntries, alike]
  · intro same
    have held : Holds (sampleLink 0xfe).val ["a"] (.link [0xff]) :=
      (same _ _).1 (.inside List.mem_cons_self (.here (.link [0xff])))
    cases held with
    | inside listed held =>
      cases List.mem_singleton.1 listed
      cases held

end OnePersonLab.Update.GenerationDigest
