import Stanza.Proofs.Decimal.Numerals
import Stanza.Proofs.Document.Modules
import Stanza.Proofs.Files.Collecting

set_option autoImplicit false

/-!
Registries and modules from the documents below a directory. Both are loaded from the same
files in the same order; modules come in order of the files and, within one, in order of its
document, and those without a name get different ones.
-/

namespace Stanza

open Document (Reading)
open Files

/-! ### Modules of a file -/

namespace Document

/-- The items of a list; any other document is the only one. -/
def listed : Document → List Document
  | .list items => items
  | document => [document]

theorem readModules_eq (reading : Reading) (document : Document) :
    readModules reading document = document.listed.mapM (readModule reading) := by
  have single (item : Document) : (readModule reading item).map (fun module => [module]) =
      [item].mapM (readModule reading) := by
    rw [List.mapM_cons]
    cases readModule reading item <;> rfl
  cases document with
  | list items => rfl
  | word text meaning => exact single (.word text meaning)
  | quoted text => exact single (.quoted text)
  | broken => exact single .broken
  | map entries => exact single (.map entries)

end Document

/-- The document that a module file of some text holds. -/
def moduleDocument? (isJson : Bool) (text : String) : Option Document :=
  if isJson then readJsonValue? text else readYamlValue? text

def moduleReading (isJson : Bool) : Reading := if isJson then .json else .yamlValue

/-- The modules in a text, as its document has them in order. -/
def TextHolds (isJson : Bool) (text : String) (modules : List Module) : Prop :=
  ∃ document, moduleDocument? isJson text = some document ∧
    List.Forall₂ (fun item module => Document.readModule (moduleReading isJson) item = .ok module)
      document.listed modules

/-- The modules in a file, in order of its document. -/
def FileHolds (tree : FileTree) (file : String) (modules : List Module) : Prop :=
  ∃ text, readText tree file = .ok text ∧ TextHolds (isJsonPath file) text modules

theorem readModulesText_iff (isJson : Bool) (text : String) (modules : List Module) :
    readModulesText isJson text = some modules ↔ TextHolds isJson text modules := by
  have both : readModulesText isJson text = (moduleDocument? isJson text).bind fun document =>
      (Document.readModules (moduleReading isJson) document).toOption := by
    cases isJson <;> rfl
  rw [both, Option.bind_eq_some_iff]
  refine exists_congr fun document => and_congr_right fun _ => ?_
  rw [← mapM_eq_ok_iff, ← Document.readModules_eq]
  cases Document.readModules (moduleReading isJson) document <;> simp [Except.toOption]

theorem loadModuleFile_iff (tree : FileTree) (file : String) (loaded : List Module) :
    loadModuleFile tree file = .ok loaded ↔
      ∃ modules, FileHolds tree file modules ∧ nameModules file modules = loaded := by
  unfold loadModuleFile FileHolds
  simp only [← readModulesText_iff]
  cases readText tree file with
  | error error => simp
  | ok text => cases read : readModulesText (isJsonPath file) text <;> simp [read]

theorem loadModules_iff {tree : FileTree} {path : String} {files : List String}
    (isThere : pathExists tree path = true) (found : documentFiles tree path = .ok files)
    (loaded : List Module) :
    loadModules tree path = .ok loaded ↔
      ∃ held, List.Forall₂ (FileHolds tree) files held ∧
        (List.zipWith nameModules files held).flatten = loaded := by
  rw [loadModules, if_pos isThere, found]
  simp only
  rw [bind_eq_ok_iff]
  constructor
  · rintro ⟨groups, read, last⟩
    rw [mapM_eq_ok_iff_of (loadModuleFile_iff tree), forall₂_exists_eq_iff] at read
    obtain ⟨held, each, rfl⟩ := read
    cases last
    exact ⟨held, each, rfl⟩
  · rintro ⟨held, each, rfl⟩
    refine ⟨_, ?_, rfl⟩
    rw [mapM_eq_ok_iff_of (loadModuleFile_iff tree), forall₂_exists_eq_iff]
    exact ⟨held, each, rfl⟩

/-! ### Names by the place -/

/-- The name that a module without one gets from its file and its place among some modules. -/
def placeName (file : String) (count index : Nat) : String :=
  if count > 1 then file ++ "#" ++ toString index else file

/-- What a module becomes at its place. -/
def namedAt (file : String) (count : Nat) (item : Module × Nat) : Module :=
  match item.1.name with
  | some _ => item.1
  | none => item.1.withName (placeName file count item.2)

theorem nameModules_eq_map (file : String) (modules : List Module) :
    nameModules file modules = modules.zipIdx.map (namedAt file modules.length) := rfl

theorem name_namedAt {file : String} {count : Nat} {item : Module × Nat}
    (unnamed : item.1.name.isNone = true) :
    (namedAt file count item).name = some (placeName file count item.2) := by
  rw [namedAt, Option.isNone_iff_eq_none.mp unnamed]
  rfl

/-- The names that the modules of a file are given, which have none of their own. -/
def givenNames (file : String) (modules : List Module) : List String :=
  ((modules.zip (nameModules file modules)).filter fun pair => pair.1.name.isNone).filterMap
    fun pair => pair.2.name

theorem givenNames_eq (file : String) (modules : List Module) :
    givenNames file modules = (modules.zipIdx.filter fun item => item.1.name.isNone).map
      fun item => placeName file modules.length item.2 := by
  have paired : modules.zip (nameModules file modules) =
      modules.zipIdx.map fun item => (item.1, namedAt file modules.length item) := by
    rw [nameModules_eq_map]
    nth_rewrite 1 [← List.zipIdx_map_fst 0 modules]
    exact List.zip_map' ..
  rw [givenNames, paired, List.filter_map, List.filterMap_map]
  exact List.filterMap_eq_map_iff_forall_eq_some.mpr fun item member =>
    name_namedAt (List.mem_filter.mp member).2

/-- Each module without a name is given one. -/
theorem length_givenNames (file : String) (modules : List Module) :
    (givenNames file modules).length = modules.countP fun module => module.name.isNone := by
  rw [givenNames_eq, List.length_map, ← List.countP_eq_length_filter]
  nth_rewrite 2 [← List.zipIdx_map_fst 0 modules]
  rw [List.countP_map]
  rfl

theorem givenNames_sublist (file : String) (modules : List Module) :
    (givenNames file modules).Sublist
      ((List.range modules.length).map (placeName file modules.length)) := by
  have places : (List.range modules.length).map (placeName file modules.length) =
      modules.zipIdx.map fun item => placeName file modules.length item.2 := by
    rw [List.range_eq_range', ← List.zipIdx_map_snd 0 modules, List.map_map]
    rfl
  rw [givenNames_eq, places]
  exact List.filter_sublist.map _

theorem natText_inj {first second : Nat} (same : toString first = toString second) :
    first = second := by
  have digits : Nat.toDigits 10 first = Nat.toDigits 10 second := String.ofList_injective same
  calc first = Nat.ofDigitChars 10 (Nat.toDigits 10 first) 0 :=
        (Nat.ofDigitChars_toDigits (by decide) (by decide)).symm
    _ = Nat.ofDigitChars 10 (Nat.toDigits 10 second) 0 := by rw [digits]
    _ = second := Nat.ofDigitChars_toDigits (by decide) (by decide)

theorem nodup_placeNames (file : String) (count : Nat) :
    ((List.range count).map (placeName file count)).Nodup := by
  refine List.nodup_range.map_on ?_
  intro first inRange second inOther same
  rw [List.mem_range] at inRange inOther
  by_cases several : count > 1
  · rw [placeName, placeName, if_pos several, if_pos several, String.append_right_inj] at same
    exact natText_inj same
  · omega

/-- A path whose last character is no digit. -/
def EndsPlain (path : String) : Prop := path.toList.getLast?.any (fun c => !c.isDigit) = true

theorem isDigit_of_mem_natText {number : Nat} {c : Char} (member : c ∈ (toString number).toList) :
    c.isDigit = true := by
  rw [Nat.toString_eq_repr, Nat.toList_repr] at member
  exact Nat.isDigit_of_mem_toDigits (by decide) (by decide) member

theorem EndsPlain.ne_numbered {path : String} (plain : EndsPlain path) (file : String)
    (number : Nat) : path ≠ file ++ "#" ++ toString number := by
  rintro rfl
  obtain ⟨c, last, noDigit⟩ := (Option.any_eq_true _ _).mp plain
  have some_digit : (toString number).toList ≠ [] := by
    rw [Nat.toString_eq_repr, Nat.toList_repr]
    exact Nat.toDigits_ne_nil
  rw [String.toList_append, List.getLast?_append_of_ne_nil _ some_digit] at last
  rw [isDigit_of_mem_natText (List.mem_of_getLast? last)] at noDigit
  cases noDigit

theorem numbered_inj {file other : String} {first second : Nat}
    (same : file ++ "#" ++ toString first = other ++ "#" ++ toString second) : file = other := by
  have front (path : String) (number : Nat) :
      (path ++ "#" ++ toString number).toList.reverse.dropWhile Char.isDigit =
        '#' :: path.toList.reverse := by
    rw [String.toList_append, String.toList_append, List.reverse_append, List.reverse_append]
    exact Decimal.dropWhile_isDigit
      (fun c member => isDigit_of_mem_natText (List.mem_reverse.mp member)) (by
        intro c first
        cases first
        rfl)
  have marked : '#' :: file.toList.reverse = '#' :: other.toList.reverse := by
    rw [← front file first, ← front other second, same]
  exact String.toList_inj.mp (List.reverse_inj.mp (List.cons.inj marked).2)

/-- Numbers after a mark do not make the names of two files the same. -/
theorem placeName_inj {file other : String} (plain : EndsPlain file) (otherPlain : EndsPlain other)
    {count index number place : Nat}
    (same : placeName file count index = placeName other number place) : file = other := by
  by_cases several : count > 1 <;> by_cases otherSeveral : number > 1 <;>
    simp only [placeName, several, otherSeveral, if_true, if_false] at same
  · exact numbered_inj same
  · exact absurd same.symm (otherPlain.ne_numbered file index)
  · exact absurd same (plain.ne_numbered other place)
  · exact same

theorem exists_of_mem_givenNames {file name : String} {modules : List Module}
    (member : name ∈ givenNames file modules) :
    ∃ index, name = placeName file modules.length index := by
  obtain ⟨index, _, same⟩ := List.mem_map.mp ((givenNames_sublist file modules).subset member)
  exact ⟨index, same.symm⟩

/-- Over different files that do not end in a digit no name is given twice. -/
theorem nodup_givenNames {files : List String} (distinct : files.Nodup)
    (plain : ∀ file ∈ files, EndsPlain file) (held : List (List Module)) :
    (List.zipWith givenNames files held).flatten.Nodup := by
  have each : ∀ names ∈ List.zipWith givenNames files held, names.Nodup := by
    intro names member
    rw [← List.map_uncurry_zip_eq_zipWith] at member
    obtain ⟨pair, _, rfl⟩ := List.mem_map.mp member
    exact (nodup_placeNames _ _).sublist (givenNames_sublist _ _)
  refine List.nodup_flatten.mpr ⟨each, ?_⟩
  clear each
  -- By induction on the files: a name that the first file shares with a later one would make
  -- the two files the same.
  induction files generalizing held with
  | nil => simp
  | cons file rest ih =>
      cases held with
      | nil => simp
      | cons modules others =>
          obtain ⟨absent, distinctRest⟩ := List.nodup_cons.mp distinct
          obtain ⟨plainFile, plainRest⟩ := List.forall_mem_cons.mp plain
          refine List.pairwise_cons.mpr ⟨?_, ih distinctRest plainRest others⟩
          intro names member name inFirst inNames
          rw [← List.map_uncurry_zip_eq_zipWith] at member
          obtain ⟨⟨other, otherModules⟩, inside, rfl⟩ := List.mem_map.mp member
          have inRest := (List.of_mem_zip inside).1
          obtain ⟨index, rfl⟩ := exists_of_mem_givenNames inFirst
          obtain ⟨place, same⟩ := exists_of_mem_givenNames inNames
          cases placeName_inj plainFile (plainRest other inRest) same
          exact absent inRest

/-! ### Directories -/

theorem Files.DocumentsBelow.endsPlain {path : String} {entries : List (String × Entry)}
    {files : List String} (collected : DocumentsBelow path entries files)
    (regular : Regular (.directory entries)) {file : String} (member : file ∈ files) :
    EndsPlain file := by
  obtain ⟨ending, listed, last⟩ := collected.exists_ending regular member
  have each : ∀ ending ∈ documentExtensions,
      ending.toList.getLast?.any (fun c => !c.isDigit) = true := by decide
  rw [EndsPlain, last]
  exact each ending listed

/--
From a directory without links registry and modules are loaded from the same list of files:
all files below it with one of the three extensions, each once, in order of their paths as
compared name by name. The modules that are loaded are those of these files, in this order and
then in order of each document; each module without a name is given one, and these names are
all different. A file that can be opened by its path is the one that was found.
-/
theorem loaded_below {tree : FileTree} {path : String} {position : Position}
    {entries : List (String × Entry)}
    (isThere : resolve tree true path = .ok (.present position (.directory entries)))
    (regular : Regular (.directory entries)) (distinct : DistinctNames (.directory entries)) :
    ∃ files, documentFiles tree path = .ok files ∧ DocumentsBelow path entries files ∧
      loadRegistry tree path = registerFiles tree .empty files ∧
      (∀ modules, loadModules tree path = .ok modules ↔
        ∃ held, List.Forall₂ (FileHolds tree) files held ∧
          (List.zipWith nameModules files held).flatten = modules) ∧
      (∀ file modules, (givenNames file modules).length =
        modules.countP fun module => module.name.isNone) ∧
      (∀ held, (List.zipWith givenNames files held).flatten.Nodup) ∧
      ∀ below contents, (Entry.directory entries).at? below = some (.file contents) →
        pathError? (below.foldl join path) = none →
          read tree (below.foldl join path) = .ok contents := by
  obtain ⟨files, found, collected⟩ := exists_documentsBelow isThere regular distinct
  have present : pathExists tree path = true := by
    rw [pathExists, lookup, isThere]
  refine ⟨files, found, collected, ?_, loadModules_iff present found, length_givenNames, ?_, ?_⟩
  · rw [loadRegistry, if_pos present, found]
  · exact nodup_givenNames collected.nodup fun file => collected.endsPlain regular
  · exact fun below contents isFile noError => read_below isThere regular isFile noError

/-- Of the directory `a` and the file `a.json` the directory comes first. -/
def mixedEntries : List (String × Entry) :=
  [("b.json", .file "\x7b\x7d".toUTF8), ("a.json", .file "\x7b\x7d".toUTF8),
    ("notes.txt", .file "ignored".toUTF8), ("a", .directory [("z.json", .file "\x7b\x7d".toUTF8)])]

def mixedTree : FileTree := .directory [("modules", .directory mixedEntries)]

theorem documentFiles_mixedTree : documentFiles mixedTree "modules" =
    .ok ["modules/a/z.json", "modules/a.json", "modules/b.json"] := by
  have isThere : resolve mixedTree true "modules" =
      .ok (.present ["modules"] (.directory mixedEntries)) := rfl
  have documents : isDocumentName "b.json" = true ∧ isDocumentName "a.json" = true ∧
      isDocumentName "z.json" = true ∧ isDocumentName "notes.txt" = false := by decide
  have paths : join "modules" "b.json" = "modules/b.json" ∧
      join "modules" "a.json" = "modules/a.json" ∧ join "modules" "a" = "modules/a" ∧
      join "modules/a" "z.json" = "modules/a/z.json" := by decide
  rw [documentFiles, isThere]
  simp [mixedEntries, searchEntries, searchEntry, Files.collect, Entry.sortByName, List.mergeSort,
    documents, paths, pure, Except.pure, bind, Except.bind]

theorem loaded_mixedTree :
    resolve mixedTree true "modules" = .ok (.present ["modules"] (.directory mixedEntries)) ∧
      Regular (.directory mixedEntries) ∧ DistinctNames (.directory mixedEntries) ∧
      DocumentsBelow "modules" mixedEntries
        ["modules/a/z.json", "modules/a.json", "modules/b.json"] ∧
      loadRegistry mixedTree "modules" = registerFiles mixedTree .empty
        ["modules/a/z.json", "modules/a.json", "modules/b.json"] ∧
      loadModules mixedTree "modules" = .ok [{ name := some "modules/a/z.json" },
        { name := some "modules/a.json" }, { name := some "modules/b.json" }] := by
  have isThere : resolve mixedTree true "modules" =
      .ok (.present ["modules"] (.directory mixedEntries)) := rfl
  have below : Regular (.directory [("z.json", .file "\x7b\x7d".toUTF8)]) :=
    .cons (isName_of (by decide)) (.file _) .empty
  have regular : Regular (.directory mixedEntries) :=
    .cons (isName_of (by decide)) (.file _) (.cons (isName_of (by decide)) (.file _)
      (.cons (isName_of (by decide)) (.file _) (.cons (isName_of (by decide)) below .empty)))
  have distinct : DistinctNames (.directory mixedEntries) := by
    refine .directory (by decide) ?_
    simp only [mixedEntries, List.forall_mem_cons, List.not_mem_nil, false_implies, implies_true,
      and_true]
    refine ⟨.file _, .file _, .file _, .directory (by decide) ?_⟩
    simp only [List.forall_mem_singleton]
    exact .file _
  have holds (file : String) (held : readText mixedTree file = .ok "\x7b\x7d")
      (isJson : isJsonPath file = true) : FileHolds mixedTree file [{}] := by
    refine ⟨_, held, ?_⟩
    rw [isJson]
    exact ⟨.map [], rfl, .cons rfl .nil⟩
  obtain ⟨files, found, collected, registry, modules, -, -, -⟩ :=
    loaded_below isThere regular distinct
  cases documentFiles_mixedTree.symm.trans found
  refine ⟨isThere, regular, distinct, collected, registry, (modules _).mpr ⟨[[{}], [{}], [{}]],
    .cons (holds _ rfl rfl) (.cons (holds _ rfl rfl) (.cons (holds _ rfl rfl) .nil)), rfl⟩⟩

end Stanza
