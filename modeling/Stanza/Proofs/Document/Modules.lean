import Stanza.Proofs.Document.Printing

set_option autoImplicit false

/-!
Modules survive being written and read. The value of a module is decoded to that module, and
a file that holds the value of some modules, or of one, gives them back in their order, those
without a name under the name of their place.
-/

namespace Stanza

open Document (Reading)
open Files

namespace Document

variable (reading : Reading)

/-! ### Tables -/

theorem foldlM_ofMembers {α : Type} (decode : Document → Decoded α) (encode : α → Value)
    {entries : List (String × α)}
    (decodes : ∀ entry ∈ entries, decode (ofValue (encode entry.2)) = .ok entry.2)
    (table : Table α) :
    (ofMembers (entries.map fun entry => (entry.1, encode entry.2))).foldlM
        (fun (table : Table α) entry => do
          let key ← reading.text entry.1
          let item ← decode entry.2
          pure (table.insert key item)) table = .ok (table.insertAll entries) := by
  induction entries generalizing table with
  | nil => rfl
  | cons entry rest ih =>
      obtain ⟨here, later⟩ := List.forall_mem_cons.mp decodes
      simp only [List.map_cons, ofMembers, List.foldlM_cons, Reading.text_quoted, here]
      exact ih later (table.insert entry.1 entry.2)

theorem readInstances_ofTable {instances : Table Value}
    (distinct : ∀ entry ∈ instances.entries, entry.2.Distinct) :
    readInstances reading (ofValue (.ofTable instances)) = .ok instances := by
  have filled := foldlM_ofMembers reading reading.value id
    (fun entry member => Reading.value_ofValue reading (distinct entry member)) ∅
  rw [Table.insertAll_entries] at filled
  simp only [id_eq, List.map_id'] at filled
  exact filled

theorem readDeclarations_ofTable {declarations : Declarations}
    (distinct : ∀ group ∈ declarations.entries, ∀ entry ∈ group.2.entries, entry.2.Distinct) :
    readDeclarations reading (ofValue (.ofTable (declarations.map Value.ofTable))) =
      .ok declarations := by
  have filled := foldlM_ofMembers reading (readInstances reading) Value.ofTable
    (fun group member => readInstances_ofTable reading (distinct group member)) ∅
  rwa [Table.insertAll_entries] at filled

/-! ### Modules -/

theorem distinct_declarations {declarations : Declarations}
    (distinct : (Value.ofTable (declarations.map Value.ofTable)).Distinct) :
    ∀ group ∈ declarations.entries, ∀ entry ∈ group.2.entries, entry.2.Distinct := by
  intro group member
  have each := Value.distinct_ofTable_iff.mp distinct (group.1, Value.ofTable group.2)
    (List.mem_map_of_mem member)
  exact Value.distinct_ofTable_iff.mp each

theorem readModule_toValue {module : Module} (distinct : module.toValue.Distinct) :
    readModule reading (ofValue module.toValue) = .ok module := by
  obtain ⟨name, stem, resources, dataSources⟩ := module
  have members := Value.distinctMembers_iff.mp distinct.2
  have ownResources := readDeclarations_ofTable reading (distinct_declarations
    (members ("resources", .ofTable (resources.map Value.ofTable)) (by simp)))
  have ownDataSources := readDeclarations_ofTable reading (distinct_declarations
    (members ("data_sources", .ofTable (dataSources.map Value.ofTable)) (by simp)))
  cases name <;>
    simp [readModule, Module.toValue, ofValue, ofMembers, Reading.structured, Reading.entries,
      Reading.optionalText, readModuleFields, readModuleField, ownResources, ownDataSources, bind,
      Except.bind, pure, Except.pure, Except.map]

theorem readModules_list {modules : List Module}
    (distinct : (Value.list (modules.map Module.toValue)).Distinct) :
    readModules reading (ofValue (.list (modules.map Module.toValue))) = .ok modules := by
  have each := Value.distinctItems_iff.mp distinct
  show (ofItems (modules.map Module.toValue)).mapM (readModule reading) = .ok modules
  clear distinct
  induction modules with
  | nil => rfl
  | cons module rest ih =>
      obtain ⟨here, later⟩ := List.forall_mem_cons.mp each
      simp only [List.map_cons, ofItems, List.mapM_cons, readModule_toValue reading here, ih later]
      rfl

theorem readModules_single {module : Module} (distinct : module.toValue.Distinct) :
    readModules reading (ofValue module.toValue) = .ok [module] := by
  have read := readModule_toValue reading distinct
  show (readModule reading (ofValue module.toValue)).map (fun module => [module]) = .ok [module]
  rw [read]
  rfl

end Document

/-! ### Files -/

theorem fromUTF8?_toUTF8 (text : String) : String.fromUTF8? text.toUTF8 = some text := by
  rw [String.toUTF8_eq_toByteArray, String.fromUTF8?, dif_pos text.isValidUTF8]
  rfl

theorem nameModules_getElem? (path : String) (modules : List Module) (index : Nat) :
    (nameModules path modules)[index]? = modules[index]?.map fun module =>
      { module with name := some (module.name.getD
        (if modules.length > 1 then path ++ "#" ++ toString index else path)) } := by
  rw [nameModules, List.getElem?_map, List.getElem?_zipIdx]
  cases modules[index]? with
  | none => rfl
  | some module =>
      obtain ⟨name, stem, resources, dataSources⟩ := module
      cases name <;> simp [Module.withName]

theorem loadModuleFile_of_readsAs {tree : FileTree} {path text : String} {value : Value}
    {modules : List Module} (isJson : isJsonPath path = true)
    (held : readText tree path = .ok text) (reads : Document.ReadsAs text value)
    (decoded : Document.readModules .json (Document.ofValue value) = .ok modules) :
    loadModuleFile tree path = .ok (nameModules path modules) := by
  have asValue : readJsonValue? text = some (Document.ofValue value) :=
    congrArg (Option.map Document.ofValue) reads
  have read : readModulesText true text = some modules := by
    show decodeWith readJsonValue? (Document.readModules .json) text = some modules
    rw [decodeWith, asValue, Option.bind_some, decoded]
    rfl
  simp only [loadModuleFile, held, isJson, read]

/--
A JSON file with the value of a list of modules gives back as many modules in the same order,
each with its stem and its declarations, and under its name or else the path, to which the
index is added when there are several. A file with the value of one module gives that one.
Only printing is not spoken of: the text in the file reads as the value that was printed.
-/
theorem loadModuleFile_of_printed (print : Value → String) (tree : FileTree) (path : String)
    (isJson : isJsonPath path = true) :
    (∀ modules : List Module, readText tree path = .ok (print (.list (modules.map Module.toValue))) →
      Document.ReadsAs (print (.list (modules.map Module.toValue)))
        (.list (modules.map Module.toValue)) →
      ∃ loaded, loadModuleFile tree path = .ok loaded ∧ loaded.length = modules.length ∧
        ∀ (index : Nat) (module : Module), modules[index]? = some module →
          loaded[index]? = some { module with name := some (module.name.getD
            (if modules.length > 1 then path ++ "#" ++ toString index else path)) }) ∧
    (∀ module : Module, readText tree path = .ok (print module.toValue) →
      Document.ReadsAs (print module.toValue) module.toValue →
      loadModuleFile tree path = .ok [{ module with name := some (module.name.getD path) }]) := by
  constructor
  · intro modules held reads
    have decoded := Document.readModules_list .json (Document.distinct_of_readsAs reads)
    refine ⟨_, loadModuleFile_of_readsAs isJson held reads decoded, ?_, ?_⟩
    · simp [nameModules]
    · intro index module present
      rw [nameModules_getElem?, present, Option.map_some]
  · intro module held reads
    have decoded := Document.readModules_single .json (Document.distinct_of_readsAs reads)
    rw [loadModuleFile_of_readsAs isJson held reads decoded]
    obtain ⟨name, stem, resources, dataSources⟩ := module
    cases name <;> rfl

def twoModules : List Module := [
  { name := some "left", stem := "l_",
    resources := .ofList [("link", .ofList [("b", .object [("url", .null), ("at", .list [])]),
      ("a", .number (.int 7))]), ("disk", ∅)] },
  { dataSources := .ofList [("zone", .ofList [("a", .bool true)])] }]

theorem twoModules_reloaded :
    ∃ loaded, loadModuleFile
        (.directory [("two.json", .file (Value.compact
          (.list (twoModules.map Module.toValue))).toUTF8)]) "two.json" = .ok loaded ∧
      loaded.length = 2 ∧ loaded[0]? = twoModules[0]? ∧
      loaded[1]? = some (twoModules[1].withName "two.json#1") := by
  have held (text : String) :
      readText (.directory [("two.json", .file text.toUTF8)]) "two.json" = .ok text := by
    have found : Files.read (.directory [("two.json", .file text.toUTF8)]) "two.json" =
        .ok text.toUTF8 := rfl
    simp only [readText, found, fromUTF8?_toUTF8]
  have reads : Document.ReadsAs (Value.compact (.list (twoModules.map Module.toValue)))
      (.list (twoModules.map Module.toValue)) := by
    refine Document.readsAs_compact ?_ ?_ (by decide)
    · have seven : Document.Json.ReadsBack (.int 7) :=
        Document.Json.readsBack_int (by decide) (by decide)
      simp [twoModules, Module.toValue, Value.ofTable, Table.map, Table.ofList, Table.insert,
        putEntry, Table.empty, EmptyCollection.emptyCollection, Value.EachNumber,
        Value.EachNumberOfItems, Value.EachNumberOfMembers, seven]
    · simp [twoModules, Module.toValue, Value.ofTable, Table.map, Table.ofList, Table.insert,
        putEntry, Table.empty, EmptyCollection.emptyCollection, Value.Distinct,
        Value.DistinctItems, Value.DistinctMembers]
  obtain ⟨loaded, loads, size, each⟩ :=
    (loadModuleFile_of_printed Value.compact _ "two.json" (by decide)).1 twoModules (held _) reads
  exact ⟨loaded, loads, size, each 0 twoModules[0] rfl, each 1 twoModules[1] rfl⟩

end Stanza
