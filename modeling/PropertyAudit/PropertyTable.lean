import PropertyAudit.Association
import PropertyAudit.ClassFacts
import PropertyAudit.Extension
import PropertyAudit.Options
import PropertyAudit.Text.Matching

/-! The private properties of a class with the evidence for each. Of declarations with one name the
first counts. Records keep the order of their declarations and are found through an index. -/
namespace PropertyAudit

structure PropertyRecord where
  declaration : Declaration
  usage : Usage
deriving Repr, DecidableEq

namespace PropertyRecord

def name (record : PropertyRecord) : String := record.declaration.name

def joined (record : PropertyRecord) (usage : Usage) : PropertyRecord :=
  { record with usage := record.usage.merge usage }

@[simp] theorem name_joined (record : PropertyRecord) (usage : Usage) :
    (record.joined usage).name = record.name := rfl

variable {records : List PropertyRecord} {index : List (String × Nat)}

/-- Changes in place leave the index as it is, as long as each record keeps its name. -/
theorem indexes_modify {change : PropertyRecord → PropertyRecord}
    (keeps : ∀ record, (change record).name = record.name) (position : Nat)
    (indexes : Indexes index (records.map (·.name))) :
    Indexes index ((records.modify position change).map (·.name)) := by
  have same : (records.modify position change).map (·.name) = records.map (·.name) := by
    apply List.ext_getElem?
    intro other
    rw [List.getElem?_map, List.getElem?_modify, List.getElem?_map, Option.map_eq_map, Option.map_map]
    congr 1
    funext record
    by_cases here : position = other <;> simp [here, keeps]
  rwa [same]

theorem indexes_concat {record : PropertyRecord} (indexes : Indexes index (records.map (·.name)))
    (unknown : index.lookup record.name = none) :
    Indexes (Association.put record.name records.length index)
      ((records ++ [record]).map (·.name)) := by
  have pushed := indexes.push unknown
  rwa [List.length_map, ← List.map_singleton, ← List.map_append] at pushed

end PropertyRecord

structure PropertyTable where
  records : List PropertyRecord
  /-- The position of the record of each name. -/
  index : List (String × Nat)
  indexed : Indexes index (records.map (·.name))

namespace PropertyTable

def empty : PropertyTable := ⟨[], [], .nil⟩

def size (table : PropertyTable) : Nat := table.records.length

def isEmpty (table : PropertyTable) : Bool := table.records.isEmpty

def names (table : PropertyTable) : List String := table.records.map (·.name)

def contains (table : PropertyTable) (name : String) : Bool := (table.index.lookup name).isSome

def get? (table : PropertyTable) (name : String) : Option PropertyRecord :=
  (table.index.lookup name).bind (table.records[·]?)

def mark? (table : PropertyTable) (name : String) (usage : Usage) : Option PropertyTable :=
  (table.index.lookup name).map fun position => { table with
    records := table.records.modify position (·.joined usage)
    indexed := PropertyRecord.indexes_modify (·.name_joined usage) position table.indexed }

/-- Adds evidence for a name; nothing changes where the name is unknown. -/
def mark (table : PropertyTable) (name : String) (usage : Usage) : PropertyTable :=
  (table.mark? name usage).getD table

/-- Adds a declaration at the end, unless its name is known. -/
def push (table : PropertyTable) (declaration : Declaration) (usage : Usage) : PropertyTable :=
  if known : table.contains declaration.name then table
  else
    let record : PropertyRecord := ⟨declaration, usage⟩
    { records := table.records ++ [record]
      index := Association.put record.name table.records.length table.index
      indexed := PropertyRecord.indexes_concat table.indexed (Option.not_isSome_iff_eq_none.mp known) }

def tagUsage (options : Options) (declaration : Declaration) : Usage :=
  match declaration.docComment with
  | none => .none
  | some comment =>
    ⟨options.alwaysReadTags.any (Text.contains comment),
      options.alwaysWrittenTags.any (Text.contains comment)⟩

/-- Evidence from the declaration itself: its comment, the extensions where that leaves something
open, and the value it gives. -/
def initialUsage (options : Options) (extensions : List Extension) (name : String)
    (declaration : Declaration) : Usage × List Extension.Question :=
  let tags := tagUsage options declaration
  let (affirmed, questions) :=
    if tags.isComplete then (.none, []) else Extension.resolve extensions name declaration
  let assigned : Usage := ⟨false, declaration.assigns⟩
  ((tags.merge affirmed).merge assigned, questions)

/-- The table of a class before any access is looked at. -/
def ofClass (options : Options) (extensions : List Extension) (facts : ClassFacts) :
    PropertyTable :=
  facts.privateProperties.foldl (fun table declaration =>
    table.push declaration (initialUsage options extensions facts.name declaration).1) empty

/-- The questions put to the extensions for the table of a class. -/
def questions (options : Options) (extensions : List Extension) (facts : ClassFacts) :
    List Extension.Question :=
  facts.privateProperties.flatMap fun declaration =>
    (initialUsage options extensions facts.name declaration).2

theorem eq_of_records_of_index {table other : PropertyTable} (records : table.records = other.records)
    (index : table.index = other.index) : table = other := by
  cases table
  cases other
  cases records
  cases index
  rfl

theorem lookup_index_eq_some_iff {table : PropertyTable} {name : String} {position : Nat} :
    table.index.lookup name = some position ↔
      ∃ record, table.records[position]? = some record ∧ record.name = name := by
  rw [table.indexed, List.getElem?_map, Option.map_eq_some_iff]

theorem nodup_names (table : PropertyTable) : table.names.Nodup := table.indexed.nodup

theorem contains_iff {table : PropertyTable} {name : String} :
    table.contains name ↔ name ∈ table.names := table.indexed.isSome_lookup_iff

theorem get?_eq_some_iff {table : PropertyTable} {name : String} {record : PropertyRecord} :
    table.get? name = some record ↔ record ∈ table.records ∧ record.name = name := by
  rw [get?, Option.bind_eq_some_iff]
  constructor
  · rintro ⟨position, listed, here⟩
    obtain ⟨other, there, same⟩ := lookup_index_eq_some_iff.mp listed
    obtain rfl := Option.some.inj (here.symm.trans there)
    exact ⟨List.mem_of_getElem? here, same⟩
  · rintro ⟨among, same⟩
    obtain ⟨position, here⟩ := List.mem_iff_getElem?.mp among
    exact ⟨position, lookup_index_eq_some_iff.mpr ⟨record, here, same⟩, here⟩

/-- A name that is known always leads to a record. -/
theorem isSome_get? (table : PropertyTable) (name : String) :
    (table.get? name).isSome = table.contains name := by
  rw [Bool.eq_iff_iff, contains_iff, Option.isSome_iff_exists, names, List.mem_map]
  simp only [get?_eq_some_iff]

theorem isSome_mark? (table : PropertyTable) (name : String) (usage : Usage) :
    (table.mark? name usage).isSome = table.contains name := by
  rw [mark?, Option.isSome_map, contains]

theorem names_push (table : PropertyTable) (declaration : Declaration) (usage : Usage) :
    (table.push declaration usage).names =
      if declaration.name ∈ table.names then table.names
      else table.names ++ [declaration.name] := by
  unfold push
  by_cases known : table.contains declaration.name
  · rw [dif_pos known, if_pos (contains_iff.mp known)]
  · rw [dif_neg known, if_neg (mt contains_iff.mpr known), names, List.map_append]
    rfl

end PropertyTable
end PropertyAudit
