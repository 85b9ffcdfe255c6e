import SchemaCrosswalk.Text.Lowercase

/-!
# Columns — what is known of the columns of a table

- `Column`, `ColumnSet`: the columns of one table on one engine, with distinct names
- `ColumnSet.get?`: a column by its name, exactly or else up to case
- `ExplicitMapping`: a pair of columns that is mapped on request
- `SinkUsage`: a sink column that a source column feeds
-/

namespace SchemaCrosswalk

/-! ## Columns and column sets -/

/-- A column as it is declared on its engine. -/
structure Column where
  name : String
  type : String
  nullable : Bool := true
  primaryKey : Bool := false
  hasDefault : Bool := false
  deriving DecidableEq, Repr, Inhabited

namespace Column

/-- The same column with no empty values. -/
def notNull (c : Column) : Column := { c with nullable := false }

/-- The same column as a part of the primary key, which has no empty values. -/
def asPrimaryKey (c : Column) : Column := { c with primaryKey := true, nullable := false }

/-- The same column with a default value. -/
def withDefault (c : Column) : Column := { c with hasDefault := true }

/-- A required column has to receive a value. -/
def isRequired (c : Column) : Bool := (c.primaryKey || !c.nullable) && !c.hasDefault

end Column

/-- The first name in a list that occurs before, in the list or among those seen already. -/
def firstRepeated (seen : List String) : List String → Option String
  | [] => none
  | name :: names =>
      if seen.contains name then some name else firstRepeated (name :: seen) names

theorem disjoint_and_nodup_of_firstRepeated_eq_none :
    ∀ {names seen : List String}, firstRepeated seen names = none →
      (∀ n ∈ names, n ∉ seen) ∧ names.Nodup
  | [], _, _ => by simp
  | name :: names, seen, h => by
      unfold firstRepeated at h
      split at h
      · cases h
      · next hnot =>
        have ih := disjoint_and_nodup_of_firstRepeated_eq_none h
        have hfresh : name ∉ names := fun hmem => ih.1 name hmem List.mem_cons_self
        refine ⟨fun n hn => ?_, List.nodup_cons.2 ⟨hfresh, ih.2⟩⟩
        rcases List.mem_cons.1 hn with rfl | hn
        · simpa using hnot
        · exact fun hs => ih.1 n hn (List.mem_cons_of_mem _ hs)

/-- The columns of one table, in the order of their declaration. Their names are distinct. -/
structure ColumnSet where
  columns : List Column
  distinct : (columns.map (·.name)).Nodup

namespace ColumnSet

/-- The column set without columns. -/
def empty : ColumnSet := ⟨[], List.nodup_nil⟩

instance : Inhabited ColumnSet := ⟨empty⟩

/-- The column set of a list, or the first name that is repeated in it. -/
def ofList (columns : List Column) : Except String ColumnSet :=
  match h : firstRepeated [] (columns.map (·.name)) with
  | some name => .error name
  | none => .ok ⟨columns, (disjoint_and_nodup_of_firstRepeated_eq_none h).2⟩

/-- The names in the order of declaration. -/
def names (s : ColumnSet) : List String := s.columns.map (·.name)

/-- A column by its exact name, or else the first one whose name differs by case only. -/
def get? (s : ColumnSet) (name : String) : Option Column :=
  (s.columns.find? (·.name == name)).or (s.columns.find? (Text.namesMatch ·.name name))

/-- Whether there is a column of that name. -/
def contains (s : ColumnSet) (name : String) : Bool := (s.get? name).isSome

/-- The columns that have to receive a value. -/
def required (s : ColumnSet) : List Column := s.columns.filter (·.isRequired)

/-- The number of columns. -/
def size (s : ColumnSet) : Nat := s.columns.length

/-- Whether there is no column. -/
def isEmpty (s : ColumnSet) : Bool := s.columns.isEmpty

end ColumnSet

/-! ## Pairs and places -/

/-- A source column and the sink column that it is to populate. -/
structure ExplicitMapping where
  sourceColumn : String
  sinkColumn : String
  deriving DecidableEq, Repr

namespace ExplicitMapping

/-- The mapping written as `source=sink`, blanks around the names being dropped. -/
def ofText? (text : String) : Option ExplicitMapping := do
  let (source, sink) ← Text.cutAt '=' text.toList
  let source := Text.trim (String.ofList source)
  let sink := Text.trim (String.ofList sink)
  if source.isEmpty || sink.isEmpty then none else some ⟨source, sink⟩

/-- A mapping in words. -/
def describe (m : ExplicitMapping) : String := s!"{m.sourceColumn} → {m.sinkColumn}"

end ExplicitMapping

/-- The place of a source column: its table and its name. -/
structure ColumnContext where
  table : String
  column : String
  deriving DecidableEq, Repr

/-- A place in words. -/
def ColumnContext.describe (c : ColumnContext) : String := s!"{c.table}.{c.column}"

/-- A sink column that is fed from some source column. -/
structure SinkUsage where
  targetEngine : String
  targetTable : String
  targetColumn : String
  targetType : String
  deriving DecidableEq, Repr

end SchemaCrosswalk
