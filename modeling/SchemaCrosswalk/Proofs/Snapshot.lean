import SchemaCrosswalk.Proofs.Dictionary
import SchemaCrosswalk.Proofs.Outcomes
import SchemaCrosswalk.Snapshot

/-!
# Snapshot — which tables of a document a snapshot has

A document may spell one engine in several ways. In the snapshot all of its tables stand under the
canonical name of the engine, where a table that is listed later replaces one of the same name. So
the columns of a table are those that are listed last for it. Nothing is refused: where two
spellings of an engine list a table of one name, one of the two lists of columns is not in the
snapshot.

* `Snapshot.placeOf`: the engine and the name under which a snapshot has a listed table
* `Snapshot.Document.Apart`, `Snapshot.Document.Agrees`: no two listed tables have one place, or
  those that do have the same columns
* `Snapshot.Merges`: what a snapshot has of a document, and when it has all of it
* `Snapshot.merges_document`: every document that can be read yields such a snapshot
* `Snapshot.other_spelling_replaces`: a document of which one list of columns is lost
-/

namespace SchemaCrosswalk.Snapshot

/-- A table as a document lists it: its engine, its name and its columns. -/
abbrev Listed := String × String × ColumnSet

/-- The canonical engine and the name of a listed table. -/
def placeOf (e : Listed) : String × String := (Engine.normalize e.1, e.2.1)

variable {d : Document} {s : Snapshot} {e f : Listed}

/-! ## Tables in a snapshot -/

theorem tables_insertTable (s : Snapshot) (engine table : String) (columns : ColumnSet) :
    (s.insertTable engine table columns).tables =
      PairTable.put s.tables (Engine.normalize engine) table columns :=
  rfl

theorem tables_foldl_insertTable (listed : List Listed) (s : Snapshot) :
    (listed.foldl (fun s e => s.insertTable e.1 e.2.1 e.2.2) s).tables =
      PairTable.putAll placeOf (fun e => e.2.2) listed s.tables := by
  induction listed generalizing s with
  | nil => rfl
  | cons e listed ih =>
      rw [List.foldl_cons, ih, tables_insertTable]
      unfold PairTable.putAll placeOf
      rw [List.foldl_cons]

theorem tables_ofDocument (d : Document) :
    (ofDocument d).tables =
      PairTable.putAll placeOf (fun e => e.2.2) d.tables.toList PairTable.empty := by
  unfold ofDocument
  rw [tables_foldl_insertTable]

/-- A table is found by its exact name before any other spelling is looked for. -/
theorem columns_of_get? {engine table : String} {c : ColumnSet}
    (h : PairTable.get? s.tables (Engine.normalize engine) table = some c) :
    s.columns engine table = .ok c := by
  rcases Option.bind_eq_some_iff.1 h with ⟨tables, htables, hget⟩
  have hfound : s.columns? engine table = some c := by
    simp [columns?, findNamed, htables, hget]
  simp [columns, hfound]

/-- The columns of a listed table are those that are listed last for its place. -/
theorem exists_last_columns (he : e ∈ d.tables.toList) :
    ∃ before f after, d.tables.toList = before ++ f :: after ∧ placeOf f = placeOf e ∧
      (∀ g ∈ after, placeOf g ≠ placeOf e) ∧ (ofDocument d).columns e.1 e.2.1 = .ok f.2.2 := by
  cases hlast : PairTable.lastAt placeOf d.tables.toList (Engine.normalize e.1) e.2.1 with
  | none =>
      -- The table itself has its place, so there is a last one that has it.
      have hnone : ∀ g ∈ d.tables.toList, placeOf g ≠ placeOf e := by
        simpa [PairTable.lastAt, placeOf] using hlast
      exact absurd rfl (hnone e he)
  | some f =>
      obtain ⟨before, after, hlisted, hplace, hafter⟩ := PairTable.lastAt_eq_some_iff.1 hlast
      have hget : PairTable.get? (ofDocument d).tables (Engine.normalize e.1) e.2.1 =
          some f.2.2 := by
        rw [tables_ofDocument, PairTable.get?_putAll, hlast]
        rfl
      exact ⟨before, f, after, hlisted, hplace, hafter, columns_of_get? hget⟩

theorem tableCount_ofDocument (d : Document) :
    (ofDocument d).tableCount = (d.tables.toList.map placeOf).dedup.length := by
  unfold tableCount
  rw [tables_ofDocument, PairTable.size_putAll]

/-! ## Tables that are lost -/

/-- No two listed tables have one place. -/
def Document.Apart (d : Document) : Prop :=
  ∀ e ∈ d.tables.toList, ∀ f ∈ d.tables.toList, placeOf e = placeOf f → e = f

/-- Listed tables that have one place have the same columns. -/
def Document.Agrees (d : Document) : Prop :=
  ∀ e ∈ d.tables.toList, ∀ f ∈ d.tables.toList, placeOf e = placeOf f → e.2.2 = f.2.2

/-- All listed tables are found with their columns if those that have one place agree on them. -/
theorem columns_ofDocument_iff (d : Document) :
    (∀ e ∈ d.tables.toList, (ofDocument d).columns e.1 e.2.1 = .ok e.2.2) ↔ d.Agrees := by
  constructor
  · intro hall e he f hf hplace
    have hsame : (ofDocument d).columns e.1 e.2.1 = (ofDocument d).columns f.1 f.2.1 := by
      obtain ⟨hengine, htable⟩ := Prod.mk.inj hplace
      simp [columns, columns?, hengine, htable]
    have hcolumns : (Except.ok e.2.2 : Outcome ColumnSet) = .ok f.2.2 := by
      rw [← hall e he, ← hall f hf, hsame]
    exact Except.ok.inj hcolumns
  · intro hagrees e he
    rcases exists_last_columns he with ⟨before, f, after, hlisted, hplace, -, hcolumns⟩
    have hf : f ∈ d.tables.toList := by simp [hlisted]
    rw [hcolumns, hagrees f hf e he hplace]

/-- All listed tables are counted if no two of them have one place. -/
theorem tableCount_ofDocument_iff (d : Document) :
    (ofDocument d).tableCount = d.tables.size ↔ d.Apart := by
  have hcount : (ofDocument d).tableCount = d.tables.size ↔
      (d.tables.toList.map placeOf).Nodup := by
    unfold tableCount
    rw [tables_ofDocument]
    exact PairTable.size_putAll_eq_length_iff
  rw [hcount, List.nodup_map_iff_inj_on d.tables.nodup_toList]
  rfl

/-- What a snapshot has of the tables of a document. A table has the columns that are listed last
for its place. The listed columns of all tables are found exactly if the tables that have one place
agree on them, and all tables are counted exactly if no two have one place. -/
structure Merges (d : Document) (s : Snapshot) : Prop where
  columns_last : ∀ e ∈ d.tables.toList, ∃ before f after,
    d.tables.toList = before ++ f :: after ∧ placeOf f = placeOf e ∧
      (∀ g ∈ after, placeOf g ≠ placeOf e) ∧ s.columns e.1 e.2.1 = .ok f.2.2
  columns_iff : (∀ e ∈ d.tables.toList, s.columns e.1 e.2.1 = .ok e.2.2) ↔ d.Agrees
  tableCount_eq : s.tableCount = (d.tables.toList.map placeOf).dedup.length
  tableCount_iff : s.tableCount = d.tables.size ↔ d.Apart

theorem merges_ofDocument (d : Document) : Merges d (ofDocument d) where
  columns_last := fun _ he => exists_last_columns he
  columns_iff := columns_ofDocument_iff d
  tableCount_eq := tableCount_ofDocument d
  tableCount_iff := tableCount_ofDocument_iff d

theorem ofText_of_read {text : String} (h : documentForm.read text = .ok d) (origin : String) :
    ofText text origin = .ok (ofDocument d) := by
  simp [ofText, h]

/-- Every document that can be read is accepted, and its tables are merged. -/
theorem merges_document {text : String} (h : documentForm.read text = .ok d) (origin : String) :
    ∃ s, ofText text origin = .ok s ∧ Merges d s :=
  ⟨ofDocument d, ofText_of_read h origin, merges_ofDocument d⟩

/-- Two tables of one engine, which is spelled in two ways. -/
def spelledDocument : String :=
  "tables:\n  SqlServer:\n    dbo.Orders:\n      - { name: Amount, type: money }\n" ++
    "  mssql:\n    DBO.ORDERS:\n      - { name: Code, type: char(3) }\n"

/-- Orders in capital letters are another table, so nothing is lost. -/
theorem merges_document_spelled :
    ∃ d s, documentForm.read spelledDocument = .ok d ∧
      ofText spelledDocument "schema.yaml" = .ok s ∧ Merges d s ∧
        d.tables.toList.map placeOf = [("mssql", "dbo.Orders"), ("mssql", "DBO.ORDERS")] ∧
        s.tableCount = 2 ∧ ∀ e ∈ d.tables.toList, s.columns e.1 e.2.1 = .ok e.2.2 := by
  have hread : ((documentForm.read spelledDocument).toOption.map fun d =>
      d.tables.toList.map placeOf) =
      some [("mssql", "dbo.Orders"), ("mssql", "DBO.ORDERS")] := by
    decide +kernel
  rcases Option.map_eq_some_iff.1 hread with ⟨d, hd, hplaces⟩
  have hok : documentForm.read spelledDocument = .ok d := eq_ok_of_toOption hd
  obtain ⟨s, haccepted, hmerges⟩ := merges_document hok "schema.yaml"
  have hdistinct : (d.tables.toList.map placeOf).Nodup := by
    rw [hplaces]
    decide
  have hagrees : d.Agrees := by
    intro e he f hf hplace
    rw [List.inj_on_of_nodup_map hdistinct he hf hplace]
  have hcount : s.tableCount = 2 := by
    rw [hmerges.tableCount_eq, hdistinct.dedup, hplaces]
    rfl
  exact ⟨d, s, hok, haccepted, hmerges, hplaces, hcount, hmerges.columns_iff.2 hagrees⟩

/-- Orders of one engine in two spellings, with different columns. -/
def collidingDocument : String :=
  "tables:\n  SqlServer:\n    dbo.Orders:\n      - { name: Id, type: int }\n" ++
    "      - { name: Amount, type: money }\n  mssql:\n    dbo.Orders:\n" ++
    "      - { name: Code, type: char(3) }\n"

/-- The document is accepted, but the columns that are listed for the first spelling of the engine
are not in the snapshot, and the table is counted once. -/
theorem other_spelling_replaces :
    ∃ d s, documentForm.read collidingDocument = .ok d ∧
      ofText collidingDocument "schema.yaml" = .ok s ∧
      d.tables.toList.map (fun e => (e.1, e.2.1, e.2.2.names)) =
        [("SqlServer", "dbo.Orders", ["Id", "Amount"]), ("mssql", "dbo.Orders", ["Code"])] ∧
      (s.columns "SqlServer" "dbo.Orders").toOption.map ColumnSet.names = some ["Code"] ∧
      d.tables.size = 2 ∧ s.tableCount = 1 := by
  have hread : ((documentForm.read collidingDocument).toOption.map fun d =>
      d.tables.toList.map fun e => (e.1, e.2.1, e.2.2.names)) =
      some [("SqlServer", "dbo.Orders", ["Id", "Amount"]), ("mssql", "dbo.Orders", ["Code"])] := by
    decide +kernel
  rcases Option.map_eq_some_iff.1 hread with ⟨d, hd, hlisted⟩
  have hok : documentForm.read collidingDocument = .ok d := eq_ok_of_toOption hd
  have hsize : d.tables.size = 2 := by
    unfold PairTable.size
    simpa using congrArg List.length hlisted
  -- Both tables have one place, so the columns that are found are those of the second one.
  have hengine : Engine.normalize "SqlServer" = "mssql" ∧ Engine.normalize "mssql" = "mssql" := by
    decide +kernel
  obtain ⟨⟨_, _, first⟩, _, htables, hfirst, hrest⟩ := List.map_eq_cons_iff.1 hlisted
  obtain ⟨⟨_, _, second⟩, _, rfl, hsecond, hnil⟩ := List.map_eq_cons_iff.1 hrest
  obtain rfl := List.map_eq_nil_iff.1 hnil
  simp only [Prod.mk.injEq] at hfirst hsecond
  obtain ⟨rfl, rfl, -⟩ := hfirst
  obtain ⟨rfl, rfl, hcode⟩ := hsecond
  have hcount : (ofDocument d).tableCount = 1 := by
    rw [tableCount_ofDocument, htables]
    simp [placeOf, hengine]
  have hcolumns : (ofDocument d).columns "SqlServer" "dbo.Orders" = .ok second := by
    apply columns_of_get?
    rw [tables_ofDocument, PairTable.get?_putAll, htables]
    simp [PairTable.lastAt, placeOf, hengine]
  refine ⟨d, ofDocument d, hok, ofText_of_read hok "schema.yaml", hlisted, ?_, hsize, hcount⟩
  rw [hcolumns]
  exact congrArg some hcode

end SchemaCrosswalk.Snapshot
