import MutationTesting.Ledger.Store

/-!
What a ledger of given campaigns holds. A table is told by the cells of its rows, in the order in
which they came; keys are places in that order. Adding a campaign to the ledger of some campaigns
gives the ledger of one more.
-/

namespace MutationTesting

namespace Table

/-- The rows that cells make up one after the other. -/
def numbered (cells : List (List (String × Cell))) : List Row :=
  (cells.zipIdx 1).map fun (entries, key) => ⟨key, entries⟩

/-- The table with rows of these cells. -/
def holding (t : Table) (cells : List (List (String × Cell))) : Table :=
  ⟨t.name, t.columns, (numbered cells).reverse⟩

/-- Whether the table takes a row of these cells. -/
def takes (t : Table) (cells : List (String × Cell)) : Bool :=
  (cells.map (·.1)).all (fun name => (t.column? name).any fun c => c.flag.isNone) &&
    t.columns.all fun c => c.flag.isSome || c.admits (Row.cell ⟨0, cells⟩ c.name)

theorem numbered_append (cells more : List (List (String × Cell))) :
    numbered (cells ++ more) =
      numbered cells ++
        (more.zipIdx (1 + cells.length)).map fun (entries, key) => ⟨key, entries⟩ := by
  rw [numbered, List.zipIdx_append, List.map_append]
  rfl

theorem numbered_concat (cells : List (List (String × Cell))) (new : List (String × Cell)) :
    numbered (cells ++ [new]) = numbered cells ++ [⟨cells.length + 1, new⟩] := by
  rw [numbered_append, List.zipIdx_singleton, Nat.add_comm]
  rfl

theorem nextKey_holding (t : Table) (cells : List (List (String × Cell))) :
    (t.holding cells).nextKey = cells.length + 1 := by
  obtain rfl | ⟨cells, newest, rfl⟩ := List.eq_nil_or_concat cells
  · rfl
  · rw [List.concat_eq_append, nextKey, holding, numbered_concat, List.reverse_concat,
      List.length_append, List.length_singleton]

theorem insert_holding {t : Table} {new : List (String × Cell)} (h : t.takes new = true)
    (cells : List (List (String × Cell))) :
    (t.holding cells).insert new = some (t.holding (cells ++ [new]), cells.length + 1) := by
  have hrows : (t.holding (cells ++ [new])).rows =
      ⟨cells.length + 1, new⟩ :: (t.holding cells).rows := by
    rw [holding, numbered_concat, List.reverse_concat]
    rfl
  rw [takes, List.all_map] at h
  rw [insert, nextKey_holding]
  refine (if_pos h).trans ?_
  rw [← hrows]
  rfl

theorem select_holding (t : Table) (cells : List (List (String × Cell))) (names : List String) :
    (t.holding cells).select names =
      (names.mapM t.column?).map fun columns =>
        (numbered cells).map fun row => columns.map row.view := by
  have hrows : (t.holding cells).rows.reverse = numbered cells := List.reverse_reverse _
  rw [select, hrows]
  change Option.bind (names.mapM t.column?) _ = _
  cases names.mapM t.column? with
  | none => rfl
  | some columns => rfl

/-- Rows that come later leave those that are there as they are. -/
theorem select_holding_append {t : Table} {cells : List (List (String × Cell))}
    {names : List String} {shown : List (List Cell)}
    (h : (t.holding cells).select names = some shown) (more : List (List (String × Cell))) :
    ∃ added, (t.holding (cells ++ more)).select names = some (shown ++ added) := by
  rw [select_holding] at h
  obtain ⟨columns, hcolumns, rfl⟩ := Option.map_eq_some_iff.mp h
  rw [select_holding, hcolumns, numbered_append, Option.map_some, List.map_append]
  exact ⟨_, rfl⟩

end Table

namespace Ledger

/-! ### Names -/

/-- The names of the tables and of their columns. -/
def names : List String := schema.flatMap fun t => t.name :: t.columns.map (·.name)

theorem toLower_names : ∀ name ∈ names, name.toLower = name := by
  decide +kernel

/-- The names are in small letters, so they are compared letter by letter. -/
theorem sameName_names {a b : String} (ha : a ∈ names) (hb : b ∈ names) :
    sameName a b = (a == b) := by
  rw [sameName, toLower_names a ha, toLower_names b hb]

theorem mem_names {t : Table} (ht : t ∈ schema) {c : Column} (hc : c ∈ t.columns) :
    c.name ∈ names :=
  List.mem_flatMap.mpr ⟨t, ht, List.mem_cons_of_mem t.name (List.mem_map_of_mem hc)⟩

theorem mem_names_of_flag :
    ∀ t ∈ schema, ∀ c ∈ t.columns, ∀ flag ∈ c.flag, flag.1 ∈ names := by
  decide

theorem column?_schema : ∀ t ∈ schema, ∀ c ∈ t.columns, t.column? c.name = some c := by
  decide +kernel

theorem mapM_column? {t : Table} (ht : t ∈ schema) {columns : List Column}
    (hcolumns : columns ⊆ t.columns) : (columns.map (·.name)).mapM t.column? = some columns := by
  induction columns with
  | nil => rfl
  | cons c columns ih =>
      rw [List.cons_subset] at hcolumns
      rw [List.map_cons, List.mapM_cons, column?_schema t ht c hcolumns.1, ih hcolumns.2]
      rfl

theorem cell_eq_lookup {cells : List (String × Cell)} (hcells : cells.map (·.1) ⊆ names)
    {name : String} (hname : name ∈ names) (key : Nat) :
    Row.cell ⟨key, cells⟩ name = (cells.lookup name).getD .null := by
  induction cells with
  | nil => rfl
  | cons entry rest ih =>
      rw [List.map_cons, List.cons_subset] at hcells
      have hrest := ih hcells.2
      rw [Row.cell] at hrest ⊢
      rw [List.find?_cons, sameName_names hcells.1 hname, List.lookup_cons, Bool.beq_comm]
      cases name == entry.1 with
      | true => rfl
      | false => exact hrest

/-- What a column shows of cells that are looked up letter by letter. -/
def shown (key : Nat) (cells : List (String × Cell)) (c : Column) : Cell :=
  if c.isKey then .integer key
  else
    match c.flag with
    | some (name, text) =>
      if (cells.lookup name).getD .null = .text text then .integer 1 else .integer 0
    | none => (cells.lookup c.name).getD .null

/-- The names of the columns of a table that are not computed. -/
def settable (t : Table) : List String :=
  (t.columns.filter fun c => c.flag.isNone).map (·.name)

theorem settable_subset {t : Table} (ht : t ∈ schema) : settable t ⊆ names := by
  intro name hname
  obtain ⟨c, hc, rfl⟩ := List.mem_map.mp hname
  exact mem_names ht (List.mem_filter.mp hc).1

section

variable {t : Table} {cells : List (String × Cell)}

theorem view_eq_shown (ht : t ∈ schema) (hcells : cells.map (·.1) ⊆ settable t)
    {columns : List Column} (hcolumns : columns ⊆ t.columns) (key : Nat) :
    columns.map (Row.view ⟨key, cells⟩) = columns.map (shown key cells) := by
  have hnames := List.Subset.trans hcells (settable_subset ht)
  refine List.map_congr_left fun c hc => ?_
  rw [Row.view, shown]
  cases hflag : c.flag with
  | none => simp only [cell_eq_lookup hnames (mem_names ht (hcolumns hc))]
  | some flag =>
      simp only [cell_eq_lookup hnames (mem_names_of_flag t ht c (hcolumns hc) flag hflag)]

/-- A row is taken if it sets columns that are not computed, to cells that all columns admit. -/
theorem takes_of_lookup (ht : t ∈ schema) (hcells : cells.map (·.1) ⊆ settable t)
    (h : ∀ c ∈ t.columns,
      (c.flag.isSome || c.admits ((cells.lookup c.name).getD .null)) = true) :
    t.takes cells = true := by
  have hnames := List.Subset.trans hcells (settable_subset ht)
  rw [Table.takes, Bool.and_eq_true, List.all_eq_true, List.all_eq_true]
  constructor
  · intro name hname
    obtain ⟨c, hc, rfl⟩ := List.mem_map.mp (hcells hname)
    obtain ⟨hmem, hflag⟩ := List.mem_filter.mp hc
    rw [column?_schema t ht c hmem]
    exact hflag
  · intro c hc
    rw [cell_eq_lookup hnames (mem_names ht hc)]
    exact h c hc

end

/-! ### Rows -/

theorem settable_runCells (s : Summary) : (runCells s).map (·.1) ⊆ settable runs := by
  change ["tool_version", "mutation_score"] ⊆ settable runs
  decide

theorem settable_testCells (run : Nat) (r : TestResult) :
    (testCells run r).map (·.1) ⊆ settable tests := by
  change ["run_id", "name", "status", "running_time_ms"] ⊆ settable tests
  decide

theorem settable_mutantCells (run test : Nat) (r : MutantResult) :
    (mutantCells run test r).map (·.1) ⊆ settable mutants := by
  change ["run_id", "test_id", "mutation_id", "function_name", "operator", "location",
    "patch_hash", "status", "running_time_ms"] ⊆ settable mutants
  decide

theorem runs_mem_schema : runs ∈ schema := by simp [schema]

theorem tests_mem_schema : tests ∈ schema := by simp [schema]

theorem mutants_mem_schema : mutants ∈ schema := by simp [schema]

theorem takes_runCells (s : Summary) : runs.takes (runCells s) = true := by
  refine takes_of_lookup runs_mem_schema (settable_runCells s) ?_
  simp [runs, Column.plain, Column.key, Column.filled, Column.admits, runCells, List.lookup_cons]

theorem takes_testCells (run : Nat) (r : TestResult) : tests.takes (testCells run r) = true := by
  have hstatus : r.baseline.status.name ∈ ["passed", "failed", "invalid"] := by
    cases r.baseline.status with
    | passed => decide
    | failed => decide
    | invalid => decide
  refine takes_of_lookup tests_mem_schema (settable_testCells run r) ?_
  simpa [tests, Column.key, Column.filled, Column.oneOf, Column.admits, testCells,
    List.lookup_cons] using hstatus

theorem takes_mutantCells (run test : Nat) (r : MutantResult) :
    mutants.takes (mutantCells run test r) = true := by
  have hstatus : r.verdict.status.mutantName ∈ ["killed", "survived", "invalid"] := by
    cases r.verdict.status with
    | passed => decide
    | failed => decide
    | invalid => decide
  refine takes_of_lookup mutants_mem_schema (settable_mutantCells run test r) ?_
  cases hlocation : r.point.location with
  | none =>
      simpa [mutants, Column.plain, Column.key, Column.filled, Column.oneOf, Column.flagOf,
        Column.admits, mutantCells, List.lookup_cons, hlocation, optionalText] using hstatus
  | some range =>
      simpa [mutants, Column.plain, Column.key, Column.filled, Column.oneOf, Column.flagOf,
        Column.admits, mutantCells, List.lookup_cons, hlocation, optionalText] using hstatus

/-! ### What a reader sees -/

/-- What the ledger shows of a campaign; the time at which the row was made is left out. -/
def runColumns : List Column := [.key "id", .plain "tool_version", .filled "mutation_score"]

def runRow (run : Nat) (results : List TestResult) : List Cell :=
  [.integer run, .text "mutang 0.1.0", .real (.ofFloat (Summary.ofResults results).score)]

def testRow (test run : Nat) (r : TestResult) : List Cell :=
  [.integer test, .integer run, .text r.test.name, .text r.baseline.status.name,
    .integer r.baseline.milliseconds]

def mutantRow (id run test : Nat) (r : MutantResult) : List Cell :=
  [.integer id, .integer run, .integer test, .text r.point.id, .text r.point.function,
    .text r.point.kind.name, optionalText (r.point.location.map (·.text)),
    .text (patchHash r.point), .text r.verdict.status.mutantName,
    if r.killed then .integer 1 else .integer 0, .integer r.verdict.milliseconds]

theorem view_runCells (run : Nat) (results : List TestResult) :
    runColumns.map (Row.view ⟨run, runCells (.ofResults results)⟩) = runRow run results := by
  have hcolumns : runColumns ⊆ runs.columns := by decide
  rw [view_eq_shown runs_mem_schema (settable_runCells _) hcolumns]
  simp [runColumns, Column.plain, Column.key, Column.filled, shown, runCells, List.lookup_cons,
    runRow]

theorem view_testCells (test run : Nat) (r : TestResult) :
    tests.columns.map (Row.view ⟨test, testCells run r⟩) = testRow test run r := by
  rw [view_eq_shown tests_mem_schema (settable_testCells run r) (List.Subset.refl _)]
  simp [tests, Column.key, Column.filled, Column.oneOf, shown, testCells, List.lookup_cons, testRow]

theorem mutantName_eq_killed_iff (status : Status) :
    status.mutantName = "killed" ↔ status = .failed := by
  cases status with
  | passed => decide
  | failed => decide
  | invalid => decide

theorem view_mutantCells (id run test : Nat) (r : MutantResult) :
    mutants.columns.map (Row.view ⟨id, mutantCells run test r⟩) = mutantRow id run test r := by
  rw [view_eq_shown mutants_mem_schema (settable_mutantCells run test r) (List.Subset.refl _)]
  simp [mutants, Column.plain, Column.key, Column.filled, Column.oneOf, Column.flagOf, shown,
    mutantCells, List.lookup_cons, mutantRow, MutantResult.killed, mutantName_eq_killed_iff]

end Ledger

end MutationTesting
