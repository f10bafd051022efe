import MutationTesting.Proofs.Ledger.Rows

/-!
The ledger of campaigns that are added one after the other. Campaigns are numbered, their tests
through all campaigns, and so are the mutants of all tests; to add a campaign to the ledger of others
gives the ledger of them all, and readers see the rows that were there before as they were.
-/

namespace MutationTesting

namespace Ledger

/-! ### Tables -/

/-- A ledger with rows of these cells. -/
def withRows (rs ts ms : List (List (String × Cell))) : Database :=
  ⟨[runs.holding rs, tests.holding ts, mutants.holding ms]⟩

section

variable (rs ts ms : List (List (String × Cell)))

/-- A ledger is one whatever it holds. -/
theorem deficiency?_withRows : deficiency? (withRows rs ts ms) schema = none := rfl

theorem table?_runs : (withRows rs ts ms).table? "runs" = some (runs.holding rs) := by
  simp (disch := decide) [Database.table?, withRows, Table.holding, runs, sameName_names]

theorem table?_tests : (withRows rs ts ms).table? "tests" = some (tests.holding ts) := by
  simp (disch := decide) [Database.table?, withRows, Table.holding, runs, tests, List.find?_cons,
    sameName_names]

theorem table?_mutants : (withRows rs ts ms).table? "mutants" = some (mutants.holding ms) := by
  simp (disch := decide) [Database.table?, withRows, Table.holding, runs, tests, mutants,
    List.find?_cons, sameName_names]

theorem replace_runs (new : List (List (String × Cell))) :
    (withRows rs ts ms).replace (runs.holding new) = withRows new ts ms := by
  simp (disch := decide) [Database.replace, withRows, Table.holding, runs, tests, mutants,
    sameName_names]

theorem replace_tests (new : List (List (String × Cell))) :
    (withRows rs ts ms).replace (tests.holding new) = withRows rs new ms := by
  simp (disch := decide) [Database.replace, withRows, Table.holding, runs, tests, mutants,
    sameName_names]

theorem replace_mutants (new : List (List (String × Cell))) :
    (withRows rs ts ms).replace (mutants.holding new) = withRows rs ts new := by
  simp (disch := decide) [Database.replace, withRows, Table.holding, runs, tests, mutants,
    sameName_names]

theorem insert_of_table? {content : Database} {table : String} {t : Table}
    {cells : List (List (String × Cell))} (htable : content.table? table = some (t.holding cells))
    {new : List (String × Cell)} (h : t.takes new = true) :
    content.insert table new =
      some (content.replace (t.holding (cells ++ [new])), cells.length + 1) := by
  rw [Database.insert, htable, Option.bind_eq_bind, Option.bind_some, Table.insert_holding h]
  rfl

theorem insert_run (s : Summary) :
    (withRows rs ts ms).insert "runs" (runCells s) =
      some (withRows (rs ++ [runCells s]) ts ms, rs.length + 1) := by
  rw [insert_of_table? (table?_runs rs ts ms) (takes_runCells s), replace_runs]

theorem insert_test (run : Nat) (r : TestResult) :
    (withRows rs ts ms).insert "tests" (testCells run r) =
      some (withRows rs (ts ++ [testCells run r]) ms, ts.length + 1) := by
  rw [insert_of_table? (table?_tests rs ts ms) (takes_testCells run r), replace_tests]

theorem insert_mutant (run test : Nat) (r : MutantResult) :
    (withRows rs ts ms).insert "mutants" (mutantCells run test r) =
      some (withRows rs ts (ms ++ [mutantCells run test r]), ms.length + 1) := by
  rw [insert_of_table? (table?_mutants rs ts ms) (takes_mutantCells run test r), replace_mutants]

theorem table?_withRows (table : String) :
    (withRows rs ts ms).table? table =
      if sameName "runs" table then some (runs.holding rs)
      else if sameName "tests" table then some (tests.holding ts)
      else if sameName "mutants" table then some (mutants.holding ms)
      else none := by
  have hruns : (runs.holding rs).name = "runs" := rfl
  have htests : (tests.holding ts).name = "tests" := rfl
  have hmutants : (mutants.holding ms).name = "mutants" := rfl
  rw [Database.table?, withRows]
  simp only [List.find?_cons, hruns, htests, hmutants, List.find?_nil]
  cases sameName "runs" table with
  | true => rfl
  | false =>
      cases sameName "tests" table with
      | true => rfl
      | false =>
          cases sameName "mutants" table with
          | true => rfl
          | false => rfl

end

/-- Rows that come later leave what a reader sees of the others. -/
theorem select_withRows_append {rs ts ms : List (List (String × Cell))} {table : String}
    {columns : List String} {seen : List (List Cell)}
    (h : (withRows rs ts ms).select table columns = some seen)
    (rs' ts' ms' : List (List (String × Cell))) :
    ∃ added, (withRows (rs ++ rs') (ts ++ ts') (ms ++ ms')).select table columns =
      some (seen ++ added) := by
  rw [Database.select, table?_withRows] at h ⊢
  split at h
  next hruns =>
    rw [if_pos hruns]
    exact Table.select_holding_append h rs'
  next hruns =>
    rw [if_neg hruns]
    split at h
    next htests =>
      rw [if_pos htests]
      exact Table.select_holding_append h ts'
    next htests =>
      rw [if_neg htests]
      split at h
      next hmutants =>
        rw [if_pos hmutants]
        exact Table.select_holding_append h ms'
      next => cases h

/-! ### Campaigns -/

/-- The tests of the campaigns, in their order, each with the number of its campaign. -/
def ranTests (campaigns : List (List TestResult)) : List (Nat × TestResult) :=
  (campaigns.zipIdx 1).flatMap fun (results, run) => results.map fun r => (run, r)

/-- The mutants of numbered tests, each with the numbers of its campaign and its test. -/
def mutantsOf (numbered : List ((Nat × TestResult) × Nat)) : List (Nat × Nat × MutantResult) :=
  numbered.flatMap fun ((run, r), test) => r.mutants.map fun m => (run, test, m)

/-- The mutants of the campaigns, in their order; tests are numbered through all campaigns. -/
def ranMutants (campaigns : List (List TestResult)) : List (Nat × Nat × MutantResult) :=
  mutantsOf ((ranTests campaigns).zipIdx 1)

/-- The ledger of the campaigns. -/
def ofCampaigns (campaigns : List (List TestResult)) : Database :=
  withRows (campaigns.map fun results => runCells (.ofResults results))
    ((ranTests campaigns).map fun (run, r) => testCells run r)
    ((ranMutants campaigns).map fun (run, test, r) => mutantCells run test r)

theorem withSchema_empty : withSchema .empty = ofCampaigns [] := rfl

theorem ranTests_append (campaigns more : List (List TestResult)) :
    ranTests (campaigns ++ more) =
      ranTests campaigns ++ (more.zipIdx (1 + campaigns.length)).flatMap
        fun (results, run) => results.map fun r => (run, r) := by
  rw [ranTests, List.zipIdx_append, List.flatMap_append]
  rfl

theorem mutantsOf_append (numbered more : List ((Nat × TestResult) × Nat)) :
    mutantsOf (numbered ++ more) = mutantsOf numbered ++ mutantsOf more :=
  List.flatMap_append

theorem ranTests_concat (campaigns : List (List TestResult)) (results : List TestResult) :
    ranTests (campaigns ++ [results]) =
      ranTests campaigns ++ results.map fun r => (campaigns.length + 1, r) := by
  rw [ranTests_append, List.zipIdx_singleton, List.flatMap_singleton, Nat.add_comm]

theorem ranMutants_concat (campaigns : List (List TestResult)) (results : List TestResult) :
    ranMutants (campaigns ++ [results]) =
      ranMutants campaigns ++ mutantsOf
        ((results.map fun r => (campaigns.length + 1, r)).zipIdx
          ((ranTests campaigns).length + 1)) := by
  rw [ranMutants, ranTests_concat, List.zipIdx_append, mutantsOf_append, Nat.add_comm 1]
  rfl

theorem addMutants_withRows (run test : Nat) (results : List MutantResult)
    (rs ts ms : List (List (String × Cell))) :
    addMutants run test results (withRows rs ts ms) =
      some (withRows rs ts (ms ++ results.map (mutantCells run test))) := by
  induction results generalizing ms with
  | nil => rw [addMutants, List.map_nil, List.append_nil]
  | cons r rest ih =>
      rw [addMutants, insert_mutant, List.map_cons, List.append_cons ms _ (List.map _ rest)]
      exact ih (ms ++ [mutantCells run test r])

theorem addTests_withRows (run : Nat) (results : List TestResult)
    (rs ts ms : List (List (String × Cell))) :
    addTests run results (withRows rs ts ms) =
      some (withRows rs (ts ++ results.map (testCells run))
        (ms ++ (mutantsOf ((results.map fun r => (run, r)).zipIdx (ts.length + 1))).map
          fun (run, test, r) => mutantCells run test r)) := by
  induction results generalizing ts ms with
  | nil => simp [addTests, mutantsOf]
  | cons r rest ih =>
      rw [addTests, insert_test]
      -- the mutants of the test are filed under the key that it has just got
      change (addMutants run (ts.length + 1) r.mutants _).bind _ = _
      rw [addMutants_withRows, Option.bind_some, ih]
      simp [mutantsOf, Function.comp_def]

/-- **To add a campaign** to the ledger of campaigns succeeds, and gives the ledger of one more. -/
theorem addRun_ofCampaigns (results : List TestResult) (campaigns : List (List TestResult)) :
    addRun results (ofCampaigns campaigns) =
      some (ofCampaigns (campaigns ++ [results]), campaigns.length + 1) := by
  have hadded : ofCampaigns (campaigns ++ [results]) = withRows
      (campaigns.map (fun results => runCells (.ofResults results)) ++
        [runCells (.ofResults results)])
      ((ranTests campaigns).map (fun (run, r) => testCells run r) ++
        results.map (testCells (campaigns.length + 1)))
      ((ranMutants campaigns).map (fun (run, test, r) => mutantCells run test r) ++
        (mutantsOf ((results.map fun r => (campaigns.length + 1, r)).zipIdx
          ((ranTests campaigns).length + 1))).map
            fun (run, test, r) => mutantCells run test r) := by
    rw [ofCampaigns, ranTests_concat, ranMutants_concat, List.map_append, List.map_append,
      List.map_append, List.map_map]
    rfl
  rw [addRun, ofCampaigns, insert_run]
  change (addTests _ results _).bind _ = _
  rw [addTests_withRows, List.length_map, List.length_map, hadded]
  rfl

/-! ### What a reader sees of campaigns -/

/-- The rows of the campaigns; a campaign is numbered by its place. -/
def runRows (campaigns : List (List TestResult)) : List (List Cell) :=
  (campaigns.zipIdx 1).map fun (results, run) => runRow run results

def testRows (campaigns : List (List TestResult)) : List (List Cell) :=
  ((ranTests campaigns).zipIdx 1).map fun ((run, r), test) => testRow test run r

def mutantRows (campaigns : List (List TestResult)) : List (List Cell) :=
  ((ranMutants campaigns).zipIdx 1).map fun ((run, test, r), id) => mutantRow id run test r

/-- Cells that are made of items number as the items do. -/
theorem view_numbered {α : Type} (items : List α) (cells : α → List (String × Cell))
    (columns : List Column) :
    (Table.numbered (items.map cells)).map (fun row => columns.map row.view) =
      (items.zipIdx 1).map fun (item, key) => columns.map (Row.view ⟨key, cells item⟩) := by
  rw [Table.numbered, List.zipIdx_map, List.map_map, List.map_map]
  rfl

theorem select_runs (campaigns : List (List TestResult)) :
    (ofCampaigns campaigns).select "runs" (runColumns.map (·.name)) =
      some (runRows campaigns) := by
  have hcolumns : runColumns ⊆ runs.columns := by decide
  rw [Database.select, ofCampaigns, table?_runs, Option.bind_eq_bind, Option.bind_some,
    Table.select_holding, mapM_column? runs_mem_schema hcolumns, Option.map_some, view_numbered]
  simp only [view_runCells]
  rfl

theorem select_tests (campaigns : List (List TestResult)) :
    (ofCampaigns campaigns).select "tests" (tests.columns.map (·.name)) =
      some (testRows campaigns) := by
  rw [Database.select, ofCampaigns, table?_tests, Option.bind_eq_bind, Option.bind_some,
    Table.select_holding, mapM_column? tests_mem_schema (List.Subset.refl _), Option.map_some,
    view_numbered]
  simp only [view_testCells]
  rfl

theorem select_mutants (campaigns : List (List TestResult)) :
    (ofCampaigns campaigns).select "mutants" (mutants.columns.map (·.name)) =
      some (mutantRows campaigns) := by
  rw [Database.select, ofCampaigns, table?_mutants, Option.bind_eq_bind, Option.bind_some,
    Table.select_holding, mapM_column? mutants_mem_schema (List.Subset.refl _), Option.map_some,
    view_numbered]
  simp only [view_mutantCells]
  rfl

/-- Campaigns that come later leave what a reader sees of the others. -/
theorem select_ofCampaigns_append {campaigns : List (List TestResult)} {table : String}
    {columns : List String} {seen : List (List Cell)}
    (h : (ofCampaigns campaigns).select table columns = some seen)
    (more : List (List TestResult)) :
    ∃ added, (ofCampaigns (campaigns ++ more)).select table columns = some (seen ++ added) := by
  rw [ofCampaigns, ranMutants, ranTests_append, List.zipIdx_append, mutantsOf_append,
    List.map_append, List.map_append, List.map_append]
  exact select_withRows_append h _ _ _

/-! ### References -/

theorem of_mem_ranTests {campaigns : List (List TestResult)} {run : Nat} {r : TestResult}
    (h : (run, r) ∈ ranTests campaigns) :
    ∃ results, (results, run) ∈ campaigns.zipIdx 1 ∧ r ∈ results := by
  obtain ⟨⟨results, run'⟩, hresults, hmem⟩ := List.mem_flatMap.mp h
  obtain ⟨r', hr, hpair⟩ := List.mem_map.mp hmem
  cases hpair
  exact ⟨results, hresults, hr⟩

theorem of_mem_ranMutants {campaigns : List (List TestResult)} {run test : Nat}
    {m : MutantResult} (h : (run, test, m) ∈ ranMutants campaigns) :
    ∃ r, ((run, r), test) ∈ (ranTests campaigns).zipIdx 1 ∧ m ∈ r.mutants := by
  obtain ⟨⟨⟨run', r⟩, test'⟩, hr, hmem⟩ := List.mem_flatMap.mp h
  obtain ⟨m', hm, htriple⟩ := List.mem_map.mp hmem
  cases htriple
  exact ⟨r, hr, hm⟩

/-- Mutants are filed under the test that they ran in, and tests under its campaign. -/
theorem filed_under_test {campaigns : List (List TestResult)} {id run test : Nat} {m : MutantResult}
    (h : ((run, test, m), id) ∈ (ranMutants campaigns).zipIdx 1) :
    ∃ r results, testRow test run r ∈ testRows campaigns ∧ m ∈ r.mutants ∧
      runRow run results ∈ runRows campaigns ∧ r ∈ results := by
  obtain ⟨r, hr, hm⟩ := of_mem_ranMutants (List.fst_mem_of_mem_zipIdx h)
  obtain ⟨results, hresults, hmem⟩ := of_mem_ranTests (List.fst_mem_of_mem_zipIdx hr)
  exact ⟨r, results, List.mem_map_of_mem hr, hm, List.mem_map_of_mem hresults, hmem⟩

end Ledger

end MutationTesting
