import MutationTesting.Ledger.Database

/-!
The tables that a ledger of campaigns consists of.
-/

namespace MutationTesting

namespace Ledger

/-- One row a campaign. -/
def runs : Table where
  name := "runs"
  columns := [.key "id", .plain "created_at", .plain "tool_version", .filled "mutation_score"]
  rows := []

/-- One row a test of a campaign. -/
def tests : Table where
  name := "tests"
  columns := [.key "id", .filled "run_id", .filled "name",
    .oneOf "status" ["passed", "failed", "invalid"], .filled "running_time_ms"]
  rows := []

/-- One row a mutant that a test ran on. -/
def mutants : Table where
  name := "mutants"
  columns := [.key "id", .filled "run_id", .filled "test_id", .filled "mutation_id",
    .filled "function_name", .filled "operator", .plain "location", .filled "patch_hash",
    .oneOf "status" ["killed", "survived", "invalid"], .flagOf "killed" "status" "killed",
    .filled "running_time_ms"]
  rows := []

/-- The tables in the order in which they are made and checked. -/
def schema : List Table := [runs, tests, mutants]

end Ledger

end MutationTesting
