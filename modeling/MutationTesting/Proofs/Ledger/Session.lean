import MutationTesting.Proofs.Ledger.Opening

/-!
Sessions on a ledger: it is made, and then checked and added to in any order. Every call succeeds,
and the ledger is that of the campaigns stored so far.
-/

namespace MutationTesting

namespace Ledger

open MutationTesting.Action

variable {files : Files} {path : Path}

/-! ### Calls -/

/-- The ledger of some campaigns is in the file at the path. -/
structure Holds (files : Files) (path : Path) (campaigns : List (List TestResult)) : Prop where
  named : isTransient path = false
  node : files.node path = .ok (.database (ofCampaigns campaigns))

namespace Holds

variable {campaigns : List (List TestResult)}

theorem check (h : Holds files path campaigns) :
    Succeeds (Ledger.check path) files () files := by
  have hfile : files.exists path = true := by
    rw [Files.exists, h.node]
    exact Bool.or_true _
  have hnone : deficiency? (ofCampaigns campaigns) schema = none := deficiency?_withRows _ _ _
  refine (succeeds_say files _).bind (Succeeds.get_bind fun printed => ?_)
  rw [hfile]
  refine (makeDirectoryOf_of_node h.node).bind ((openFile_of_database h.named h.node).bind ?_)
  refine (succeeds_say files _).bind ((succeeds_say files _).bind ?_)
  simp only [hnone]
  exact succeeds_say files _

theorem store (h : Holds files path campaigns) (results : List TestResult) :
    ∃ files', Succeeds (Ledger.store path results) files (campaigns.length + 1) files' ∧
      Holds files' path (campaigns ++ [results]) := by
  obtain ⟨files', hkeep, hnode⟩ :=
    keep_of_node h.named h.node rfl (ofCampaigns (campaigns ++ [results]))
  refine ⟨files', ?_, h.named, hnode⟩
  refine (succeeds_say files _).bind ((openFile_of_database h.named h.node).bind ?_)
  rw [Option.bind_some, addRun_ofCampaigns]
  exact hkeep.bind ((succeeds_say files' _).bind (succeeds_pure files' _))

end Holds

/-! ### Sessions -/

/-- What may be asked of a ledger. -/
inductive Call where
  | check
  | store (results : List TestResult)

/-- Calls one after the other; gives the numbers of the campaigns that they store. -/
def session (path : Path) : List Call → Action (List Nat)
  | [] => return []
  | .check :: calls => do
      check path
      session path calls
  | .store results :: calls => do
      let run ← store path results
      return run :: (← session path calls)

/-- The campaigns that calls store. -/
def stored (calls : List Call) : List (List TestResult) :=
  calls.filterMap fun
    | .check => none
    | .store results => some results

/-- A session adds its campaigns to those that are there, and numbers them from there on. -/
theorem Holds.session {campaigns : List (List TestResult)} (h : Holds files path campaigns)
    (calls : List Call) :
    ∃ files', Succeeds (session path calls) files
        (List.range' (campaigns.length + 1) (stored calls).length) files' ∧
      Holds files' path (campaigns ++ stored calls) := by
  induction calls generalizing files campaigns with
  | nil =>
      refine ⟨files, succeeds_pure files [], ?_⟩
      rw [stored, List.filterMap_nil, List.append_nil]
      exact h
  | cons call calls ih =>
      cases call with
      | check =>
          obtain ⟨files', hcalls, hholds⟩ := ih h
          exact ⟨files', h.check.bind hcalls, hholds⟩
      | store results =>
          obtain ⟨files', hstore, hnext⟩ := h.store results
          obtain ⟨files'', hcalls, hholds⟩ := ih hnext
          rw [List.length_append, List.length_singleton] at hcalls
          rw [List.append_assoc, List.singleton_append] at hholds
          exact ⟨files'', hstore.bind (hcalls.bind (succeeds_pure files'' _)), hholds⟩

/-- What readers see of a ledger of campaigns: of each table the rows that the campaigns make up. -/
structure Shows (content : Database) (campaigns : List (List TestResult)) : Prop where
  runs : content.select "runs" (runColumns.map (·.name)) = some (runRows campaigns)
  tests : content.select "tests" (Ledger.tests.columns.map (·.name)) = some (testRows campaigns)
  mutants : content.select "mutants" (Ledger.mutants.columns.map (·.name)) =
    some (mutantRows campaigns)

theorem shows_ofCampaigns (campaigns : List (List TestResult)) :
    Shows (ofCampaigns campaigns) campaigns :=
  ⟨select_runs campaigns, select_tests campaigns, select_mutants campaigns⟩

/-- **A ledger accumulates campaigns.** It is made where there is none, and then checked and added to
in any order, and again later: all of that succeeds. Campaigns are numbered from one on. The ledger
shows a row for each campaign with its score, for each test of a campaign, and for each mutant of a
test, in their order; mutants are filed under the very test that they ran in, and this one under its
campaign. Whatever readers see of earlier campaigns they see as it was when later ones are added. -/
theorem session_accumulates (h : Creatable files path) (calls more : List Call) :
    ∃ ids later mid last before after,
      Succeeds (session path (.check :: calls)) files ids mid ∧
      Succeeds (session path more) mid later last ∧
      (ids = List.range' 1 (stored calls).length ∧
        later = List.range' ((stored calls).length + 1) (stored more).length ∧
        (ids ++ later).Pairwise (· < ·)) ∧
      (mid.node path = .ok (.database before) ∧ Shows before (stored calls)) ∧
      (last.node path = .ok (.database after) ∧ Shows after (stored calls ++ stored more)) ∧
      (∀ id run test m, ((run, test, m), id) ∈ (ranMutants (stored calls)).zipIdx 1 →
        ∃ r results, testRow test run r ∈ testRows (stored calls) ∧ m ∈ r.mutants ∧
          runRow run results ∈ runRows (stored calls) ∧ r ∈ results) ∧
      ∀ table columns seen, before.select table columns = some seen →
        ∃ added, after.select table columns = some (seen ++ added) := by
  obtain ⟨made, hcheck, hnamed, hnode⟩ := check_of_creatable h
  have hempty : Holds made path [] := ⟨hnamed, hnode⟩
  obtain ⟨mid, hcalls, hmid⟩ := hempty.session calls
  obtain ⟨last, hmore, hlast⟩ := hmid.session more
  rw [List.nil_append] at hmid hmore hlast
  refine ⟨_, _, mid, last, _, _, hcheck.bind hcalls, hmore, ⟨rfl, rfl, ?_⟩,
    ⟨hmid.node, shows_ofCampaigns _⟩, ⟨hlast.node, shows_ofCampaigns _⟩, ?_, ?_⟩
  · rw [List.length_nil, Nat.zero_add, Nat.add_comm (stored calls).length 1,
      List.range'_append_1]
    exact List.pairwise_lt_range'
  · intro id run test m hm
    exact filed_under_test hm
  · intro table columns seen hseen
    exact select_ofCampaigns_append hseen (stored more)

/-- In an empty directory the usual ledger may be made. -/
theorem creatable_defaultPath : Creatable Files.empty defaultPath := by
  have hnames : ∀ name ∈ ["db"] ++ ["mutation.db"], Path.IsName name := by decide
  have hclear : (Node.directory []).Clear ["db"] := by
    intro outer houter node hnode
    cases outer with
    | nil =>
        cases hnode
        rfl
    | cons name outer => cases hnode
  exact creatable_ofNames hnames hclear rfl (by decide)

/-- A mutant that its test kills. -/
def killedMutant : MutantResult :=
  ⟨⟨.failed, 3⟩, ⟨⟨1, 0, 2⟩, .mathAdd, "add", .binary 0 .add (.arg 0) (.arg 1),
    .binary 0 .sub (.arg 0) (.arg 1), none, false⟩⟩

def soleTest : List TestResult := [⟨⟨"test_add", 0, 0⟩, ⟨.passed, 5⟩, [killedMutant]⟩]

/-- Two campaigns, one after the other, in the usual ledger. -/
theorem defaultPath_accumulates :
    Creatable Files.empty defaultPath ∧
      ∃ mid last before after,
        Succeeds (session defaultPath [.check, .store soleTest]) .empty [1] mid ∧
        Succeeds (session defaultPath [.check, .store soleTest]) mid [2] last ∧
        mid.node defaultPath = .ok (.database before) ∧
        last.node defaultPath = .ok (.database after) ∧
        before.select "mutants" (mutants.columns.map (·.name)) =
          some [mutantRow 1 1 1 killedMutant] ∧
        after.select "mutants" (mutants.columns.map (·.name)) =
          some [mutantRow 1 1 1 killedMutant, mutantRow 2 2 2 killedMutant] := by
  obtain ⟨_, _, mid, last, before, after, hfirst, hsecond, ⟨rfl, rfl, -⟩, ⟨hmid, hbefore⟩,
    ⟨hlast, hafter⟩, -, -⟩ :=
    session_accumulates creatable_defaultPath [.store soleTest] [.check, .store soleTest]
  exact ⟨creatable_defaultPath, mid, last, before, after, hfirst, hsecond, hmid, hlast,
    hbefore.mutants, hafter.mutants⟩

end Ledger

end MutationTesting
