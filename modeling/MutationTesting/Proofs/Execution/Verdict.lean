import MutationTesting.Proofs.Execution.Linking
import MutationTesting.Proofs.Object.Image

/-!
What a verdict depends on. To a test, artifacts are their symbols: moved to other artifacts or put
in another order, they make up the same program or none. And it is linking alone that can make a
test invalid. Instructions only trap, so a test that is invalid with some fuel is so with any.
-/

namespace MutationTesting

theorem Artifact.symbols_ofImage (i : Image) : (Artifact.ofImage i).symbols = i.symbols := by
  rw [symbols, image_ofImage]

/-- The artifacts make up no program, or not one in which the test can be started. -/
def Unstartable (artifacts : List Artifact) (name : String) : Prop :=
  (∃ cause, Executable.link artifacts = .error cause) ∨
    (∀ s ∈ artifacts.flatMap Artifact.symbols, s.name ≠ name) ∨
      ∃ s ∈ artifacts.flatMap Artifact.symbols, s.name = name ∧ s.params ≠ 0

/-- An outcome that is an error of linking. -/
def IsLinkError (outcome : Except ExecutionError Int64) : Prop :=
  ∃ cause, outcome = .error (.link cause)

/-- One outcome, or two errors of linking. -/
def SameVerdict (outcome other : Except ExecutionError Int64) : Prop :=
  outcome = other ∨ IsLinkError outcome ∧ IsLinkError other

theorem Status.ofOutcome_eq_invalid_iff (outcome : Except ExecutionError Int64) :
    ofOutcome outcome = .invalid ↔ IsLinkError outcome := by
  cases outcome with
  | error e =>
      cases e with
      | link cause => exact iff_of_true rfl ⟨cause, rfl⟩
      | trap cause => exact iff_of_false nofun nofun
  | ok value =>
      refine iff_of_false ?_ nofun
      rw [ofOutcome]
      split
      · exact nofun
      · exact nofun

theorem SameVerdict.status_eq {outcome other : Except ExecutionError Int64}
    (h : SameVerdict outcome other) : Status.ofOutcome outcome = Status.ofOutcome other := by
  rcases h with rfl | ⟨h, h'⟩
  · rfl
  · rw [(Status.ofOutcome_eq_invalid_iff outcome).mpr h,
      (Status.ofOutcome_eq_invalid_iff other).mpr h']

/-- A call of a linked program traps or returns; it is never an error of linking. -/
theorem isLinkError_callLinked_iff (name : String) (args : List Int64) (artifacts : List Artifact)
    (fuel : Nat) :
    IsLinkError (callLinked name args artifacts fuel) ↔
      ∃ cause, Executable.link artifacts = .error cause := by
  rw [callLinked]
  cases Executable.link artifacts with
  | error cause => exact iff_of_true ⟨cause, rfl⟩ ⟨cause, rfl⟩
  | ok p =>
      simp only
      cases p.call name args fuel with
      | error cause => exact iff_of_false nofun nofun
      | ok value => exact iff_of_false nofun nofun

/-- Once the program is linked, only the entry of the test can be missing. -/
theorem isLinkError_executeTest_of_link {artifacts : List Artifact} {p : Executable}
    (hlink : Executable.link artifacts = .ok p) (name : String) (fuel : Nat) :
    IsLinkError (executeTest name artifacts fuel) ↔
      ¬ ∃ s, p.symbol? name = some s ∧ s.params = 0 := by
  rw [executeTest, hlink]
  simp only
  cases hs : p.symbol? name with
  | none => exact iff_of_true ⟨_, rfl⟩ nofun
  | some s =>
      simp only [Option.some.injEq, exists_eq_left']
      by_cases hparams : s.params = 0
      · rw [if_pos hparams]
        refine iff_of_false ?_ (not_not_intro hparams)
        cases p.call name [] fuel with
        | error cause => exact nofun
        | ok value => exact nofun
      · rw [if_neg hparams]
        exact iff_of_true ⟨_, rfl⟩ hparams

theorem isLinkError_executeTest_iff (name : String) (artifacts : List Artifact) (fuel : Nat) :
    IsLinkError (executeTest name artifacts fuel) ↔ Unstartable artifacts name := by
  rw [Unstartable]
  cases hlink : Executable.link artifacts with
  | error cause =>
      rw [executeTest, hlink]
      exact iff_of_true ⟨cause, rfl⟩ (Or.inl ⟨cause, rfl⟩)
  | ok p =>
      have hsymbol := Executable.symbol?_of_link hlink name
      rw [isLinkError_executeTest_of_link hlink]
      constructor
      · intro hmissing
        by_cases hnamed : ∃ s ∈ artifacts.flatMap Artifact.symbols, s.name = name
        · obtain ⟨s, hmem, hname⟩ := hnamed
          refine Or.inr (Or.inr ⟨s, hmem, hname, fun hparams => hmissing ⟨s, ?_, hparams⟩⟩)
          exact (hsymbol s).mpr ⟨hmem, hname⟩
        · exact Or.inr (Or.inl fun s hmem hname => hnamed ⟨s, hmem, hname⟩)
      · rintro (⟨cause, hcause⟩ | hnone | ⟨t, ht, hname, htparams⟩) ⟨s, hs, hparams⟩
        · cases hcause
        · exact hnone s ((hsymbol s).mp hs).1 ((hsymbol s).mp hs).2
        · -- the name stands for one symbol only
          rw [(hsymbol t).mpr ⟨ht, hname⟩, Option.some.injEq] at hs
          exact htparams (hs ▸ hparams)

theorem runTest_eq_invalid_iff (name : String) (artifacts : List Artifact) (fuel : Nat) :
    runTest name artifacts fuel = .invalid ↔ Unstartable artifacts name := by
  rw [runTest, Status.ofOutcome_eq_invalid_iff, isLinkError_executeTest_iff]

theorem executeTest_redistributed {as bs : List Artifact} (hsame : Redistributed as bs)
    (name : String) (fuel : Nat) :
    SameVerdict (executeTest name as fuel) (executeTest name bs fuel) := by
  rw [executeTest, executeTest]
  cases has : Executable.link as with
  | ok p =>
      rw [Executable.link_redistributed hsame has]
      exact Or.inl rfl
  | error cause =>
      cases hbs : Executable.link bs with
      | ok p =>
          rw [Executable.link_redistributed hsame.symm hbs] at has
          cases has
      | error cause' => exact Or.inr ⟨⟨cause, rfl⟩, ⟨cause', rfl⟩⟩

/-- The status of a test does not depend on the order in which artifacts are linked. -/
theorem runTest_perm {as bs : List Artifact} (hperm : as.Perm bs) (name : String) (fuel : Nat) :
    runTest name as fuel = runTest name bs fuel :=
  (executeTest_redistributed (.of_perm hperm) name fuel).status_eq

/-- **Linking depends on the symbols only, and a test is invalid by linking only.** Artifacts,
compiled or not, link exactly if each can be decoded and no name occurs twice among all symbols, and
then a name stands for the one symbol that has it. So a test has one outcome, or errors of linking,
with the artifacts in any order and with the symbols over any other artifacts. It has an error of
linking with one supply of fuel exactly if it has with every other: if linking fails, if the test is
not among the symbols, or if it takes parameters; then, and only then, its status is invalid. A call
of a linked program has no such error, whatever its instructions do. -/
theorem linking_decides (artifacts : List Artifact) :
    ((∃ p, Executable.link artifacts = .ok p) ↔
        (∀ a ∈ artifacts, ∃ i, a.image = .ok i) ∧
          ((artifacts.flatMap Artifact.symbols).map Symbol.name).Nodup) ∧
      (∀ p, Executable.link artifacts = .ok p → ∀ name,
        (artifacts.flatMap Artifact.symbols).filter (fun s => s.name = name) =
          (p.symbol? name).toList) ∧
      (∀ others, artifacts.Perm others ∨ Redistributed artifacts others → ∀ name fuel,
        SameVerdict (executeTest name artifacts fuel) (executeTest name others fuel)) ∧
      (∀ name,
        ((∃ fuel, IsLinkError (executeTest name artifacts fuel)) ↔ Unstartable artifacts name) ∧
          ((∀ fuel, IsLinkError (executeTest name artifacts fuel)) ↔ Unstartable artifacts name) ∧
          ∀ fuel, runTest name artifacts fuel = .invalid ↔ Unstartable artifacts name) ∧
      ∀ name args fuel, IsLinkError (callLinked name args artifacts fuel) ↔
        ∃ cause, Executable.link artifacts = .error cause := by
  refine ⟨?_, fun p hp => Executable.filter_name_of_link hp, ?_, fun name => ⟨?_, ?_, ?_⟩, ?_⟩
  · rw [Executable.exists_link_iff]
    exact ⟨fun h => ⟨h.decodable, h.distinct⟩, fun h => ⟨h.1, h.2⟩⟩
  · rintro others (hperm | hsame) name fuel
    · exact executeTest_redistributed (.of_perm hperm) name fuel
    · exact executeTest_redistributed hsame name fuel
  · simp only [isLinkError_executeTest_iff, exists_const]
  · simp only [isLinkError_executeTest_iff, forall_const]
  · exact runTest_eq_invalid_iff name artifacts
  · exact fun name args fuel => isLinkError_callLinked_iff name args artifacts fuel

def answerTest : Symbol := ⟨"test_answer", 0, #[.call (some 0) "answer" [], .ret (some (.reg 0))]⟩

def answer : Symbol := ⟨"answer", 0, #[.ret (some (.imm 42))]⟩

def separateAnswer : List Artifact :=
  [.ofImage ⟨1, "tests", [answerTest]⟩, .ofImage ⟨1, "library", [answer]⟩]

def joinedAnswer : List Artifact := [.ofImage ⟨1, "program", [answer, answerTest]⟩]

/-- A test and the function that it calls may be in an artifact each or both in one. -/
theorem answer_linking_decides :
    Redistributed separateAnswer joinedAnswer ∧
      (∀ fuel, SameVerdict (executeTest "test_answer" separateAnswer fuel)
        (executeTest "test_answer" joinedAnswer fuel)) ∧
      ∀ fuel, runTest "test_answer" separateAnswer fuel ≠ .invalid := by
  have hseparate : separateAnswer.flatMap Artifact.symbols = [answerTest, answer] := by
    simp only [separateAnswer, List.flatMap_cons, List.flatMap_nil, Artifact.symbols_ofImage]
    rfl
  have hjoined : joinedAnswer.flatMap Artifact.symbols = [answer, answerTest] := by
    simp only [joinedAnswer, List.flatMap_cons, List.flatMap_nil, Artifact.symbols_ofImage]
    rfl
  have hdecodable : ∀ a ∈ separateAnswer, ∃ i, a.image = .ok i := by
    simp only [separateAnswer, List.forall_mem_cons]
    exact ⟨⟨_, Artifact.image_ofImage _⟩, ⟨_, Artifact.image_ofImage _⟩, nofun⟩
  have hdecodable' : ∀ a ∈ joinedAnswer, ∃ i, a.image = .ok i := by
    simp only [joinedAnswer, List.forall_mem_cons]
    exact ⟨⟨_, Artifact.image_ofImage _⟩, nofun⟩
  have hsame : Redistributed separateAnswer joinedAnswer := by
    refine ⟨iff_of_true hdecodable hdecodable', ?_⟩
    rw [hseparate, hjoined]
    exact .swap answer answerTest []
  obtain ⟨hlink, -, hverdict, hinvalid, -⟩ := linking_decides separateAnswer
  refine ⟨hsame, hverdict joinedAnswer (Or.inr hsame) "test_answer", fun fuel => ?_⟩
  rw [ne_eq, (hinvalid "test_answer").2.2 fuel, Unstartable, hseparate]
  rintro (⟨cause, hcause⟩ | hnone | hparams)
  · have hdistinct : ((separateAnswer.flatMap Artifact.symbols).map Symbol.name).Nodup := by
      rw [hseparate]
      decide
    obtain ⟨p, hp⟩ := hlink.mpr ⟨hdecodable, hdistinct⟩
    rw [hp] at hcause
    cases hcause
  · exact hnone answerTest List.mem_cons_self rfl
  · revert hparams
    decide

end MutationTesting
