import MutationTesting.Proofs.Discovery.Sites
import MutationTesting.Proofs.Program.Renumbering

/-!
Discovery under renumbering. The search for the functions that a test exercises meets the same names
in the same order, and so finds the same functions layer by layer; what changes is the numbers of
modules and, as the modules come in another order, the order of the tests.
-/

namespace MutationTesting

/-! ### What has been found, by other numbers -/

def Test.renumber (σ : Equiv.Perm Nat) (t : Test) : Test := { t with module := σ t.module }

def Testee.renumber (σ : Equiv.Perm Nat) (t : Testee) : Testee := { t with module := σ t.module }

def MutationPoint.renumber (σ : Equiv.Perm Nat) (p : MutationPoint) : MutationPoint :=
  { p with address := p.address.renumber σ }

namespace Program

section Renumbered

variable {σ : Equiv.Perm Nat} {p q : Program}

/-! ### The search -/

theorem Renumbered.calleesAt (h : Renumbered σ p q) (site : Nat × Nat) :
    Finder.calleesAt q (Prod.map σ id site) = Finder.calleesAt p site := by
  obtain ⟨id, index⟩ := site
  simp only [Finder.calleesAt, Prod.map, id_eq, h.function?]

theorem Renumbered.fresh (h : Renumbered σ p q) (hdistinct : p.Distinct) (finder : Finder)
    (distance : Nat) (seen : List (Nat × Nat)) (names : List String) :
    finder.fresh q distance (seen.map (Prod.map σ id)) names =
      (finder.fresh p distance seen names).map (Testee.renumber σ) := by
  have hinjective : Function.Injective (Prod.map σ (id : Nat → Nat)) :=
    Function.Injective.prodMap σ.injective Function.injective_id
  induction names generalizing seen with
  | nil => rfl
  | cons name rest ih =>
      rw [Finder.fresh, Finder.fresh, h.definition? hdistinct]
      cases p.definition? name with
      | none => exact ih seen
      | some site =>
          obtain ⟨m, f⟩ := site
          have hseen : (seen.map (Prod.map σ id)).contains (σ m, f) = seen.contains (m, f) := by
            have hmem : (σ m, f) ∈ seen.map (Prod.map σ id) ↔ (m, f) ∈ seen :=
              List.mem_map_of_injective hinjective (a := (m, f))
            simp only [List.contains_eq_mem, hmem]
          simp only [Option.map_some, Prod.map_apply, id_eq, hseen]
          split
          · exact ih seen
          · exact congrArg _ (ih ((m, f) :: seen))

theorem Renumbered.layers (h : Renumbered σ p q) (hdistinct : p.Distinct) (finder : Finder)
    (depth distance : Nat) (seen border : List (Nat × Nat)) :
    finder.layers q depth distance (seen.map (Prod.map σ id)) (border.map (Prod.map σ id)) =
      (finder.layers p depth distance seen border).map (Testee.renumber σ) := by
  induction depth generalizing distance seen border with
  | zero => rfl
  | succ depth ih =>
      have hnames : (border.map (Prod.map σ id)).flatMap (Finder.calleesAt q) =
          border.flatMap (Finder.calleesAt p) := by
        simp only [List.flatMap_map, h.calleesAt]
      rw [Finder.layers, Finder.layers, hnames, h.fresh hdistinct]
      cases finder.fresh p distance seen (border.flatMap (Finder.calleesAt p)) with
      | nil => rfl
      | cons t found =>
          -- the next border is this layer, and both are renumbered with it
          have hsites : ((t :: found).map (Testee.renumber σ)).map Testee.site =
              ((t :: found).map Testee.site).map (Prod.map σ id) := by
            simp only [List.map_map]
            rfl
          have hrest := ih (distance + 1) (((t :: found).map Testee.site).reverse ++ seen)
            ((t :: found).map Testee.site)
          rw [List.map_append, List.map_reverse] at hrest
          rw [List.map_append, ← hrest, ← hsites]
          rfl

theorem Renumbered.testees (h : Renumbered σ p q) (hdistinct : p.Distinct) (finder : Finder)
    (test : Test) :
    finder.testees q (test.renumber σ) = (finder.testees p test).map (Testee.renumber σ) :=
  h.layers hdistinct finder finder.maxDistance 1 [(test.module, test.function)]
    [(test.module, test.function)]

/-! ### Points and tests -/

theorem Renumbered.points (h : Renumbered σ p q) (t : Testee) (operators : List MutationOperator) :
    (t.renumber σ).points q operators = (t.points p operators).map (MutationPoint.renumber σ) := by
  rw [Testee.points_eq, Testee.points_eq, Testee.pointsBySite, Testee.pointsBySite]
  have hmodule : q.module? (t.renumber σ).module = p.module? t.module := h t.module
  rw [hmodule]
  cases p.module? t.module with
  | none => rfl
  | some m =>
      simp only [Testee.renumber]
      cases m.functions[t.function]? with
      | none => rfl
      | some f =>
          simp only [List.map_flatMap, List.map_filterMap]
          refine congrArg (List.flatMap · operators) (funext fun op => ?_)
          refine congrArg (List.filterMap · f.body.zipIdx) (funext fun site => ?_)
          simp only [MutationOperator.pointAt?, Option.map_map]
          rfl

theorem Renumbered.tests_perm (h : Renumbered σ p q) (finder : Finder) :
    ((finder.tests p).map (Test.renumber σ)).Perm (finder.tests q) := by
  rw [Finder.tests_eq, Finder.tests_eq, Finder.testsBySite, Finder.testsBySite]
  have hsites := h.zipIdx_perm.flatMap_right fun entry =>
    entry.1.functions.zipIdx.filterMap (finder.testAt? entry.2)
  rw [List.flatMap_map] at hsites
  rw [List.map_flatMap]
  refine (List.Perm.of_eq ?_).trans hsites
  refine congrArg (List.flatMap · p.modules.zipIdx) (funext ?_)
  rintro ⟨m, id⟩
  simp only [List.map_filterMap, Prod.map]
  refine congrArg (List.filterMap · m.functions.zipIdx) (funext fun site => ?_)
  simp only [Finder.testAt?]
  split <;> rfl

end Renumbered

end Program

end MutationTesting
