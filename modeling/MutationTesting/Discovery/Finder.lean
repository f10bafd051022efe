import MutationTesting.Mutation.Point

/-!
Tests and the functions they exercise. Tests are found by their names. From a test the calls are
followed layer by layer: a function belongs to the first layer that calls it, tests are never
entered, and the number of layers is bounded.
-/

namespace MutationTesting

/-- A test function: its name, and the positions of its module and of itself. -/
structure Test where
  name : String
  module : Nat
  function : Nat
  deriving DecidableEq, Inhabited

/-- A function exercised by a test; its distance is the number of calls between them. -/
structure Testee where
  name : String
  module : Nat
  function : Nat
  distance : Nat
  deriving DecidableEq, Inhabited

namespace Testee

def site (t : Testee) : Nat × Nat := (t.module, t.function)

/-- The points of every operator in the order of the operators. -/
def points (t : Testee) (program : Program) (operators : List MutationOperator) :
    List MutationPoint :=
  match program.module? t.module with
  | some m => operators.flatMap fun op => op.points t.module m t.function
  | none => []

end Testee

/-- What counts as a test, and how many calls away from it a function may be. -/
structure Finder where
  isTest : String → Bool
  maxDistance : Nat
  positive : 0 < maxDistance

namespace Finder

/-- The tests of module `id` among functions numbered from `index` on. -/
def testsFrom (finder : Finder) (id : Nat) : Nat → List Function → List Test
  | _, [] => []
  | index, f :: rest =>
    if finder.isTest f.name then ⟨f.name, id, index⟩ :: finder.testsFrom id (index + 1) rest
    else finder.testsFrom id (index + 1) rest

/-- The tests among modules numbered from `id` on. -/
def testsOfModules (finder : Finder) : Nat → List Module → List Test
  | _, [] => []
  | id, m :: rest => finder.testsFrom id 0 m.functions ++ finder.testsOfModules (id + 1) rest

/-- Every test of the program, by module and by position. -/
def tests (finder : Finder) (program : Program) : List Test :=
  finder.testsOfModules 0 program.modules

/-- The functions that `names` call for the first time, in the order of the calls: defined, not
tests, and not among those seen before. -/
def fresh (finder : Finder) (program : Program) (distance : Nat) :
    List (Nat × Nat) → List String → List Testee
  | _, [] => []
  | seen, name :: rest =>
    match program.definition? name with
    | none => finder.fresh program distance seen rest
    | some (m, f) =>
      if finder.isTest name || seen.contains (m, f) then finder.fresh program distance seen rest
      else ⟨name, m, f, distance⟩ :: finder.fresh program distance ((m, f) :: seen) rest

/-- The names called in the body at a site; none where nothing is defined. -/
def calleesAt (program : Program) (site : Nat × Nat) : List String :=
  match program.function? site.1 site.2 with
  | some f => f.callees
  | none => []

/-- The layers at `distance` and beyond, at most `depth` of them, where `border` holds the sites of
the layer before and `seen` those of all layers so far. -/
def layers (finder : Finder) (program : Program) :
    (depth distance : Nat) → (seen border : List (Nat × Nat)) → List Testee
  | 0, _, _, _ => []
  | depth + 1, distance, seen, border =>
    match finder.fresh program distance seen (border.flatMap (calleesAt program)) with
    | [] => []
    | found =>
      let sites := found.map (·.site)
      found ++ finder.layers program depth (distance + 1) (sites.reverse ++ seen) sites

/-- The functions exercised by a test, nearest first. -/
def testees (finder : Finder) (program : Program) (test : Test) : List Testee :=
  finder.layers program finder.maxDistance 1 [(test.module, test.function)]
    [(test.module, test.function)]

end Finder

end MutationTesting
