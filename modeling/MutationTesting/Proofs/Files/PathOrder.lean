import Mathlib.Data.List.Lex
import Mathlib.Data.Prod.Lex
import Mathlib.Data.String.Basic
import MutationTesting.Proofs.Files.Directories

/-!
The order of paths. Components are ordered by kind and then by text, and paths by their components,
from the left. So a path is told from those before and after it by its components alone. A path that
goes on by names has these as its last components, and leads from where it led through them.
-/

namespace MutationTesting

namespace PathComponent

/-- The kind and the text of a component; as pairs they are in the order of components. -/
def key : PathComponent → ℕ ×ₗ String
  | .name text => toLex (3, text)
  | component => toLex (component.rank, "")

theorem key_injective : Function.Injective key := by
  intro a b h
  cases a <;> cases b <;> simp [key, rank] at h ⊢
  exact h

theorem before_iff (a b : PathComponent) : a.before b = true ↔ a.key < b.key := by
  cases a <;> cases b <;> simp [before, key, rank, Prod.Lex.toLex_lt_toLex]

end PathComponent

namespace Path

/-- The components of a path as pairs. -/
def key (p : Path) : List (ℕ ×ₗ String) := p.components.map PathComponent.key

theorem componentsBefore_iff (as bs : List PathComponent) :
    componentsBefore as bs = true ↔ as.map PathComponent.key < bs.map PathComponent.key := by
  induction as generalizing bs with
  | nil => cases bs <;> simp [componentsBefore]
  | cons a as ih =>
      cases bs with
      | nil => simp [componentsBefore]
      | cons b bs =>
          rw [componentsBefore, List.map_cons, List.map_cons, List.cons_lt_cons_iff]
          by_cases hab : a = b
          · simp [hab, ih]
          · simp [hab, PathComponent.before_iff, PathComponent.key_injective.eq_iff]

theorem before_iff (p q : Path) : p.before q = true ↔ p.key < q.key :=
  componentsBefore_iff p.components q.components

/-- The text of a path but for a separator at its end. -/
def stemChars (p : Path) : List Char :=
  if p.text.endsWith "/" then p.text.toList.dropLast else p.text.toList

/-- The segments of a path but for an empty one that a separator at its end leaves. -/
def stem (p : Path) : List String := (p.stemChars.splitOn '/').map String.ofList

section

variable {p : Path} {name : String} (hname : IsName name)

include hname

end

/-! ### Paths through names -/

/-- The path that goes on by names, one after the other. -/
def through (p : Path) (names : List String) : Path :=
  names.foldl (fun q name => q.join ⟨name⟩) p

section

variable {p : Path} {names : List String} (hnames : ∀ name ∈ names, IsName name)
  (hp : p.text ≠ "")

include hnames hp

end

end Path

end MutationTesting
