import MutationTesting.Campaign.Loading
import MutationTesting.Proofs.Files.Below

/-!
Which modules a list of paths stands for. A path that leads to no directory stands for itself. A
directory stands for the module files at any depth below it, in the strict order of their paths, and
for nothing else; the order in which directories list their entries does not matter.
-/

namespace MutationTesting

namespace Files

/-- A module file at any depth below a directory: a path through the directory that leads to a file
with such a name. -/
inductive ModuleFileBelow (files : Files) (p : Path) : Path → Prop where
  | through {top file : Node} {outer : List String} {last : String}
      (directory : files.node p = .ok top) (below : top.at? (outer ++ [last]) = some file)
      (plain : file.isDirectory = false) (name : last.endsWith ".ir.json" = true)
      (leads : files.node (p.through (outer ++ [last])) = .ok file) :
      ModuleFileBelow files p (p.through (outer ++ [last]))

/-- What a path stands for: itself, or the module files below it in the order of their paths. -/
inductive StandsFor (files : Files) (p : Path) : List Path → Prop where
  | itself (h : files.isDirectory p = false) : StandsFor files p [p]
  | directory {listed : List Path} (h : files.isDirectory p = true)
      (ascending : listed.Pairwise fun q r => q.before r = true)
      (exact : ∀ q, q ∈ listed ↔ files.ModuleFileBelow p q) : StandsFor files p listed

/-! ### One path -/

variable {files : Files} {p : Path} {top : Node}

theorem relative_of_node (h : files.node p = .ok top) : p.text ≠ "" ∧ p.isAbsolute = false := by
  obtain ⟨names, hlocate, -⟩ := node_eq_ok_iff.mp h
  obtain ⟨-, hempty, hrelative, -⟩ := locate_eq_ok_iff.mp hlocate
  exact ⟨hempty, hrelative⟩

theorem isRoot_of_node (h : files.node p = .ok top) : isRoot p = false := by
  rw [isRoot, (relative_of_node h).2, Bool.false_and]

theorem isDirectory_of_node (h : files.node p = .ok top) :
    files.isDirectory p = top.isDirectory := by
  rw [isDirectory, isRoot_of_node h, h, Bool.false_or]

section

variable (hroot : files.root.WellFormed) (h : files.node p = .ok top)

include hroot h

end

/-- No path stands for a directory. -/
theorem StandsFor.plain {listed : List Path} (h : files.StandsFor p listed) {q : Path}
    (hq : q ∈ listed) : files.isDirectory q = false := by
  cases h with
  | itself hdirectory => rwa [List.mem_singleton.mp hq]
  | directory _ _ hexact =>
      cases (hexact q).mp hq with
      | through _ _ hplain _ hleads => rw [isDirectory_of_node hleads, hplain]

/-! ### Trees alike -/

/-- Some files, listed in two orders. -/
def notesLast : Node := .directory [("q.ir.json", .file .empty), ("notes.txt", .file .empty)]

def moduleOnly : Node := .directory [("z.ir.json", .file .empty)]

/-- A directory with the name of a module file, which comes after the other one by components and
before it by text. -/
def library : Files :=
  ⟨.directory [("lib", .directory [("a-b.ir.json", notesLast), ("a", moduleOnly)])]⟩

end Files

end MutationTesting
