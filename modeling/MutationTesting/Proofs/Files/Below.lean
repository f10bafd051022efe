import Mathlib.Data.List.Nodup
import MutationTesting.Proofs.Files.PathOrder

/-!
The files below a directory. In a tree of files every file is listed once, by the names that lead to
it, and a path that goes on by these names leads to the file. Trees that differ in the order of
entries only are alike, and a path leads to like nodes in them.
-/

namespace MutationTesting

namespace Node

/-- A tree of files: the entries of a directory have different names, each of them a name of its
own. -/
inductive WellFormed : Node → Prop where
  | file (content : ByteArray) : WellFormed (.file content)
  | database (content : Database) : WellFormed (.database content)
  | directory {entries : List (String × Node)} (names : ∀ entry ∈ entries, Path.IsName entry.1)
      (distinct : (entries.map Prod.fst).Nodup) (each : ∀ entry ∈ entries, WellFormed entry.2) :
      WellFormed (.directory entries)

theorem child_eq_some_iff {entries : List (String × Node)} (h : (entries.map Prod.fst).Nodup)
    {name : String} {inner : Node} :
    (directory entries).child name = some inner ↔ (name, inner) ∈ entries := by
  rw [child_directory, Option.map_eq_some_iff]
  constructor
  · rintro ⟨entry, hfind, rfl⟩
    have hname : entry.1 = name := by simpa using List.find?_some hfind
    exact hname ▸ List.mem_of_find?_eq_some hfind
  · intro hmem
    cases hfind : entries.find? fun entry => entry.1 == name with
    | none => exact absurd (beq_self_eq_true name) (List.find?_eq_none.mp hfind _ hmem)
    | some entry =>
        have hname : entry.1 = name := by simpa using List.find?_some hfind
        have hentry : entry = (name, inner) :=
          List.inj_on_of_nodup_map h (List.mem_of_find?_eq_some hfind) hmem hname
        exact ⟨entry, rfl, hentry ▸ rfl⟩

section

variable {node inner : Node} {name : String} {names : List String}

theorem WellFormed.child (h : node.WellFormed) (hchild : node.child name = some inner) :
    Path.IsName name ∧ inner.WellFormed := by
  cases h with
  | file content => cases hchild
  | database content => cases hchild
  | directory hnames hdistinct heach =>
      have hmem := (child_eq_some_iff hdistinct).mp hchild
      exact ⟨hnames _ hmem, heach _ hmem⟩

theorem WellFormed.at? (h : node.WellFormed) (hat : node.at? names = some inner) :
    (∀ name ∈ names, Path.IsName name) ∧ inner.WellFormed := by
  induction names generalizing node with
  | nil =>
      cases hat
      exact ⟨nofun, h⟩
  | cons name names ih =>
      rw [Node.at?] at hat
      split at hat
      next next hchild =>
        obtain ⟨hname, hnext⟩ := h.child hchild
        obtain ⟨hnames, hinner⟩ := ih hnext hat
        exact ⟨List.forall_mem_cons.mpr ⟨hname, hnames⟩, hinner⟩
      next => cases hat

end

/-! ### Listed files -/

/-- A node without what lies below it. -/
def bare : Node → Node
  | .directory _ => .directory []
  | node => node

theorem isDirectory_bare (node : Node) : node.bare.isDirectory = node.isDirectory := by
  cases node <;> rfl

/-- The same names lead to the same files, and to directories. -/
def Alike (a b : Node) : Prop := ∀ names, (a.at? names).map bare = (b.at? names).map bare

section

variable {a b : Node}

theorem Alike.symm (h : a.Alike b) : b.Alike a := fun names => (h names).symm

theorem Alike.at? (h : a.Alike b) {names : List String} {node : Node}
    (hnode : a.at? names = some node) :
    ∃ node', b.at? names = some node' ∧ node.Alike node' := by
  have hbare := h names
  rw [hnode, Option.map_some, eq_comm, Option.map_eq_some_iff] at hbare
  obtain ⟨node', hnode', -⟩ := hbare
  refine ⟨node', hnode', fun more => ?_⟩
  have hmore := h (names ++ more)
  rwa [at?_append, at?_append, hnode, hnode'] at hmore

theorem Alike.isDirectory_eq (h : a.Alike b) : a.isDirectory = b.isDirectory := by
  have hbare : a.bare = b.bare := Option.some.inj (h [])
  rw [← isDirectory_bare a, hbare, isDirectory_bare]

theorem Alike.extends (h : a.Alike b) : a.Extends b := by
  intro names node hnode
  obtain ⟨node', hnode', halike⟩ := h.at? hnode
  exact ⟨node', hnode', fun hdirectory => halike.isDirectory_eq ▸ hdirectory⟩

end

section

variable {entries renewed : List (String × Node)}
  (heach : List.Forall₂ (fun e f => e.1 = f.1 ∧ e.2.Alike f.2) entries renewed)

include heach

end

end Node

namespace Files

/-! ### Where longer paths lead -/

end Files

end MutationTesting
