import MutationTesting.Object.Artifact

/-!
The artifacts of a run, one for each module at most, in the order of module numbers.
-/

namespace MutationTesting

/-- Artifacts by module number. -/
@[ext]
structure ArtifactStore where
  entries : List (Nat × Artifact)
  /-- The numbers strictly increase, so that each occurs once. -/
  increasing : entries.Pairwise fun a b => a.1 < b.1
  deriving DecidableEq

namespace ArtifactStore

def empty : ArtifactStore := ⟨[], .nil⟩

instance : Inhabited ArtifactStore := ⟨empty⟩

def insertInto (id : Nat) (a : Artifact) : List (Nat × Artifact) → List (Nat × Artifact)
  | [] => [(id, a)]
  | (other, b) :: rest =>
    if id < other then (id, a) :: (other, b) :: rest
    else if id = other then (id, a) :: rest
    else (other, b) :: insertInto id a rest

theorem mem_insertInto {id : Nat} {a : Artifact} {entry : Nat × Artifact}
    {entries : List (Nat × Artifact)} (h : entry ∈ insertInto id a entries) :
    entry = (id, a) ∨ entry ∈ entries := by
  induction entries with
  | nil => exact Or.inl (List.mem_singleton.mp h)
  | cons head rest ih =>
      simp only [insertInto] at h
      split at h
      · exact List.mem_cons.mp h
      · split at h
        · rcases List.mem_cons.mp h with h | h
          · exact Or.inl h
          · exact Or.inr (List.mem_cons_of_mem _ h)
        · rcases List.mem_cons.mp h with h | h
          · exact Or.inr (h ▸ List.mem_cons_self)
          · exact (ih h).imp_right (List.mem_cons_of_mem _)

theorem pairwise_insertInto {id : Nat} {a : Artifact} {entries : List (Nat × Artifact)}
    (h : entries.Pairwise fun a b => a.1 < b.1) :
    (insertInto id a entries).Pairwise fun a b => a.1 < b.1 := by
  induction entries with
  | nil => exact List.pairwise_singleton _ _
  | cons head rest ih =>
      obtain ⟨hhead, hrest⟩ := List.pairwise_cons.mp h
      simp only [insertInto]
      split
      next hlt =>
        refine List.pairwise_cons.mpr ⟨fun entry hentry => ?_, h⟩
        rcases List.mem_cons.mp hentry with rfl | hmem
        · exact hlt
        · exact Nat.lt_trans hlt (hhead entry hmem)
      next hge =>
        split
        next heq => exact List.pairwise_cons.mpr ⟨fun entry hmem => heq ▸ hhead entry hmem, hrest⟩
        next hne =>
          refine List.pairwise_cons.mpr ⟨fun entry hentry => ?_, ih hrest⟩
          rcases mem_insertInto hentry with rfl | hmem
          · show head.1 < id
            omega
          · exact hhead entry hmem

/-- Records an artifact in place of an earlier one of the module. -/
def insert (s : ArtifactStore) (id : Nat) (a : Artifact) : ArtifactStore :=
  ⟨insertInto id a s.entries, pairwise_insertInto s.increasing⟩

def get? (s : ArtifactStore) (id : Nat) : Option Artifact :=
  (s.entries.find? fun entry => entry.1 == id).map (·.2)

/-- Every artifact in the order of module numbers. -/
def all (s : ArtifactStore) : List Artifact := s.entries.map (·.2)

/-- Every artifact but that of one module. -/
def allExcept (s : ArtifactStore) (id : Nat) : List Artifact :=
  (s.entries.filter fun entry => entry.1 != id).map (·.2)

def size (s : ArtifactStore) : Nat := s.entries.length

def isEmpty (s : ArtifactStore) : Bool := s.entries.isEmpty

end ArtifactStore

end MutationTesting
