import Mathlib.Logic.Equiv.Basic
import Mathlib.Data.List.Sigma
import Mathlib.Data.Prod.Basic
import MutationTesting.Proofs.Program.Definition

/-!
Renumbering. Programs of the same modules in two orders differ by the numbers of their modules, and
a permutation of the numbers leads from one to the other. It carries along what stands at a site,
where names are defined if no two functions share one, and what an opcode is written into.
-/

namespace MutationTesting

/-! ### Lists in another order -/

/-- A permutation of the positions behind the first one. -/
def shifted (σ : Equiv.Perm Nat) : Equiv.Perm Nat where
  toFun
    | 0 => 0
    | n + 1 => σ n + 1
  invFun
    | 0 => 0
    | n + 1 => σ.symm n + 1
  left_inv := by
    intro n
    cases n with
    | zero => rfl
    | succ n => simp
  right_inv := by
    intro n
    cases n with
    | zero => rfl
    | succ n => simp

/-- Where the entries of a list are after its reordering. -/
theorem exists_positions {α : Type} {l l' : List α} (h : l.Perm l') :
    ∃ σ : Equiv.Perm Nat, ∀ i, l'[σ i]? = l[i]? := by
  induction h with
  | nil => exact ⟨Equiv.refl Nat, fun i => rfl⟩
  | cons a _ ih =>
      obtain ⟨σ, hσ⟩ := ih
      refine ⟨shifted σ, fun i => ?_⟩
      cases i with
      | zero => rfl
      | succ i => simp [shifted, hσ]
  | swap a b l =>
      refine ⟨Equiv.swap 0 1, fun i => ?_⟩
      match i with
      | 0 => simp
      | 1 => simp
      | i + 2 => simp [Equiv.swap_apply_of_ne_of_ne]
  | trans _ _ ih ih' =>
      obtain ⟨σ, hσ⟩ := ih
      obtain ⟨τ, hτ⟩ := ih'
      exact ⟨σ.trans τ, fun i => by rw [Equiv.trans_apply, hτ, hσ]⟩

/-- The numbered entries are the same up to order, if the numbers are changed. -/
theorem zipIdx_perm {α : Type} {l l' : List α} {σ : Equiv.Perm Nat}
    (h : ∀ i, l'[σ i]? = l[i]?) : (l.zipIdx.map (Prod.map id σ)).Perm l'.zipIdx := by
  have hnodup : ∀ l : List α, l.zipIdx.Nodup := fun l => (List.nodup_zipIdx_map_snd l).of_map
  have hinjective : Function.Injective (Prod.map (id : α → α) σ) :=
    Function.Injective.prodMap Function.injective_id σ.injective
  -- numbered entries are different, so that it is enough to compare members
  refine (List.perm_ext_iff_of_nodup ((hnodup l).map hinjective) (hnodup l')).mpr ?_
  rintro ⟨a, i⟩
  rw [List.mem_map, List.mem_zipIdx_iff_getElem?]
  constructor
  · rintro ⟨⟨b, j⟩, hb, heq⟩
    obtain ⟨rfl, rfl⟩ := Prod.mk.inj heq
    rw [List.mem_zipIdx_iff_getElem?] at hb
    exact (h j).trans hb
  · intro ha
    refine ⟨(a, σ.symm i), ?_, by simp⟩
    rw [List.mem_zipIdx_iff_getElem?, ← h]
    simpa using ha

/-! ### Programs in another order -/

namespace Program

/-- The second program has the modules of the first under other numbers. -/
def Renumbered (σ : Equiv.Perm Nat) (p q : Program) : Prop := ∀ id, q.module? (σ id) = p.module? id

theorem exists_renumbered {p q : Program} (h : p.modules.Perm q.modules) :
    ∃ σ, Renumbered σ p q :=
  exists_positions h

end Program

/-- An address after its module has been given another number. -/
def Address.renumber (σ : Equiv.Perm Nat) (a : Address) : Address :=
  { a with module := σ a.module }

namespace Program

section Renumbered

variable {σ : Equiv.Perm Nat} {p q : Program}

theorem Renumbered.symm (h : Renumbered σ p q) : Renumbered σ.symm q p := by
  intro id
  rw [← h, Equiv.apply_symm_apply]

theorem Renumbered.zipIdx_perm (h : Renumbered σ p q) :
    (p.modules.zipIdx.map (Prod.map id σ)).Perm q.modules.zipIdx :=
  MutationTesting.zipIdx_perm h

theorem Renumbered.modules_perm (h : Renumbered σ p q) : p.modules.Perm q.modules := by
  have hmodules := h.zipIdx_perm.map Prod.fst
  rw [List.zipIdx_map_fst, List.map_map] at hmodules
  have hfst : Prod.fst ∘ Prod.map (id : Module → Module) σ = Prod.fst := rfl
  rwa [hfst, List.zipIdx_map_fst] at hmodules

theorem Renumbered.function? (h : Renumbered σ p q) (id index : Nat) :
    q.function? (σ id) index = p.function? id index := by
  rw [Program.function?, h]
  rfl

theorem Renumbered.functions_perm (h : Renumbered σ p q) : p.functions.Perm q.functions :=
  h.modules_perm.flatMap_right Module.functions

theorem Renumbered.distinct (h : Renumbered σ p q) (hdistinct : p.Distinct) : q.Distinct :=
  ((h.functions_perm.map Function.name).nodup_iff).mp hdistinct

/-- If no two functions share a name, a name is defined where it was, by the number of then. -/
theorem Renumbered.definition? (h : Renumbered σ p q) (hdistinct : p.Distinct) (name : String) :
    q.definition? name = (p.definition? name).map (Prod.map σ id) := by
  have hq := h.distinct hdistinct
  refine Option.ext fun site => ?_
  obtain ⟨id', index⟩ := site
  obtain ⟨id, rfl⟩ := σ.surjective id'
  simp only [Option.map_eq_some_iff, Prod.exists, Prod.map, Prod.mk.injEq, id_eq]
  rw [hq.definition?_eq_some_iff]
  constructor
  · rintro ⟨f, hf, hname⟩
    rw [h.function?] at hf
    exact ⟨id, index, (hdistinct.definition?_eq_some_iff name id index).mpr ⟨f, hf, hname⟩, rfl,
      rfl⟩
  · rintro ⟨id', index', hdefined, hid, rfl⟩
    obtain rfl := σ.injective hid
    obtain ⟨f, hf, hname⟩ := (hdistinct.definition?_eq_some_iff name id' index').mp hdefined
    exact ⟨f, (h.function? id' index').trans hf, hname⟩

/-- An opcode may be written before or after renumbering. -/
theorem Renumbered.setOpcode (h : Renumbered σ p q) (a : Address) (o : Opcode) :
    Renumbered σ (p.setOpcode a o) (q.setOpcode (a.renumber σ) o) := by
  intro id
  rw [module?_setOpcode, module?_setOpcode, h]
  simp [Address.renumber]

end Renumbered

end Program

end MutationTesting
