import MutationTesting.Object.Artifact

/-!
Which modules the compiler accepts: those whose functions have different names, and bodies that are
not empty, jump to instructions of their own only, and read only arguments that the function takes.
Acceptance depends on an opcode through its operands and its targets alone.
-/

namespace MutationTesting

namespace Operand

theorem badArgument?_eq_none_iff (params : UInt32) (x : Operand) :
    x.badArgument? params = none ↔ ∀ index, x = .arg index → index < params := by
  cases x with
  | arg index =>
      by_cases hindex : index < params
      · simp [badArgument?, hindex]
      · simp [badArgument?, hindex]
  | reg index => simp [badArgument?]
  | imm value => simp [badArgument?]

end Operand

namespace Function

/-- An opcode that may stand in a body of so many instructions of a function. -/
structure Allows (params : UInt32) (length : Nat) (o : Opcode) : Prop where
  targets : ∀ target ∈ o.targets, target.toNat < length
  arguments : ∀ index, .arg index ∈ o.operands → index < params

/-- A function that the compiler accepts. -/
structure WellFormed (f : Function) : Prop where
  nonempty : f.body ≠ []
  allowed : ∀ i ∈ f.body, Allows f.params f.body.length i.opcode

/-- Whether an opcode is allowed is decided by its targets and its operands. -/
theorem Allows.congr {params : UInt32} {length : Nat} {o m : Opcode} (h : Allows params length o)
    (htargets : m.targets = o.targets) (hoperands : m.operands = o.operands) :
    Allows params length m where
  targets := htargets ▸ h.targets
  arguments := hoperands ▸ h.arguments

theorem WellFormed.setOpcode {f : Function} (h : f.WellFormed) (index : Nat) {o : Opcode}
    (ho : Allows f.params f.body.length o) : (f.setOpcode index o).WellFormed where
  nonempty := by
    rw [← List.length_pos_iff, Function.setOpcode, List.length_modify]
    exact List.length_pos_iff.mpr h.nonempty
  allowed := by
    intro i hi
    simp only [Function.setOpcode, List.length_modify] at hi ⊢
    obtain ⟨k, hk⟩ := List.getElem?_of_mem hi
    rw [List.getElem?_modify] at hk
    split at hk
    · obtain ⟨i', -, rfl⟩ := Option.map_eq_some_iff.mp hk
      exact ho
    · rw [Option.map_eq_map, Option.map_id'] at hk
      exact h.allowed i (List.mem_of_getElem? hk)

theorem instructionViolation?_eq_none_iff (f : Function) (index : Nat) (o : Opcode) :
    f.instructionViolation? index o = none ↔ Allows f.params f.body.length o := by
  rw [instructionViolation?]
  cases hfind : o.targets.find? fun target => decide (f.body.length ≤ target.toNat) with
  | some target =>
      have hbad : f.body.length ≤ target.toNat := by simpa using List.find?_some hfind
      have hmem := List.mem_of_find?_eq_some hfind
      exact iff_of_false nofun fun h => Nat.not_lt.mpr hbad (h.targets target hmem)
  | none =>
      have htargets : ∀ target ∈ o.targets, target.toNat < f.body.length := by
        intro target htarget
        have hgood := List.find?_eq_none.mp hfind target htarget
        exact Nat.lt_of_not_le fun hle => hgood (decide_eq_true hle)
      simp only [Option.map_eq_none_iff, List.findSome?_eq_none_iff]
      constructor
      · intro h
        refine ⟨htargets, fun index hindex => ?_⟩
        exact (Operand.badArgument?_eq_none_iff f.params _).mp (h _ hindex) index rfl
      · intro h x hx
        refine (Operand.badArgument?_eq_none_iff f.params x).mpr ?_
        rintro index rfl
        exact h.arguments index hx

theorem bodyViolation?_eq_none_iff (f : Function) (index : Nat) (body : List Instruction) :
    f.bodyViolation? index body = none ↔
      ∀ i ∈ body, Allows f.params f.body.length i.opcode := by
  induction body generalizing index with
  | nil => simp [bodyViolation?]
  | cons i rest ih =>
      rw [bodyViolation?, Option.or_eq_none_iff, instructionViolation?_eq_none_iff, ih,
        List.forall_mem_cons]

end Function

namespace Module

theorem violationFrom?_eq_none_iff (seen : List String) (functions : List Function) :
    violationFrom? seen functions = none ↔
      (∀ f ∈ functions, f.name ∉ seen) ∧ (functions.map Function.name).Nodup ∧
        ∀ f ∈ functions, f.WellFormed := by
  induction functions generalizing seen with
  | nil => simp [violationFrom?]
  | cons f rest ih =>
      rw [violationFrom?]
      by_cases hseen : f.name ∈ seen
      · rw [if_pos (List.contains_iff_mem.mpr hseen)]
        exact iff_of_false nofun fun h => h.1 f List.mem_cons_self hseen
      · rw [if_neg fun hcontains => hseen (List.contains_iff_mem.mp hcontains)]
        by_cases hempty : f.body = []
        · rw [if_pos (List.isEmpty_iff.mpr hempty)]
          exact iff_of_false nofun fun h => (h.2.2 f List.mem_cons_self).nonempty hempty
        · rw [if_neg fun hisEmpty => hempty (List.isEmpty_iff.mp hisEmpty), Option.or_eq_none_iff,
            Function.bodyViolation?_eq_none_iff, ih]
          rw [List.forall_mem_cons, List.forall_mem_cons, List.map_cons, List.nodup_cons]
          simp only [List.mem_cons, List.mem_map, not_or]
          constructor
          · rintro ⟨hbody, hnames, hnodup, hrest⟩
            refine ⟨⟨hseen, fun g hg => (hnames g hg).2⟩, ⟨?_, hnodup⟩, ⟨hempty, hbody⟩, hrest⟩
            rintro ⟨g, hg, hname⟩
            exact (hnames g hg).1 hname
          · rintro ⟨⟨-, hnames⟩, ⟨hnew, hnodup⟩, hf, hrest⟩
            refine ⟨hf.allowed, fun g hg => ⟨?_, hnames g hg⟩, hnodup, hrest⟩
            exact fun hname => hnew ⟨g, hg, hname⟩

/-- What the compiler accepts. -/
theorem violation?_eq_none_iff (m : Module) :
    m.violation? = none ↔
      (m.functions.map Function.name).Nodup ∧ ∀ f ∈ m.functions, f.WellFormed := by
  rw [violation?, violationFrom?_eq_none_iff]
  simp

theorem compile_eq_ok_iff (m : Module) (a : Artifact) :
    m.compile = .ok a ↔ m.violation? = none ∧ a = .ofImage (.ofModule m) := by
  constructor
  · intro h
    refine ⟨?_, eq_ofModule_of_compile h⟩
    rw [compile] at h
    split at h
    · cases h
    · assumption
  · rintro ⟨hviolation, rfl⟩
    exact compile_of_violation?_none hviolation

end Module

end MutationTesting
