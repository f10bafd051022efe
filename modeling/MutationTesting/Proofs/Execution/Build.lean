import MutationTesting.Proofs.Campaign.Scratch
import MutationTesting.Proofs.Execution.Overwrite
import MutationTesting.Proofs.Object.Acceptance
import MutationTesting.Proofs.Object.Image
import MutationTesting.Proofs.Program.Definition

/-!
Builds. A program whose modules are accepted and whose functions have different names builds an
executable, in which each name stands for the code of the function that has it; other programs build
none. The executable of a program with one opcode written over is the executable of the program with
that opcode written over, provided that the module is still accepted.
-/

namespace MutationTesting

namespace Function

theorem getElem?_ofFunction (f : Function) (index : Nat) :
    (Symbol.ofFunction f).code[index]? = (f.body[index]?).map (·.opcode) := by
  simp only [Symbol.ofFunction, code, List.getElem?_toArray, List.getElem?_map]

theorem exists_of_code {f : Function} {index : Nat} {o : Opcode}
    (h : (Symbol.ofFunction f).code[index]? = some o) :
    ∃ i, f.body[index]? = some i ∧ i.opcode = o := by
  rw [getElem?_ofFunction] at h
  exact Option.map_eq_some_iff.mp h

theorem length_le_of_code {f : Function} {index : Nat}
    (h : (Symbol.ofFunction f).code[index]? = none) : f.body.length ≤ index := by
  rw [getElem?_ofFunction, Option.map_eq_none_iff] at h
  exact List.getElem?_eq_none_iff.mp h

theorem size_ofFunction (f : Function) : (Symbol.ofFunction f).code.size = f.body.length := by
  simp only [Symbol.ofFunction, code, List.size_toArray, List.length_map]

end Function

namespace Program

/-- Every module is accepted by the compiler. -/
def Accepted (p : Program) : Prop := ∀ m ∈ p.modules, m.violation? = none

instance (p : Program) : Decidable p.Accepted :=
  inferInstanceAs (Decidable (∀ m ∈ p.modules, m.violation? = none))

theorem accepted_iff (p : Program) :
    p.Accepted ↔ (∀ m ∈ p.modules, (m.functions.map Function.name).Nodup) ∧
      ∀ f ∈ p.functions, f.WellFormed := by
  simp only [Accepted, Module.violation?_eq_none_iff, functions, List.mem_flatMap]
  constructor
  · intro h
    refine ⟨fun m hm => (h m hm).1, fun f hf => ?_⟩
    obtain ⟨m, hm, hfm⟩ := hf
    exact (h m hm).2 f hfm
  · rintro ⟨hnames, hformed⟩ m hm
    exact ⟨hnames m hm, fun f hf => hformed f ⟨m, hm, hf⟩⟩

/-- An allowed opcode may be written into any slot. -/
theorem Accepted.setOpcode {p : Program} (h : p.Accepted) {a : Address} {f : Function} {o : Opcode}
    (hf : p.function? a.module a.function = some f)
    (ho : Function.Allows f.params f.body.length o) : (p.setOpcode a o).Accepted := by
  obtain ⟨hnames, hformed⟩ := p.accepted_iff.mp h
  refine (p.setOpcode a o).accepted_iff.mpr ⟨fun m hm => ?_, fun g hg => ?_⟩
  · have houtline : m.outline ∈ p.outline := by
      rw [← p.outline_setOpcode a o]
      exact List.mem_map_of_mem hm
    obtain ⟨n, hn, heq⟩ := List.mem_map.mp houtline
    have hsame : n.functions.map Function.name = m.functions.map Function.name := by
      rw [n.names_eq, m.names_eq, heq]
    exact hsame ▸ hnames n hn
  · obtain ⟨id, index, hg⟩ := ((p.setOpcode a o).mem_functions_iff g).mp hg
    rw [function?_setOpcode] at hg
    split at hg
    next hsite =>
      obtain ⟨rfl, rfl⟩ := hsite
      rw [hf, Option.map_some, Option.some.injEq] at hg
      subst hg
      have hmem := (p.mem_functions_iff f).mpr ⟨_, _, hf⟩
      exact (hformed f hmem).setOpcode a.instruction ho
    next => exact hformed g ((p.mem_functions_iff g).mpr ⟨id, index, hg⟩)

/-- The compiler accepts a program with an opcode written over exactly if it accepts the program,
where the opcodes have the same targets and operands. -/
theorem accepted_setOpcode_iff {p : Program} {a : Address} {o m : Opcode}
    (ho : p.opcode? a = some o) (htargets : m.targets = o.targets)
    (hoperands : m.operands = o.operands) : (p.setOpcode a m).Accepted ↔ p.Accepted := by
  obtain ⟨f, i, hf, hi, rfl⟩ := opcode?_eq_some ho
  have hf' : (p.setOpcode a m).function? a.module a.function =
      some (f.setOpcode a.instruction m) := by
    rw [function?_setOpcode, if_pos ⟨rfl, rfl⟩, hf]
    rfl
  constructor
  · intro h
    have hwritten : (f.setOpcode a.instruction m).body[a.instruction]? =
        some { i with opcode := m } := by
      rw [Function.setOpcode, List.getElem?_modify_eq, hi]
      rfl
    have hformed := (accepted_iff _).mp h
    have hm := (hformed.2 _ ((mem_functions_iff _ _).mpr ⟨_, _, hf'⟩)).allowed _
      (List.mem_of_getElem? hwritten)
    have hback := h.setOpcode hf' (hm.congr htargets.symm hoperands.symm)
    rwa [setOpcode_setOpcode_self ho] at hback
  · intro h
    have hformed := (accepted_iff _).mp h
    have ho := (hformed.2 f ((mem_functions_iff _ _).mpr ⟨_, _, hf⟩)).allowed i
      (List.mem_of_getElem? hi)
    exact h.setOpcode hf (ho.congr htargets hoperands)

/-- The executable of a program, as its functions determine it. -/
structure Builds (p : Program) (exe : Executable) : Prop where
  accepted : p.Accepted
  distinct : p.Distinct
  symbol : ∀ name s, exe.symbol? name = some s ↔
    ∃ f ∈ p.functions, f.name = name ∧ Symbol.ofFunction f = s

/-- The look-up of code by name. -/
def executable (p : Program) : Executable :=
  ⟨fun name => (p.functions.find? fun f => f.name == name).map Symbol.ofFunction⟩

theorem mapM_compile_eq_ok_iff (modules : List Module) (artifacts : List Artifact) :
    modules.mapM Module.compile = .ok artifacts ↔ (∀ m ∈ modules, m.violation? = none) ∧
      artifacts = modules.map fun m => .ofImage (.ofModule m) := by
  induction modules generalizing artifacts with
  | nil =>
      constructor
      · intro h
        cases h
        exact ⟨fun m hm => absurd hm List.not_mem_nil, rfl⟩
      · rintro ⟨-, rfl⟩
        rfl
  | cons m rest ih =>
      rw [List.forall_mem_cons, List.map_cons]
      constructor
      · intro h
        obtain ⟨a, others, ha, hothers, rfl⟩ := mapM_cons_ok h
        obtain ⟨hm, rfl⟩ := (m.compile_eq_ok_iff a).mp ha
        obtain ⟨hrest, rfl⟩ := (ih others).mp hothers
        exact ⟨⟨hm, hrest⟩, rfl⟩
      · rintro ⟨⟨hm, hrest⟩, rfl⟩
        have hothers := (ih _).mpr ⟨hrest, rfl⟩
        rw [List.mapM_cons, Module.compile_of_violation?_none hm, hothers]
        rfl

theorem rebuild_eq_ok_iff (p : Program) (artifacts : List Artifact) :
    p.rebuild = .ok artifacts ↔
      p.Accepted ∧ artifacts = p.modules.map fun m => .ofImage (.ofModule m) :=
  mapM_compile_eq_ok_iff p.modules artifacts

theorem flatMap_symbols (p : Program) :
    (p.modules.map fun m => Artifact.ofImage (.ofModule m)).flatMap Artifact.symbols =
      p.functions.map Symbol.ofFunction := by
  rw [functions, List.flatMap_map, List.map_flatMap]
  simp only [Artifact.symbols_ofImage]
  rfl

/-- The artifacts of a program link exactly if its functions have different names. -/
theorem linkable_iff (p : Program) :
    Linkable (p.modules.map fun m => .ofImage (.ofModule m)) ↔ p.Distinct := by
  have hnames : ((p.functions.map Symbol.ofFunction).map Symbol.name) =
      p.functions.map Function.name := by
    rw [List.map_map]
    rfl
  constructor
  · intro h
    have hdistinct := h.distinct
    rwa [flatMap_symbols, hnames] at hdistinct
  · intro h
    refine ⟨fun a ha => ?_, ?_⟩
    · obtain ⟨m, -, rfl⟩ := List.mem_map.mp ha
      exact ⟨_, Artifact.image_ofImage _⟩
    · rwa [flatMap_symbols, hnames]

/-- The executable that the artifacts of a program link to. -/
theorem builds_iff (p : Program) (exe : Executable) :
    p.Builds exe ↔
      ∃ artifacts, p.rebuild = .ok artifacts ∧ Executable.link artifacts = .ok exe := by
  have hsymbol : ∀ name s,
      (s ∈ p.functions.map Symbol.ofFunction ∧ s.name = name) ↔
        ∃ f ∈ p.functions, f.name = name ∧ Symbol.ofFunction f = s := by
    intro name s
    rw [List.mem_map]
    constructor
    · rintro ⟨⟨f, hf, rfl⟩, hname⟩
      exact ⟨f, hf, hname, rfl⟩
    · rintro ⟨f, hf, hname, rfl⟩
      exact ⟨⟨f, hf, rfl⟩, hname⟩
  constructor
  · intro h
    refine ⟨_, (p.rebuild_eq_ok_iff _).mpr ⟨h.accepted, rfl⟩, ?_⟩
    obtain ⟨q, hq⟩ := (Executable.exists_link_iff _).mpr (p.linkable_iff.mpr h.distinct)
    have hsame : q = exe := by
      refine Executable.ext fun name s => ?_
      rw [Executable.symbol?_of_link hq, flatMap_symbols, hsymbol, h.symbol]
    rw [hq, hsame]
  · rintro ⟨artifacts, hrebuild, hexe⟩
    obtain ⟨haccepted, rfl⟩ := (p.rebuild_eq_ok_iff artifacts).mp hrebuild
    refine ⟨haccepted, p.linkable_iff.mp ((Executable.exists_link_iff _).mp ⟨exe, hexe⟩), ?_⟩
    intro name s
    rw [Executable.symbol?_of_link hexe, flatMap_symbols, hsymbol]

/-- Which programs build an executable. -/
theorem exists_builds_iff (p : Program) : (∃ exe, p.Builds exe) ↔ p.Accepted ∧ p.Distinct := by
  constructor
  · rintro ⟨exe, h⟩
    exact ⟨h.accepted, h.distinct⟩
  · rintro ⟨haccepted, hdistinct⟩
    obtain ⟨exe, hexe⟩ := (Executable.exists_link_iff _).mpr (p.linkable_iff.mpr hdistinct)
    exact ⟨exe, (p.builds_iff exe).mpr ⟨_, (p.rebuild_eq_ok_iff _).mpr ⟨haccepted, rfl⟩, hexe⟩⟩

section Builds

variable {p : Program} {exe : Executable}

theorem Builds.wellFormed (h : p.Builds exe) {f : Function} (hf : f ∈ p.functions) :
    f.WellFormed := by
  obtain ⟨m, hm, hfm⟩ := List.mem_flatMap.mp hf
  exact ((m.violation?_eq_none_iff).mp (h.accepted m hm)).2 f hfm

/-- A defined name stands for the code of its definition. -/
theorem Builds.symbol?_of_function? (h : p.Builds exe) {id index : Nat} {f : Function}
    (hf : p.function? id index = some f) : exe.symbol? f.name = some (.ofFunction f) :=
  (h.symbol f.name _).mpr ⟨f, (p.mem_functions_iff f).mpr ⟨id, index, hf⟩, rfl, rfl⟩

/-- A name that stands for code has a definition with that code. -/
theorem Builds.definition?_of_symbol? (h : p.Builds exe) {name : String} {s : Symbol}
    (hs : exe.symbol? name = some s) :
    ∃ id index f, p.definition? name = some (id, index) ∧ p.function? id index = some f ∧
      f.name = name ∧ Symbol.ofFunction f = s := by
  obtain ⟨f, hf, hname, hsymbol⟩ := (h.symbol name s).mp hs
  obtain ⟨id, index, hsite⟩ := (p.mem_functions_iff f).mp hf
  have hdefinition := (h.distinct.definition?_eq_some_iff name id index).mpr ⟨f, hsite, hname⟩
  exact ⟨id, index, f, hdefinition, hsite, hname, hsymbol⟩

/-- A program builds one executable only. -/
theorem Builds.eq_executable (h : p.Builds exe) : exe = p.executable := by
  refine Executable.ext fun name s => ?_
  rw [h.symbol, executable, Option.map_eq_some_iff]
  constructor
  · rintro ⟨f, hf, rfl, rfl⟩
    cases hfind : p.functions.find? fun g => g.name == f.name with
    | none => exact absurd (beq_self_eq_true f.name) (List.find?_eq_none.mp hfind f hf)
    | some g =>
        have hname : g.name = f.name := by simpa using List.find?_some hfind
        have hsame : g = f :=
          List.inj_on_of_nodup_map h.distinct (List.mem_of_find?_eq_some hfind) hf hname
        exact ⟨g, rfl, hsame ▸ rfl⟩
  · rintro ⟨f, hfind, rfl⟩
    exact ⟨f, List.mem_of_find?_eq_some hfind, by simpa using List.find?_some hfind, rfl⟩

/-- Writing an opcode and building may be done in either order. -/
theorem Builds.setOpcode (h : p.Builds exe) {a : Address} {f : Function} {o : Opcode}
    (hf : p.function? a.module a.function = some f) (haccepted : (p.setOpcode a o).Accepted) :
    (p.setOpcode a o).Builds (exe.setOpcode f.name a.instruction o) where
  accepted := haccepted
  distinct := (p.distinct_setOpcode_iff a o).mpr h.distinct
  symbol := by
    have hdistinct := (p.distinct_setOpcode_iff a o).mpr h.distinct
    have hwritten : (p.setOpcode a o).function? a.module a.function =
        some (f.setOpcode a.instruction o) := by
      rw [function?_setOpcode, if_pos ⟨rfl, rfl⟩, hf]
      rfl
    intro name s
    by_cases hname : name = f.name
    · -- the one function of this name is the one that is written to
      subst hname
      rw [Executable.symbol?_setOpcode_self, h.symbol?_of_function? hf, Option.map_some,
        ← Symbol.ofFunction_setOpcode, Option.some.injEq]
      constructor
      · rintro rfl
        exact ⟨_, ((p.setOpcode a o).mem_functions_iff _).mpr ⟨_, _, hwritten⟩, rfl, rfl⟩
      · rintro ⟨g, hg, hgname, rfl⟩
        obtain ⟨id, index, hsite⟩ := ((p.setOpcode a o).mem_functions_iff g).mp hg
        obtain ⟨rfl, rfl⟩ := hdistinct.site_unique hwritten hsite hgname.symm
        rw [hwritten, Option.some.injEq] at hsite
        rw [hsite]
    · have hother : ∀ id index g, g.name ≠ f.name →
          ((p.setOpcode a o).function? id index = some g ↔ p.function? id index = some g) := by
        intro id index g hgname
        rw [function?_setOpcode]
        by_cases hsite : a.module = id ∧ a.function = index
        · obtain ⟨rfl, rfl⟩ := hsite
          rw [if_pos ⟨rfl, rfl⟩, hf, Option.map_some, Option.some.injEq, Option.some.injEq]
          constructor
          · rintro rfl
            exact absurd rfl hgname
          · rintro rfl
            exact absurd rfl hgname
        · rw [if_neg hsite]
      rw [Executable.symbol?_setOpcode_of_ne exe a.instruction o hname, h.symbol]
      refine exists_congr fun g => ?_
      rw [mem_functions_iff, mem_functions_iff]
      constructor
      · rintro ⟨⟨id, index, hg⟩, rfl, rfl⟩
        exact ⟨⟨id, index, (hother id index g hname).mpr hg⟩, rfl, rfl⟩
      · rintro ⟨⟨id, index, hg⟩, rfl, rfl⟩
        exact ⟨⟨id, index, (hother id index g hname).mp hg⟩, rfl, rfl⟩

/-- With a mutant in place of the artifact of its module, the artifacts link to the executable with
the opcode written over. -/
theorem Builds.link_set (h : p.Builds exe) {artifacts : List Artifact}
    (hrebuild : p.rebuild = .ok artifacts) {a : Address} {m : Module} {f : Function} {o : Opcode}
    (hm : p.module? a.module = some m) (hf : m.functions[a.function]? = some f) {mutant : Artifact}
    (hmutant : (m.setOpcode a.function a.instruction o).compile = .ok mutant) :
    Executable.link (artifacts.set a.module mutant) =
      .ok (exe.setOpcode f.name a.instruction o) := by
  have hrebuilt : (p.setOpcode a o).rebuild = .ok (artifacts.set a.module mutant) := by
    rw [rebuild_setOpcode hrebuild hm, hmutant]
    rfl
  have hsite : p.function? a.module a.function = some f :=
    (p.function?_eq_some_iff a.module a.function f).mpr ⟨m, hm, hf⟩
  have hmutated := h.setOpcode hsite ((rebuild_eq_ok_iff _ _).mp hrebuilt).1
  obtain ⟨artifacts', hartifacts', hlink⟩ := (builds_iff _ _).mp hmutated
  rw [hrebuilt, Except.ok.injEq] at hartifacts'
  rwa [hartifacts']

end Builds

end Program

end MutationTesting
