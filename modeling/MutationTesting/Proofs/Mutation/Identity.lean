import MutationTesting.Proofs.Campaign.Validity

/-!
Standard points told apart. The id of a point is read from its two ends: neither a number nor the
name of a standard kind has a colon in it, so that whatever stands between the outer parts is the
name of the function, and in an accepted module that name belongs to one function. The object of a
mutant tells its point as well: it holds every opcode of the module, two points of different slots
differ from each other where either has written, and two points of one slot write different opcodes.
-/

namespace MutationTesting

/-! ### Ids -/

section Separator

variable {α : Type} {x : α} {a b c d : List α}

/-- Lists with a separator have the same parts if it is the first one of either. -/
theorem eq_of_first_separator (ha : x ∉ a) (hc : x ∉ c) (h : a ++ x :: b = c ++ x :: d) :
    a = c ∧ b = d := by
  induction a generalizing c with
  | nil =>
      cases c with
      | nil => exact ⟨rfl, (List.cons.inj h).2⟩
      | cons y c => exact absurd ((List.cons.inj h).1 ▸ List.mem_cons_self) hc
  | cons y a ih =>
      cases c with
      | nil => exact absurd ((List.cons.inj h).1 ▸ List.mem_cons_self) ha
      | cons z c =>
          obtain ⟨rfl, hrest⟩ := List.cons.inj h
          obtain ⟨rfl, rfl⟩ := ih (fun hx => ha (List.mem_cons_of_mem y hx))
            (fun hx => hc (List.mem_cons_of_mem y hx)) hrest
          exact ⟨rfl, rfl⟩

theorem eq_of_last_separator (hb : x ∉ b) (hd : x ∉ d) (h : a ++ x :: b = c ++ x :: d) :
    a = c ∧ b = d := by
  have hreverse := congrArg List.reverse h
  simp only [List.reverse_append, List.reverse_cons, List.append_assoc, List.singleton_append]
    at hreverse
  obtain ⟨hbd, hac⟩ := eq_of_first_separator (fun hx => hb (List.mem_reverse.mp hx))
    (fun hx => hd (List.mem_reverse.mp hx)) hreverse
  exact ⟨List.reverse_inj.mp hac, List.reverse_inj.mp hbd⟩

end Separator

theorem colon_notMem_digits (n : Nat) : ':' ∉ Nat.toDigits 10 n := fun h =>
  absurd (Nat.isDigit_of_mem_toDigits (by decide) (by decide) h) (by decide)

theorem digits_injective {m n : Nat} (h : Nat.toDigits 10 m = Nat.toDigits 10 n) : m = n := by
  have hread := congrArg (fun digits => Nat.ofDigitChars 10 digits 0) h
  simpa only [Nat.ofDigitChars_ten_toDigits] using hread

namespace MutatorKind

theorem colon_notMem_name : ∀ kind ∈ standard, ':' ∉ kind.name.toList := by decide

theorem name_injective :
    ∀ kind ∈ standard, ∀ kind' ∈ standard, kind.name = kind'.name → kind = kind' := by decide

end MutatorKind

namespace MutationPoint

theorem toList_id (p : MutationPoint) :
    p.id.toList = Nat.toDigits 10 p.address.module ++ ':' :: (p.function.toList ++
      ':' :: (Nat.toDigits 10 p.address.instruction ++ ':' :: p.kind.name.toList)) := by
  have htext : ∀ s : String, toString s = s := fun _ => rfl
  simp [id, htext]

/-- The parts of an id are read back, whatever the name of the function. -/
theorem parts_of_id_eq {p q : MutationPoint} (hp : p.kind ∈ MutatorKind.standard)
    (hq : q.kind ∈ MutatorKind.standard) (h : p.id = q.id) :
    p.address.module = q.address.module ∧ p.function = q.function ∧
      p.address.instruction = q.address.instruction ∧ p.kind = q.kind := by
  have hchars := congrArg String.toList h
  rw [toList_id, toList_id] at hchars
  obtain ⟨hmodule, hrest⟩ :=
    eq_of_first_separator (colon_notMem_digits _) (colon_notMem_digits _) hchars
  -- what comes after the first colon is now read from its end
  have hassoc : ∀ s t u : List Char, s ++ ':' :: (t ++ ':' :: u) = (s ++ ':' :: t) ++ ':' :: u :=
    fun s t u => by rw [List.append_assoc, List.cons_append]
  rw [hassoc, hassoc] at hrest
  obtain ⟨hrest, hname⟩ := eq_of_last_separator (MutatorKind.colon_notMem_name _ hp)
    (MutatorKind.colon_notMem_name _ hq) hrest
  obtain ⟨hfunction, hinstruction⟩ :=
    eq_of_last_separator (colon_notMem_digits _) (colon_notMem_digits _) hrest
  exact ⟨digits_injective hmodule, String.toList_inj.mp hfunction, digits_injective hinstruction,
    MutatorKind.name_injective _ hp _ hq (String.toList_inj.mp hname)⟩

end MutationPoint

/-- A point that a standard operator finds in a program. -/
structure MutationPoint.Standard (p : MutationPoint) (program : Program) : Prop where
  kind : p.kind ∈ MutatorKind.standard
  mutates : MutationOperator.standardMutation p.kind p.initial = some p.mutated
  named : ∃ m f, program.module? p.address.module = some m ∧
    m.functions[p.address.function]? = some f ∧ f.name = p.function

theorem Testee.standard_of_mem {operators : List MutationOperator}
    (hoperators : ∀ op ∈ operators, op ∈ MutationOperator.all) {t : Testee} {program : Program}
    {p : MutationPoint} (h : p ∈ t.points program operators) : p.Standard program := by
  obtain ⟨m, op, f, i, index, hm, hop, hf, -, hpoint⟩ := exists_of_mem h
  obtain ⟨kind, hkind, rfl⟩ := List.mem_map.mp (hoperators op hop)
  obtain ⟨mutated, hmutated, rfl⟩ := Option.map_eq_some_iff.mp hpoint
  exact ⟨hkind, hmutated, m, f, hm, hf, rfl⟩

namespace MutationPoint

/-- **Ids are unique.** In a program whose modules compile, the points of standard operators have
one id exactly if they are of the same module, function, instruction and kind, whatever characters
the names of the functions are made of. -/
theorem id_eq_iff {program : Program} (hcompile : ∀ m ∈ program.modules, ∃ a, m.compile = .ok a)
    {operators : List MutationOperator} (hoperators : ∀ op ∈ operators, op ∈ MutationOperator.all)
    {t u : Testee} {p q : MutationPoint} (hp : p ∈ t.points program operators)
    (hq : q ∈ u.points program operators) :
    p.id = q.id ↔ p.address.module = q.address.module ∧ p.address.function = q.address.function ∧
      p.address.instruction = q.address.instruction ∧ p.kind = q.kind := by
  have hp := Testee.standard_of_mem hoperators hp
  have hq := Testee.standard_of_mem hoperators hq
  obtain ⟨m, f, hm, hf, hfname⟩ := hp.named
  obtain ⟨n, g, hn, hg, hgname⟩ := hq.named
  constructor
  · intro h
    obtain ⟨hmodule, hname, hinstruction, hkind⟩ := parts_of_id_eq hp.kind hq.kind h
    rw [← hmodule, hm, Option.some.injEq] at hn
    subst hn
    obtain ⟨a, ha⟩ := hcompile m (List.mem_of_getElem? hm)
    have hnames := (m.violation?_eq_none_iff.mp ((m.compile_eq_ok_iff a).mp ha).1).1
    have hfunction := Module.position_unique hnames hf hg (by rw [hfname, hgname, hname])
    exact ⟨hmodule, hfunction, hinstruction, hkind⟩
  · rintro ⟨hmodule, hfunction, hinstruction, hkind⟩
    rw [← hmodule, hm, Option.some.injEq] at hn
    subst hn
    rw [← hfunction, hf, Option.some.injEq] at hg
    subst hg
    rw [id, id, hmodule, hinstruction, hkind, ← hfname, ← hgname]

/-- Two functions of which one has the id of a point of the other in its name. -/
def nested : Program :=
  let body : List Instruction := [⟨.binary 0 .add (.arg 0) (.arg 1), none⟩, ⟨.ret none, none⟩]
  ⟨[⟨"m", none, [⟨"", 2, body⟩, ⟨":0:math_add:0", 2, body⟩]⟩]⟩

/-- The point of one of these functions. -/
def nestedPoint (function : Nat) (name : String) : MutationPoint :=
  ⟨⟨0, function, 0⟩, .mathAdd, name, .binary 0 .add (.arg 0) (.arg 1),
    .binary 0 .sub (.arg 0) (.arg 1), none, false⟩

/-- The two points have different ids, although either end of one is the other. -/
theorem nested_id_ne :
    (∀ m ∈ nested.modules, ∃ a, m.compile = .ok a) ∧
      nestedPoint 0 "" ∈ Testee.points ⟨"", 0, 0, 1⟩ nested MutationOperator.all ∧
      nestedPoint 1 ":0:math_add:0" ∈
        Testee.points ⟨":0:math_add:0", 0, 1, 1⟩ nested MutationOperator.all ∧
      (nestedPoint 0 "").id = "0::0:math_add" ∧
      (nestedPoint 1 ":0:math_add:0").id = "0::0:math_add:0:0:math_add" ∧
      (nestedPoint 0 "").id ≠ (nestedPoint 1 ":0:math_add:0").id := by
  have hcompile : ∀ m ∈ nested.modules, ∃ a, m.compile = .ok a := by
    intro m hm
    exact ⟨_, Module.compile_of_violation?_none ((by decide : nested.Accepted) m hm)⟩
  have hp : nestedPoint 0 "" ∈ Testee.points ⟨"", 0, 0, 1⟩ nested MutationOperator.all := by decide
  have hq : nestedPoint 1 ":0:math_add:0" ∈
      Testee.points ⟨":0:math_add:0", 0, 1, 1⟩ nested MutationOperator.all := by decide
  refine ⟨hcompile, hp, hq, by decide, by decide, fun h => ?_⟩
  obtain ⟨-, hfunction, -, -⟩ := (id_eq_iff hcompile (fun _ hop => hop) hp hq).mp h
  exact absurd hfunction (by decide)

end MutationPoint

/-! ### Objects -/

namespace Module

/-- What a module compiles to, if it compiles. -/
def object (m : Module) : ByteArray := (Image.ofModule m).encode

theorem object_of_compile {m : Module} {a : Artifact} (h : m.compile = .ok a) :
    a.object = m.object := by
  rw [eq_ofModule_of_compile h, Artifact.ofImage, object]

/-- Objects tell what every slot holds. -/
theorem opcodes_eq_of_object_eq {m n : Module} (h : m.object = n.object) (function index : Nat) :
    (m.instruction? function index).map (·.opcode) =
      (n.instruction? function index).map (·.opcode) := by
  have hslot : ∀ m : Module, (m.instruction? function index).map (·.opcode) =
      (Image.ofModule m).symbols[function]?.bind fun s => s.code[index]? := by
    intro m
    simp only [instruction?, Image.ofModule, List.getElem?_map, Option.bind_eq_bind]
    cases m.functions[function]? with
    | none => rfl
    | some f => exact (f.getElem?_ofFunction index).symm
  rw [hslot, hslot, Image.encode_injective h]

/-- Similar opcodes leave a module accepted or refused, as it is. -/
theorem violation?_setOpcode_eq_none_iff {m : Module} {function index : Nat} {o o' : Opcode}
    (ho : (m.instruction? function index).map (·.opcode) = some o) (hsimilar : o.Similar o') :
    (m.setOpcode function index o').violation? = none ↔ m.violation? = none := by
  have hheld : Program.opcode? ⟨[m]⟩ ⟨0, function, index⟩ = some o := ho
  have haccepted := Program.accepted_setOpcode_iff hheld hsimilar.targets hsimilar.operands
  simpa [Program.Accepted, Program.setOpcode] using haccepted

end Module

theorem Program.opcode?_eq_of_object_eq {p q : Program} {a : Address} {m n : Module}
    (hm : p.module? a.module = some m) (hn : q.module? a.module = some n)
    (h : m.object = n.object) : p.opcode? a = q.opcode? a :=
  (opcode?_eq_of_module? hm _ _).trans
    ((Module.opcodes_eq_of_object_eq h _ _).trans (opcode?_eq_of_module? hn _ _).symm)

namespace MutationPoint

/-- What the module of a point compiles to once the point, and nothing else, is applied. -/
def CompilesTo (p : MutationPoint) (program : Program) (object : ByteArray) : Prop :=
  ∃ p' mutated m a, p.apply program = .ok (p', mutated) ∧
    mutated.module? p.address.module = some m ∧ m.compile = .ok a ∧ a.object = object

/-- The module of a point with the replacement written into its slot. -/
def mutant (p : MutationPoint) (m : Module) : Module :=
  m.setOpcode p.address.function p.address.instruction p.mutated

section Objects

variable {program : Program} {m : Module} {p q : MutationPoint}

theorem Standard.compilesTo (hp : p.Standard program) (hfits : p.Fits program m)
    (hm : m.violation? = none) : p.CompilesTo program (p.mutant m).object := by
  have hheld := hfits.holds
  rw [Program.opcode?_eq_of_module? hfits.module] at hheld
  have hsimilar := MutationOperator.similar_of_standardMutation hp.mutates
  have hviolation := (Module.violation?_setOpcode_eq_none_iff hheld hsimilar).mpr hm
  have hcompile := Module.compile_of_violation?_none hviolation
  exact ⟨_, _, _, _, hfits.apply, hfits.module_mutated, hcompile, Module.object_of_compile hcompile⟩

/-- The object of a mutant is not that of the module: they differ at the slot of the point. -/
theorem Standard.object_ne (hp : p.Standard program) (hfits : p.Fits program m) :
    (p.mutant m).object ≠ m.object := by
  intro heq
  have hslot := Program.opcode?_eq_of_object_eq hfits.module_mutated hfits.module heq
  rw [Program.opcode?_setOpcode_self hfits.holds, hfits.holds] at hslot
  exact MutationOperator.standardMutation_ne_self p.kind p.initial (hp.mutates.trans hslot)

/-- The objects of two mutants differ at the slot of either point: the other mutant holds the first
form there or, where both points have one slot, what another kind makes of it. -/
theorem Standard.object_ne_object (hp : p.Standard program) (hpfits : p.Fits program m)
    (hq : q.Standard program) (hqfits : q.Fits program m)
    (hmodule : p.address.module = q.address.module)
    (hne : p.address = q.address → p.kind ≠ q.kind) :
    (p.mutant m).object ≠ (q.mutant m).object := by
  intro heq
  have hslot := Program.opcode?_eq_of_object_eq hpfits.module_mutated
    (hmodule ▸ hqfits.module_mutated) heq
  rw [Program.opcode?_setOpcode_self hpfits.holds, Program.opcode?_setOpcode, hpfits.holds] at hslot
  split at hslot
  next haddress =>
    have hinitial := hqfits.holds
    rw [haddress, hpfits.holds, Option.some.injEq] at hinitial
    have hmutates := hq.mutates
    rw [Option.map_some, Option.some.injEq] at hslot
    rw [← hinitial, ← hslot] at hmutates
    exact hne haddress.symm (MutationOperator.kind_eq_of_standardMutation hp.mutates hmutates)
  next =>
    exact MutationOperator.standardMutation_ne_self p.kind p.initial (hp.mutates.trans hslot)

/-- **No two mutants of a module are the same program.** Take a module that compiles, and two points
that the standard operators find in it, of different functions, instructions or kinds. Either of
them, applied alone, leaves a module that compiles, and the two objects differ from each other and
from the object of the module as it was. -/
theorem objects_differ {id : Nat} {a : Artifact} (hm : program.module? id = some m)
    (hcompile : m.compile = .ok a) {t u : Testee} (ht : t.module = id) (hu : u.module = id)
    (hp : p ∈ t.points program MutationOperator.all)
    (hq : q ∈ u.points program MutationOperator.all)
    (hne : p.address.function ≠ q.address.function ∨
      p.address.instruction ≠ q.address.instruction ∨ p.kind ≠ q.kind) :
    ∃ b c, p.CompilesTo program b ∧ q.CompilesTo program c ∧ b ≠ c ∧ b ≠ a.object ∧
      c ≠ a.object := by
  have hviolation := ((m.compile_eq_ok_iff a).mp hcompile).1
  have hfits : ∀ {t : Testee} {p : MutationPoint}, t.module = id →
      p ∈ t.points program MutationOperator.all →
        p.Standard program ∧ p.Fits program m ∧ p.address.module = id := by
    intro t p ht hp
    obtain ⟨n, hn, hmodule⟩ := Testee.fits_of_mem hp
    have hsame := hn.module
    rw [hmodule, ht, hm, Option.some.injEq] at hsame
    exact ⟨Testee.standard_of_mem (fun _ hop => hop) hp, hsame ▸ hn, hmodule.trans ht⟩
  obtain ⟨hpstandard, hpfits, hpmodule⟩ := hfits ht hp
  obtain ⟨hqstandard, hqfits, hqmodule⟩ := hfits hu hq
  have hkind : p.address = q.address → p.kind ≠ q.kind := by
    intro haddress
    rw [haddress] at hne
    exact (hne.resolve_left fun h => h rfl).resolve_left fun h => h rfl
  rw [Module.object_of_compile hcompile]
  exact ⟨_, _, hpstandard.compilesTo hpfits hviolation, hqstandard.compilesTo hqfits hviolation,
    hpstandard.object_ne_object hpfits hqstandard hqfits (hpmodule.trans hqmodule.symm) hkind,
    hpstandard.object_ne hpfits, hqstandard.object_ne hqfits⟩

end Objects

/-- A module with one comparison, beside a module that does not compile. -/
def comparison : Program :=
  ⟨[⟨"m", none, [⟨"f", 2, [⟨.compare 0 .slt (.arg 0) (.arg 1), none⟩, ⟨.ret none, none⟩]⟩]⟩,
    ⟨"broken", none, [⟨"g", 0, []⟩]⟩]⟩

/-- The point of a kind that puts another comparison in place. -/
def comparisonPoint (kind : MutatorKind) (pred : Predicate) : MutationPoint :=
  ⟨⟨0, 0, 0⟩, kind, "f", .compare 0 .slt (.arg 0) (.arg 1), .compare 0 pred (.arg 0) (.arg 1), none,
    false⟩

/-- The boundary and the negation of the comparison give three different objects with the one of the
module. -/
theorem comparison_objects_differ :
    ∃ m a b c, comparison.module? 0 = some m ∧ m.compile = .ok a ∧
      comparisonPoint .conditionalsBoundary .sle ∈
        Testee.points ⟨"f", 0, 0, 1⟩ comparison MutationOperator.all ∧
      comparisonPoint .negateCondition .sge ∈
        Testee.points ⟨"f", 0, 0, 1⟩ comparison MutationOperator.all ∧
      (comparisonPoint .conditionalsBoundary .sle).CompilesTo comparison b ∧
      (comparisonPoint .negateCondition .sge).CompilesTo comparison c ∧
      b ≠ c ∧ b ≠ a.object ∧ c ≠ a.object := by
  have hcompile := Module.compile_of_violation?_none
    (by decide : (comparison.modules[0]).violation? = none)
  have hboundary : comparisonPoint .conditionalsBoundary .sle ∈
      Testee.points ⟨"f", 0, 0, 1⟩ comparison MutationOperator.all := by decide
  have hnegation : comparisonPoint .negateCondition .sge ∈
      Testee.points ⟨"f", 0, 0, 1⟩ comparison MutationOperator.all := by decide
  have hmodule : comparison.module? 0 = some comparison.modules[0] := rfl
  obtain ⟨b, c, hdiffer⟩ := objects_differ hmodule hcompile rfl rfl hboundary hnegation
    (Or.inr (Or.inr nofun))
  exact ⟨_, _, b, c, hmodule, hcompile, hboundary, hnegation, hdiffer⟩

end MutationPoint

end MutationTesting
