import MutationTesting.Program.Module

/-!
Slots of a program. Writing an opcode changes the slot it is written into and no other, and never
the outline of the program, which is everything apart from its opcodes. The outline and the opcodes
together determine a program, so that two programs are equal as soon as both agree.
-/

namespace MutationTesting

theorem map_modify_of_forall {α β : Type} {g : α → β} {f : α → α}
    (h : ∀ a, g (f a) = g a) (items : List α) (index : Nat) :
    (items.modify index f).map g = items.map g := by
  apply List.ext_getElem?
  intro i
  rw [List.getElem?_map, List.getElem?_map, List.getElem?_modify]
  cases items[i]? with
  | none => rfl
  | some a =>
      by_cases hi : index = i
      · simp only [hi, if_pos, Option.map_eq_map, Option.map_some, h]
      · simp only [hi, if_neg, Option.map_eq_map, Option.map_some, not_false_eq_true]

/-- Lists are equal if their images are and an entry is determined by its image and its place. -/
theorem eq_of_map_eq {α β : Type} {g : α → β} {l l' : List α} (h : l.map g = l'.map g)
    (hentry : ∀ (i : Nat) x y, l[i]? = some x → l'[i]? = some y → g x = g y → x = y) : l = l' := by
  apply List.ext_getElem?
  intro i
  have hi := congrArg (·[i]?) h
  simp only [List.getElem?_map] at hi
  cases hx : l[i]? with
  | none =>
      cases hy : l'[i]? with
      | none => rfl
      | some y =>
          rw [hx, hy] at hi
          cases hi
  | some x =>
      cases hy : l'[i]? with
      | none =>
          rw [hx, hy] at hi
          cases hi
      | some y =>
          rw [hx, hy, Option.map_some, Option.map_some, Option.some.injEq] at hi
          rw [hentry i x y hx hy hi]

namespace Function

/-- What a function is apart from its opcodes. -/
def outline (f : Function) : String × UInt32 × List (Option DebugLocation) :=
  (f.name, f.params, f.body.map (·.debug))

theorem outline_setOpcode (f : Function) (index : Nat) (o : Opcode) :
    (f.setOpcode index o).outline = f.outline := by
  have hdebug := map_modify_of_forall (g := fun i : Instruction => i.debug)
    (f := fun i => { i with opcode := o }) (fun _ => rfl) f.body index
  simp only [outline, setOpcode, hdebug]

theorem ext_of_outline {f g : Function} (houtline : f.outline = g.outline)
    (hcode : ∀ i : Nat, (f.body[i]?).map (·.opcode) = (g.body[i]?).map (·.opcode)) : f = g := by
  obtain ⟨name, params, body⟩ := f
  obtain ⟨name', params', body'⟩ := g
  simp only [outline, Prod.mk.injEq] at houtline
  obtain ⟨rfl, rfl, hdebug⟩ := houtline
  have hbody : body = body' := by
    refine eq_of_map_eq hdebug fun i x y hx hy hd => ?_
    have hc := hcode i
    simp only [hx, hy, Option.map_some, Option.some.injEq] at hc
    obtain ⟨opcode, debug⟩ := x
    obtain ⟨opcode', debug'⟩ := y
    rw [show opcode = opcode' from hc, show debug = debug' from hd]
  rw [hbody]

end Function

namespace Module

/-- What a module is apart from its opcodes. -/
def outline (m : Module) :
    String × Option String × List (String × UInt32 × List (Option DebugLocation)) :=
  (m.name, m.sourceFile, m.functions.map Function.outline)

theorem outline_setOpcode (m : Module) (function index : Nat) (o : Opcode) :
    (m.setOpcode function index o).outline = m.outline := by
  have hfunctions := map_modify_of_forall (g := Function.outline)
    (f := fun f => f.setOpcode index o) (fun f => f.outline_setOpcode index o) m.functions
    function
  simp only [outline, setOpcode, hfunctions]

theorem instruction?_setOpcode (m : Module) (function index function' index' : Nat) (o : Opcode) :
    (m.setOpcode function index o).instruction? function' index' =
      if function = function' ∧ index = index' then
        (m.instruction? function' index').map fun i => { i with opcode := o }
      else m.instruction? function' index' := by
  simp only [instruction?, setOpcode, List.getElem?_modify]
  cases m.functions[function']? with
  | none => simp
  | some f =>
      by_cases hf : function = function'
      · by_cases hi : index = index'
        · simp [hf, hi, Function.setOpcode]
        · simp [hf, hi, Function.setOpcode]
      · simp [hf]

end Module

namespace Program

/-- Everything but the opcodes: the names, parameter counts, source files and debug locations, and
with them the numbers of modules, functions and instructions. -/
def outline (p : Program) :
    List (String × Option String × List (String × UInt32 × List (Option DebugLocation))) :=
  p.modules.map Module.outline

theorem outline_setOpcode (p : Program) (a : Address) (o : Opcode) :
    (p.setOpcode a o).outline = p.outline :=
  map_modify_of_forall (fun m => m.outline_setOpcode a.function a.instruction o) p.modules a.module

theorem module?_setOpcode (p : Program) (a : Address) (o : Opcode) (id : Nat) :
    (p.setOpcode a o).module? id =
      if a.module = id then (p.module? id).map fun m => m.setOpcode a.function a.instruction o
      else p.module? id := by
  simp only [module?, setOpcode, List.getElem?_modify]
  by_cases h : a.module = id
  · simp [h]
  · simp [h]

/-- Writing a slot changes what it holds, if there is such a slot, and nothing that others hold. -/
theorem opcode?_setOpcode (p : Program) (a b : Address) (o : Opcode) :
    (p.setOpcode a o).opcode? b = if a = b then (p.opcode? b).map fun _ => o else p.opcode? b := by
  obtain ⟨id, function, index⟩ := a
  obtain ⟨id', function', index'⟩ := b
  simp only [opcode?, instruction?, module?_setOpcode, Address.mk.injEq]
  cases p.module? id' with
  | none => simp
  | some m =>
      by_cases hid : id = id'
      · simp only [hid, if_true, Option.map_some, Option.bind_eq_bind, Option.bind_some,
          Module.instruction?_setOpcode, true_and]
        split
        · rw [Option.map_map, Option.map_map]
          rfl
        · rfl
      · simp [hid]

theorem opcode?_setOpcode_self {p : Program} {a : Address} {o : Opcode} (h : p.opcode? a = some o)
    (o' : Opcode) : (p.setOpcode a o').opcode? a = some o' := by
  rw [opcode?_setOpcode, if_pos rfl, h]
  rfl

/-- What the slots of a module hold, by the functions of the module. -/
theorem opcode?_eq_of_module? {p : Program} {id : Nat} {m : Module} (h : p.module? id = some m)
    (function index : Nat) :
    p.opcode? ⟨id, function, index⟩ = (m.instruction? function index).map (·.opcode) := by
  simp only [opcode?, instruction?, h, Option.bind_eq_bind, Option.bind_some]

end Program

namespace Module

theorem ext_of_outline {m n : Module} (houtline : m.outline = n.outline)
    (hcode : ∀ f i, (m.instruction? f i).map (·.opcode) = (n.instruction? f i).map (·.opcode)) :
    m = n := by
  obtain ⟨name, file, functions⟩ := m
  obtain ⟨name', file', functions'⟩ := n
  simp only [outline, Prod.mk.injEq] at houtline
  obtain ⟨rfl, rfl, hfunctions⟩ := houtline
  have heq : functions = functions' := by
    refine eq_of_map_eq hfunctions fun f x y hx hy ho => Function.ext_of_outline ho fun i => ?_
    have hi := hcode f i
    simpa only [instruction?, hx, hy, Option.bind_eq_bind, Option.bind_some] using hi
  rw [heq]

end Module

namespace Program

/-- Programs that agree in outline and in every slot are equal. -/
theorem ext_of_outline {p q : Program} (houtline : p.outline = q.outline)
    (hcode : ∀ a, p.opcode? a = q.opcode? a) : p = q := by
  have hmodules : p.modules = q.modules := by
    refine eq_of_map_eq houtline fun id x y hx hy ho => Module.ext_of_outline ho fun f i => ?_
    rw [← opcode?_eq_of_module? hx, ← opcode?_eq_of_module? hy]
    exact hcode ⟨id, f, i⟩
  cases p
  cases q
  exact congrArg Program.mk hmodules

/-- A slot that is given back what it held leaves the program as it was. -/
theorem setOpcode_setOpcode_self {p : Program} {a : Address} {o : Opcode}
    (h : p.opcode? a = some o) (o' : Opcode) : (p.setOpcode a o').setOpcode a o = p := by
  refine ext_of_outline ?_ fun b => ?_
  · rw [outline_setOpcode, outline_setOpcode]
  · rw [opcode?_setOpcode, opcode?_setOpcode]
    by_cases hb : a = b
    · subst hb
      rw [if_pos rfl, if_pos rfl, h]
      rfl
    · rw [if_neg hb, if_neg hb]

end Program

end MutationTesting
