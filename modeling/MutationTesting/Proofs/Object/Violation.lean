import MutationTesting.Proofs.Object.Acceptance

/-!
What the compiler reports. A module with violations is refused for the first of them: functions go
in order, a taken name before an empty body and either before the instructions, instructions go in
order, and within one its targets before its operands. What comes before the place reported is
without fault. The operands and targets of an opcode are all the values and places it names.
-/

namespace MutationTesting

namespace Opcode

/-- An opcode reads an operand, at one of the places where an instruction can name one. -/
inductive Reads : Opcode → Operand → Prop
  | moved (dst : UInt32) (src : Operand) : Reads (.move dst src) src
  | binaryLeft (dst : UInt32) (op : BinaryOp) (lhs rhs : Operand) :
      Reads (.binary dst op lhs rhs) lhs
  | binaryRight (dst : UInt32) (op : BinaryOp) (lhs rhs : Operand) :
      Reads (.binary dst op lhs rhs) rhs
  | compareLeft (dst : UInt32) (pred : Predicate) (lhs rhs : Operand) :
      Reads (.compare dst pred lhs rhs) lhs
  | compareRight (dst : UInt32) (pred : Predicate) (lhs rhs : Operand) :
      Reads (.compare dst pred lhs rhs) rhs
  | passed (dst : Option UInt32) (callee : String) (args : List Operand) (x : Operand)
      (h : x ∈ args) : Reads (.call dst callee args) x
  | condition (cond : Operand) (thenTarget elseTarget : UInt64) :
      Reads (.branch cond thenTarget elseTarget) cond
  | returned (value : Operand) : Reads (.ret (some value)) value

/-- An opcode may send control to a target. -/
inductive JumpsTo : Opcode → UInt64 → Prop
  | jump (target : UInt64) : JumpsTo (.jump target) target
  | branchThen (cond : Operand) (thenTarget elseTarget : UInt64) :
      JumpsTo (.branch cond thenTarget elseTarget) thenTarget
  | branchElse (cond : Operand) (thenTarget elseTarget : UInt64) :
      JumpsTo (.branch cond thenTarget elseTarget) elseTarget

theorem mem_operands_iff (o : Opcode) (x : Operand) : x ∈ o.operands ↔ o.Reads x := by
  constructor
  · intro h
    cases o with
    | move dst src =>
        obtain rfl := List.mem_singleton.mp h
        exact .moved dst x
    | binary dst op lhs rhs =>
        simp only [operands, List.mem_cons, List.not_mem_nil, or_false] at h
        rcases h with rfl | rfl
        · exact .binaryLeft dst op x rhs
        · exact .binaryRight dst op lhs x
    | compare dst pred lhs rhs =>
        simp only [operands, List.mem_cons, List.not_mem_nil, or_false] at h
        rcases h with rfl | rfl
        · exact .compareLeft dst pred x rhs
        · exact .compareRight dst pred lhs x
    | call dst callee args => exact .passed dst callee args x h
    | jump target => exact absurd h List.not_mem_nil
    | branch cond thenTarget elseTarget =>
        obtain rfl := List.mem_singleton.mp h
        exact .condition x thenTarget elseTarget
    | ret value =>
        obtain rfl := Option.mem_toList.mp h
        exact .returned x
  · rintro (_ | _ | _ | _ | _ | ⟨_, _, _, _, hx⟩ | _ | _)
    case passed => exact hx
    all_goals simp [operands]

theorem mem_targets_iff (o : Opcode) (target : UInt64) : target ∈ o.targets ↔ o.JumpsTo target := by
  constructor
  · intro h
    cases o with
    | jump target' =>
        obtain rfl := List.mem_singleton.mp h
        exact .jump target
    | branch cond thenTarget elseTarget =>
        simp only [targets, List.mem_cons, List.not_mem_nil, or_false] at h
        rcases h with rfl | rfl
        · exact .branchThen cond target elseTarget
        · exact .branchElse cond thenTarget target
    | _ => exact absurd h List.not_mem_nil
  · rintro (_ | _ | _)
    all_goals simp [targets]

end Opcode

/-- The places of a list that come after a first item are its own first place and those of what is
left. -/
theorem exists_split_cons_iff {α : Type} {P : List α → α → Prop} {head : α} {rest : List α} :
    (∃ before x after, head :: rest = before ++ x :: after ∧ P before x) ↔
      P [] head ∨ ∃ before x after, rest = before ++ x :: after ∧ P (head :: before) x := by
  constructor
  · rintro ⟨before, x, after, hsplit, h⟩
    cases before with
    | nil =>
        cases hsplit
        exact Or.inl h
    | cons first before =>
        cases hsplit
        exact Or.inr ⟨before, x, after, rfl, h⟩
  · rintro (h | ⟨before, x, after, rfl, h⟩)
    · exact ⟨[], head, rest, rfl, h⟩
    · exact ⟨head :: before, x, after, rfl, h⟩

theorem Operand.badArgument?_eq_some_iff (params : UInt32) (x : Operand) (argument : UInt32) :
    x.badArgument? params = some argument ↔ x = .arg argument ∧ params ≤ argument := by
  cases x with
  | arg index =>
      simp only [badArgument?, Operand.arg.injEq]
      split
      next hlt =>
        refine iff_of_false (by simp) ?_
        rintro ⟨rfl, hle⟩
        exact absurd hlt (UInt32.not_lt.mpr hle)
      next hnot =>
        rw [Option.some.injEq]
        exact ⟨fun h => ⟨h, h ▸ UInt32.not_lt.mp hnot⟩, And.left⟩
  | reg index => simp [badArgument?]
  | imm value => simp [badArgument?]

namespace Function

/-- The first violation of the instruction at an index of a function. -/
inductive FirstInInstruction (f : Function) (index : Nat) (o : Opcode) : Violation → Prop
  | target (before : List UInt64) (target : UInt64) (after : List UInt64)
      (split : o.targets = before ++ target :: after)
      (good : ∀ t ∈ before, t.toNat < f.body.length) (bad : f.body.length ≤ target.toNat) :
      FirstInInstruction f index o (.badTarget f.name index target)
  | argument (before : List Operand) (argument : UInt32) (after : List Operand)
      (targets : ∀ t ∈ o.targets, t.toNat < f.body.length)
      (split : o.operands = before ++ .arg argument :: after)
      (good : ∀ a, .arg a ∈ before → a < f.params) (bad : f.params ≤ argument) :
      FirstInInstruction f index o (.badArgument f.name index argument f.params)

/-- The first violation of a function that comes after others. -/
inductive FirstViolation (earlier : List Function) (f : Function) : Violation → Prop
  | takenName (taken : f.name ∈ earlier.map name) :
      FirstViolation earlier f (.duplicateFunction f.name)
  | emptyBody (new : f.name ∉ earlier.map name) (empty : f.body = []) :
      FirstViolation earlier f (.emptyBody f.name)
  | instruction (new : f.name ∉ earlier.map name) (before : List Instruction) (i : Instruction)
      (after : List Instruction) (split : f.body = before ++ i :: after)
      (good : ∀ j ∈ before, Allows f.params f.body.length j.opcode) (v : Violation)
      (bad : f.FirstInInstruction before.length i.opcode v) : FirstViolation earlier f v

theorem badTarget?_eq_some_iff (f : Function) (o : Opcode) (target : UInt64) :
    (o.targets.find? fun t => f.body.length ≤ t.toNat) = some target ↔
      ∃ before after, o.targets = before ++ target :: after ∧
        (∀ t ∈ before, t.toNat < f.body.length) ∧ f.body.length ≤ target.toNat := by
  rw [List.find?_eq_some_iff_append, decide_eq_true_eq]
  simp only [Bool.not_eq_true', decide_eq_false_iff_not, Nat.not_le]
  constructor
  · rintro ⟨hbad, before, after, hsplit, hgood⟩
    exact ⟨before, after, hsplit, hgood, hbad⟩
  · rintro ⟨before, after, hsplit, hgood, hbad⟩
    exact ⟨hbad, before, after, hsplit, hgood⟩

theorem badTarget?_eq_none_iff (f : Function) (o : Opcode) :
    (o.targets.find? fun t => f.body.length ≤ t.toNat) = none ↔
      ∀ t ∈ o.targets, t.toNat < f.body.length := by
  simp only [List.find?_eq_none, decide_eq_true_eq, Nat.not_le]

theorem badArgument?_eq_some_iff (f : Function) (o : Opcode) (argument : UInt32) :
    o.operands.findSome? (Operand.badArgument? f.params) = some argument ↔
      ∃ before after, o.operands = before ++ .arg argument :: after ∧
        (∀ a, .arg a ∈ before → a < f.params) ∧ f.params ≤ argument := by
  simp only [List.findSome?_eq_some_iff, Operand.badArgument?_eq_some_iff,
    Operand.badArgument?_eq_none_iff]
  constructor
  · rintro ⟨before, x, after, hsplit, ⟨rfl, hbad⟩, hgood⟩
    exact ⟨before, after, hsplit, fun a ha => hgood _ ha a rfl, hbad⟩
  · rintro ⟨before, after, hsplit, hgood, hbad⟩
    refine ⟨before, .arg argument, after, hsplit, ⟨rfl, hbad⟩, ?_⟩
    rintro x hx a rfl
    exact hgood a hx

theorem instructionViolation?_eq_some_iff (f : Function) (index : Nat) (o : Opcode)
    (v : Violation) :
    f.instructionViolation? index o = some v ↔ f.FirstInInstruction index o v := by
  rw [instructionViolation?]
  cases hfind : o.targets.find? fun target => decide (f.body.length ≤ target.toNat) with
  | some target =>
      rw [Option.some.injEq]
      constructor
      · rintro rfl
        obtain ⟨before, after, hsplit, hgood, hbad⟩ := (f.badTarget?_eq_some_iff o target).mp hfind
        exact .target before target after hsplit hgood hbad
      · rintro (⟨before, target', after, hsplit, hgood, hbad⟩ | ⟨_, _, _, htargets⟩)
        · have hfirst :=
            (f.badTarget?_eq_some_iff o target').mpr ⟨before, after, hsplit, hgood, hbad⟩
          rw [Option.some.inj (hfind.symm.trans hfirst)]
        · cases hfind.symm.trans ((f.badTarget?_eq_none_iff o).mpr htargets)
  | none =>
      rw [Option.map_eq_some_iff]
      constructor
      · rintro ⟨argument, hargument, rfl⟩
        obtain ⟨before, after, hsplit, hgood, hbad⟩ :=
          (f.badArgument?_eq_some_iff o argument).mp hargument
        exact .argument before argument after ((f.badTarget?_eq_none_iff o).mp hfind) hsplit hgood
          hbad
      · rintro (⟨before, target, after, hsplit, hgood, hbad⟩ | ⟨before, argument, after, -, hsplit,
          hgood, hbad⟩)
        · cases hfind.symm.trans
            ((f.badTarget?_eq_some_iff o target).mpr ⟨before, after, hsplit, hgood, hbad⟩)
        · exact ⟨argument,
            (f.badArgument?_eq_some_iff o argument).mpr ⟨before, after, hsplit, hgood, hbad⟩, rfl⟩

theorem bodyViolation?_eq_some_iff (f : Function) (first : Nat) (body : List Instruction)
    (v : Violation) :
    f.bodyViolation? first body = some v ↔
      ∃ before i after, body = before ++ i :: after ∧
        (∀ j ∈ before, Allows f.params f.body.length j.opcode) ∧
          f.FirstInInstruction (first + before.length) i.opcode v := by
  induction body generalizing first with
  | nil => simp [bodyViolation?]
  | cons i rest ih =>
      have hnext : ∀ before : List Instruction,
          first + (i :: before).length = first + 1 + before.length := by
        intro before
        rw [List.length_cons]
        omega
      rw [bodyViolation?, Option.or_eq_some_iff, instructionViolation?_eq_some_iff,
        instructionViolation?_eq_none_iff, ih, exists_split_cons_iff]
      simp only [List.forall_mem_cons, hnext]
      constructor
      · rintro (h | ⟨hi, before, j, after, hsplit, hgood, hbad⟩)
        · exact Or.inl ⟨fun j hj => absurd hj List.not_mem_nil, h⟩
        · exact Or.inr ⟨before, j, after, hsplit, ⟨hi, hgood⟩, hbad⟩
      · rintro (⟨-, h⟩ | ⟨before, j, after, hsplit, ⟨hi, hgood⟩, hbad⟩)
        · exact Or.inl h
        · exact Or.inr ⟨hi, before, j, after, hsplit, hgood, hbad⟩

/-- The first violation of a function where the names in `seen` are taken. -/
def violationAfter? (seen : List String) (f : Function) : Option Violation :=
  if seen.contains f.name then some (.duplicateFunction f.name)
  else if f.body.isEmpty then some (.emptyBody f.name)
  else f.bodyViolation? 0 f.body

theorem violationAfter?_eq_some_iff {seen : List String} {earlier : List Function}
    (hseen : ∀ name, name ∈ seen ↔ name ∈ earlier.map Function.name) (f : Function)
    (v : Violation) : f.violationAfter? seen = some v ↔ f.FirstViolation earlier v := by
  rw [violationAfter?]
  by_cases htaken : f.name ∈ seen
  · have htaken' := (hseen f.name).mp htaken
    rw [if_pos (List.contains_iff_mem.mpr htaken), Option.some.injEq]
    constructor
    · rintro rfl
      exact .takenName htaken'
    · rintro (_ | hnew | hnew)
      · rfl
      · exact absurd htaken' hnew
      · exact absurd htaken' hnew
  · have hnew : f.name ∉ earlier.map Function.name := fun h => htaken ((hseen f.name).mpr h)
    rw [if_neg fun hcontains => htaken (List.contains_iff_mem.mp hcontains)]
    by_cases hempty : f.body = []
    · rw [if_pos (List.isEmpty_iff.mpr hempty), Option.some.injEq]
      constructor
      · rintro rfl
        exact .emptyBody hnew hempty
      · rintro (htaken' | _ | ⟨_, before, i, after, hsplit⟩)
        · exact absurd htaken' hnew
        · rfl
        · rw [hempty] at hsplit
          exact absurd hsplit.symm (List.append_ne_nil_of_right_ne_nil _ nofun)
    · rw [if_neg fun hisEmpty => hempty (List.isEmpty_iff.mp hisEmpty),
        bodyViolation?_eq_some_iff]
      simp only [Nat.zero_add]
      constructor
      · rintro ⟨before, i, after, hsplit, hgood, hbad⟩
        exact .instruction hnew before i after hsplit hgood v hbad
      · rintro (htaken' | ⟨-, hempty'⟩ | ⟨-, before, i, after, hsplit, hgood, _, hbad⟩)
        · exact absurd htaken' hnew
        · exact absurd hempty' hempty
        · exact ⟨before, i, after, hsplit, hgood, hbad⟩

end Function

namespace Module

/-- The first violation of a module: that of a function where the functions before it have none. -/
inductive FirstViolation (m : Module) : Violation → Prop
  | function (before : List Function) (f : Function) (after : List Function)
      (split : m.functions = before ++ f :: after) (names : (before.map Function.name).Nodup)
      (good : ∀ g ∈ before, g.WellFormed) (v : Violation) (bad : f.FirstViolation before v) :
      FirstViolation m v

theorem violationFrom?_cons (seen : List String) (f : Function) (rest : List Function) :
    violationFrom? seen (f :: rest) =
      (f.violationAfter? seen).or (violationFrom? (f.name :: seen) rest) := by
  rw [violationFrom?, Function.violationAfter?]
  split
  · rfl
  · split
    · rfl
    · rfl

theorem violationFrom?_eq_some_iff {seen : List String} {earlier : List Function}
    (hseen : ∀ name, name ∈ seen ↔ name ∈ earlier.map Function.name) (functions : List Function)
    (v : Violation) :
    violationFrom? seen functions = some v ↔
      ∃ before f after, functions = before ++ f :: after ∧ violationFrom? seen before = none ∧
        f.FirstViolation (earlier ++ before) v := by
  induction functions generalizing seen earlier with
  | nil => simp [violationFrom?]
  | cons f rest ih =>
      -- the names seen are those of the functions passed, with this one among them from now on
      have hnext : ∀ name, name ∈ f.name :: seen ↔ name ∈ (earlier ++ [f]).map Function.name := by
        intro name
        rw [List.mem_cons, hseen, List.map_append, List.mem_append, List.map_singleton,
          List.mem_singleton, or_comm]
      rw [violationFrom?_cons, Option.or_eq_some_iff, ih hnext, exists_split_cons_iff,
        Function.violationAfter?_eq_some_iff hseen]
      simp only [violationFrom?_cons, Option.or_eq_none_iff, List.append_assoc,
        List.singleton_append, List.append_nil]
      constructor
      · rintro (h | ⟨hf, before, g, after, hsplit, hgood, hbad⟩)
        · exact Or.inl ⟨rfl, h⟩
        · exact Or.inr ⟨before, g, after, hsplit, ⟨hf, hgood⟩, hbad⟩
      · rintro (⟨-, h⟩ | ⟨before, g, after, hsplit, ⟨hf, hgood⟩, hbad⟩)
        · exact Or.inl h
        · exact Or.inr ⟨hf, before, g, after, hsplit, hgood, hbad⟩

theorem violation?_eq_some_iff (m : Module) (v : Violation) :
    m.violation? = some v ↔ m.FirstViolation v := by
  have hnone : ∀ name, name ∈ ([] : List String) ↔ name ∈ ([] : List Function).map Function.name :=
    fun _ => Iff.rfl
  rw [violation?, violationFrom?_eq_some_iff hnone]
  simp only [violationFrom?_eq_none_iff, List.nil_append]
  constructor
  · rintro ⟨before, f, after, hsplit, ⟨-, hnames, hgood⟩, hbad⟩
    exact .function before f after hsplit hnames hgood v hbad
  · rintro ⟨before, f, after, hsplit, hnames, hgood, _, hbad⟩
    exact ⟨before, f, after, hsplit, ⟨fun _ _ => List.not_mem_nil, hnames, hgood⟩, hbad⟩

/-- **The compiler accepts the well-formed modules and names the first violation of the others.**
A module compiles exactly if its functions have different names, none has an empty body, every jump
and branch leads to an instruction of its own body, and every argument that an opcode reads, at
whichever of its places, is one that the function takes. Compilation fails with a cause exactly if
the cause is the name of the module and its first violation; so it does fail for every other module,
and no module has two first violations. -/
theorem compile_decides (m : Module) :
    ((∃ a, m.compile = .ok a) ↔
      (m.functions.map Function.name).Nodup ∧ ∀ f ∈ m.functions, f.body ≠ [] ∧ ∀ i ∈ f.body,
        (∀ target, i.opcode.JumpsTo target → target.toNat < f.body.length) ∧
          ∀ index, i.opcode.Reads (.arg index) → index < f.params) ∧
      ∀ cause, m.compile = .error cause ↔ ∃ v, cause = .compile m.name v ∧ m.FirstViolation v := by
  constructor
  · have hok : (∃ a, m.compile = .ok a) ↔ m.violation? = none := by
      simp only [compile_eq_ok_iff, exists_and_left, exists_eq, and_true]
    rw [hok, violation?_eq_none_iff]
    refine and_congr_right fun _ => forall₂_congr fun f _ => ?_
    simp only [← Opcode.mem_targets_iff, ← Opcode.mem_operands_iff]
    constructor
    · intro h
      exact ⟨h.nonempty, fun i hi => ⟨(h.allowed i hi).targets, (h.allowed i hi).arguments⟩⟩
    · rintro ⟨hnonempty, hallowed⟩
      exact ⟨hnonempty, fun i hi => ⟨(hallowed i hi).1, (hallowed i hi).2⟩⟩
  · intro cause
    simp only [← violation?_eq_some_iff]
    rw [compile]
    cases m.violation? with
    | none => simp
    | some v => simp [eq_comm]

/-- Of a branch with two bad targets and a bad condition, in front of a function whose name is taken,
the first target is reported. -/
example : violation? ⟨"m", none, [⟨"f", 0, [⟨.branch (.arg 0) 5 9, none⟩]⟩, ⟨"f", 0, []⟩]⟩ =
    some (.badTarget "f" 0 5) := by
  decide

end Module

end MutationTesting
