import MutationTesting.Mutation.Point
import MutationTesting.Proofs.Program.Slot

/-!
Families of points under calls in any order. Points may share slots and form chains, and they need
not be reverted in the opposite order of their application, so that no stack of earlier forms tells
what a slot holds. What calls keep is a balance: over the applied points of a slot, its first form
together with the replacements makes up the same opcodes, each as often, as its present form and the
forms replaced. Where no point is applied, the first form is the present one.
-/

namespace MutationTesting

namespace MutationPoint

/-- What applying does: nothing but fail unless the point is unapplied and its slot holds the form
to be replaced. -/
theorem apply_eq (p : MutationPoint) (program : Program) :
    p.apply program =
      if p.applied then .error (.alreadyApplied p.id)
      else if program.opcode? p.address = some p.initial then
        .ok ({ p with applied := true }, program.setOpcode p.address p.mutated)
      else .error (.stalePoint p.id) := by
  unfold apply exchange
  split
  · rfl
  · cases program.opcode? p.address with
    | none => rfl
    | some o =>
        by_cases h : o = p.initial
        · rw [if_pos (congrArg some h)]
          simp only [h, if_pos]
          rfl
        · rw [if_neg (fun h' => h (Option.some.inj h'))]
          simp only [h, if_neg, not_false_eq_true]
          rfl

theorem revert_eq (p : MutationPoint) (program : Program) :
    p.revert program =
      if p.applied then
        if program.opcode? p.address = some p.mutated then
          .ok ({ p with applied := false }, program.setOpcode p.address p.initial)
        else .error (.stalePoint p.id)
      else .error (.notApplied p.id) := by
  unfold revert exchange
  split
  · cases program.opcode? p.address with
    | none => rfl
    | some o =>
        by_cases h : o = p.mutated
        · rw [if_pos (congrArg some h)]
          simp only [h, if_pos]
          rfl
        · rw [if_neg (fun h' => h (Option.some.inj h'))]
          simp only [h, if_neg, not_false_eq_true]
          rfl
  · rfl

theorem apply_cases (p : MutationPoint) (program : Program) :
    (∃ cause, p.apply program = .error cause) ∨
      p.applied = false ∧ program.opcode? p.address = some p.initial ∧
        p.apply program =
          .ok ({ p with applied := true }, program.setOpcode p.address p.mutated) := by
  rw [apply_eq]
  split
  · exact Or.inl ⟨_, rfl⟩
  next happlied =>
    split
    next hheld => exact Or.inr ⟨Bool.eq_false_iff.mpr happlied, hheld, rfl⟩
    · exact Or.inl ⟨_, rfl⟩

theorem revert_cases (p : MutationPoint) (program : Program) :
    (∃ cause, p.revert program = .error cause) ∨
      p.applied = true ∧ program.opcode? p.address = some p.mutated ∧
        p.revert program =
          .ok ({ p with applied := false }, program.setOpcode p.address p.initial) := by
  rw [revert_eq]
  split
  next happlied =>
    split
    next hheld => exact Or.inr ⟨happlied, hheld, rfl⟩
    · exact Or.inl ⟨_, rfl⟩
  · exact Or.inl ⟨_, rfl⟩

/-- The point as it was made. -/
def unapplied (p : MutationPoint) : MutationPoint := { p with applied := false }

end MutationPoint

/-- A program and a family of points that edit it. -/
structure Edits where
  program : Program
  points : List MutationPoint

/-- A call of a point of a family, by the position of the point. -/
inductive Call where
  | apply (index : Nat)
  | revert (index : Nat)

namespace Edits

/-- Changes a point and the program together; a change that fails leaves both as they are. -/
def update (s : Edits) (index : Nat)
    (change : MutationPoint → Program → Except Failure (MutationPoint × Program)) : Edits :=
  match s.points[index]? with
  | none => s
  | some p =>
    match change p s.program with
    | .error _ => s
    | .ok (p, program) => ⟨program, s.points.set index p⟩

def step (s : Edits) : Call → Edits
  | .apply index => s.update index MutationPoint.apply
  | .revert index => s.update index MutationPoint.revert

def run (s : Edits) (calls : List Call) : Edits := calls.foldl step s

/-- A step that writes `after` into the slot of a point, which held `before`, and turns the flag of
the point to `flag`. -/
structure Turns (s t : Edits) (index : Nat) (p : MutationPoint) (flag : Bool)
    (before after : Opcode) : Prop where
  point : s.points[index]? = some p
  turned : p.applied = !flag
  holds : s.program.opcode? p.address = some before
  program : t.program = s.program.setOpcode p.address after
  points : t.points = s.points.set index { p with applied := flag }

section Update

variable {s : Edits} {index : Nat} {p : MutationPoint}
  {change : MutationPoint → Program → Except Failure (MutationPoint × Program)}

theorem update_error {cause : Failure} (hp : s.points[index]? = some p)
    (h : change p s.program = .error cause) : s.update index change = s := by
  rw [update, hp]
  simp only [h]

theorem update_turns {flag : Bool} {before after : Opcode} (hp : s.points[index]? = some p)
    (hturned : p.applied = !flag) (hheld : s.program.opcode? p.address = some before)
    (h : change p s.program =
      .ok ({ p with applied := flag }, s.program.setOpcode p.address after)) :
    Turns s (s.update index change) index p flag before after := by
  have hupdate : s.update index change = ⟨s.program.setOpcode p.address after,
      s.points.set index { p with applied := flag }⟩ := by
    rw [update, hp]
    simp only [h]
  exact ⟨hp, hturned, hheld, congrArg Edits.program hupdate, congrArg Edits.points hupdate⟩

end Update

/-- All that a call can do. -/
theorem step_cases (s : Edits) (call : Call) :
    s.step call = s ∨
      (∃ index p, Turns s (s.step call) index p true p.initial p.mutated) ∨
      ∃ index p, Turns s (s.step call) index p false p.mutated p.initial := by
  cases call with
  | apply index =>
      cases hp : s.points[index]? with
      | none => exact Or.inl (by rw [step, update, hp])
      | some p =>
          rcases p.apply_cases s.program with ⟨cause, hcause⟩ | ⟨happlied, hheld, hok⟩
          · exact Or.inl (update_error hp hcause)
          · exact Or.inr (Or.inl ⟨index, p, update_turns hp happlied hheld hok⟩)
  | revert index =>
      cases hp : s.points[index]? with
      | none => exact Or.inl (by rw [step, update, hp])
      | some p =>
          rcases p.revert_cases s.program with ⟨cause, hcause⟩ | ⟨happlied, hheld, hok⟩
          · exact Or.inl (update_error hp hcause)
          · exact Or.inr (Or.inr ⟨index, p, update_turns hp happlied hheld hok⟩)

/-! ### The balance -/

theorem countP_set_add {α : Type} (q : α → Bool) {items : List α} {index : Nat} {a : α}
    (h : items[index]? = some a) (b : α) :
    (items.set index b).countP q + (if q a then 1 else 0) =
      items.countP q + if q b then 1 else 0 := by
  induction items generalizing index with
  | nil => cases h
  | cons head rest ih =>
      cases index with
      | zero =>
          rw [List.getElem?_cons_zero, Option.some.injEq] at h
          subst h
          rw [List.set_cons_zero, List.countP_cons, List.countP_cons]
          omega
      | succ index =>
          rw [List.getElem?_cons_succ] at h
          have hrest := ih h
          rw [List.set_cons_succ, List.countP_cons, List.countP_cons]
          omega

/-- Whether a slot holds an opcode, as a number. -/
def held (program : Program) (a : Address) (o : Opcode) : Nat :=
  if program.opcode? a = some o then 1 else 0

/-- How many applied points have written an opcode into a slot. -/
def installed (points : List MutationPoint) (a : Address) (o : Opcode) : Nat :=
  points.countP fun p => p.applied && (p.address = a && p.mutated = o)

/-- How many applied points have replaced an opcode in a slot. -/
def displaced (points : List MutationPoint) (a : Address) (o : Opcode) : Nat :=
  points.countP fun p => p.applied && (p.address = a && p.initial = o)

/-- What every call keeps. The balance of a slot is an equation for each opcode, so that it holds
between the two collections of opcodes whatever the order in which points are turned. -/
structure Balanced (start s : Edits) : Prop where
  outline : s.program.outline = start.program.outline
  family : s.points.map MutationPoint.unapplied = start.points.map MutationPoint.unapplied
  balance : ∀ a o, held start.program a o + installed s.points a o =
    held s.program a o + displaced s.points a o

section Turning

variable {s t : Edits} {index : Nat} {p : MutationPoint} {flag : Bool} {before after : Opcode}

/-- The slot of the point exchanges one form for the other, and no other slot changes. -/
theorem Turns.held_add (h : Turns s t index p flag before after) (a : Address) (o : Opcode) :
    held t.program a o + (if p.address = a ∧ before = o then 1 else 0) =
      held s.program a o + if p.address = a ∧ after = o then 1 else 0 := by
  simp only [held, h.program, Program.opcode?_setOpcode]
  by_cases ha : p.address = a
  · subst ha
    simp only [h.holds, if_true, Option.map_some, Option.some.injEq, true_and]
    omega
  · simp only [ha, if_false, false_and]

theorem Turns.countP_add (h : Turns s t index p flag before after) (q : MutationPoint → Bool)
    (hq : ∀ p f, q { p with applied := f } = q p) :
    t.points.countP (fun p => p.applied && q p) + (if !flag && q p then 1 else 0) =
      s.points.countP (fun p => p.applied && q p) + if flag && q p then 1 else 0 := by
  have hcount := countP_set_add (fun p => p.applied && q p) h.point { p with applied := flag }
  simp only [h.turned, hq] at hcount
  rw [h.points, hcount]

theorem Turns.unapplied_points (h : Turns s t index p flag before after) :
    t.points.map MutationPoint.unapplied = s.points.map MutationPoint.unapplied := by
  rw [h.points, List.map_set]
  have hp : (s.points.map MutationPoint.unapplied)[index]? = some p.unapplied := by
    rw [List.getElem?_map, h.point]
    rfl
  obtain ⟨hlength, hget⟩ := List.getElem?_eq_some_iff.mp hp
  show (s.points.map MutationPoint.unapplied).set index p.unapplied = _
  rw [← hget, List.set_getElem_self]

end Turning

theorem Balanced.refl {s : Edits} (h : ∀ p ∈ s.points, p.applied = false) : Balanced s s where
  outline := rfl
  family := rfl
  balance := by
    intro a o
    have hnone : ∀ q : MutationPoint → Bool, s.points.countP (fun p => p.applied && q p) = 0 :=
      fun q => List.countP_eq_zero.mpr fun p hp => by simp [h p hp]
    rw [installed, displaced, hnone, hnone]

theorem Balanced.step {start s : Edits} (h : Balanced start s) (call : Call) :
    Balanced start (s.step call) := by
  rcases s.step_cases call with heq | ⟨index, p, hturn⟩ | ⟨index, p, hturn⟩
  · rw [heq]
    exact h
  all_goals
    refine ⟨?_, hturn.unapplied_points.trans h.family, fun a o => ?_⟩
    · rw [hturn.program, Program.outline_setOpcode]
      exact h.outline
    · have hheld := hturn.held_add a o
      have hin := hturn.countP_add (fun p => p.address = a && p.mutated = o) fun _ _ => rfl
      have hout := hturn.countP_add (fun p => p.address = a && p.initial = o) fun _ _ => rfl
      have hbalance := h.balance a o
      simp only [installed, displaced] at hbalance ⊢
      simp only [Bool.not_true, Bool.not_false, Bool.false_and, Bool.true_and, Bool.and_eq_true,
        decide_eq_true_eq, Bool.false_eq_true, if_false] at hin hout
      omega

theorem Balanced.run {start s : Edits} (h : Balanced start s) (calls : List Call) :
    Balanced start (s.run calls) := by
  induction calls generalizing s with
  | nil => exact h
  | cons call rest ih => exact ih (h.step call)

/-- A slot without applied points holds its first form. -/
theorem Balanced.opcode?_eq {start s : Edits} (h : Balanced start s) {a : Address}
    (ha : ∀ p ∈ s.points, p.applied = true → p.address ≠ a) :
    s.program.opcode? a = start.program.opcode? a := by
  have hnone : ∀ q : MutationPoint → Bool,
      s.points.countP (fun p => p.applied && (p.address = a && q p)) = 0 := by
    refine fun q => List.countP_eq_zero.mpr fun p hp => ?_
    cases happlied : p.applied with
    | false => simp
    | true => simp [ha p hp happlied]
  have hheld : ∀ o, held start.program a o = held s.program a o := by
    intro o
    have hbalance := h.balance a o
    rw [installed, displaced, hnone, hnone] at hbalance
    exact hbalance
  -- a slot that holds something in one of the programs holds the same in the other
  have hiff : ∀ o, start.program.opcode? a = some o ↔ s.program.opcode? a = some o := by
    intro o
    have ho := hheld o
    unfold held at ho
    split at ho <;> split at ho <;> simp_all
  exact (Option.ext hiff).symm

/-- **Slots without applied points are as at first.** A family of unapplied points and a program go
through any calls in any order, those that fail included: the outline of the program stays, so does
each point apart from its flag, every slot that no point is applied to holds what it held at first,
and once no point is applied the program is the first one. -/
theorem run_restores (s : Edits) (h : ∀ p ∈ s.points, p.applied = false) (calls : List Call) :
    (s.run calls).program.outline = s.program.outline ∧
      (s.run calls).points.map MutationPoint.unapplied = s.points ∧
      (∀ a, (∀ p ∈ (s.run calls).points, p.applied = true → p.address ≠ a) →
        (s.run calls).program.opcode? a = s.program.opcode? a) ∧
      ((∀ p ∈ (s.run calls).points, p.applied = false) → (s.run calls).program = s.program) := by
  have hbalanced := (Balanced.refl h).run calls
  have hfirst : s.points.map MutationPoint.unapplied = s.points := by
    refine (List.map_congr_left fun p hp => ?_).trans (List.map_id _)
    show { p with applied := false } = p
    rw [← h p hp]
  refine ⟨hbalanced.outline, hbalanced.family.trans hfirst, fun a => hbalanced.opcode?_eq, ?_⟩
  intro hall
  refine Program.ext_of_outline hbalanced.outline fun a => ?_
  refine hbalanced.opcode?_eq fun p hp happlied => ?_
  rw [hall p hp] at happlied
  cases happlied

/-- Three points on the one slot of a program, each of which continues the one before. -/
def chain : Edits :=
  let first : Opcode := .ret none
  let second : Opcode := .jump 0
  let point (initial mutated : Opcode) : MutationPoint :=
    ⟨⟨0, 0, 0⟩, .mathAdd, "f", initial, mutated, none, false⟩
  ⟨⟨[⟨"m", none, [⟨"f", 0, [⟨first, none⟩]⟩]⟩]⟩,
    [point first second, point second first, point first second]⟩

/-- Reverting the chain from its first point on, with calls out of turn in between, restores the
program; all three points have been applied before. -/
theorem chain_run_restores :
    (∀ p ∈ chain.points, p.applied = false) ∧
      (∀ p ∈ (chain.run [.apply 0, .apply 0, .apply 1, .revert 2, .apply 2]).points,
        p.applied = true) ∧
      (chain.run [.apply 0, .apply 0, .apply 1, .revert 2, .apply 2, .revert 0, .revert 1,
        .revert 2]).program = chain.program :=
  ⟨by decide, by decide,
    (run_restores chain (by decide) [.apply 0, .apply 0, .apply 1, .revert 2, .apply 2, .revert 0,
      .revert 1, .revert 2]).2.2.2 (by decide)⟩

end Edits

end MutationTesting
