import Mathlib.Data.List.Nodup
import MutationTesting.Proofs.Discovery.Sites
import MutationTesting.Proofs.Mutation.Balance
import MutationTesting.Proofs.Mutation.Standard

/-!
Points found in one program. All points of a slot replace the one form that the program holds there,
each by another form, so that a slot which no longer holds its first form admits no application. The
balance of a slot then says it all: the first form, which no replacement brings back, can have been
replaced once at most. So the program is the first one overlaid with the replacements of the applied
points, of which no two share a slot, and calls fail for no reason but this one.
-/

namespace MutationTesting

/-- A point as it is found: it is not applied, and puts another form in place of what its slot
holds. -/
structure MutationPoint.Alters (p : MutationPoint) (program : Program) : Prop where
  unapplied : p.applied = false
  holds : program.opcode? p.address = some p.initial
  changes : p.mutated ≠ p.initial

theorem Testee.alters_of_mem {operators : List MutationOperator}
    (hchange : ∀ op ∈ operators, ∀ o, op.mutate o ≠ some o) {t : Testee} {program : Program}
    {p : MutationPoint} (h : p ∈ t.points program operators) : p.Alters program := by
  obtain ⟨_, hfits, -⟩ := fits_of_mem h
  obtain ⟨m, op, f, i, index, -, hop, -, -, hpoint⟩ := exists_of_mem h
  obtain ⟨mutated, hmutated, rfl⟩ := Option.map_eq_some_iff.mp hpoint
  refine ⟨rfl, hfits.holds, fun heq => ?_⟩
  exact hchange op hop _ (hmutated.trans (congrArg some heq))

namespace Program

/-- Writes the replacements of points into their slots, point by point. -/
def writeAll (program : Program) (points : List MutationPoint) : Program :=
  points.foldl (fun program p => program.setOpcode p.address p.mutated) program

theorem outline_writeAll (program : Program) (points : List MutationPoint) :
    (program.writeAll points).outline = program.outline := by
  induction points generalizing program with
  | nil => rfl
  | cons p rest ih => exact (ih _).trans (program.outline_setOpcode p.address p.mutated)

theorem opcode?_writeAll_of_notMem {program : Program} {points : List MutationPoint} {a : Address}
    (h : ∀ p ∈ points, p.address ≠ a) :
    (program.writeAll points).opcode? a = program.opcode? a := by
  induction points generalizing program with
  | nil => rfl
  | cons p rest ih =>
      obtain ⟨hp, hrest⟩ := List.forall_mem_cons.mp h
      exact (ih hrest).trans ((program.opcode?_setOpcode _ _ _).trans (if_neg hp))

/-- Where points have different slots, none is written over. -/
theorem opcode?_writeAll_of_mem {program : Program} {points : List MutationPoint}
    (hnodup : (points.map MutationPoint.address).Nodup) {p : MutationPoint} (hp : p ∈ points)
    {o : Opcode} (ho : program.opcode? p.address = some o) :
    (program.writeAll points).opcode? p.address = some p.mutated := by
  induction points generalizing program with
  | nil => exact absurd hp List.not_mem_nil
  | cons q rest ih =>
      rw [List.map_cons, List.nodup_cons] at hnodup
      obtain ⟨hq, hrest⟩ := hnodup
      rcases List.mem_cons.mp hp with rfl | hp
      · have hother : ∀ r ∈ rest, r.address ≠ p.address := fun r hr heq =>
          hq (heq ▸ List.mem_map_of_mem hr)
        exact (opcode?_writeAll_of_notMem hother).trans (opcode?_setOpcode_self ho p.mutated)
      · have hne : q.address ≠ p.address := fun heq => hq (heq ▸ List.mem_map_of_mem hp)
        have hheld : (program.setOpcode q.address q.mutated).opcode? p.address = some o := by
          rw [opcode?_setOpcode, if_neg hne, ho]
        exact ih hrest hp hheld

end Program

namespace Edits

/-- The points that are applied. -/
def applied (s : Edits) : List MutationPoint := s.points.filter (·.applied)

theorem mem_applied_iff (s : Edits) (p : MutationPoint) :
    p ∈ s.applied ↔ p ∈ s.points ∧ p.applied = true := List.mem_filter

section Altering

variable {start s : Edits} (h : Balanced start s)
  (halters : ∀ p ∈ start.points, p.Alters start.program)

include h halters

/-- Points keep what they replace and what by. -/
theorem Balanced.alters {p : MutationPoint} (hp : p ∈ s.points) :
    start.program.opcode? p.address = some p.initial ∧ p.mutated ≠ p.initial := by
  have hmem : p.unapplied ∈ start.points.map MutationPoint.unapplied :=
    h.family ▸ List.mem_map_of_mem hp
  obtain ⟨q, hq, heq⟩ := List.mem_map.mp hmem
  have haddress : q.address = p.address := congrArg (·.address) heq
  have hinitial : q.initial = p.initial := congrArg (·.initial) heq
  have hmutated : q.mutated = p.mutated := congrArg (·.mutated) heq
  rw [← haddress, ← hinitial, ← hmutated]
  exact ⟨(halters q hq).holds, (halters q hq).changes⟩

/-- No point brings the first form of a slot back. -/
theorem Balanced.installed_eq_zero {a : Address} {o : Opcode}
    (ho : start.program.opcode? a = some o) : installed s.points a o = 0 := by
  refine List.countP_eq_zero.mpr fun p hp => ?_
  simp only [Bool.and_eq_true, decide_eq_true_eq, not_and]
  rintro - rfl hmutated
  obtain ⟨hholds, hchanges⟩ := h.alters halters hp
  rw [ho, Option.some.injEq] at hholds
  exact hchanges (hmutated.trans hholds)

/-- Every applied point of a slot has replaced its first form. -/
theorem Balanced.displaced_eq {a : Address} (o : Opcode) :
    displaced s.points a o =
      if start.program.opcode? a = some o then
        s.points.countP fun p => p.applied && p.address = a
      else 0 := by
  have hinitial : ∀ p ∈ s.points, p.address = a →
      (p.initial = o ↔ start.program.opcode? a = some o) := by
    rintro p hp rfl
    rw [(h.alters halters hp).1, Option.some.injEq]
  split
  next ho =>
    refine List.countP_congr fun p hp => ?_
    simp only [Bool.and_eq_true, decide_eq_true_eq]
    exact and_congr_right fun _ =>
      ⟨And.left, fun ha => ⟨ha, (hinitial p hp ha).mpr ho⟩⟩
  next ho =>
    refine List.countP_eq_zero.mpr fun p hp => ?_
    simp only [Bool.and_eq_true, decide_eq_true_eq, not_and]
    exact fun _ ha hp' => ho ((hinitial p hp ha).mp hp')

theorem Balanced.count_applied_le_one (a : Address) :
    (s.points.countP fun p => p.applied && p.address = a) ≤ 1 := by
  cases ho : start.program.opcode? a with
  | some o =>
      -- the first form was there once, and each applied point of the slot has replaced it
      have hbalance := h.balance a o
      rw [h.installed_eq_zero halters ho, h.displaced_eq halters, if_pos ho, held, if_pos ho]
        at hbalance
      omega
  | none =>
      have hnone : (s.points.countP fun p => p.applied && p.address = a) = 0 := by
        refine List.countP_eq_zero.mpr fun p hp => ?_
        simp only [Bool.and_eq_true, decide_eq_true_eq, not_and]
        rintro - rfl
        rw [(h.alters halters hp).1] at ho
        cases ho
      omega

theorem Balanced.nodup_applied : (s.applied.map MutationPoint.address).Nodup := by
  refine List.nodup_iff_count_le_one.mpr fun a => ?_
  have hcount : (s.applied.map MutationPoint.address).count a =
      s.points.countP fun p => p.applied && p.address = a := by
    rw [List.count_eq_countP, List.countP_map, applied, List.countP_filter]
    refine List.countP_congr fun p _ => ?_
    simp [and_comm]
  rw [hcount]
  exact h.count_applied_le_one halters a

/-- The slot of an applied point holds the replacement. -/
theorem Balanced.opcode?_of_applied {p : MutationPoint} (hp : p ∈ s.applied) :
    s.program.opcode? p.address = some p.mutated := by
  obtain ⟨hmem, happlied⟩ := (s.mem_applied_iff p).mp hp
  obtain ⟨hholds, hchanges⟩ := h.alters halters hmem
  have hother : start.program.opcode? p.address ≠ some p.mutated := by
    rw [hholds, ne_eq, Option.some.injEq]
    exact hchanges.symm
  have hinstalled : 0 < installed s.points p.address p.mutated :=
    List.countP_pos_iff.mpr ⟨p, hmem, by simp [happlied]⟩
  -- the replacement was not there at first, and no point has replaced it
  have hbalance := h.balance p.address p.mutated
  rw [h.displaced_eq halters, if_neg hother, held, if_neg hother, held] at hbalance
  by_contra hno
  rw [if_neg hno] at hbalance
  omega

/-- A slot holds the replacement of the point that is applied there, or else its first form. -/
theorem Balanced.opcode?_cases (a : Address) :
    (∃ p ∈ s.applied, p.address = a ∧ s.program.opcode? a = some p.mutated) ∨
      (∀ p ∈ s.applied, p.address ≠ a) ∧ s.program.opcode? a = start.program.opcode? a := by
  by_cases ha : ∃ p ∈ s.applied, p.address = a
  · obtain ⟨p, hp, rfl⟩ := ha
    exact Or.inl ⟨p, hp, rfl, h.opcode?_of_applied halters hp⟩
  · have hnone : ∀ p ∈ s.applied, p.address ≠ a := fun p hp heq => ha ⟨p, hp, heq⟩
    refine Or.inr ⟨hnone, h.opcode?_eq fun p hp happlied => ?_⟩
    exact hnone p ((s.mem_applied_iff p).mpr ⟨hp, happlied⟩)

theorem Balanced.program_eq : s.program = start.program.writeAll s.applied := by
  have hnodup := h.nodup_applied halters
  refine Program.ext_of_outline (h.outline.trans (Program.outline_writeAll _ _).symm) fun a => ?_
  rcases h.opcode?_cases halters a with ⟨p, hp, rfl, hheld⟩ | ⟨hnone, hheld⟩
  · have hholds := (h.alters halters ((s.mem_applied_iff p).mp hp).1).1
    rw [hheld, Program.opcode?_writeAll_of_mem hnodup hp hholds]
  · rw [hheld, Program.opcode?_writeAll_of_notMem hnone]

/-- Where the same points are applied the program is the same. -/
theorem Balanced.program_congr {t : Edits} (ht : Balanced start t)
    (hsame : ∀ p, p ∈ s.applied ↔ p ∈ t.applied) : t.program = s.program := by
  refine Program.ext_of_outline (ht.outline.trans h.outline.symm) fun a => ?_
  rcases h.opcode?_cases halters a with ⟨p, hp, rfl, hheld⟩ | ⟨hnone, hheld⟩
  · rw [hheld, ht.opcode?_of_applied halters ((hsame p).mp hp)]
  · rw [hheld]
    refine ht.opcode?_eq fun p hp happlied => ?_
    exact hnone p ((hsame p).mpr ((t.mem_applied_iff p).mpr ⟨hp, happlied⟩))

/-- A slot holds the form that its points replace exactly if none of them is applied. -/
theorem Balanced.opcode?_eq_initial_iff {p : MutationPoint} (hp : p ∈ s.points) :
    s.program.opcode? p.address = some p.initial ↔ ¬ ∃ q ∈ s.applied, q.address = p.address := by
  have hholds := (h.alters halters hp).1
  rcases h.opcode?_cases halters p.address with ⟨q, hq, haddress, hheld⟩ | ⟨hnone, hheld⟩
  · obtain ⟨hqholds, hqchanges⟩ := h.alters halters ((s.mem_applied_iff q).mp hq).1
    rw [haddress, hholds, Option.some.injEq] at hqholds
    rw [hheld, Option.some.injEq, hqholds]
    exact iff_of_false hqchanges (not_not.mpr ⟨q, hq, haddress⟩)
  · rw [hheld]
    exact iff_of_true hholds fun ⟨q, hq, haddress⟩ => hnone q hq haddress

theorem Balanced.apply_eq {p : MutationPoint} (hp : p ∈ s.points) :
    p.apply s.program =
      if p.applied then .error (.alreadyApplied p.id)
      else if ∃ q ∈ s.applied, q.address = p.address then .error (.stalePoint p.id)
      else .ok ({ p with applied := true }, s.program.setOpcode p.address p.mutated) := by
  rw [p.apply_eq]
  simp only [h.opcode?_eq_initial_iff halters hp, ite_not]

theorem Balanced.revert_eq {p : MutationPoint} (hp : p ∈ s.points) :
    p.revert s.program =
      if p.applied then
        .ok ({ p with applied := false }, s.program.setOpcode p.address p.initial)
      else .error (.notApplied p.id) := by
  rw [p.revert_eq]
  split
  next happlied =>
    rw [if_pos (h.opcode?_of_applied halters ((s.mem_applied_iff p).mpr ⟨hp, happlied⟩))]
  next => rfl

end Altering

/-- **Found points overlay the program.** Points are found in a program by operators that change
every opcode they rewrite, and then called in any order, with calls that fail among them. At every
moment no two applied points share a slot; the program is the first one with the replacement of each
applied point in its slot, so that calls which leave the same points applied leave the same program.
Applying fails if the point is applied already or another one is applied in its slot, and otherwise
applies it; reverting fails if the point is not applied, and otherwise reverts it; and a call that
fails leaves the program and every point as they are. -/
theorem run_overlay {operators : List MutationOperator}
    (hchange : ∀ op ∈ operators, ∀ o, op.mutate o ≠ some o) (s : Edits)
    (hfound : ∀ p ∈ s.points, ∃ testee : Testee, p ∈ testee.points s.program operators)
    (calls : List Call) :
    let t := s.run calls
    t.points.map MutationPoint.unapplied = s.points.map MutationPoint.unapplied ∧
      (t.applied.map MutationPoint.address).Nodup ∧
      t.program = s.program.writeAll t.applied ∧
      (∀ others, (∀ p, p ∈ t.applied ↔ p ∈ (s.run others).applied) →
        (s.run others).program = t.program) ∧
      ∀ index p, t.points[index]? = some p →
        (p.apply t.program =
          if p.applied then .error (.alreadyApplied p.id)
          else if ∃ q ∈ t.applied, q.address = p.address then .error (.stalePoint p.id)
          else .ok ({ p with applied := true }, t.program.setOpcode p.address p.mutated)) ∧
        (p.revert t.program =
          if p.applied then
            .ok ({ p with applied := false }, t.program.setOpcode p.address p.initial)
          else .error (.notApplied p.id)) ∧
        (∀ cause, p.apply t.program = .error cause → t.step (.apply index) = t) ∧
        ∀ cause, p.revert t.program = .error cause → t.step (.revert index) = t := by
  intro t
  have halters : ∀ p ∈ s.points, p.Alters s.program := by
    intro p hp
    obtain ⟨testee, htestee⟩ := hfound p hp
    exact Testee.alters_of_mem hchange htestee
  have hstart := Balanced.refl fun p hp => (halters p hp).unapplied
  have hbalanced : Balanced s t := hstart.run calls
  refine ⟨hbalanced.family, hbalanced.nodup_applied halters, hbalanced.program_eq halters,
    fun others hsame => ?_, fun index p hp => ?_⟩
  · exact hbalanced.program_congr halters (hstart.run others) hsame
  · have hmem := List.mem_of_getElem? hp
    exact ⟨hbalanced.apply_eq halters hmem, hbalanced.revert_eq halters hmem,
      fun _ => update_error hp, fun _ => update_error hp⟩

/-- A comparison, which can be moved by its boundary or negated, and an addition. -/
def contested : Program :=
  ⟨[⟨"m", none, [⟨"f", 2, [⟨.compare 0 .slt (.arg 0) (.arg 1), none⟩,
    ⟨.binary 0 .add (.arg 0) (.arg 1), none⟩, ⟨.ret none, none⟩]⟩]⟩]⟩

/-- The function of that program. -/
def contestedFunction : Testee := ⟨"f", 0, 0, 1⟩

/-- The points of it in their order: the boundary, the addition, the negation. -/
def contest : Edits := ⟨contested, contestedFunction.points contested MutationOperator.all⟩

/-- The negation is refused while the boundary is moved. Applying the boundary and the addition, in
either order and with the negation tried or undone in between, ends in one program, which is not the
first one. -/
theorem contest_run_overlay :
    (∀ op ∈ MutationOperator.all, ∀ o, op.mutate o ≠ some o) ∧
      (∀ p ∈ contest.points, ∃ testee : Testee,
        p ∈ testee.points contest.program MutationOperator.all) ∧
      (∃ p, (contest.run [.apply 0]).points[2]? = some p ∧
        p.apply (contest.run [.apply 0]).program = .error (.stalePoint p.id)) ∧
      (contest.run [.apply 2, .apply 1, .revert 2, .revert 2, .apply 0]).program =
        (contest.run [.apply 0, .apply 2, .apply 1]).program ∧
      (contest.run [.apply 0, .apply 2, .apply 1]).program ≠ contest.program := by
  have hchange : ∀ op ∈ MutationOperator.all, ∀ o, op.mutate o ≠ some o :=
    fun _ => MutationOperator.mutate_ne_self_of_mem_all
  have hfound : ∀ p ∈ contest.points, ∃ testee : Testee,
      p ∈ testee.points contest.program MutationOperator.all := fun p hp => ⟨contestedFunction, hp⟩
  have hoverlay := run_overlay hchange contest hfound
  refine ⟨hchange, hfound, ?_, ?_, by decide⟩
  · obtain ⟨-, -, -, -, hcalls⟩ := hoverlay [.apply 0]
    exact ⟨_, rfl, (hcalls 2 _ rfl).1.trans ((if_neg (by decide)).trans (if_pos (by decide)))⟩
  · obtain ⟨-, -, -, hsame, -⟩ := hoverlay [.apply 0, .apply 2, .apply 1]
    have happlied : (contest.run [.apply 0, .apply 2, .apply 1]).applied =
        (contest.run [.apply 2, .apply 1, .revert 2, .revert 2, .apply 0]).applied := by decide
    exact hsame _ fun p => by rw [happlied]

end Edits

end MutationTesting
