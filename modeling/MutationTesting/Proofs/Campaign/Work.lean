import MutationTesting.Campaign.Run

/-!
Steps of a campaign, and what they keep. A step is described by what holds of the workbench on every
exit, by what it returns, and by the causes it may fail with; the rules follow the ways in which
steps are put together.
-/

namespace MutationTesting.Work

variable {σ α β : Type}

/-- The outcome of a step and the workbench it leaves. -/
def perform (step : Work σ α) (bench : Workbench σ) : Except Failure α × Workbench σ :=
  step.run.run bench

theorem perform_bind (step : Work σ α) (next : α → Work σ β) (bench : Workbench σ) :
    perform (step >>= next) bench =
      match perform step bench with
      | (.ok a, bench) => perform (next a) bench
      | (.error cause, bench) => (.error cause, bench) := by
  simp only [perform, ExceptT.run_bind, StateT.run_bind]
  cases step.run.run bench with
  | mk outcome bench =>
      cases outcome with
      | ok a => rfl
      | error cause => rfl

theorem perform_bind_ok {step : Work σ α} {bench bench' : Workbench σ} {a : α}
    (h : perform step bench = (.ok a, bench')) (next : α → Work σ β) :
    perform (step >>= next) bench = perform (next a) bench' := by
  rw [perform_bind, h]

theorem perform_bind_error {step : Work σ α} {bench bench' : Workbench σ} {cause : Failure}
    (h : perform step bench = (.error cause, bench')) (next : α → Work σ β) :
    perform (step >>= next) bench = (.error cause, bench') := by
  rw [perform_bind, h]

theorem perform_get_bind (next : Workbench σ → Work σ β) (bench : Workbench σ) :
    perform (get >>= next) bench = perform (next bench) bench := rfl

/-- Begun with `inv`, the step ends with `inv` on every exit; what it returns satisfies `post`, and
the cause of a failure `blame`. -/
def Keeps (inv : Workbench σ → Prop) (blame : Failure → Prop) (post : α → Prop)
    (step : Work σ α) : Prop :=
  ∀ bench, inv bench → inv (perform step bench).2 ∧
    match (perform step bench).1 with
    | .ok a => post a
    | .error cause => blame cause

variable {inv : Workbench σ → Prop} {blame : Failure → Prop}

theorem Keeps.pure {post : α → Prop} {a : α} (h : post a) :
    Keeps inv blame post (pure a : Work σ α) :=
  fun _ hbench => ⟨hbench, h⟩

theorem Keeps.bind {mid : α → Prop} {post : β → Prop} {step : Work σ α} {next : α → Work σ β}
    (hstep : Keeps inv blame mid step) (hnext : ∀ a, mid a → Keeps inv blame post (next a)) :
    Keeps inv blame post (step >>= next) := by
  intro bench hbench
  obtain ⟨hinv, hout⟩ := hstep bench hbench
  rw [perform_bind]
  cases hrun : perform step bench with
  | mk outcome bench' =>
      rw [hrun] at hinv hout
      cases outcome with
      | ok a => exact hnext a hout bench' hinv
      | error cause => exact ⟨hinv, hout⟩

/-- A step that looks at the workbench may go by all that `inv` says of it. -/
theorem Keeps.get_bind {post : β → Prop} {next : Workbench σ → Work σ β}
    (h : ∀ bench, inv bench → Keeps inv blame post (next bench)) :
    Keeps inv blame post (get >>= next) := by
  intro bench hbench
  rw [perform_get_bind]
  exact h bench hbench bench hbench

theorem Keeps.weaken {post weaker : α → Prop} {step : Work σ α} (h : Keeps inv blame post step)
    (himp : ∀ a, post a → weaker a) : Keeps inv blame weaker step := by
  intro bench hbench
  obtain ⟨hinv, hout⟩ := h bench hbench
  refine ⟨hinv, ?_⟩
  cases hrun : (perform step bench).1 with
  | ok a =>
      rw [hrun] at hout
      exact himp a hout
  | error cause =>
      rw [hrun] at hout
      exact hout

/-- A loop whose rounds return what `result` says, provided that `given` holds, and return only if
`also` holds. -/
theorem Keeps.mapM {given : Prop} {result : α → β} {also : α → Prop} {step : α → Work σ β}
    {items : List α}
    (h : ∀ a ∈ items, Keeps inv blame (fun b => (given → b = result a) ∧ also a) (step a)) :
    Keeps inv blame (fun results => (given → results = items.map result) ∧ ∀ a ∈ items, also a)
      (items.mapM step) := by
  induction items with
  | nil => exact Keeps.pure ⟨fun _ => rfl, fun a ha => absurd ha List.not_mem_nil⟩
  | cons a rest ih =>
      rw [List.mapM_cons]
      refine Keeps.bind (h a List.mem_cons_self) fun b hb => ?_
      refine Keeps.bind (ih fun a' ha' => h a' (List.mem_cons_of_mem a ha')) fun bs hbs => ?_
      refine Keeps.pure ⟨fun hgiven => ?_, List.forall_mem_cons.mpr ⟨hb.2, hbs.2⟩⟩
      rw [hb.1 hgiven, hbs.1 hgiven, List.map_cons]

end MutationTesting.Work
