import Mathlib.Data.List.Pairwise
import MutationTesting.Json.Shape
import MutationTesting.Proofs.Success

/-!
Records by their members. Fields of a record keep apart what they read, so that members may be read
in either order, and then in any. What an object is read as does not depend on the order of its
members, as long as no name occurs twice and the reading succeeds.
-/

namespace MutationTesting.Shape

variable {σ : Type}

/-- Two fields of a record that may be read in either order, and of which neither is present because
the other is. -/
structure RecordField.Independent (f g : RecordField σ) : Prop where
  left : ∀ {s t : σ} {v : Json}, f.read s v = .ok t → g.present t = g.present s
  right : ∀ {s t : σ} {v : Json}, g.read s v = .ok t → f.present t = f.present s
  swap : ∀ {s t : σ} {v w : Json},
    (∃ u, f.read s v = .ok u ∧ g.read u w = .ok t) ↔ ∃ u, g.read s w = .ok u ∧ f.read u v = .ok t

theorem RecordField.Independent.symm {f g : RecordField σ} (h : f.Independent g) :
    g.Independent f where
  left := h.right
  right := h.left
  swap := h.swap.symm

instance : Std.Symm (@RecordField.Independent σ) := ⟨fun _ _ => RecordField.Independent.symm⟩

/-- Fields are independent if each leaves the part of the other alone. -/
theorem independent_of_set {α β : Type} {name name' : String} {get : σ → Option α}
    {get' : σ → Option β} {set : σ → α → σ} {set' : σ → β → σ} {shape : Shape α}
    {shape' : Shape β} {leavable leavable' : Bool} (hget : ∀ s y, get (set' s y) = get s)
    (hget' : ∀ s x, get' (set s x) = get' s)
    (hset : ∀ s x y, set' (set s x) y = set (set' s y) x) :
    RecordField.Independent
      ⟨name, fun s => (get s).isSome, fun s v => (shape v).map (set s), leavable⟩
      ⟨name', fun s => (get' s).isSome, fun s v => (shape' v).map (set' s), leavable'⟩ := by
  refine ⟨fun {s t v} h => ?_, fun {s t v} h => ?_, fun {s t v w} => ?_⟩
  · simp only at h ⊢
    cases hv : shape v with
    | error e =>
        rw [hv] at h
        cases h
    | ok x =>
        rw [hv] at h
        cases h
        rw [hget']
  · simp only at h ⊢
    cases hv : shape' v with
    | error e =>
        rw [hv] at h
        cases h
    | ok y =>
        rw [hv] at h
        cases h
        rw [hget]
  · cases hv : shape v with
    | error e => simp [hv, Except.map]
    | ok x =>
        cases hw : shape' w with
        | error e => simp [hw, Except.map]
        | ok y => simp [hv, hw, Except.map, hset]

/-- The record after one more member. -/
def member (fields : List (RecordField σ)) (record : σ) (m : String × Json) :
    Except ShapeError σ :=
  match fields.find? (fun field => field.name == m.1) with
  | none => do
    skip m.2
    .ok record
  | some field =>
    if field.present record then .error (.duplicateField m.1) else field.read record m.2

theorem members_cons (fields : List (RecordField σ)) (record : σ) (m : String × Json)
    (rest : List (String × Json)) :
    members fields record (m :: rest) = (member fields record m >>= fun r => members fields r rest)
    := by
  obtain ⟨key, value⟩ := m
  simp only [members, member]
  cases fields.find? (fun field => field.name == key) with
  | none =>
      simp only
      cases skip value <;> rfl
  | some field =>
      simp only
      split
      · rfl
      · rfl

/-- Two members of different names may be read in either order. -/
theorem member_swap {fields : List (RecordField σ)}
    (hfields : fields.Pairwise RecordField.Independent) {a b : String × Json} (hne : a.1 ≠ b.1)
    {s u t : σ} (ha : member fields s a = .ok u) (hb : member fields u b = .ok t) :
    ∃ u', member fields s b = .ok u' ∧ member fields u' a = .ok t := by
  simp only [member] at ha hb ⊢
  cases hfa : fields.find? (fun field => field.name == a.1) with
  | none =>
      rw [hfa] at ha
      obtain ⟨_, hskip, hu⟩ := bind_ok ha
      cases hu
      refine ⟨t, hb, ?_⟩
      simp only [hskip]
      rfl
  | some f =>
      cases hfb : fields.find? (fun field => field.name == b.1) with
      | none =>
          rw [hfb] at hb
          obtain ⟨_, hskip, hu⟩ := bind_ok hb
          cases hu
          rw [hfa] at ha
          refine ⟨s, ?_, ha⟩
          simp only [hskip]
          rfl
      | some g =>
          have hfname : f.name = a.1 := by simpa using List.find?_some hfa
          have hgname : g.name = b.1 := by simpa using List.find?_some hfb
          have hindependent : f.Independent g := by
            refine hfields.forall (List.mem_of_find?_eq_some hfa) (List.mem_of_find?_eq_some hfb) ?_
            rintro rfl
            exact hne (hfname.symm.trans hgname)
          rw [hfa] at ha
          rw [hfb] at hb
          simp only at ha hb ⊢
          split at ha
          · cases ha
          next hf =>
            split at hb
            · cases hb
            next hg =>
              obtain ⟨u', hb', ha'⟩ := hindependent.swap.mp ⟨u, ha, hb⟩
              rw [hindependent.left ha] at hg
              rw [← hindependent.right hb'] at hf
              exact ⟨u', by rw [if_neg hg, hb'], by rw [if_neg hf, ha']⟩

/-- **Members in any order.** -/
theorem members_of_perm {fields : List (RecordField σ)}
    (hfields : fields.Pairwise RecordField.Independent) {kept found : List (String × Json)}
    (hperm : kept.Perm found) (hkeys : (kept.map Prod.fst).Nodup) {s t : σ}
    (h : members fields s kept = .ok t) : members fields s found = .ok t := by
  induction hperm generalizing s with
  | nil => exact h
  | cons m _ ih =>
      rw [members_cons] at h ⊢
      obtain ⟨u, hm, hrest⟩ := bind_ok h
      rw [hm]
      exact ih (List.nodup_cons.mp hkeys).2 hrest
  | swap a b rest =>
      -- `b` comes first in the one list, `a` in the other
      rw [members_cons] at h
      obtain ⟨u, hb, h⟩ := bind_ok h
      rw [members_cons] at h
      obtain ⟨u', ha, hrest⟩ := bind_ok h
      have hne : b.1 ≠ a.1 := by
        intro heq
        simp [heq] at hkeys
      obtain ⟨w, ha', hb'⟩ := member_swap hfields hne hb ha
      rw [members_cons, ha']
      show members fields w (b :: rest) = .ok t
      rw [members_cons, hb']
      exact hrest
  | trans hperm₁ _ ih₁ ih₂ =>
      have hkeys' := ((hperm₁.map Prod.fst).nodup_iff).mp hkeys
      exact ih₂ hkeys' (ih₁ hkeys h)

theorem fromMembers_of_perm {fields : List (RecordField σ)}
    (hfields : fields.Pairwise RecordField.Independent) {kept found : List (String × Json)}
    (hperm : kept.Perm found) (hkeys : (kept.map Prod.fst).Nodup) {empty t : σ}
    (h : fromMembers fields empty kept = .ok t) : fromMembers fields empty found = .ok t := by
  obtain ⟨u, hu, h⟩ := bind_ok h
  rw [fromMembers, members_of_perm hfields hperm hkeys hu]
  exact h

end MutationTesting.Shape
