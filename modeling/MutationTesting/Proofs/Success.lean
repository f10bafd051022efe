/-!
Computations that may fail. A composite computation returns only if its parts do, and what it
returns is made of what they return.
-/

namespace MutationTesting

theorem bind_ok {ε α β : Type} {x : Except ε α} {f : α → Except ε β} {b : β}
    (h : (x >>= f) = .ok b) : ∃ a, x = .ok a ∧ f a = .ok b := by
  cases x with
  | error e => cases h
  | ok a => exact ⟨a, rfl, h⟩

theorem map_ok {ε α β : Type} {x : Except ε α} {f : α → β} {b : β} (h : x.map f = .ok b) :
    ∃ a, x = .ok a ∧ f a = b := by
  cases x with
  | error e => cases h
  | ok a => exact ⟨a, rfl, Except.ok.inj h⟩

theorem mapM_option_ok {ε α β : Type} {f : α → Except ε β} {o : Option α} {x : Option β}
    (h : o.mapM f = .ok x) :
    (o = none ∧ x = none) ∨ ∃ a b, o = some a ∧ x = some b ∧ f a = .ok b := by
  cases o with
  | none =>
      cases h
      exact .inl ⟨rfl, rfl⟩
  | some a =>
      obtain ⟨b, hb, hx⟩ := bind_ok h
      cases hx
      exact .inr ⟨a, b, rfl, rfl, hb⟩

theorem mapM_cons_ok {ε α β : Type} {f : α → Except ε β} {a : α} {items : List α}
    {results : List β} (h : (a :: items).mapM f = .ok results) :
    ∃ b rest, f a = .ok b ∧ items.mapM f = .ok rest ∧ results = b :: rest := by
  rw [List.mapM_cons] at h
  obtain ⟨b, hb, h⟩ := bind_ok h
  obtain ⟨rest, hrest, h⟩ := bind_ok h
  exact ⟨b, rest, hb, hrest, (Except.ok.inj h).symm⟩

theorem mapM_ok_getElem? {ε α β : Type} {f : α → Except ε β} {items : List α} {results : List β}
    (h : items.mapM f = .ok results) {index : Nat} {a : α} (ha : items[index]? = some a) :
    ∃ b, f a = .ok b ∧ results[index]? = some b := by
  induction items generalizing results index with
  | nil => cases ha
  | cons head items ih =>
      obtain ⟨b, rest, hb, hrest, rfl⟩ := mapM_cons_ok h
      cases index with
      | zero =>
          rw [List.getElem?_cons_zero, Option.some.injEq] at ha
          exact ⟨b, ha ▸ hb, rfl⟩
      | succ index => exact ih hrest ha

theorem exists_of_mem_mapM {ε α β : Type} {f : α → Except ε β} {items : List α} {results : List β}
    (h : items.mapM f = .ok results) {b : β} (hb : b ∈ results) : ∃ a ∈ items, f a = .ok b := by
  induction items generalizing results with
  | nil =>
      cases h
      exact absurd hb List.not_mem_nil
  | cons a items ih =>
      obtain ⟨b', rest, hb', hrest, rfl⟩ := mapM_cons_ok h
      rcases List.mem_cons.mp hb with rfl | hb
      · exact ⟨a, List.mem_cons_self, hb'⟩
      · obtain ⟨a', ha', hf⟩ := ih hrest hb
        exact ⟨a', List.mem_cons_of_mem a ha', hf⟩

/-- With one item changed only that item matters. -/
theorem mapM_modify {ε α β : Type} {f : α → Except ε β} {items : List α} {results : List β}
    (h : items.mapM f = .ok results) {index : Nat} {a : α} (ha : items[index]? = some a)
    (g : α → α) : (items.modify index g).mapM f = (f (g a)).map fun b => results.set index b := by
  induction items generalizing results index with
  | nil => cases ha
  | cons head items ih =>
      obtain ⟨b, rest, hb, hrest, rfl⟩ := mapM_cons_ok h
      cases index with
      | zero =>
          rw [List.getElem?_cons_zero, Option.some.injEq] at ha
          subst ha
          rw [List.modify_zero_cons, List.mapM_cons, hrest]
          cases f (g head) <;> rfl
      | succ index =>
          rw [List.modify_succ_cons, List.mapM_cons, hb, ih hrest ha]
          cases f (g a) <;> rfl

end MutationTesting
