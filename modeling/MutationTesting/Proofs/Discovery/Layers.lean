import MutationTesting.Discovery.Finder
import MutationTesting.Proofs.Program.Definition

/-!
Layers of functions around a test. A layer has every function, tests apart, that the layer before
calls and that no earlier layer has. So calls lead out of the layers only beyond the last one, and
beyond it there is nothing if there may be as many layers as there are functions.
-/

namespace MutationTesting

def Test.site (t : Test) : Nat × Nat := (t.module, t.function)

namespace Program

/-- The body at one site has a call of the function at the other. -/
def Calls (p : Program) (a b : Nat × Nat) : Prop :=
  ∃ name ∈ Finder.calleesAt p a, p.definition? name = some b

theorem Calls.defined {p : Program} {a b : Nat × Nat} (h : p.Calls a b) : b ∈ p.sites := by
  obtain ⟨id, index⟩ := b
  obtain ⟨name, -, hname⟩ := h
  obtain ⟨f, hf, -⟩ := definition?_eq_some hname
  exact mem_sites_of_function? hf

end Program

namespace Finder

variable {finder : Finder} {program : Program}

/-- A call that the finder follows: one of a function that is no test. -/
def Enters (finder : Finder) (program : Program) (a b : Nat × Nat) : Prop :=
  ∃ name ∈ calleesAt program a, finder.isTest name = false ∧ program.definition? name = some b

theorem Enters.calls {a b : Nat × Nat} (h : finder.Enters program a b) : program.Calls a b := by
  obtain ⟨name, hname, -, hb⟩ := h
  exact ⟨name, hname, hb⟩

/-- What is fresh among names: the functions that they stand for, without tests and without those
seen before. -/
theorem mem_sites_fresh_iff (distance : Nat) (seen : List (Nat × Nat)) (names : List String)
    (site : Nat × Nat) :
    site ∈ (finder.fresh program distance seen names).map Testee.site ↔
      site ∉ seen ∧
        ∃ name ∈ names, finder.isTest name = false ∧ program.definition? name = some site := by
  induction names generalizing seen with
  | nil => simp [fresh]
  | cons name rest ih =>
      simp only [List.mem_cons, exists_eq_or_imp]
      rw [fresh]
      cases hname : program.definition? name with
      | none =>
          rw [ih]
          simp
      | some found =>
          simp only [Option.some.injEq]
          by_cases hskip : finder.isTest name = true ∨ found ∈ seen
          · -- the first name stands for nothing fresh
            rw [if_pos (by simpa using hskip), ih]
            refine and_congr_right fun hnew => (or_iff_right ?_).symm
            rintro ⟨htest, rfl⟩
            rcases hskip with hskip | hskip
            · rw [htest] at hskip
              cases hskip
            · exact hnew hskip
          · obtain ⟨htest, hseen⟩ := not_or.mp hskip
            rw [Bool.not_eq_true] at htest
            rw [if_neg (by simpa [htest] using hseen), List.map_cons, List.mem_cons, ih,
              List.mem_cons, not_or]
            show site = found ∨ _ ↔ _
            by_cases hsite : site = found
            · subst hsite
              simp [htest, hseen]
            · simp [hsite, Ne.symm hsite]

theorem nodup_sites_fresh (distance : Nat) (seen : List (Nat × Nat)) (names : List String) :
    ((finder.fresh program distance seen names).map Testee.site).Nodup := by
  induction names generalizing seen with
  | nil => exact List.nodup_nil
  | cons name rest ih =>
      rw [fresh]
      cases program.definition? name with
      | none => exact ih seen
      | some found =>
          simp only
          split
          · exact ih seen
          · rw [List.map_cons, List.nodup_cons]
            refine ⟨fun hmem => ?_, ih _⟩
            exact ((mem_sites_fresh_iff _ _ _ _).mp hmem).1 List.mem_cons_self

/-- The functions called from a border that have not been seen before, in the order of the calls. -/
theorem mem_sites_fresh_border_iff (finder : Finder) (program : Program) (distance : Nat)
    (seen border : List (Nat × Nat)) (b : Nat × Nat) :
    b ∈ (finder.fresh program distance seen (border.flatMap (calleesAt program))).map
        Testee.site ↔ b ∉ seen ∧ ∃ a ∈ border, finder.Enters program a b := by
  rw [mem_sites_fresh_iff]
  refine and_congr_right fun _ => ?_
  constructor
  · rintro ⟨name, hname, hb⟩
    obtain ⟨a, ha, hname⟩ := List.mem_flatMap.mp hname
    exact ⟨a, ha, name, hname, hb⟩
  · rintro ⟨a, ha, name, hname, hb⟩
    exact ⟨name, List.mem_flatMap.mpr ⟨a, ha, hname⟩, hb⟩

/-- Whatever is fresh has the distance of the layer and the name by which it is found. -/
theorem of_mem_fresh {distance : Nat} {seen : List (Nat × Nat)} {names : List String} {t : Testee}
    (h : t ∈ finder.fresh program distance seen names) :
    t.distance = distance ∧ program.definition? t.name = some t.site := by
  induction names generalizing seen with
  | nil => exact absurd h List.not_mem_nil
  | cons name rest ih =>
      rw [fresh] at h
      cases hname : program.definition? name with
      | none =>
          rw [hname] at h
          exact ih h
      | some found =>
          simp only [hname] at h
          split at h
          · exact ih h
          · rcases List.mem_cons.mp h with rfl | h
            · exact ⟨rfl, hname⟩
            · exact ih h

theorem layers_nil (depth distance : Nat) (seen : List (Nat × Nat)) :
    finder.layers program depth distance seen [] = [] := by
  cases depth with
  | zero => rfl
  | succ depth => rfl

/-- The layers are the first one and those around it; there are none around an empty one. -/
theorem layers_succ (depth distance : Nat) (seen border : List (Nat × Nat)) :
    finder.layers program (depth + 1) distance seen border =
      let found := finder.fresh program distance seen (border.flatMap (calleesAt program))
      let sites := found.map Testee.site
      found ++ finder.layers program depth (distance + 1) (sites.reverse ++ seen) sites := by
  rw [layers]
  cases finder.fresh program distance seen (border.flatMap (calleesAt program)) with
  | nil => exact (layers_nil depth (distance + 1) ([] ++ seen)).symm
  | cons first rest => rfl

/-- The sites of a search so far: calls lead out of them only from the last layer, the border. -/
structure Explored (finder : Finder) (program : Program) (seen border : List (Nat × Nat)) :
    Prop where
  nodup : seen.Nodup
  defined : ∀ a ∈ seen, a ∈ program.sites
  inside : ∀ a ∈ seen, a ∉ border → ∀ b, finder.Enters program a b → b ∈ seen

section Explored

variable {seen border : List (Nat × Nat)}

theorem Explored.start (finder : Finder) {site : Nat × Nat} (h : site ∈ program.sites) :
    finder.Explored program [site] [site] where
  nodup := List.nodup_singleton site
  defined := by
    intro a ha
    rw [List.mem_singleton.mp ha]
    exact h
  inside := fun a ha hborder => absurd ha hborder

/-- The next layer is the next border. -/
theorem Explored.next (h : finder.Explored program seen border) (distance : Nat) :
    let sites := (finder.fresh program distance seen (border.flatMap (calleesAt program))).map
      Testee.site
    finder.Explored program (sites.reverse ++ seen) sites := by
  intro sites
  have hsites : ∀ b, b ∈ sites ↔ b ∉ seen ∧ ∃ a ∈ border, finder.Enters program a b :=
    finder.mem_sites_fresh_border_iff program distance seen border
  have hmem : ∀ b, b ∈ sites.reverse ++ seen ↔ b ∈ sites ∨ b ∈ seen := by
    intro b
    rw [List.mem_append, List.mem_reverse]
  constructor
  case nodup =>
    rw [List.nodup_append]
    refine ⟨List.nodup_reverse.mpr (nodup_sites_fresh _ _ _), h.nodup, ?_⟩
    rintro a ha b hb rfl
    exact ((hsites a).mp (List.mem_reverse.mp ha)).1 hb
  case defined =>
    intro b hb
    rcases (hmem b).mp hb with hb | hb
    · obtain ⟨-, a, -, hcall⟩ := (hsites b).mp hb
      exact hcall.calls.defined
    · exact h.defined b hb
  case inside =>
    intro a ha hnew b hcall
    rcases (hmem a).mp ha with ha | ha
    · exact absurd ha hnew
    rw [hmem]
    by_cases hb : b ∈ seen
    · exact Or.inr hb
    by_cases hborder : a ∈ border
    · exact Or.inl ((hsites b).mpr ⟨hb, a, hborder, hcall⟩)
    · exact absurd (h.inside a ha hborder b hcall) hb

/-- A search that has seen as many sites as there are functions has seen all of them. -/
theorem Explored.all_seen (h : finder.Explored program seen border)
    (hall : program.functions.length ≤ seen.length) {b : Nat × Nat} (hb : b ∈ program.sites) :
    b ∈ seen := by
  by_contra hunseen
  have hlength : (b :: seen).length ≤ program.sites.length := by
    refine List.Nodup.length_le_of_subset (List.nodup_cons.mpr ⟨hunseen, h.nodup⟩) ?_
    intro a ha
    rcases List.mem_cons.mp ha with rfl | ha
    · exact hb
    · exact h.defined a ha
  rw [program.length_sites, List.length_cons] at hlength
  omega

/-- Where there may be as many sites as there are functions, no call leads out of the layers. -/
theorem Explored.closed (h : finder.Explored program seen border) (depth distance : Nat)
    (hdepth : program.functions.length ≤ depth + seen.length) {a b : Nat × Nat}
    (ha : a ∈ seen ∨
      a ∈ (finder.layers program depth distance seen border).map Testee.site)
    (hcall : finder.Enters program a b) :
    b ∈ seen ∨ b ∈ (finder.layers program depth distance seen border).map Testee.site := by
  induction depth generalizing distance seen border with
  | zero =>
      rw [Nat.zero_add] at hdepth
      exact Or.inl (h.all_seen hdepth hcall.calls.defined)
  | succ depth ih =>
      have hnext := h.next distance
      have hfound := finder.mem_sites_fresh_border_iff program distance seen border
      rw [layers] at ha ⊢
      generalize finder.fresh program distance seen (border.flatMap (calleesAt program)) = found
        at ha hnext hfound ⊢
      cases found with
      | nil =>
          -- the border leads nowhere new
          rcases ha with ha | ha
          · by_cases hborder : a ∈ border
            · by_contra hunseen
              exact List.not_mem_nil ((hfound b).mpr ⟨(not_or.mp hunseen).1, a, hborder, hcall⟩)
            · exact Or.inl (h.inside a ha hborder b hcall)
          · exact absurd ha List.not_mem_nil
      | cons first rest =>
          simp only [List.map_append, List.mem_append] at ha ⊢
          have hmore : program.functions.length ≤
              depth + (((first :: rest).map Testee.site).reverse ++ seen).length := by
            rw [List.length_append, List.length_reverse, List.length_map, List.length_cons]
            omega
          have hrest := ih hnext (distance + 1) hmore
          simp only [List.mem_append, List.mem_reverse] at hrest
          rcases hrest (by tauto) with (hb | hb) | hb
          · exact Or.inr (Or.inl hb)
          · exact Or.inl hb
          · exact Or.inr (Or.inr hb)

end Explored

/-- No call that the finder follows leads from a test and its testees to another function, if they
may be as far from the test as there are functions. -/
theorem testees_closed {test : Test} (hdefined : test.site ∈ program.sites)
    (hdistance : program.functions.length ≤ finder.maxDistance) {a b : Nat × Nat}
    (ha : a = test.site ∨ a ∈ (finder.testees program test).map Testee.site)
    (hcall : finder.Enters program a b) :
    b = test.site ∨ b ∈ (finder.testees program test).map Testee.site := by
  have hclosed := (Explored.start finder hdefined).closed finder.maxDistance 1
    (Nat.le_add_right_of_le hdistance) (a := a) (b := b)
  simp only [List.mem_singleton] at hclosed
  exact hclosed ha hcall

end Finder

end MutationTesting
