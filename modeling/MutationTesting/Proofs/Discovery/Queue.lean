import Mathlib.Data.Finset.Card
import MutationTesting.Proofs.Discovery.Layers

/-!
The search with a queue. Sites wait in one queue with their distances; the first is taken out, the
functions that it calls for the first time are testees, and they wait behind the others unless they
are as far as testees may be. The queue never holds more than the rest of one layer and the sites
found for the next one, so that the search goes through the layers one by one.
-/

namespace MutationTesting

namespace Finder

variable {finder : Finder} {program : Program}

theorem fresh_append (finder : Finder) (program : Program) (distance : Nat)
    (seen : List (Nat × Nat)) (names more : List String) :
    finder.fresh program distance seen (names ++ more) =
      let found := finder.fresh program distance seen names
      found ++ finder.fresh program distance ((found.map Testee.site).reverse ++ seen) more := by
  induction names generalizing seen with
  | nil => rfl
  | cons name rest ih =>
      rw [List.cons_append, fresh, fresh]
      cases program.definition? name with
      | none => exact ih seen
      | some site =>
          simp only
          split
          · exact ih seen
          · rw [ih, List.map_cons, List.reverse_cons, List.append_assoc]
            rfl

/-- What is fresh is defined and has not been seen, so there is less left to see. -/
theorem unseen_ssubset {distance : Nat} {seen : List (Nat × Nat)} {names : List String}
    (h : finder.fresh program distance seen names ≠ []) :
    program.sites.toFinset \
        (((finder.fresh program distance seen names).map Testee.site).reverse ++ seen).toFinset ⊂
      program.sites.toFinset \ seen.toFinset := by
  obtain ⟨t, ht⟩ := List.exists_mem_of_ne_nil _ h
  have hsite : t.site ∈ (finder.fresh program distance seen names).map Testee.site :=
    List.mem_map_of_mem ht
  obtain ⟨f, hf, -⟩ := Program.definition?_eq_some (of_mem_fresh ht).2
  have hdefined : t.site ∈ program.sites := Program.mem_sites_of_function? hf
  have hnew := ((mem_sites_fresh_iff _ _ _ _).mp hsite).1
  refine Finset.ssubset_iff_subset_ne.mpr ⟨?_, fun heq => ?_⟩
  · refine Finset.sdiff_subset_sdiff (Finset.Subset.refl _) fun a ha => ?_
    rw [List.mem_toFinset] at ha ⊢
    exact List.mem_append_right _ ha
  · have hleft : t.site ∈ program.sites.toFinset \ seen.toFinset := by
      simp only [Finset.mem_sdiff, List.mem_toFinset]
      exact ⟨hdefined, hnew⟩
    rw [← heq, Finset.mem_sdiff, List.mem_toFinset, List.mem_toFinset] at hleft
    exact hleft.2 (List.mem_append_left _ (List.mem_reverse.mpr hsite))

/-- The testees that a queue of sites and their distances leads to. -/
def visit (finder : Finder) (program : Program) (queue : List ((Nat × Nat) × Nat))
    (seen : List (Nat × Nat)) : List Testee :=
  match queue with
  | [] => []
  | (site, distance) :: rest =>
    let found := finder.fresh program (distance + 1) seen (calleesAt program site)
    let sites := found.map Testee.site
    let next := if distance + 1 < finder.maxDistance then sites.map (·, distance + 1) else []
    found ++ finder.visit program (rest ++ next) (sites.reverse ++ seen)
termination_by ((program.sites.toFinset \ seen.toFinset).card, queue.length)
decreasing_by
  by_cases hfound : finder.fresh program (distance + 1) seen (calleesAt program site) = []
  · simp only [hfound, List.map_nil, List.reverse_nil, List.nil_append]
    refine Prod.Lex.right _ ?_
    split <;> simp
  · exact Prod.Lex.left _ _ (Finset.card_lt_card (unseen_ssubset hfound))

/-- Before the last layer: the sites of a layer are taken out, and those found wait. -/
theorem visit_layer {distance : Nat} (hmore : distance + 1 < finder.maxDistance)
    (seen border next : List (Nat × Nat)) :
    finder.visit program (border.map (·, distance) ++ next.map (·, distance + 1)) seen =
      let found := finder.fresh program (distance + 1) seen (border.flatMap (calleesAt program))
      let sites := found.map Testee.site
      found ++ finder.visit program ((next ++ sites).map (·, distance + 1))
        (sites.reverse ++ seen) := by
  induction border generalizing seen next with
  | nil => simp only [List.map_nil, List.nil_append, List.flatMap_nil, fresh, List.append_nil,
      List.reverse_nil]
  | cons site border ih =>
      rw [List.map_cons, List.cons_append, visit, List.flatMap_cons, fresh_append]
      simp only [if_pos hmore]
      generalize finder.fresh program (distance + 1) seen (calleesAt program site) = found
      have hrest := ih ((found.map Testee.site).reverse ++ seen) (next ++ found.map Testee.site)
      rw [List.map_append, ← List.append_assoc] at hrest
      rw [hrest]
      simp only [List.map_append, List.reverse_append, List.append_assoc]

/-- The functions of the last layer do not wait. -/
theorem visit_last {distance : Nat} (hlast : ¬ distance + 1 < finder.maxDistance)
    (seen border : List (Nat × Nat)) :
    finder.visit program (border.map (·, distance)) seen =
      finder.fresh program (distance + 1) seen (border.flatMap (calleesAt program)) := by
  induction border generalizing seen with
  | nil => rw [List.map_nil, visit, List.flatMap_nil, fresh]
  | cons site border ih =>
      rw [List.map_cons, visit, List.flatMap_cons, fresh_append]
      simp only [if_neg hlast, List.append_nil, ih]

theorem visit_eq_layers (depth distance : Nat)
    (hdepth : distance + (depth + 1) = finder.maxDistance) (seen border : List (Nat × Nat)) :
    finder.visit program (border.map (·, distance)) seen =
      finder.layers program (depth + 1) (distance + 1) seen border := by
  induction depth generalizing distance seen border with
  | zero =>
      rw [layers_succ, visit_last (by omega)]
      exact (List.append_nil _).symm
  | succ depth ih =>
      have hmore : distance + 1 < finder.maxDistance := by omega
      rw [layers_succ, ← List.append_nil (border.map _)]
      refine (visit_layer hmore seen border []).trans ?_
      simp only [List.nil_append, ih (distance + 1) (by omega)]

/-- **The search may keep its sites in a queue.** The testees of a test are what a search finds that
begins with the test in the queue and takes the sites out one by one. -/
theorem testees_eq_visit (finder : Finder) (program : Program) (test : Test) :
    finder.testees program test = finder.visit program [(test.site, 0)] [test.site] := by
  obtain ⟨depth, hdepth⟩ := Nat.exists_eq_add_of_lt finder.positive
  rw [Nat.zero_add] at hdepth
  rw [testees, hdepth]
  exact (visit_eq_layers depth 0 (by omega) [test.site] [test.site]).symm

end Finder

end MutationTesting
