import Mathlib.Data.Nat.Find
import Mathlib.Order.Bounds.Basic
import MutationTesting.Proofs.Discovery.Layers

/-!
Distances of testees. The functions at a distance from a test are those to which a path of so many
calls leads and no shorter one, and they are the ones that functions one call nearer call for the
first time. So each layer of the search is what there is at its distance, whatever cycles the calls
have, and a larger bound on the distance adds layers behind those of a smaller one.
-/

namespace MutationTesting

namespace Finder

variable {finder : Finder} {program : Program} {root : Nat × Nat}

/-- A path of calls from `root` that the finder follows, by its length. -/
inductive Path (finder : Finder) (program : Program) (root : Nat × Nat) : Nat → Nat × Nat → Prop
  | start : Path finder program root 0 root
  | call {length : Nat} {a b : Nat × Nat} (hpath : Path finder program root length a)
      (hcall : finder.Enters program a b) : Path finder program root (length + 1) b

/-- The shortest path to a site has this length. -/
def Nearest (finder : Finder) (program : Program) (root : Nat × Nat) (distance : Nat)
    (site : Nat × Nat) : Prop :=
  IsLeast {length | finder.Path program root length site} distance

theorem path_zero_iff (site : Nat × Nat) : finder.Path program root 0 site ↔ site = root := by
  constructor
  · rintro ⟨⟩
    rfl
  · rintro rfl
    exact .start

theorem nearest_zero_iff (site : Nat × Nat) : finder.Nearest program root 0 site ↔ site = root := by
  refine Iff.trans ⟨fun h => h.1, fun h => ⟨h, ?_⟩⟩ (path_zero_iff site)
  exact fun length _ => Nat.zero_le length

theorem Path.exists_nearest {length : Nat} {site : Nat × Nat}
    (h : finder.Path program root length site) :
    ∃ distance ≤ length, finder.Nearest program root distance site := by
  classical
  have hex : ∃ length, finder.Path program root length site := ⟨length, h⟩
  exact ⟨Nat.find hex, Nat.find_min' hex h, Nat.find_spec hex, fun _ => Nat.find_min' hex⟩

/-- The functions one call farther are those called from a distance that no shorter path leads to.
-/
theorem nearest_succ_iff (distance : Nat) (b : Nat × Nat) :
    finder.Nearest program root (distance + 1) b ↔
      (¬ ∃ length ≤ distance, finder.Path program root length b) ∧
        ∃ a, finder.Nearest program root distance a ∧ finder.Enters program a b := by
  constructor
  · rintro ⟨hpath, hleast⟩
    have hfar : ¬ ∃ length ≤ distance, finder.Path program root length b := by
      rintro ⟨length, hlength, h⟩
      exact absurd (hleast h) (by omega)
    refine ⟨hfar, ?_⟩
    cases hpath with
    | call ha hcall =>
        refine ⟨_, ⟨ha, fun length h => ?_⟩, hcall⟩
        -- a shorter path to the caller would be a shorter one to the callee
        by_contra hlt
        exact hfar ⟨length + 1, by omega, .call h hcall⟩
  · rintro ⟨hfar, a, ha, hcall⟩
    refine ⟨.call ha.1 hcall, fun length h => ?_⟩
    by_contra hlt
    exact hfar ⟨length, by omega, h⟩

/-! ### The search -/

/-- A search that has gone as far as `distance`: it has seen whatever is no farther, and its border
is what is just as far. -/
structure Surveyed (finder : Finder) (program : Program) (root : Nat × Nat) (distance : Nat)
    (seen border : List (Nat × Nat)) : Prop where
  seen : ∀ b, b ∈ seen ↔ ∃ length ≤ distance, finder.Path program root length b
  border : ∀ b, b ∈ border ↔ finder.Nearest program root distance b

section Surveyed

variable {distance : Nat} {seen border : List (Nat × Nat)}

theorem Surveyed.start (finder : Finder) (program : Program) (root : Nat × Nat) :
    finder.Surveyed program root 0 [root] [root] where
  seen := fun b => by
    simp only [List.mem_singleton, Nat.le_zero_eq, exists_eq_left, path_zero_iff]
  border := fun b => by rw [List.mem_singleton, nearest_zero_iff]

/-- What is fresh around the border is what there is one call farther. -/
theorem Surveyed.mem_fresh_iff (h : finder.Surveyed program root distance seen border)
    (b : Nat × Nat) :
    b ∈ (finder.fresh program (distance + 1) seen (border.flatMap (calleesAt program))).map
        Testee.site ↔ finder.Nearest program root (distance + 1) b := by
  rw [mem_sites_fresh_border_iff, nearest_succ_iff, h.seen]
  refine and_congr_right fun _ => exists_congr fun a => ?_
  rw [h.border]

theorem Surveyed.next (h : finder.Surveyed program root distance seen border) :
    let sites := (finder.fresh program (distance + 1) seen
      (border.flatMap (calleesAt program))).map Testee.site
    finder.Surveyed program root (distance + 1) (sites.reverse ++ seen) sites where
  seen := fun b => by
    rw [List.mem_append, List.mem_reverse, h.mem_fresh_iff, h.seen]
    constructor
    · rintro (hb | ⟨length, hlength, hb⟩)
      · exact ⟨distance + 1, Nat.le_refl _, hb.1⟩
      · exact ⟨length, Nat.le_succ_of_le hlength, hb⟩
    · rintro ⟨length, hlength, hb⟩
      obtain ⟨nearest, hnearest, hb⟩ := hb.exists_nearest
      rcases Nat.lt_or_eq_of_le (Nat.le_trans hnearest hlength) with hlt | rfl
      · exact Or.inr ⟨nearest, Nat.le_of_lt_succ hlt, hb.1⟩
      · exact Or.inl hb
  border := h.mem_fresh_iff

/-- The layers beyond the border hold what is as far as they are, with its distance. -/
theorem Surveyed.mem_layers_iff (h : finder.Surveyed program root distance seen border)
    (depth : Nat) (b : Nat × Nat) (far : Nat) :
    (∃ t ∈ finder.layers program depth (distance + 1) seen border, t.site = b ∧ t.distance = far) ↔
      distance < far ∧ far ≤ distance + depth ∧ finder.Nearest program root far b := by
  induction depth generalizing distance seen border with
  | zero =>
      constructor
      · rintro ⟨t, ht, -⟩
        exact absurd ht List.not_mem_nil
      · rintro ⟨hlt, hle, -⟩
        omega
  | succ depth ih =>
      have hrest := ih h.next
      rw [layers_succ]
      simp only [List.mem_append, or_and_right, exists_or, hrest]
      constructor
      · rintro (⟨t, ht, rfl, rfl⟩ | ⟨hlt, hle, hfar⟩)
        · have hsite := (h.mem_fresh_iff t.site).mp (List.mem_map_of_mem ht)
          rw [(of_mem_fresh ht).1]
          exact ⟨Nat.lt_succ_self distance, by omega, hsite⟩
        · exact ⟨by omega, by omega, hfar⟩
      · rintro ⟨hlt, hle, hfar⟩
        rcases Nat.eq_or_lt_of_le (Nat.succ_le_of_lt hlt) with rfl | hlt
        · obtain ⟨t, ht, rfl⟩ := List.mem_map.mp ((h.mem_fresh_iff b).mpr hfar)
          exact Or.inl ⟨t, ht, rfl, (of_mem_fresh ht).1⟩
        · exact Or.inr ⟨hlt, by omega, hfar⟩

/-- No site is in two layers, since it has one distance. -/
theorem Surveyed.nodup_sites_layers (h : finder.Surveyed program root distance seen border)
    (depth : Nat) :
    ((finder.layers program depth (distance + 1) seen border).map Testee.site).Nodup := by
  induction depth generalizing distance seen border with
  | zero => exact List.nodup_nil
  | succ depth ih =>
      rw [layers_succ, List.map_append, List.nodup_append]
      refine ⟨nodup_sites_fresh _ _ _, ih h.next, ?_⟩
      rintro a ha b hb rfl
      have hnear := (h.mem_fresh_iff a).mp ha
      obtain ⟨t, ht, hsite⟩ := List.mem_map.mp hb
      obtain ⟨hlt, -, hfar⟩ := (h.next.mem_layers_iff depth a t.distance).mp ⟨t, ht, hsite, rfl⟩
      exact absurd (hnear.unique hfar) (Nat.ne_of_lt hlt)

end Surveyed

theorem distance_of_mem_layers {depth distance : Nat} {seen border : List (Nat × Nat)}
    {t : Testee} (h : t ∈ finder.layers program depth distance seen border) :
    distance ≤ t.distance ∧ t.distance < distance + depth := by
  induction depth generalizing distance seen border with
  | zero => exact absurd h List.not_mem_nil
  | succ depth ih =>
      rw [layers_succ, List.mem_append] at h
      rcases h with h | h
      · have hdistance := (of_mem_fresh h).1
        omega
      · have hbounds := ih h
        omega

theorem definition?_of_mem_layers {depth distance : Nat} {seen border : List (Nat × Nat)}
    {t : Testee} (h : t ∈ finder.layers program depth distance seen border) :
    program.definition? t.name = some t.site := by
  induction depth generalizing distance seen border with
  | zero => exact absurd h List.not_mem_nil
  | succ depth ih =>
      rw [layers_succ, List.mem_append] at h
      rcases h with h | h
      · exact (of_mem_fresh h).2
      · exact ih h

theorem pairwise_distance_layers (finder : Finder) (program : Program) (depth distance : Nat)
    (seen border : List (Nat × Nat)) :
    (finder.layers program depth distance seen border).Pairwise fun s t =>
      s.distance ≤ t.distance := by
  induction depth generalizing distance seen border with
  | zero => exact .nil
  | succ depth ih =>
      rw [layers_succ, List.pairwise_append]
      refine ⟨?_, ih _ _ _, fun s hs t ht => ?_⟩
      · refine List.pairwise_of_forall_mem_list fun s hs t ht => ?_
        rw [(of_mem_fresh hs).1, (of_mem_fresh ht).1]
      · rw [(of_mem_fresh hs).1]
        exact Nat.le_of_succ_le (distance_of_mem_layers ht).1

/-- **Testees are the functions within reach, each with its distance.** For any test, defined or
not, the testees are listed without repetition and never farther ones first. They are exactly the
functions, the test apart, to which a path of calls that the finder follows leads from the test, of
a length between one and the bound. Each has the name of its function and, as its distance, the
least length of such a path. -/
theorem testees_shortest (finder : Finder) (program : Program) (test : Test) :
    ((finder.testees program test).map Testee.site).Nodup ∧
      (∀ site, site ∈ (finder.testees program test).map Testee.site ↔
        site ≠ test.site ∧ ∃ length, 1 ≤ length ∧ length ≤ finder.maxDistance ∧
          finder.Path program test.site length site) ∧
      (∀ t ∈ finder.testees program test,
        (∃ f, program.function? t.module t.function = some f ∧ f.name = t.name) ∧
          IsLeast {length | 1 ≤ length ∧ length ≤ finder.maxDistance ∧
            finder.Path program test.site length t.site} t.distance) ∧
      (finder.testees program test).Pairwise fun s t => s.distance ≤ t.distance := by
  have hstart := Surveyed.start finder program test.site
  have hmem := hstart.mem_layers_iff finder.maxDistance
  simp only [Nat.zero_add] at hmem
  refine ⟨hstart.nodup_sites_layers finder.maxDistance, fun site => ⟨fun hsite => ?_, ?_⟩,
    fun t ht => ⟨?_, ?_⟩, pairwise_distance_layers _ _ _ _ _ _⟩
  · obtain ⟨t, ht, rfl⟩ := List.mem_map.mp hsite
    obtain ⟨hpositive, hbound, hnearest⟩ := (hmem t.site t.distance).mp ⟨t, ht, rfl, rfl⟩
    refine ⟨fun hroot => ?_, t.distance, hpositive, hbound, hnearest.1⟩
    -- the test itself is at distance zero
    rw [hroot] at hnearest
    exact Nat.ne_of_lt hpositive (((nearest_zero_iff test.site).mpr rfl).unique hnearest)
  · rintro ⟨hother, length, -, hlength, hpath⟩
    obtain ⟨distance, hdistance, hnearest⟩ := hpath.exists_nearest
    have hpositive : 0 < distance := by
      refine Nat.pos_of_ne_zero ?_
      rintro rfl
      exact hother ((nearest_zero_iff site).mp hnearest)
    obtain ⟨t, ht, hsite, -⟩ :=
      (hmem site distance).mpr ⟨hpositive, Nat.le_trans hdistance hlength, hnearest⟩
    exact List.mem_map.mpr ⟨t, ht, hsite⟩
  · exact Program.definition?_eq_some (definition?_of_mem_layers ht)
  · obtain ⟨hpositive, hbound, hpath, hleast⟩ := (hmem t.site t.distance).mp ⟨t, ht, rfl, rfl⟩
    exact ⟨⟨hpositive, hbound, hpath⟩, fun length h => hleast h.2.2⟩

end Finder

/-- A test and three functions that call each other in a ring. -/
def callRing : Program :=
  ⟨[⟨"tests", none, [⟨"test_ring", 0, [⟨.call none "first" [], none⟩, ⟨.ret none, none⟩]⟩]⟩,
    ⟨"library", none,
      [⟨"first", 0, [⟨.call none "second" [], none⟩, ⟨.call none "first" [], none⟩]⟩,
        ⟨"second", 0, [⟨.call none "first" [], none⟩, ⟨.call none "third" [], none⟩]⟩,
        ⟨"third", 0, [⟨.call none "first" [], none⟩, ⟨.call none "test_ring" [], none⟩]⟩]⟩]⟩

def callRingFinder (maxDistance : Nat) (positive : 0 < maxDistance) : Finder :=
  ⟨(· == "test_ring"), maxDistance, positive⟩

/-- Two calls lead to the second function, though the first one calls itself as well. -/
theorem callRing_testees_shortest :
    ⟨"second", 1, 1, 2⟩ ∈ (callRingFinder 2 (by decide)).testees callRing ⟨"test_ring", 0, 0⟩ ∧
      IsLeast {length | 1 ≤ length ∧ length ≤ 2 ∧
        (callRingFinder 2 (by decide)).Path callRing (0, 0) length (1, 1)} 2 := by
  have hmem : (⟨"second", 1, 1, 2⟩ : Testee) ∈
      (callRingFinder 2 (by decide)).testees callRing ⟨"test_ring", 0, 0⟩ := by decide
  obtain ⟨-, -, htestees, -⟩ :=
    (callRingFinder 2 (by decide)).testees_shortest callRing ⟨"test_ring", 0, 0⟩
  exact ⟨hmem, (htestees _ hmem).2⟩

namespace Finder

variable {finder : Finder} {program : Program}

/-! ### Bounds -/

/-- What the search finds depends on the bound only by the number of layers. -/
theorem fresh_congr {near far : Finder} (h : near.isTest = far.isTest) (program : Program)
    (distance : Nat) (seen : List (Nat × Nat)) (names : List String) :
    near.fresh program distance seen names = far.fresh program distance seen names := by
  induction names generalizing seen with
  | nil => rfl
  | cons name rest ih => simp only [fresh, h, ih]

theorem layers_congr {near far : Finder} (h : near.isTest = far.isTest) (program : Program)
    (depth distance : Nat) (seen border : List (Nat × Nat)) :
    near.layers program depth distance seen border =
      far.layers program depth distance seen border := by
  induction depth generalizing distance seen border with
  | zero => rfl
  | succ depth ih => simp only [layers_succ, fresh_congr h, ih]

/-- More layers come behind the others, and are farther than all of them. -/
theorem exists_layers_add (finder : Finder) (program : Program) (depth more distance : Nat)
    (seen border : List (Nat × Nat)) :
    ∃ beyond, finder.layers program (depth + more) distance seen border =
        finder.layers program depth distance seen border ++ beyond ∧
      ∀ t ∈ beyond, distance + depth ≤ t.distance := by
  induction depth generalizing distance seen border with
  | zero => exact ⟨_, rfl, fun t ht => (distance_of_mem_layers ht).1⟩
  | succ depth ih =>
      let found := finder.fresh program distance seen (border.flatMap (calleesAt program))
      let sites := found.map Testee.site
      obtain ⟨beyond, hbeyond, hfar⟩ := ih (distance + 1) (sites.reverse ++ seen) sites
      refine ⟨beyond, ?_, fun t ht => ?_⟩
      · rw [Nat.succ_add, layers_succ, layers_succ, List.append_assoc]
        exact congrArg _ hbeyond
      · have hdistance := hfar t ht
        omega

/-- **A larger distance only appends.** Of two finders that take the same functions for tests, the
one with the smaller bound finds the first of the testees that the other finds, in the same order:
those that are no farther than its bound. -/
theorem testees_prefix (near far : Finder) (htests : near.isTest = far.isTest)
    (hdistance : near.maxDistance ≤ far.maxDistance) (program : Program) (test : Test) :
    near.testees program test <+: far.testees program test ∧
      near.testees program test =
        (far.testees program test).filter fun t => t.distance ≤ near.maxDistance := by
  obtain ⟨more, hmore⟩ := Nat.exists_eq_add_of_le hdistance
  obtain ⟨beyond, hbeyond, hfar⟩ := far.exists_layers_add program near.maxDistance more 1
    [test.site] [test.site]
  have hnear : near.testees program test =
      far.layers program near.maxDistance 1 [test.site] [test.site] :=
    layers_congr htests program _ _ _ _
  have happend : far.testees program test = near.testees program test ++ beyond := by
    rw [hnear, ← hbeyond, ← hmore]
    rfl
  rw [happend, List.filter_append]
  refine ⟨List.prefix_append _ _, ?_⟩
  have hkept : (near.testees program test).filter (fun t => t.distance ≤ near.maxDistance) =
      near.testees program test := by
    refine List.filter_eq_self.mpr fun t ht => ?_
    have hbounds := distance_of_mem_layers ht
    simp only [decide_eq_true_eq]
    omega
  have hdropped : beyond.filter (fun t => t.distance ≤ near.maxDistance) = [] := by
    refine List.filter_eq_nil_iff.mpr fun t ht => ?_
    have hbeyond := hfar t ht
    simp only [decide_eq_true_eq]
    omega
  rw [hkept, hdropped, List.append_nil]

end Finder

/-- With distance two the search leaves the third function out, and the others are as before. -/
theorem callRing_testees_prefix :
    (callRingFinder 2 (by decide)).testees callRing ⟨"test_ring", 0, 0⟩ =
        [⟨"first", 1, 0, 1⟩, ⟨"second", 1, 1, 2⟩] ∧
      (callRingFinder 2 (by decide)).testees callRing ⟨"test_ring", 0, 0⟩ <+:
        (callRingFinder 4 (by decide)).testees callRing ⟨"test_ring", 0, 0⟩ ∧
      (callRingFinder 2 (by decide)).testees callRing ⟨"test_ring", 0, 0⟩ =
        ((callRingFinder 4 (by decide)).testees callRing ⟨"test_ring", 0, 0⟩).filter fun t =>
          t.distance ≤ 2 := by
  refine ⟨by decide, ?_⟩
  exact Finder.testees_prefix (callRingFinder 2 (by decide)) (callRingFinder 4 (by decide)) rfl
    (by decide) callRing ⟨"test_ring", 0, 0⟩

end MutationTesting
