import Mathlib
import MutationTesting.Source.Range

/-!
The search among ranges. A search keeps the first of the shortest ranges around its offset, whatever
else it meets; in another order it may keep another range, but one of the same length.
-/

namespace MutationTesting

namespace SourceRange

theorem contains_iff (r : SourceRange) (offset : Nat) :
    r.contains offset = true ↔ r.first ≤ offset ∧ offset ≤ r.last := by
  simp [contains]

theorem between_comm (a b : Nat) : between a b = between b a := by
  rw [between, between, Nat.min_comm, Nat.max_comm]

theorem contains_between_iff (a b offset : Nat) :
    (between a b).contains offset = true ↔ offset ∈ Set.uIcc a b := by
  rw [contains_iff]
  rfl

end SourceRange

namespace RangeSearch

/-- What a search has found when it has met some ranges: nothing if none of them is around its
offset, else one that is, shorter than those before it and no longer than those after it. -/
inductive Finds (ranges : List SourceRange) : RangeSearch → Prop
  | nothing {offset : Nat} (missed : ∀ r ∈ ranges, r.contains offset = false) :
      Finds ranges ⟨offset, none⟩
  | shortest {offset : Nat} {r : SourceRange} {before after : List SourceRange}
      (split : ranges = before ++ r :: after) (around : r.contains offset = true)
      (first : ∀ b ∈ before, b.contains offset = true → r.length < b.length)
      (least : ∀ a ∈ after, a.contains offset = true → r.length ≤ a.length) :
      Finds ranges ⟨offset, some r⟩

theorem offset_visit (s : RangeSearch) (r : SourceRange) : (s.visit r).offset = s.offset := by
  rw [visit]
  split
  · rfl
  · split
    · split <;> rfl
    · rfl

theorem offset_foldl_visit (s : RangeSearch) (ranges : List SourceRange) :
    (ranges.foldl visit s).offset = s.offset := by
  induction ranges generalizing s with
  | nil => rfl
  | cons r ranges ih => rw [List.foldl_cons, ih, offset_visit]

theorem Finds.visit {ranges : List SourceRange} {s : RangeSearch} (h : Finds ranges s)
    (r : SourceRange) : Finds (ranges ++ [r]) (s.visit r) := by
  cases h with
  | @nothing offset hnone =>
      by_cases hr : r.contains offset = true
      · simp only [RangeSearch.visit, hr, Bool.not_true, Bool.false_eq_true, if_false]
        exact .shortest rfl hr (fun b hb hcontains => by simp [hnone b hb] at hcontains) (by simp)
      · simp only [RangeSearch.visit, hr, Bool.not_false, if_true]
        exact .nothing (List.forall_mem_append.mpr ⟨hnone, by simpa using hr⟩)
  | @shortest offset best before after hsplit hbest hfirst hleast =>
      have hlonger : ranges ++ [r] = before ++ best :: (after ++ [r]) := by simp [hsplit]
      by_cases hr : r.contains offset = true
      · simp only [RangeSearch.visit, hr, Bool.not_true, Bool.false_eq_true, if_false]
        split
        next hle =>
          exact .shortest hlonger hbest hfirst
            (List.forall_mem_append.mpr ⟨hleast, by simpa using fun _ => hle⟩)
        next hlt =>
          have hbetter : r.length < best.length := Nat.lt_of_not_le hlt
          refine .shortest rfl hr ?_ (by simp)
          rw [hsplit, List.forall_mem_append, List.forall_mem_cons]
          exact ⟨fun b hb h => hbetter.trans (hfirst b hb h), fun _ => hbetter,
            fun a ha h => hbetter.trans_le (hleast a ha h)⟩
      · simp only [RangeSearch.visit, hr, Bool.not_false, if_true]
        exact .shortest hlonger hbest hfirst
          (List.forall_mem_append.mpr ⟨hleast, by simpa using fun h => absurd h hr⟩)

/-- A search finds the first of the shortest ranges around its offset. -/
theorem finds_foldl_visit (offset : Nat) (ranges : List SourceRange) :
    Finds ranges (ranges.foldl RangeSearch.visit (start offset)) := by
  induction ranges using List.reverseRecOn with
  | nil => exact .nothing (by simp)
  | append_singleton ranges r ih =>
      rw [List.foldl_append, List.foldl_cons, List.foldl_nil]
      exact ih.visit r

/-- A search ends with nothing if no range is around its offset, else with a shortest of those that
are. -/
theorem found_cases (offset : Nat) (ranges : List SourceRange) :
    ((ranges.foldl visit (start offset)).found = none ∧
      ∀ r ∈ ranges, r.contains offset = false) ∨
      ∃ r ∈ ranges, (ranges.foldl visit (start offset)).found = some r ∧
        r.contains offset = true ∧
        ∀ other ∈ ranges, other.contains offset = true → r.length ≤ other.length := by
  have hfinds := finds_foldl_visit offset ranges
  have hoffset := offset_foldl_visit (start offset) ranges
  generalize ranges.foldl visit (start offset) = s at hfinds hoffset ⊢
  cases hfinds with
  | @nothing offset' hmissed =>
      obtain rfl : offset' = offset := hoffset
      exact .inl ⟨rfl, hmissed⟩
  | @shortest offset' r before after hsplit haround hfirst hleast =>
      obtain rfl : offset' = offset := hoffset
      refine .inr ⟨r, by simp [hsplit], rfl, haround, ?_⟩
      rw [hsplit, List.forall_mem_append, List.forall_mem_cons]
      exact ⟨fun b hb h => (hfirst b hb h).le, fun _ => le_rfl, hleast⟩

/-- No other range than the first of the shortest is found. -/
theorem Finds.found_eq {ranges : List SourceRange} {s : RangeSearch} (h : Finds ranges s)
    {r : SourceRange} {before after : List SourceRange} (hsplit : ranges = before ++ r :: after)
    (haround : r.contains s.offset = true)
    (hfirst : ∀ b ∈ before, b.contains s.offset = true → r.length < b.length)
    (hleast : ∀ a ∈ after, a.contains s.offset = true → r.length ≤ a.length) :
    s.found = some r := by
  cases h with
  | @nothing offset hmissed =>
      have hmiss := hmissed r (by simp [hsplit])
      rw [haround] at hmiss
      cases hmiss
  | @shortest offset r' before' after' hsplit' haround' hfirst' hleast' =>
      -- The later of two places would be shorter than the earlier one, which is no longer than it.
      rcases List.append_eq_append_iff.mp (hsplit.symm.trans hsplit') with
        ⟨rest, hbefore, hrest⟩ | ⟨rest, hbefore, hrest⟩
      · cases rest with
        | nil =>
            cases hrest
            rfl
        | cons x rest =>
            cases hrest
            have hlt := hfirst' r (by simp [hbefore]) haround
            have hle := hleast r' (by simp) haround'
            omega
      · cases rest with
        | nil =>
            cases hrest
            rfl
        | cons x rest =>
            cases hrest
            have hlt := hfirst r' (by simp [hbefore]) haround'
            have hle := hleast' r (by simp) haround
            omega

theorem found_eq_none_iff (offset : Nat) (ranges : List SourceRange) :
    (ranges.foldl visit (start offset)).found = none ↔
      ∀ r ∈ ranges, r.contains offset = false := by
  rcases found_cases offset ranges with ⟨hfound, hmissed⟩ | ⟨r, hr, hfound, haround, -⟩
  · exact iff_of_true hfound hmissed
  · refine iff_of_false (by simp [hfound]) fun hmissed => ?_
    rw [hmissed r hr] at haround
    cases haround

theorem found_eq_some_iff (offset : Nat) (ranges : List SourceRange) (r : SourceRange) :
    (ranges.foldl visit (start offset)).found = some r ↔
      ∃ before after, ranges = before ++ r :: after ∧ r.contains offset = true ∧
        (∀ b ∈ before, b.contains offset = true → r.length < b.length) ∧
        ∀ a ∈ after, a.contains offset = true → r.length ≤ a.length := by
  have hfinds := finds_foldl_visit offset ranges
  have hoffset := offset_foldl_visit (start offset) ranges
  generalize ranges.foldl visit (start offset) = s at hfinds hoffset ⊢
  obtain rfl : s.offset = offset := hoffset
  constructor
  · intro hfound
    cases hfinds with
    | nothing => cases hfound
    | shortest hsplit haround hfirst hleast =>
        cases hfound
        exact ⟨_, _, hsplit, haround, hfirst, hleast⟩
  · rintro ⟨before, after, hsplit, haround, hfirst, hleast⟩
    exact hfinds.found_eq hsplit haround hfirst hleast

/-- In whatever order ranges are met, the one that is found has the same length. -/
theorem length_found_perm {ranges ranges' : List SourceRange} (h : ranges'.Perm ranges)
    (offset : Nat) :
    (ranges'.foldl visit (start offset)).found.map SourceRange.length =
      (ranges.foldl visit (start offset)).found.map SourceRange.length := by
  rcases found_cases offset ranges with ⟨hfound, hmissed⟩ | ⟨r, hr, hfound, haround, hleast⟩
  · rw [hfound, (found_eq_none_iff offset ranges').mpr fun r hr => hmissed r (h.mem_iff.mp hr)]
  · rcases found_cases offset ranges' with ⟨-, hmissed'⟩ | ⟨r', hr', hfound', haround', hleast'⟩
    · rw [hmissed' r (h.mem_iff.mpr hr)] at haround
      cases haround
    · have hle := hleast r' (h.mem_iff.mp hr') haround'
      have hge := hleast' r (h.mem_iff.mpr hr) haround
      rw [hfound, hfound', Option.map_some, Option.map_some, Nat.le_antisymm hge hle]

/-- **The first of the shortest.** After any ranges a search has found nothing exactly if none of
them is around its offset, and else the one that is, is shorter than all before it that are, and no
longer than those after it. So all orders of the ranges lead to the same length. For a range it does
not matter which of its ends is given first: what lies between them is in it. -/
theorem found_first_shortest (offset : Nat) (ranges : List SourceRange) :
    ((ranges.foldl visit (start offset)).found = none ↔
      ∀ r ∈ ranges, r.contains offset = false) ∧
    (∀ r, (ranges.foldl visit (start offset)).found = some r ↔
      ∃ before after, ranges = before ++ r :: after ∧ r.contains offset = true ∧
        (∀ b ∈ before, b.contains offset = true → r.length < b.length) ∧
        ∀ a ∈ after, a.contains offset = true → r.length ≤ a.length) ∧
    (∀ ranges' : List SourceRange, ranges'.Perm ranges →
      (ranges'.foldl visit (start offset)).found.map SourceRange.length =
        (ranges.foldl visit (start offset)).found.map SourceRange.length) ∧
    ∀ a b, SourceRange.between a b = SourceRange.between b a ∧
      ((SourceRange.between a b).contains offset = true ↔ offset ∈ Set.uIcc a b) ∧
      (SourceRange.between a b).length = max a b - min a b := by
  refine ⟨found_eq_none_iff offset ranges, found_eq_some_iff offset ranges,
    fun ranges' h => length_found_perm h offset, fun a b => ?_⟩
  exact ⟨SourceRange.between_comm a b, SourceRange.contains_between_iff a b offset, rfl⟩

/-- Of two ranges of length 6, one of which is given by its end first, the earlier one stays; met
the other way round the other one does. -/
theorem equalLengths_found_first_shortest :
    let ranges := [SourceRange.between 10 20, .between 18 12, .between 30 40, .between 13 19]
    (ranges.foldl visit (start 15)).found = some ⟨12, 18⟩ ∧
      ranges.reverse.Perm ranges ∧
      (ranges.reverse.foldl visit (start 15)).found = some ⟨13, 19⟩ ∧
      (ranges.reverse.foldl visit (start 15)).found.map SourceRange.length = some 6 := by
  intro ranges
  obtain ⟨-, hsome, hperm, -⟩ := found_first_shortest 15 ranges
  have hfound : (ranges.foldl visit (start 15)).found = some ⟨12, 18⟩ :=
    (hsome _).mpr ⟨[.between 10 20], [.between 30 40, .between 13 19], by decide⟩
  refine ⟨hfound, ranges.reverse_perm, by decide, ?_⟩
  rw [hperm ranges.reverse ranges.reverse_perm, hfound]
  rfl

end RangeSearch

end MutationTesting
