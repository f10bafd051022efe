import Mathlib
import MutationTesting.Proofs.Source.Position
import MutationTesting.Proofs.Source.RangeSearch
import MutationTesting.Relevance.Detector

/-!
The operation that a place is in. In a tree whose parts lie in each other or apart, the parts around
an offset lie in each other, so that the shortest of them is the innermost.
-/

namespace MutationTesting

namespace SyntaxTree

mutual

/-- A tree and the trees in it, each before those in it. -/
def parts : SyntaxTree → List SyntaxTree
  | .node operation start stop children =>
    .node operation start stop children :: partsOfAll children

def partsOfAll : List SyntaxTree → List SyntaxTree
  | [] => []
  | t :: rest => t.parts ++ partsOfAll rest

end

/-- The offsets of the bytes of a tree. -/
def bytes (t : SyntaxTree) : Finset Nat := Finset.Ico t.start t.stop

/-- Parts lie in each other or apart, and operations of a category have text. -/
structure Nested (category : SyntaxCategory) (t : SyntaxTree) : Prop where
  within : ∀ part ∈ t.parts, ∀ child ∈ part.children, child.bytes ⊆ part.bytes
  apart : ∀ part ∈ t.parts, part.children.Pairwise fun a b => Disjoint a.bytes b.bytes
  nonempty : ∀ part ∈ t.parts, part.isOf category = true → part.bytes.Nonempty

/-- What is true of a tree if it is true of its children is true of all trees. -/
@[elab_as_elim]
theorem ofChildren {motive : SyntaxTree → Prop}
    (node : ∀ operation start stop children, (∀ child ∈ children, motive child) →
      motive (.node operation start stop children)) (t : SyntaxTree) : motive t :=
  @SyntaxTree.rec motive (fun trees => ∀ t ∈ trees, motive t) node
    (by simp) (fun _ _ hhead htail => List.forall_mem_cons.mpr ⟨hhead, htail⟩) t

theorem partsOfAll_eq_flatMap (trees : List SyntaxTree) :
    partsOfAll trees = trees.flatMap parts := by
  induction trees with
  | nil => rfl
  | cons t rest ih => rw [partsOfAll, ih, List.flatMap_cons]

theorem parts_node (operation : Option Operation) (start stop : Nat)
    (children : List SyntaxTree) :
    (node operation start stop children).parts =
      .node operation start stop children :: children.flatMap parts := by
  rw [parts, partsOfAll_eq_flatMap]

theorem searchAll_eq_foldl (category : SyntaxCategory) (trees : List SyntaxTree) (s : RangeSearch) :
    searchAll category trees s = trees.foldl (fun s t => t.search category s) s := by
  induction trees generalizing s with
  | nil => rfl
  | cons t rest ih => rw [searchAll, ih, List.foldl_cons]

/-- The ranges that a search for a category meets. -/
def rangesOf (category : SyntaxCategory) (t : SyntaxTree) : List SourceRange :=
  (t.parts.filter (isOf category)).map range

theorem rangesOf_node (category : SyntaxCategory) (operation : Option Operation) (start stop : Nat)
    (children : List SyntaxTree) :
    (node operation start stop children).rangesOf category =
      (if operation.any category.accepts then [.ofPiece start stop] else []) ++
        children.flatMap (rangesOf category) := by
  have hrest : ((children.flatMap parts).filter (isOf category)).map range =
      children.flatMap (rangesOf category) := by
    rw [List.filter_flatMap, List.map_flatMap]
    rfl
  have hroot : (node operation start stop children).isOf category =
      operation.any category.accepts := rfl
  rw [rangesOf, parts_node, List.filter_cons, hroot]
  split
  · rw [List.map_cons, hrest]
    rfl
  · rw [hrest, List.nil_append]

/-- Searching a tree is searching the ranges of its parts in order. -/
theorem search_eq_foldl (category : SyntaxCategory) (t : SyntaxTree) (s : RangeSearch) :
    t.search category s = (t.rangesOf category).foldl RangeSearch.visit s := by
  induction t using ofChildren generalizing s with
  | node operation start stop children ih =>
      have hchildren : ∀ s, searchAll category children s =
          (children.flatMap (rangesOf category)).foldl RangeSearch.visit s := by
        intro s
        rw [searchAll_eq_foldl, List.foldl_flatMap]
        exact List.foldl_ext _ _ _ fun s t ht => ih t ht s
      rw [search, hchildren, rangesOf_node, List.foldl_append]
      split <;> rfl

theorem self_mem_parts (t : SyntaxTree) : t ∈ t.parts := by
  cases t
  exact List.mem_cons_self

theorem mem_parts_node {operation : Option Operation} {start stop : Nat}
    {children : List SyntaxTree} {part : SyntaxTree} :
    part ∈ (node operation start stop children).parts ↔
      part = .node operation start stop children ∨ ∃ child ∈ children, part ∈ child.parts := by
  rw [parts_node, List.mem_cons, List.mem_flatMap]

namespace Nested

variable {category : SyntaxCategory} {operation : Option Operation} {start stop : Nat}
  {children : List SyntaxTree} {t child part : SyntaxTree}

theorem of_child (h : (node operation start stop children).Nested category)
    (hchild : child ∈ children) : child.Nested category := by
  have hparts : ∀ part ∈ child.parts, part ∈ (node operation start stop children).parts :=
    fun part hpart => mem_parts_node.mpr (.inr ⟨child, hchild, hpart⟩)
  exact ⟨fun part hpart => h.within part (hparts part hpart),
    fun part hpart => h.apart part (hparts part hpart),
    fun part hpart => h.nonempty part (hparts part hpart)⟩

theorem bytes_subset (h : t.Nested category) (hpart : part ∈ t.parts) : part.bytes ⊆ t.bytes := by
  induction t using ofChildren with
  | node operation start stop children ih =>
      rcases mem_parts_node.mp hpart with rfl | ⟨child, hchild, hpart⟩
      · exact subset_rfl
      · exact (ih child hchild (h.of_child hchild) hpart).trans
          (h.within _ (self_mem_parts _) child hchild)

/-- Of two parts around one offset one lies in the other. -/
theorem subset_or_subset {a b : SyntaxTree} (h : t.Nested category) (ha : a ∈ t.parts)
    (hb : b ∈ t.parts) {offset : Nat} (hoffset : offset ∈ a.bytes) (hoffset' : offset ∈ b.bytes) :
    a.bytes ⊆ b.bytes ∨ b.bytes ⊆ a.bytes := by
  induction t using ofChildren with
  | node operation start stop children ih =>
      rcases mem_parts_node.mp ha with rfl | ⟨child, hchild, hain⟩
      · exact .inr (h.bytes_subset hb)
      rcases mem_parts_node.mp hb with rfl | ⟨child', hchild', hbin⟩
      · exact .inl (h.bytes_subset ha)
      by_cases hsame : child = child'
      · subst hsame
        exact ih child hchild (h.of_child hchild) hain hbin
      · -- children that are apart have no common offset
        have : Std.Symm fun a b : SyntaxTree => Disjoint a.bytes b.bytes :=
          ⟨fun _ _ hdisjoint => hdisjoint.symm⟩
        have hapart := (h.apart _ (self_mem_parts _)).forall hchild hchild' hsame
        exact absurd ((h.of_child hchild').bytes_subset hbin hoffset')
          (Finset.disjoint_left.mp hapart ((h.of_child hchild).bytes_subset hain hoffset))

end Nested

/-- The range of a part with text is around the offsets of its bytes. -/
theorem contains_range_iff {t : SyntaxTree} (h : t.bytes.Nonempty) (offset : Nat) :
    t.range.contains offset = true ↔ offset ∈ t.bytes := by
  rw [bytes, Finset.nonempty_Ico] at h
  rw [SourceRange.contains_iff, bytes, Finset.mem_Ico]
  simp only [range, SourceRange.ofPiece]
  omega

theorem range_eq {t : SyntaxTree} (h : t.bytes.Nonempty) : t.range = ⟨t.start, t.stop - 1⟩ := by
  rw [bytes, Finset.nonempty_Ico] at h
  rw [range, SourceRange.ofPiece, max_eq_left (by omega)]

/-- A part that is around another and no longer lies in it. -/
theorem bytes_subset_of_length_le {a b : SyntaxTree} (hb : b.bytes.Nonempty)
    (hsubset : b.bytes ⊆ a.bytes) (hlength : a.range.length ≤ b.range.length) :
    a.bytes ⊆ b.bytes := by
  rw [bytes, Finset.nonempty_Ico] at hb
  rw [bytes, bytes, Finset.Ico_subset_Ico_iff hb] at hsubset
  simp only [range, SourceRange.ofPiece, SourceRange.length] at hlength
  exact Finset.Ico_subset_Ico (by omega) (by omega)

theorem mem_rangesOf_iff {category : SyntaxCategory} {t : SyntaxTree} {r : SourceRange} :
    r ∈ t.rangesOf category ↔ ∃ part ∈ t.parts, part.isOf category = true ∧ part.range = r := by
  simp only [rangesOf, List.mem_map, List.mem_filter, and_assoc]

/-- A search in a nested tree finds the innermost part of its category around the offset, if there
is one. -/
theorem Nested.finds {category : SyntaxCategory} {t : SyntaxTree} (h : t.Nested category)
    (offset : Nat) :
    (t.smallestEnclosing offset category = none ∧
      ∀ part ∈ t.parts, part.isOf category = true → offset ∉ part.bytes) ∨
      ∃ part ∈ t.parts, t.smallestEnclosing offset category = some ⟨part.start, part.stop - 1⟩ ∧
        part.isOf category = true ∧ offset ∈ part.bytes ∧
        ∀ other ∈ t.parts, other.isOf category = true → offset ∈ other.bytes →
          part.bytes ⊆ other.bytes := by
  have hrange : ∀ part ∈ t.parts, part.isOf category = true →
      part.range ∈ t.rangesOf category := fun part hpart hof =>
    mem_rangesOf_iff.mpr ⟨part, hpart, hof, rfl⟩
  have hcontains : ∀ part ∈ t.parts, part.isOf category = true →
      (part.range.contains offset = true ↔ offset ∈ part.bytes) := fun part hpart hof =>
    contains_range_iff (h.nonempty part hpart hof) offset
  rw [smallestEnclosing, search_eq_foldl]
  rcases RangeSearch.found_cases offset (t.rangesOf category) with
    ⟨hfound, hmissed⟩ | ⟨r, hr, hfound, haround, hleast⟩
  · refine .inl ⟨hfound, fun part hpart hof hin => ?_⟩
    have hmiss := hmissed part.range (hrange part hpart hof)
    rw [(hcontains part hpart hof).mpr hin] at hmiss
    cases hmiss
  · obtain ⟨part, hpart, hof, rfl⟩ := mem_rangesOf_iff.mp hr
    have hin := (hcontains part hpart hof).mp haround
    refine .inr ⟨part, hpart, ?_, hof, hin, fun other hother hotherOf hotherIn => ?_⟩
    · rw [hfound, range_eq (h.nonempty part hpart hof)]
    rcases h.subset_or_subset hpart hother hin hotherIn with hsubset | hsubset
    · exact hsubset
    · exact bytes_subset_of_length_le (h.nonempty other hother hotherOf) hsubset
        (hleast other.range (hrange other hother hotherOf)
          ((hcontains other hother hotherOf).mpr hotherIn))

end SyntaxTree

/-- **The innermost operation.** In a tree whose parts lie in each other or apart, a search around
an offset finds nothing exactly if no operation of its category is there, and else one that is there
and that lies in all others that are. So a place is junk for a detector that can read its file
exactly if it is outside of the text or no operation of the category is at it. -/
theorem SourceUnit.smallestEnclosing_innermost (u : SourceUnit) (category : SyntaxCategory)
    (h : u.tree.Nested category) :
    (∀ offset,
      (u.smallestEnclosing offset category = none ↔
        ∀ part ∈ u.tree.parts, part.isOf category = true → offset ∉ part.bytes) ∧
      ∀ r, u.smallestEnclosing offset category = some r →
        ∃ part ∈ u.tree.parts, part.isOf category = true ∧ offset ∈ part.bytes ∧
          r = ⟨part.start, part.stop - 1⟩ ∧
          ∀ other ∈ u.tree.parts, other.isOf category = true → offset ∈ other.bytes →
            part.bytes ⊆ other.bytes) ∧
      ∀ (d : JunkDetector) (files : Files) (location : SourceLocation),
        (d.unit files location.filePath).1 = .ok u →
        ∃ junk, (d.isJunkAt files location category).1 = .ok junk ∧
          (junk = true ↔
            (∀ offset, ¬ u.IsAt location.line.toNat (max location.column.toNat 1) offset) ∨
            ∃ offset, u.IsAt location.line.toNat (max location.column.toNat 1) offset ∧
              ∀ part ∈ u.tree.parts, part.isOf category = true → offset ∉ part.bytes) := by
  have hnone : ∀ offset, u.smallestEnclosing offset category = none ↔
      ∀ part ∈ u.tree.parts, part.isOf category = true → offset ∉ part.bytes := by
    intro offset
    rcases h.finds offset with ⟨hfound, hmissed⟩ | ⟨part, hpart, hfound, hof, hin, -⟩
    · exact iff_of_true hfound hmissed
    · refine iff_of_false (fun hfail => ?_) fun hmissed => hmissed part hpart hof hin
      rw [SourceUnit.smallestEnclosing, hfound] at hfail
      cases hfail
  refine ⟨fun offset => ⟨hnone offset, fun r hr => ?_⟩, fun d files location hunit => ?_⟩
  · rcases h.finds offset with ⟨hfound, -⟩ | ⟨part, hpart, hfound, hof, hin, hinner⟩
    · rw [SourceUnit.smallestEnclosing, hfound] at hr
      cases hr
    · rw [SourceUnit.smallestEnclosing, hfound, Option.some.injEq] at hr
      exact ⟨part, hpart, hof, hin, hr.symm, hinner⟩
  · refine ⟨u.isJunkAt location category, ?_, ?_⟩
    · simp only [JunkDetector.isJunkAt, hunit]
      rfl
    simp only [← u.offset_eq_some_iff, SourceUnit.isJunkAt, ← hnone]
    cases hoffset : u.offset location.line.toNat location.column.toNat with
    | none => simp
    | some offset => simp

/-- A sum of three terms on one line, as the sum of a sum and a term. -/
def threeTerms : SourceUnit where
  path := ⟨"a.c"⟩
  arguments := []
  text := "a+b+c\n"
  tree :=
    .node none 0 6
      [.node (some ⟨.binary, "+"⟩) 0 5 [.node (some ⟨.binary, "+"⟩) 0 3 [], .node none 4 5 []]]

/-- The first plus is in the inner sum, which lies in the outer one; the end of the line is in
neither. -/
theorem threeTerms_smallestEnclosing_innermost :
    threeTerms.tree.Nested .addition ∧
      threeTerms.smallestEnclosing 1 .addition = some ⟨0, 2⟩ ∧
      threeTerms.smallestEnclosing 5 .addition = none ∧
      ((⟨none, [], [("a.c", threeTerms)]⟩ : JunkDetector).isJunkAt .empty ⟨"a.c", 1, 6⟩
        .addition).1 = .ok true := by
  have hnested : threeTerms.tree.Nested .addition :=
    ⟨by decide, by decide, by decide⟩
  obtain ⟨hsearch, hjunk⟩ := threeTerms.smallestEnclosing_innermost .addition hnested
  have hend : threeTerms.smallestEnclosing 5 .addition = none := (hsearch 5).1.mpr (by decide)
  refine ⟨hnested, ?_, hend, ?_⟩
  · obtain ⟨r, hr⟩ := Option.ne_none_iff_exists'.mp (mt (hsearch 1).1.mp (by decide))
    obtain ⟨part, hpart, hof, -, rfl, hinner⟩ := (hsearch 1).2 r hr
    have hin := hinner (.node (some ⟨.binary, "+"⟩) 0 3 [])
      (by simp [threeTerms, SyntaxTree.parts, SyntaxTree.partsOfAll]) (by decide) (by decide)
    rw [hr]
    simp only [threeTerms, SyntaxTree.parts, SyntaxTree.partsOfAll, List.append_nil,
      List.nil_append, List.cons_append, List.mem_cons, List.not_mem_nil, or_false] at hpart
    rcases hpart with rfl | rfl | rfl | rfl
    · exact absurd hof (by decide)
    · exact absurd hin (by decide)
    · rfl
    · exact absurd hof (by decide)
  · obtain ⟨junk, hanswer, hiff⟩ := hjunk ⟨none, [], [("a.c", threeTerms)]⟩ .empty ⟨"a.c", 1, 6⟩ rfl
    have hbytes : threeTerms.bytes = [97, 43, 98, 43, 99, 10] := by decide +kernel
    have hplace : threeTerms.IsAt 1 6 5 := by
      refine ⟨.inl (by decide +kernel), ?_, ?_⟩
      · rw [SourceUnit.newlinesBefore, hbytes]
        decide
      · rw [SourceUnit.sinceNewline, hbytes]
        decide
    rw [hanswer, hiff.mpr (.inr ⟨5, hplace, (hsearch 5).1.mp hend⟩)]

end MutationTesting
