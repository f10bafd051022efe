import Mathlib.Data.String.Basic
import MutationTesting.Files.Path

/-!
Paths and their pieces. To split a text at a character is to split its characters, so pieces that are
joined come apart again. A relative path is the names it leads through, and its parent is all of them
but the last.
-/

namespace MutationTesting

open String in
theorem utf8Len_concat (text : List Char) (d : Char) :
    utf8Len (text ++ [d]) = utf8Len text + d.utf8Size := by
  rw [utf8Len_append, utf8Len_cons, utf8Len_nil, Nat.zero_add]

theorem modifyHead_nil_append (pieces : List (List Char)) :
    pieces.modifyHead ([] ++ ·) = pieces := by
  cases pieces with
  | nil => rfl
  | cons first pieces => rfl

open String in
/-- What is found in `rest`, when `before` is done with and `piece` is begun. -/
theorem splitOnAux_valid (c : Char) (before piece rest : List Char) (found : List String) :
    (ofList (before ++ piece ++ rest)).splitOnAux (singleton c) ⟨utf8Len before⟩
        ⟨utf8Len (before ++ piece)⟩ 0 found =
      found.reverse ++ ((rest.splitOn c).modifyHead (piece ++ ·)).map ofList := by
  induction rest generalizing before piece found with
  | nil =>
      have hend := (atEnd_of_valid (before ++ piece) []).mpr rfl
      have hextract := extract_of_valid before piece []
      rw [← utf8Len_append] at hextract
      rw [splitOnAux, if_pos hend, hextract]
      simp
  | cons d rest ih =>
      have hend : Pos.Raw.atEnd (ofList (before ++ piece ++ d :: rest))
          ⟨utf8Len (before ++ piece)⟩ = false := by
        rw [Bool.eq_false_iff, ne_eq, atEnd_of_valid]
        exact List.cons_ne_nil d rest
      have hget := get_of_valid (before ++ piece) (d :: rest)
      have hnext := next_of_valid (before ++ piece) d rest
      -- the separator is a single character, so it has been read whole after one step
      have hsep : Pos.Raw.get (singleton c) 0 = c := get_of_valid [] [c]
      have hsepNext : Pos.Raw.next (singleton c) 0 = ⟨0 + c.utf8Size⟩ := next_of_valid [] c []
      have hsepEnd : Pos.Raw.atEnd (singleton c) ⟨0 + c.utf8Size⟩ = true :=
        (atEnd_of_valid [c] []).mpr rfl
      rw [splitOnAux, hend, hget, hsep, hsepNext]
      simp only [List.headD_cons, hnext, hsepEnd, if_true, Bool.false_eq_true, if_false,
        List.splitOn_cons_eq_if_modifyHead]
      rw [← utf8Len_concat]
      by_cases hd : d = c
      · subst hd
        have hback : Pos.Raw.unoffsetBy ⟨utf8Len (before ++ piece ++ [d])⟩ ⟨0 + d.utf8Size⟩ =
            ⟨utf8Len (before ++ piece)⟩ := by
          rw [utf8Len_concat, Nat.zero_add, Pos.Raw.unoffsetBy, Nat.add_sub_cancel]
        have hextract := extract_of_valid before piece (d :: rest)
        rw [← utf8Len_append] at hextract
        have hrest := ih (before ++ piece ++ [d]) [] (ofList piece :: found)
        rw [List.append_nil, List.append_assoc (before ++ piece), List.singleton_append] at hrest
        simp only [beq_self_eq_true, if_true, hback, hextract, hrest, modifyHead_nil_append]
        simp
      · have hrest := ih before (piece ++ [d]) found
        rw [← List.append_assoc, List.append_assoc (before ++ piece), List.singleton_append]
          at hrest
        have hstart : Pos.Raw.unoffsetBy ⟨utf8Len (before ++ piece)⟩ 0 =
            ⟨utf8Len (before ++ piece)⟩ := rfl
        simp only [beq_eq_false_iff_ne.mpr hd, Bool.false_eq_true, if_false, hstart, hnext]
        rw [← utf8Len_concat, hrest, List.modifyHead_modifyHead]
        simp [Function.comp_def]

theorem splitOn_singleton (s : String) (c : Char) :
    s.splitOn (String.singleton c) = (s.toList.splitOn c).map String.ofList := by
  have haux := splitOnAux_valid c [] [] s.toList []
  have hne : (String.singleton c == "") = false := by
    rw [beq_eq_false_iff_ne, ne_eq, ← String.toList_inj]
    simp
  rw [modifyHead_nil_append] at haux
  rw [String.splitOn, hne]
  simpa using haux

/-- A piece has characters of the text only, and not the one the text is split at. -/
theorem of_mem_splitOn {c d : Char} {text piece : List Char} (hpiece : piece ∈ text.splitOn c)
    (hd : d ∈ piece) : d ∈ text ∧ d ≠ c := by
  induction text generalizing piece with
  | nil =>
      rw [List.splitOn_nil, List.mem_singleton] at hpiece
      subst hpiece
      cases hd
  | cons e text ih =>
      rw [List.splitOn_cons_eq_if_modifyHead] at hpiece
      by_cases he : e = c
      · rw [if_pos (beq_iff_eq.mpr he)] at hpiece
        rcases List.mem_cons.mp hpiece with rfl | hpiece
        · cases hd
        · exact ⟨List.mem_cons_of_mem e (ih hpiece hd).1, (ih hpiece hd).2⟩
      · rw [if_neg (by simp [he])] at hpiece
        cases hsplit : text.splitOn c with
        | nil => exact absurd hsplit (List.splitOn_ne_nil c text)
        | cons first pieces =>
            rw [hsplit] at hpiece ih
            rcases List.mem_cons.mp hpiece with rfl | hpiece
            · rcases List.mem_cons.mp hd with rfl | hd
              · exact ⟨List.mem_cons_self, he⟩
              · exact ⟨List.mem_cons_of_mem e (ih List.mem_cons_self hd).1,
                  (ih List.mem_cons_self hd).2⟩
            · exact ⟨List.mem_cons_of_mem e (ih (List.mem_cons_of_mem first hpiece) hd).1,
                (ih (List.mem_cons_of_mem first hpiece) hd).2⟩

theorem of_mem_intercalate {c d : Char} {pieces : List (List Char)}
    (h : d ∈ [c].intercalate pieces) : d = c ∨ ∃ piece ∈ pieces, d ∈ piece := by
  induction pieces with
  | nil => cases h
  | cons first pieces ih =>
      cases pieces with
      | nil => exact .inr ⟨first, List.mem_cons_self, by simpa using h⟩
      | cons second pieces =>
          rw [List.intercalate_cons_cons, List.mem_append, List.mem_append,
            List.mem_singleton] at h
          rcases h with (h | h) | h
          · exact .inr ⟨first, List.mem_cons_self, h⟩
          · exact .inl h
          · rcases ih h with h | ⟨piece, hpiece, h⟩
            · exact .inl h
            · exact .inr ⟨piece, List.mem_cons_of_mem first hpiece, h⟩

namespace Path

/-! ### Segments -/

theorem segments_eq (p : Path) : p.segments = (p.text.toList.splitOn '/').map String.ofList :=
  splitOn_singleton p.text '/'

theorem of_mem_segments {p : Path} {s : String} (hs : s ∈ p.segments) {d : Char}
    (hd : d ∈ s.toList) : d ∈ p.text.toList ∧ d ≠ '/' := by
  rw [segments_eq] at hs
  obtain ⟨piece, hpiece, rfl⟩ := List.mem_map.mp hs
  rw [String.toList_ofList] at hd
  exact of_mem_splitOn hpiece hd

/-- The path that leads through the names. -/
def ofNames (names : List String) : Path := ⟨"/".intercalate names⟩

theorem segments_ofNames {names : List String} (hne : names ≠ [])
    (hnames : ∀ n ∈ names, '/' ∉ n.toList) : (ofNames names).segments = names := by
  have hchars : ("/".intercalate names).toList.splitOn '/' = names.map String.toList := by
    rw [String.toList_intercalate]
    refine List.splitOn_intercalate '/' ?_ (by simpa using hne)
    intro piece hpiece
    obtain ⟨n, hn, rfl⟩ := List.mem_map.mp hpiece
    exact hnames n hn
  rw [segments_eq, ofNames, hchars, List.map_map]
  simp [Function.comp_def]

/-- Joined names begin with the first character of the first one. -/
theorem exists_toList_ofNames_eq_cons {name : String} (h : name ≠ "") (names : List String) :
    ∃ c rest, c ∈ name.toList ∧ (ofNames (name :: names)).text.toList = c :: rest := by
  obtain ⟨c, cs, hcs⟩ := List.exists_cons_of_ne_nil (mt String.toList_eq_nil_iff.mp h)
  rw [ofNames, String.toList_intercalate, List.map_cons, hcs]
  cases names with
  | nil => exact ⟨c, cs, List.mem_cons_self, by simp⟩
  | cons second names =>
      rw [List.map_cons, List.intercalate_cons_cons, List.cons_append, List.cons_append]
      exact ⟨c, _, List.mem_cons_self, rfl⟩

theorem isAbsolute_eq_true_iff {p : Path} :
    p.isAbsolute = true ↔ ∃ rest, p.text.toList = '/' :: rest := by
  rw [isAbsolute, String.startsWith_string_iff]
  constructor
  · rintro ⟨rest, hrest⟩
    exact ⟨rest, hrest.symm⟩
  · rintro ⟨rest, hrest⟩
    exact ⟨rest, hrest.symm⟩

theorem text_ofNames_ne_empty {name : String} (h : name ≠ "") (names : List String) :
    (ofNames (name :: names)).text ≠ "" := by
  obtain ⟨c, rest, -, htext⟩ := exists_toList_ofNames_eq_cons h names
  intro hempty
  rw [hempty] at htext
  cases htext

theorem isAbsolute_ofNames {name : String} (h : name ≠ "") (hslash : '/' ∉ name.toList)
    (names : List String) : (ofNames (name :: names)).isAbsolute = false := by
  obtain ⟨c, rest, hc, htext⟩ := exists_toList_ofNames_eq_cons h names
  rw [Bool.eq_false_iff, ne_eq, isAbsolute_eq_true_iff]
  rintro ⟨rest', hrest'⟩
  rw [htext, List.cons.injEq] at hrest'
  exact hslash (hrest'.1 ▸ hc)

/-! ### Steps -/

/-- Whether a segment is more than a repeated separator or an inner dot. -/
def isStep (segment : String) : Bool := segment ≠ "" ∧ segment ≠ "."

/-- What a relative path leads through; a dot in front is part of it. -/
def steps (p : Path) : List String :=
  (if p.segments.head? = some "." then ["."] else []) ++ p.segments.filter isStep

/-- The component of a step. -/
def component (step : String) : PathComponent :=
  if step = "." then .here else if step = ".." then .up else .name step

/-- The text of a component, unless it is the root. -/
def spelling : PathComponent → Option String
  | .root => none
  | .here => some "."
  | .up => some ".."
  | .name s => some s

theorem spelling_component (step : String) : spelling (component step) = some step := by
  unfold component
  split
  · next h => rw [h, spelling]
  · split
    · next h => rw [h, spelling]
    · rfl

theorem component_ne_root (step : String) : component step ≠ .root := by
  unfold component
  split
  · exact nofun
  · split
    · exact nofun
    · exact nofun

theorem ofComponents_map (names : List String) :
    ofComponents (names.map component) = ofNames names := by
  have hspelled : (names.map component).filterMap spelling = names := by
    rw [List.filterMap_map]
    have hsome : spelling ∘ component = some := funext spelling_component
    rw [hsome, List.filterMap_some]
  have hroot : (names.map component).head? ≠ some .root := by
    cases names with
    | nil => exact nofun
    | cons n names =>
        rw [List.map_cons, List.head?_cons, ne_eq, Option.some.injEq]
        exact component_ne_root n
  have htext : ofComponents (names.map component) =
      ⟨(if (names.map component).head? = some .root then "/" else "") ++
        "/".intercalate ((names.map component).filterMap spelling)⟩ := rfl
  rw [htext, if_neg hroot, hspelled, String.empty_append]
  rfl

theorem components_eq {p : Path} (h : p.isAbsolute = false) :
    p.components = p.steps.map component := by
  have hinner : ∀ segments : List String,
      (segments.filterMap fun s =>
        if s = "" ∨ s = "." then none else if s = ".." then some .up
        else some (PathComponent.name s)) = (segments.filter isStep).map component := by
    intro segments
    induction segments with
    | nil => rfl
    | cons s segments ih =>
        by_cases hs : s = "" ∨ s = "."
        · have hstep : isStep s = false := by
            rw [isStep, decide_eq_false_iff_not]
            rintro ⟨hempty, hdot⟩
            exact hs.elim hempty hdot
          rw [List.filterMap_cons, List.filter_cons, hstep, if_pos hs]
          exact ih
        · obtain ⟨hempty, hdot⟩ := not_or.mp hs
          have hstep : isStep s = true := by
            rw [isStep, decide_eq_true_iff]
            exact ⟨hempty, hdot⟩
          rw [List.filterMap_cons, List.filter_cons, hstep, if_neg hs, if_pos rfl, List.map_cons,
            component, if_neg hdot, ih]
          by_cases hup : s = ".."
          · simp only [if_pos hup]
          · simp only [if_neg hup]
  rw [components, hinner, h, steps, List.map_append]
  simp only [Bool.false_eq_true, if_false]
  split
  · rfl
  · rfl

/-- The parent of a relative path leads through all of its steps but the last. -/
theorem parent_eq {p outer : Path} (h : p.isAbsolute = false) (hparent : p.parent = some outer) :
    outer = ofNames p.steps.dropLast := by
  rw [parent, components_eq h] at hparent
  split at hparent
  · cases hparent
  · cases hparent
  · rw [← List.map_dropLast, ofComponents_map, Option.some.injEq] at hparent
    exact hparent.symm

/-- A step has no separator in it, and nothing that the path has not. -/
theorem of_mem_steps {p : Path} {step : String} (h : step ∈ p.steps) :
    step ≠ "" ∧ ∀ d ∈ step.toList, d ≠ '/' ∧ (d ∈ p.text.toList ∨ d = '.') := by
  rw [steps, List.mem_append] at h
  rcases h with h | h
  · split at h
    · rw [List.mem_singleton.mp h]
      refine ⟨by decide, fun d hd => ?_⟩
      have hdot : d = '.' := by simpa using hd
      exact ⟨hdot ▸ by decide, .inr hdot⟩
    · cases h
  · obtain ⟨hmem, hstep⟩ := List.mem_filter.mp h
    rw [isStep, decide_eq_true_iff] at hstep
    exact ⟨hstep.1, fun d hd => ⟨(of_mem_segments hmem hd).2, .inl (of_mem_segments hmem hd).1⟩⟩

theorem slash_notMem_of_mem_steps {p : Path} {step : String} (h : step ∈ p.steps) :
    '/' ∉ step.toList := fun hmem => ((of_mem_steps h).2 _ hmem).1 rfl

/-- Steps put together again have no character that the path has not, separators and dots apart. -/
theorem of_mem_toList_ofNames {p : Path} {names : List String} (hnames : names ⊆ p.steps)
    {d : Char} (hd : d ∈ (ofNames names).text.toList) :
    d ∈ p.text.toList ∨ d = '/' ∨ d = '.' := by
  rw [ofNames, String.toList_intercalate] at hd
  obtain hslash | ⟨piece, hpiece, hd⟩ := of_mem_intercalate hd
  · exact .inr (.inl hslash)
  · obtain ⟨n, hn, rfl⟩ := List.mem_map.mp hpiece
    rcases ((of_mem_steps (hnames hn)).2 d hd).2 with htext | hdot
    · exact .inl htext
    · exact .inr (.inr hdot)

end Path

end MutationTesting
