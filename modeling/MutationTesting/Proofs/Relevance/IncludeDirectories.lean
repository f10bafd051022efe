import Mathlib
import MutationTesting.Relevance.CompileCommand

/-!
Include directories of command lines from which the compiled file and its output have been cut off.
`-o` takes its output with it and `-I` its directory, and cutting off the one leaves the other as it
is. `-c` takes the next word with it as well, whatever it is: directories are kept exactly as long
as that word names none.
-/

namespace MutationTesting

namespace CompileArguments

/-- An argument that names an include directory, or says that the next one does. -/
def IsInclude (argument : String) : Prop := ∃ directory, argument = "-I" ++ directory

/-- A command line for a file in which options have the values they need: each `-o` an output that
is no include option, each `-I` that stands alone a directory that is neither an option that is cut
off nor the file. The file is no include option. -/
structure Regular (file : String) (arguments : List String) : Prop where
  output : ∀ rest, "-o" :: rest <:+ arguments →
    ∃ output, rest.head? = some output ∧ ¬ IsInclude output
  directory : ∀ rest, "-I" :: rest <:+ arguments →
    ∃ directory, rest.head? = some directory ∧ directory ≠ "-c" ∧ directory ≠ "-o" ∧
      directory ≠ file
  file : ¬ IsInclude file

/-- The words that `-c` takes with it, read from left to right; a `-c` that an option before it
takes takes none. -/
def takenWords : List String → List String
  | [] => []
  | [_] => []
  | a :: b :: rest =>
    if a = "-c" then b :: takenWords rest
    else if a = "-o" then takenWords rest
    else takenWords (b :: rest)

variable {file word : String} {arguments rest : List String}

/-! ### Reading words -/

theorem attached?_include (directory : String) :
    attached? ("-I" ++ directory) = some directory := by
  have h : ("-I" ++ directory).toList = '-' :: 'I' :: directory.toList := by
    rw [String.toList_append]
    rfl
  rw [attached?, h]
  simp only [String.ofList_toList]

theorem attached?_eq_none (h : ¬ IsInclude word) : attached? word = none := by
  rw [attached?]
  split
  next letters hletters =>
    refine absurd ⟨String.ofList letters, ?_⟩ h
    rw [← String.ofList_toList (s := word), hletters, ← String.ofList_toList (s := "-I"),
      ← String.ofList_append]
    rfl
  next => rfl

theorem IsInclude.cases (h : IsInclude word) :
    word = "-I" ∨ ∃ directory, directory ≠ "" ∧ word = "-I" ++ directory := by
  obtain ⟨directory, rfl⟩ := h
  by_cases hempty : directory = ""
  · exact .inl (by rw [hempty, String.append_empty])
  · exact .inr ⟨directory, hempty, rfl⟩

theorem isInclude_separate : IsInclude "-I" := ⟨"", rfl⟩

theorem append_ne_separate {directory : String} (h : directory ≠ "") :
    "-I" ++ directory ≠ "-I" := by
  intro heq
  exact h (String.append_right_inj "-I" |>.mp (heq.trans (String.append_empty).symm))

theorem not_isInclude_option (h : word = "-c" ∨ word = "-o") : ¬ IsInclude word := by
  rintro hinclude
  rcases h with rfl | rfl
  all_goals
    rcases hinclude.cases with heq | ⟨directory, -, heq⟩
    · exact absurd heq (by decide)
    · have := congrArg String.toList heq
      simp at this

theorem includeDirectories_word (h : ¬ IsInclude word) (rest : List String) :
    includeDirectories (word :: rest) = includeDirectories rest := by
  have hword : word ≠ "-I" := fun heq => h (heq ▸ isInclude_separate)
  cases rest <;> simp [includeDirectories, hword, attached?_eq_none h]

theorem includeDirectories_attached {directory : String} (h : directory ≠ "")
    (rest : List String) :
    includeDirectories (("-I" ++ directory) :: rest) = ⟨directory⟩ :: includeDirectories rest := by
  have hword := append_ne_separate h
  cases rest <;> simp [includeDirectories, hword, attached?_include]

theorem includeDirectories_separate (directory : String) (rest : List String) :
    includeDirectories ("-I" :: directory :: rest) = ⟨directory⟩ :: includeDirectories rest := by
  rw [includeDirectories, if_pos rfl]

/-- A word in front adds at most one directory and takes none away. -/
theorem length_includeDirectories_cons (word : String) (rest : List String) :
    (includeDirectories rest).length ≤ (includeDirectories (word :: rest)).length ∧
      (includeDirectories (word :: rest)).length ≤ (includeDirectories rest).length + 1 := by
  induction rest generalizing word with
  | nil =>
      have : (includeDirectories [word]).length ≤ 1 := by
        rw [includeDirectories]
        split
        · exact Nat.zero_le 1
        · cases attached? word <;> simp
      simpa [includeDirectories] using this
  | cons next rest ih =>
      by_cases h : IsInclude word
      · rcases h.cases with rfl | ⟨directory, hdirectory, rfl⟩
        · -- the next word is a value now, and no longer an option
          rw [includeDirectories_separate, List.length_cons]
          have := ih next
          omega
        · rw [includeDirectories_attached hdirectory, List.length_cons]
          omega
      · rw [includeDirectories_word h]
        omega

theorem strip_option (h : word = "-c" ∨ word = "-o") (file taken : String) (rest : List String) :
    strip file (word :: taken :: rest) = strip file rest := by
  rw [strip, if_pos h]

theorem strip_file (hc : file ≠ "-c") (ho : file ≠ "-o") (rest : List String) :
    strip file (file :: rest) = strip file rest := by
  cases rest <;> simp [strip, hc, ho]

theorem strip_word (hc : word ≠ "-c") (ho : word ≠ "-o") (hfile : word ≠ file)
    (rest : List String) : strip file (word :: rest) = word :: strip file rest := by
  cases rest <;> simp [strip, hc, ho, hfile]

theorem takenWords_word (hc : word ≠ "-c") (ho : word ≠ "-o") (rest : List String) :
    takenWords (word :: rest) = takenWords rest := by
  cases rest with
  | nil => rfl
  | cons next rest => rw [takenWords, if_neg hc, if_neg ho]

/-! ### Reading regular command lines -/

theorem Regular.of_suffix (h : Regular file arguments) (hrest : rest <:+ arguments) :
    Regular file rest :=
  ⟨fun after hafter => h.output after (hafter.trans hrest),
    fun after hafter => h.directory after (hafter.trans hrest), h.file⟩

theorem Regular.tail (h : Regular file (word :: rest)) : Regular file rest :=
  h.of_suffix (List.suffix_cons word rest)

theorem Regular.exists_output (h : Regular file ("-o" :: rest)) :
    ∃ output after, rest = output :: after ∧ ¬ IsInclude output := by
  obtain ⟨output, hhead, houtput⟩ := h.output rest List.suffix_rfl
  obtain ⟨after, rfl⟩ := List.head?_eq_some_iff.mp hhead
  exact ⟨output, after, rfl, houtput⟩

theorem Regular.exists_directory (h : Regular file ("-I" :: rest)) :
    ∃ directory after, rest = directory :: after ∧ directory ≠ "-c" ∧ directory ≠ "-o" ∧
      directory ≠ file := by
  obtain ⟨directory, hhead, hdirectory⟩ := h.directory rest List.suffix_rfl
  obtain ⟨after, rfl⟩ := List.head?_eq_some_iff.mp hhead
  exact ⟨directory, after, rfl, hdirectory⟩

/-- A regular command line is read a word, or an option with the word that it takes, at a time. Only
a `-c` and its word can give away a directory; all else is the same with and without what is cut
off. -/
inductive Reading (file : String) : List String → Prop
  | nil : Reading file []
  | last : Reading file ["-c"]
  | compile (taken : String) {rest : List String} (regular : Regular file (taken :: rest))
      (next : Reading file rest) : Reading file ("-c" :: taken :: rest)
  | kept (named : List Path) {arguments rest : List String}
      (left : includeDirectories (strip file arguments) =
        named ++ includeDirectories (strip file rest))
      (all : includeDirectories arguments = named ++ includeDirectories rest)
      (taken : takenWords arguments = takenWords rest) (next : Reading file rest) :
      Reading file arguments

theorem Reading.output {output : String} (houtput : ¬ IsInclude output)
    (next : Reading file rest) : Reading file ("-o" :: output :: rest) := by
  refine .kept [] ?_ ?_ ?_ next
  · rw [strip_option (.inr rfl), List.nil_append]
  · rw [includeDirectories_word (not_isInclude_option (.inr rfl)), includeDirectories_word houtput,
      List.nil_append]
  · rw [takenWords, if_neg (by decide), if_pos rfl]

theorem Reading.directory {directory : String} (hc : directory ≠ "-c") (ho : directory ≠ "-o")
    (hfile : directory ≠ file) (hinclude : ¬ IsInclude file) (next : Reading file rest) :
    Reading file ("-I" :: directory :: rest) := by
  have hI : "-I" ≠ file := fun heq => hinclude (heq ▸ isInclude_separate)
  refine .kept [⟨directory⟩] ?_ ?_ ?_ next
  · rw [strip_word (by decide) (by decide) hI, strip_word hc ho hfile, includeDirectories_separate,
      List.singleton_append]
  · rw [includeDirectories_separate, List.singleton_append]
  · rw [takenWords_word (by decide) (by decide), takenWords_word hc ho]

theorem Reading.single (hc : word ≠ "-c") (ho : word ≠ "-o") (hI : word ≠ "-I")
    (hinclude : ¬ IsInclude file) (next : Reading file rest) : Reading file (word :: rest) := by
  by_cases hfile : word = file
  · subst hfile
    refine .kept [] ?_ ?_ (takenWords_word hc ho rest) next
    · rw [strip_file hc ho, List.nil_append]
    · rw [includeDirectories_word hinclude, List.nil_append]
  · rcases em (IsInclude word) with hword | hword
    · obtain ⟨directory, hdirectory, rfl⟩ := hword.cases.resolve_left hI
      refine .kept [⟨directory⟩] ?_ ?_ (takenWords_word hc ho rest) next
      · rw [strip_word hc ho hfile, includeDirectories_attached hdirectory, List.singleton_append]
      · rw [includeDirectories_attached hdirectory, List.singleton_append]
    · refine .kept [] ?_ ?_ (takenWords_word hc ho rest) next
      · rw [strip_word hc ho hfile, includeDirectories_word hword, List.nil_append]
      · rw [includeDirectories_word hword, List.nil_append]

theorem Regular.reading (h : Regular file arguments) : Reading file arguments := by
  induction hlength : arguments.length using Nat.strong_induction_on generalizing arguments with
  | _ length ih =>
    subst hlength
    cases arguments with
    | nil => exact .nil
    | cons first rest =>
        have hafter : ∀ second after, rest = second :: after → Reading file after := by
          rintro second after rfl
          exact ih after.length (by simp only [List.length_cons]; omega) h.tail.tail rfl
        by_cases hc : first = "-c"
        · subst hc
          cases rest with
          | nil => exact .last
          | cons taken after => exact .compile taken h.tail (hafter taken after rfl)
        by_cases ho : first = "-o"
        · subst ho
          obtain ⟨output, after, rfl, houtput⟩ := h.exists_output
          exact .output houtput (hafter output after rfl)
        by_cases hI : first = "-I"
        · subst hI
          obtain ⟨directory, after, rfl, hdirectory, hdirectory', hne⟩ := h.exists_directory
          exact .directory hdirectory hdirectory' hne h.file (hafter directory after rfl)
        · exact .single hc ho hI h.file (ih rest.length (Nat.lt_succ_self _) h.tail rfl)

/-! ### Directories that are left -/

/-- Cutting off adds no directories. -/
theorem Reading.length_le (h : Reading file arguments) :
    (includeDirectories (strip file arguments)).length ≤ (includeDirectories arguments).length := by
  induction h with
  | nil => exact le_rfl
  | last => simp [strip, includeDirectories]
  | @compile taken rest _ _ ih =>
      rw [strip_option (.inl rfl), includeDirectories_word (not_isInclude_option (.inl rfl))]
      exact ih.trans (length_includeDirectories_cons taken rest).1
  | kept named left all _ _ ih =>
      rw [left, all, List.length_append, List.length_append]
      omega

/-- A directory whose `-I` is cut off is lost, and what is read in its place is another. -/
theorem Regular.includeDirectories_ne {directory : String}
    (h : Regular file ("-I" :: directory :: rest)) :
    includeDirectories (directory :: strip file rest) ≠ ⟨directory⟩ :: includeDirectories rest := by
  induction hlength : rest.length using Nat.strong_induction_on generalizing directory rest with
  | _ length ih =>
    subst hlength
    have hle := h.tail.tail.reading.length_le
    rcases em (IsInclude directory) with hinclude | hword
    · rcases hinclude.cases with rfl | ⟨inner, hinner, rfl⟩
      · obtain ⟨next, after, rfl, hc, ho, hfile⟩ := h.tail.exists_directory
        rw [strip_word hc ho hfile, includeDirectories_separate]
        intro heq
        obtain ⟨hnext, hrest⟩ := List.cons.inj heq
        obtain rfl : next = "-I" := congrArg Path.text hnext
        -- the same happens once more, one word on
        obtain ⟨last, after, rfl, hc', ho', hfile'⟩ := h.tail.tail.exists_directory
        rw [strip_word hc' ho' hfile', includeDirectories_separate] at hrest
        exact ih after.length (by simp only [List.length_cons]; omega) h.tail.tail rfl hrest
      · rw [includeDirectories_attached hinner]
        intro heq
        have htext := congrArg (fun paths => paths.head?.map (·.text.length)) heq
        simp at htext
    · rw [includeDirectories_word hword]
      intro heq
      rw [heq, List.length_cons] at hle
      omega

/-- **What cutting off keeps.** Cutting the compiled file, `-c` and `-o` with the words they take
off a regular command line keeps all include directories, in their order, exactly if no `-c` takes
an argument that names one. -/
theorem includeDirectories_strip_iff (h : Regular file arguments) :
    includeDirectories (strip file arguments) = includeDirectories arguments ↔
      ∀ taken ∈ takenWords arguments, ¬ IsInclude taken := by
  have hreading := h.reading
  clear h
  induction hreading with
  | nil => simp [strip, takenWords]
  | last =>
      simp [strip, takenWords, includeDirectories,
        attached?_eq_none (not_isInclude_option (.inl rfl))]
  | @compile taken rest regular next ih =>
      rw [strip_option (.inl rfl), includeDirectories_word (not_isInclude_option (.inl rfl)),
        takenWords, if_pos rfl, List.forall_mem_cons]
      rcases em (IsInclude taken) with hinclude | hword
      · refine iff_of_false ?_ fun hall => hall.1 hinclude
        rcases hinclude.cases with rfl | ⟨inner, hinner, rfl⟩
        · obtain ⟨directory, after, rfl, hc, ho, hfile⟩ := regular.exists_directory
          rw [strip_word hc ho hfile, includeDirectories_separate]
          exact regular.includeDirectories_ne
        · have hle := next.length_le
          rw [includeDirectories_attached hinner]
          intro heq
          rw [heq, List.length_cons] at hle
          omega
      · rw [includeDirectories_word hword]
        exact ih.trans ⟨fun hall => ⟨hword, hall⟩, And.right⟩
  | kept named left all htaken _ ih =>
      rw [left, all, htaken, List.append_cancel_left_eq]
      exact ih

theorem not_isInclude_of_attached? (h : attached? word = none) : ¬ IsInclude word := by
  rintro ⟨directory, rfl⟩
  rw [attached?_include] at h
  cases h

/-- Both spellings of the option stand before and after what is cut off, and both directories are
kept. -/
theorem usualLine_includeDirectories_strip :
    let line := ["cc", "-Iinclude", "-c", "a.c", "-I", "lib", "-o", "a.o"]
    Regular "a.c" line ∧ (∀ taken ∈ takenWords line, ¬ IsInclude taken) ∧
      includeDirectories (strip "a.c" line) = [⟨"include"⟩, ⟨"lib"⟩] := by
  intro line
  have hfile : ¬ IsInclude "a.c" := not_isInclude_of_attached? (by decide +kernel)
  have hregular : Regular "a.c" line := by
    refine ⟨fun rest hrest => ?_, fun rest hrest => ?_, hfile⟩
    · obtain rfl : rest = ["a.o"] := by simpa [line, List.suffix_cons_iff] using hrest
      exact ⟨"a.o", rfl, not_isInclude_of_attached? (by decide +kernel)⟩
    · obtain rfl : rest = ["lib", "-o", "a.o"] := by
        simpa [line, List.suffix_cons_iff] using hrest
      exact ⟨"lib", rfl, by decide⟩
  have htaken : ∀ taken ∈ takenWords line, ¬ IsInclude taken := by
    have hwords : takenWords line = ["a.c"] := by decide
    rw [hwords, List.forall_mem_singleton]
    exact hfile
  have hline : includeDirectories line = [⟨"include"⟩, ⟨"lib"⟩] := by decide +kernel
  exact ⟨hregular, htaken, ((includeDirectories_strip_iff hregular).mpr htaken).trans hline⟩

/-- An option that follows a `-c` goes with it, and its directory is lost. -/
theorem optionAfterCompile_includeDirectories_strip :
    let line := ["cc", "-c", "-Iinclude", "a.c"]
    Regular "a.c" line ∧ includeDirectories line = [⟨"include"⟩] ∧
      includeDirectories (strip "a.c" line) = [] := by
  intro line
  refine ⟨⟨fun rest hrest => ?_, fun rest hrest => ?_, ?_⟩, by decide +kernel, by decide +kernel⟩
  · simp [line, List.suffix_cons_iff] at hrest
  · simp [line, List.suffix_cons_iff] at hrest
  · exact not_isInclude_of_attached? (by decide +kernel)

end CompileArguments

end MutationTesting
