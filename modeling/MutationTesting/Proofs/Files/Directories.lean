import MutationTesting.Proofs.Files.Writing

/-!
Plain paths, which are names that separators join, and the directories that they lie in. Where
nothing but directories is in the way, all that are missing can be made, and then a file in the last.
-/

namespace MutationTesting

namespace Path

/-- A name of its own in a path. -/
structure IsName (name : String) : Prop where
  nonempty : name ≠ ""
  notHere : name ≠ "."
  notUp : name ≠ ".."
  noSlash : '/' ∉ name.toList
  noNul : '\x00' ∉ name.toList

instance (name : String) : Decidable (IsName name) :=
  decidable_of_iff
    (name ≠ "" ∧ name ≠ "." ∧ name ≠ ".." ∧ '/' ∉ name.toList ∧ '\x00' ∉ name.toList)
    ⟨fun ⟨hempty, hdot, hdots, hslash, hnul⟩ => ⟨hempty, hdot, hdots, hslash, hnul⟩,
      fun h => ⟨h.nonempty, h.notHere, h.notUp, h.noSlash, h.noNul⟩⟩

/-! ### Plain paths -/

section

variable {names : List String} (hnames : ∀ name ∈ names, IsName name)

include hnames

theorem segments_plain (hne : names ≠ []) : (ofNames names).segments = names :=
  segments_ofNames hne fun name hname => (hnames name hname).noSlash

theorem steps_plain (hne : names ≠ []) : (ofNames names).steps = names := by
  have hhead : names.head? ≠ some "." := by
    intro hhead
    obtain ⟨rest, hrest⟩ := List.head?_eq_some_iff.mp hhead
    exact (hnames "." (hrest ▸ List.mem_cons_self)).notHere rfl
  rw [steps, segments_plain hnames hne, if_neg hhead, List.nil_append, List.filter_eq_self]
  intro name hname
  rw [isStep, decide_eq_true_iff]
  exact ⟨(hnames name hname).nonempty, (hnames name hname).notHere⟩

theorem text_plain_ne_empty (hne : names ≠ []) : (ofNames names).text ≠ "" := by
  cases names with
  | nil => exact absurd rfl hne
  | cons name names =>
      exact text_ofNames_ne_empty (hnames name List.mem_cons_self).nonempty names

theorem isAbsolute_plain : (ofNames names).isAbsolute = false := by
  cases names with
  | nil => decide
  | cons name names =>
      have hname := hnames name List.mem_cons_self
      exact isAbsolute_ofNames hname.nonempty hname.noSlash names

theorem nul_notMem_plain : '\x00' ∉ (ofNames names).text.toList := by
  intro hmem
  rw [ofNames, String.toList_intercalate] at hmem
  obtain hslash | ⟨piece, hpiece, hmem⟩ := of_mem_intercalate hmem
  · exact absurd hslash (by decide)
  · obtain ⟨name, hname, rfl⟩ := List.mem_map.mp hpiece
    exact (hnames name hname).noNul hmem

theorem components_plain (hne : names ≠ []) :
    (ofNames names).components = names.map component := by
  rw [components_eq (isAbsolute_plain hnames), steps_plain hnames hne]

theorem ofComponents_plain (hne : names ≠ []) :
    ofComponents (ofNames names).components = ofNames names := by
  rw [components_plain hnames hne, ofComponents_map]

end

theorem parent_plain {outer : List String} {last : String}
    (hnames : ∀ name ∈ outer ++ [last], IsName name) :
    (ofNames (outer ++ [last])).parent = some (ofNames outer) := by
  have hcomponents := components_plain hnames (List.concat_ne_nil last outer)
  rw [List.map_append, List.map_singleton] at hcomponents
  rw [parent, hcomponents, List.getLast?_concat, List.dropLast_concat, ofComponents_map]
  cases hlast : component last with
  | root => exact absurd hlast (component_ne_root last)
  | here => rfl
  | up => rfl
  | name text => rfl

end Path

namespace Node

/-- Whatever exists on the way through the names, and at their end, is a directory. -/
def Clear (root : Node) (names : List String) : Prop :=
  ∀ outer, outer <+: names → ∀ node, root.at? outer = some node → node.isDirectory = true

theorem Clear.of_prefix {root : Node} {names outer : List String} (h : root.Clear names)
    (houter : outer <+: names) : root.Clear outer :=
  fun inner hinner => h inner (hinner.trans houter)

theorem Clear.exists_entries {root node : Node} {names : List String} (h : root.Clear names)
    (hnode : root.at? names = some node) : ∃ entries, node = .directory entries := by
  have hdirectory := h names (List.prefix_refl names) node hnode
  cases node with
  | directory entries => exact ⟨entries, rfl⟩
  | file content => cases hdirectory
  | database content => cases hdirectory

theorem Clear.concat {root : Node} {outer : List String} {last : String} (h : root.Clear outer)
    (hlast : root.at? (outer ++ [last]) = none) : root.Clear (outer ++ [last]) := by
  intro inner hinner node hnode
  rcases List.prefix_concat_iff.mp hinner with rfl | hinner
  · rw [hlast] at hnode
    cases hnode
  · exact h inner hinner node hnode

theorem isDirectory_of_child {node inner : Node} {name : String}
    (h : node.child name = some inner) : node.isDirectory = true := by
  by_contra hdirectory
  rw [child_eq_none (Bool.eq_false_iff.mpr hdirectory)] at h
  cases h

theorem setEntry_setEntry (entries : List (String × Node)) (name : String) (old new : Node) :
    setEntry (setEntry entries name old) name new = setEntry entries name new := by
  induction entries with
  | nil => simp [setEntry]
  | cons entry rest ih =>
      rw [setEntry, setEntry]
      split
      next h => rw [setEntry, if_pos h]
      next h => rw [setEntry, if_neg h, ih]

/-- Later writes at the same names count. -/
theorem put_put (node : Node) (names : List String) (old new : Node) :
    (node.put names old).put names new = node.put names new := by
  induction names generalizing node with
  | nil => rfl
  | cons name names ih =>
      rw [put, put, put, child_setEntry, Option.getD_some, ih]
      exact congrArg directory (setEntry_setEntry _ _ _ _)

/-- Directories on the way are made as they are needed. -/
theorem put_append (node : Node) (outer inner : List String) (new : Node) :
    node.put (outer ++ inner) new =
      node.put outer (((node.at? outer).getD (.directory [])).put inner new) := by
  induction outer generalizing node with
  | nil => rfl
  | cons name outer ih =>
      rw [List.cons_append, put, put, ih, at?]
      cases node.child name with
      | some next => rfl
      | none =>
          cases outer with
          | nil => rfl
          | cons second outer => rfl

/-- A directory that is made only to put something into it makes no difference. -/
theorem put_directory_put {node : Node} {outer : List String} (h : node.at? outer = none)
    (last : String) (new : Node) :
    (node.put outer (.directory [])).put (outer ++ [last]) new =
      node.put (outer ++ [last]) new := by
  rw [put_append, put_append, at?_put, put_put, h]
  rfl

theorem at?_put_directory (node : Node) (outer : List String) (last : String) :
    (node.put outer (.directory [])).at? (outer ++ [last]) = none := by
  rw [at?_append, at?_put]
  rfl

theorem clear_put_directory (node : Node) (names : List String) :
    (node.put names (.directory [])).Clear names := by
  rintro outer ⟨inner, rfl⟩ found hfound
  rw [put_append, at?_put, Option.some.injEq] at hfound
  subst hfound
  cases inner with
  | nil => rfl
  | cons name inner => rfl

end Node

namespace Files

variable {root : Node} {names : List String}

open MutationTesting.Path (IsName ofNames)

theorem walk_names (hnames : ∀ name ∈ names, IsName name) (outer : List String) {node : Node}
    (h : root.at? (outer ++ names) = some node) :
    walk root outer.reverse names = .ok (outer ++ names).reverse := by
  induction names generalizing outer with
  | nil => rw [walk, List.append_nil]
  | cons name names ih =>
      have hname := hnames name List.mem_cons_self
      rw [Node.at?_append] at h
      obtain ⟨here, hhere, hinner⟩ := Option.bind_eq_some_iff.mp h
      rw [Node.at?] at hinner
      split at hinner
      next next hnext =>
        have hturn : Turn root names.isEmpty outer.reverse name (name :: outer.reverse) :=
          .into (by rw [List.reverse_reverse]; exact hhere) (Node.isDirectory_of_child hnext)
            ⟨hname.nonempty, hname.notHere, hname.notUp⟩ hnext
        have hstep : root.at? ((outer ++ [name]) ++ names) = some node := by
          rw [Node.at?_append, Node.at?_concat hhere, hnext]
          exact hinner
        have hrest := ih (List.forall_mem_cons.mp hnames).2 (outer ++ [name]) hstep
        rw [List.reverse_concat] at hrest
        rw [List.append_cons]
        exact walk_cons_iff.mpr ⟨_, hturn, hrest⟩
      next => cases hinner

/-- A walk through names that lead nowhere ends where the first of them is missing. -/
theorem walk_missing (hnames : ∀ name ∈ names, IsName name) (outer : List String)
    (hclear : root.Clear (outer ++ names)) (houter : root.at? outer ≠ none)
    (h : root.at? (outer ++ names) = none) :
    walk root outer.reverse names = .error .notFound := by
  induction names generalizing outer with
  | nil =>
      rw [List.append_nil] at h
      exact absurd h houter
  | cons name names ih =>
      have hname := hnames name List.mem_cons_self
      obtain ⟨here, hhere⟩ := Option.ne_none_iff_exists'.mp houter
      have hdirectory := hclear outer (List.prefix_append _ _) here hhere
      rw [walk.eq_def]
      simp only [List.reverse_reverse, hhere, hname.nonempty, hname.notHere, hname.notUp,
        hdirectory, if_false, not_true_eq_false]
      cases hchild : here.child name with
      | none => rfl
      | some inner =>
          rw [List.append_cons] at hclear h
          have hrest := ih (List.forall_mem_cons.mp hnames).2 (outer ++ [name])
            hclear (by rw [Node.at?_concat hhere, hchild]; exact nofun) h
          rw [List.reverse_concat] at hrest
          exact hrest

theorem node_ofNames (hnames : ∀ name ∈ names, IsName name) (hne : names ≠ []) {node : Node}
    (h : root.at? names = some node) : (Files.mk root).node (ofNames names) = .ok node := by
  have hwalk := walk_names hnames [] h
  rw [List.nil_append, List.reverse_nil] at hwalk
  exact node_eq_ok_iff.mpr ⟨names, locate_eq_ok_iff.mpr ⟨Path.nul_notMem_plain hnames,
    Path.text_plain_ne_empty hnames hne, Path.isAbsolute_plain hnames,
    by rw [Path.segments_plain hnames hne]; exact hwalk⟩, h⟩

theorem node_missing (hnames : ∀ name ∈ names, IsName name) (hclear : root.Clear names)
    (h : root.at? names = none) : (Files.mk root).node (ofNames names) = .error .notFound := by
  have hne : names ≠ [] := by
    rintro rfl
    cases h
  have hwalk := walk_missing hnames [] hclear nofun h
  rw [List.reverse_nil] at hwalk
  rw [node, locate, String.contains_char_eq, Path.segments_plain hnames hne]
  simp [Path.nul_notMem_plain hnames, Path.text_plain_ne_empty hnames hne,
    Path.isAbsolute_plain hnames, hwalk, Except.map, bind, Except.bind]

theorem exists_missing (hnames : ∀ name ∈ names, IsName name) (hclear : root.Clear names)
    (h : root.at? names = none) : (Files.mk root).exists (ofNames names) = false := by
  rw [Files.exists, isRoot, Path.isAbsolute_plain hnames, node_missing hnames hclear h]
  rfl

theorem isDirectory_missing (hnames : ∀ name ∈ names, IsName name) (hclear : root.Clear names)
    (h : root.at? names = none) : (Files.mk root).isDirectory (ofNames names) = false := by
  rw [isDirectory, isRoot, Path.isAbsolute_plain hnames, node_missing hnames hclear h]
  rfl

section

variable {outer : List String} {last : String} (hnames : ∀ name ∈ outer ++ [last], IsName name)

include hnames

theorem locateParent_ofNames {entries : List (String × Node)}
    (houter : root.at? outer = some (.directory entries)) :
    (Files.mk root).locateParent (ofNames (outer ++ [last])) = .ok (outer, last) := by
  have hne := List.concat_ne_nil last outer
  have hlast := hnames last (by simp)
  have hwalk := walk_names (List.forall_mem_append.mp hnames).1 [] houter
  rw [List.reverse_nil, List.nil_append] at hwalk
  rw [locateParent, String.contains_char_eq, Path.segments_plain hnames hne]
  simp [Path.nul_notMem_plain hnames, Path.text_plain_ne_empty hnames hne,
    Path.isAbsolute_plain hnames, hlast.nonempty, hlast.notHere, hlast.notUp, hwalk, houter,
    bind, Except.bind]

theorem locateParent_missing (hclear : root.Clear outer) (houter : root.at? outer = none) :
    (Files.mk root).locateParent (ofNames (outer ++ [last])) = .error .notFound := by
  have hne := List.concat_ne_nil last outer
  have hwalk := walk_missing (List.forall_mem_append.mp hnames).1 [] hclear nofun houter
  rw [List.reverse_nil] at hwalk
  rw [locateParent, String.contains_char_eq, Path.segments_plain hnames hne]
  simp [Path.nul_notMem_plain hnames, Path.text_plain_ne_empty hnames hne,
    Path.isAbsolute_plain hnames, hwalk, bind, Except.bind]

theorem makeDirectory_ofNames {entries : List (String × Node)}
    (houter : root.at? outer = some (.directory entries))
    (hlast : root.at? (outer ++ [last]) = none) :
    (Files.mk root).makeDirectory (ofNames (outer ++ [last])) =
      .ok ⟨root.put (outer ++ [last]) (.directory [])⟩ := by
  rw [makeDirectory]
  simp only [Path.ofComponents_plain hnames (List.concat_ne_nil last outer),
    locateParent_ofNames hnames houter, bind, Except.bind, hlast]

theorem makeDirectory_missing (hclear : root.Clear outer) (houter : root.at? outer = none) :
    (Files.mk root).makeDirectory (ofNames (outer ++ [last])) = .error .notFound := by
  rw [makeDirectory]
  simp only [Path.ofComponents_plain hnames (List.concat_ne_nil last outer),
    locateParent_missing hnames hclear houter, bind, Except.bind]

end

/-- **Missing directories are made**, where nothing but directories is in the way. -/
theorem makeDirectories_ofNames (hnames : ∀ name ∈ names, IsName name)
    (hclear : root.Clear names) (hmissing : root.at? names = none) {depth : Nat}
    (hdepth : names.length ≤ depth) :
    (Files.mk root).makeDirectories depth (ofNames names) =
      .ok ⟨root.put names (.directory [])⟩ := by
  induction depth generalizing names with
  | zero =>
      rw [List.eq_nil_of_length_eq_zero (Nat.le_zero.mp hdepth)] at hmissing
      cases hmissing
  | succ depth ih =>
      obtain rfl | ⟨outer, last, rfl⟩ := List.eq_nil_or_concat names
      · cases hmissing
      rw [List.concat_eq_append] at *
      have hprefix : outer <+: outer ++ [last] := List.prefix_append _ _
      have hskip : ¬((ofNames (outer ++ [last])).text = "" ∨
          (Files.mk root).isDirectory (ofNames (outer ++ [last])) = true) := by
        rw [isDirectory_missing hnames hclear hmissing]
        rintro (htext | hdirectory)
        · exact Path.text_plain_ne_empty hnames (List.concat_ne_nil last outer) htext
        · cases hdirectory
      rw [makeDirectories, if_neg hskip]
      have hclear' := hclear.of_prefix hprefix
      cases houter : root.at? outer with
      | some node =>
          obtain ⟨entries, rfl⟩ := hclear'.exists_entries houter
          rw [makeDirectory_ofNames hnames houter hmissing]
      | none =>
          -- the directory that it lies in has to be made first, and is empty then
          have hmade := ih (List.forall_mem_append.mp hnames).1 hclear' houter (by simpa using hdepth)
          have hgap := Node.at?_put_directory root outer last
          rw [makeDirectory_missing hnames hclear' houter]
          simp only [Path.parent_plain hnames, hmade, bind, Except.bind]
          rw [isDirectory_missing hnames ((Node.clear_put_directory root outer).concat hgap) hgap,
            makeDirectory_ofNames hnames (Node.at?_put _ _ _) hgap,
            Node.put_directory_put houter]
          rfl

end Files

end MutationTesting
