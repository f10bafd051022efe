import MutationTesting.Files.Tree
import MutationTesting.Proofs.Files.Segments

/-!
Walks through a tree of files, segment by segment. Where a path leads somewhere its parent does, and
it goes on to do so in a tree that has grown.
-/

namespace MutationTesting

namespace Node

theorem at?_append (node : Node) (outer inner : List String) :
    node.at? (outer ++ inner) = (node.at? outer).bind fun n => n.at? inner := by
  induction outer generalizing node with
  | nil => rfl
  | cons name outer ih =>
      rw [List.cons_append, at?, at?]
      cases node.child name with
      | none => rfl
      | some next => exact ih next

theorem at?_singleton (node : Node) (name : String) : node.at? [name] = node.child name := by
  rw [at?]
  cases node.child name with
  | none => rfl
  | some next => rfl

theorem at?_concat {node outer : Node} {names : List String} (h : node.at? names = some outer)
    (name : String) : node.at? (names ++ [name]) = outer.child name := by
  rw [at?_append, h, Option.bind_some, at?_singleton]

/-- All that is in the one tree is in the other, with directories for directories. -/
def Extends (old new : Node) : Prop :=
  ∀ names node, old.at? names = some node →
    ∃ node', new.at? names = some node' ∧ (node.isDirectory = true → node'.isDirectory = true)

end Node

namespace Files

/-! ### Walks -/

/-- What a segment does to where a walk is: names, innermost first. The last segment may be empty
only at a directory. -/
inductive Turn (root : Node) (last : Bool) : List String → String → List String → Prop
  | empty {names : List String} {node : Node} (hnode : root.at? names.reverse = some node)
      (hlast : last = true → node.isDirectory = true) : Turn root last names "" names
  | here {names : List String} {node : Node} (hnode : root.at? names.reverse = some node)
      (hdirectory : node.isDirectory = true) : Turn root last names "." names
  | up {name : String} {names : List String} {node : Node}
      (hnode : root.at? (name :: names).reverse = some node)
      (hdirectory : node.isDirectory = true) : Turn root last (name :: names) ".." names
  | into {name : String} {names : List String} {node inner : Node}
      (hnode : root.at? names.reverse = some node) (hdirectory : node.isDirectory = true)
      (hname : name ≠ "" ∧ name ≠ "." ∧ name ≠ "..") (hinner : node.child name = some inner) :
      Turn root last names name (name :: names)

theorem walk_cons_iff {root : Node} {names found : List String} {segment : String}
    {rest : List String} :
    walk root names (segment :: rest) = .ok found ↔
      ∃ next, Turn root rest.isEmpty names segment next ∧ walk root next rest = .ok found := by
  constructor
  · intro h
    rw [walk.eq_def] at h
    simp only at h
    split at h
    · cases h
    next node hnode =>
      split at h
      next hsegment =>
        subst hsegment
        split at h
        · cases h
        next hlast =>
          refine ⟨names, .empty hnode fun hrest => ?_, h⟩
          by_contra hdirectory
          exact hlast ⟨hrest, hdirectory⟩
      next hempty =>
        split at h
        · cases h
        next hdirectory =>
          rw [Decidable.not_not] at hdirectory
          split at h
          next hsegment =>
            subst hsegment
            exact ⟨names, .here hnode hdirectory, h⟩
          next hdot =>
            split at h
            next hsegment =>
              subst hsegment
              split at h
              · cases h
              · exact ⟨_, .up hnode hdirectory, h⟩
            next hdots =>
              split at h
              next hchild =>
                obtain ⟨inner, hinner⟩ := Option.isSome_iff_exists.mp hchild
                exact ⟨_, .into hnode hdirectory ⟨hempty, hdot, hdots⟩ hinner, h⟩
              next => cases h
  · rintro ⟨next, hturn, h⟩
    cases hturn with
    | @empty _ node hnode hlast =>
        have hrest : ¬(rest.isEmpty = true ∧ ¬node.isDirectory = true) := fun hcut =>
          hcut.2 (hlast hcut.1)
        rw [walk.eq_def]
        simp only [hnode, if_true, if_neg hrest, h]
    | here hnode hdirectory =>
        rw [walk.eq_def]
        simp only [hnode]
        simp [hdirectory, h]
    | up hnode hdirectory =>
        rw [walk.eq_def]
        simp only [hnode]
        simp [hdirectory, h]
    | into hnode hdirectory hname hinner =>
        rw [walk.eq_def]
        simp only [hnode]
        simp [hdirectory, hname, hinner, h]

/-- A turn within a walk may be taken as its last one, and the other way round, unless the segment is
empty. -/
theorem Turn.of_last {root : Node} {last last' : Bool} {names next : List String}
    {segment : String} (h : Turn root last names segment next)
    (hsegment : segment = "" → last' = true → last = true) :
    Turn root last' names segment next := by
  cases h with
  | empty hnode hlast => exact .empty hnode fun h => hlast (hsegment rfl h)
  | here hnode hdirectory => exact .here hnode hdirectory
  | up hnode hdirectory => exact .up hnode hdirectory
  | into hnode hdirectory hname hinner => exact .into hnode hdirectory hname hinner

/-- Only the empty segment may be taken at something else than a directory. -/
theorem Turn.directory {root : Node} {last : Bool} {names next : List String} {segment : String}
    (h : Turn root last names segment next) (hsegment : segment ≠ "") :
    ∃ node, root.at? names.reverse = some node ∧ node.isDirectory = true := by
  cases h with
  | empty hnode hlast => exact absurd rfl hsegment
  | here hnode hdirectory => exact ⟨_, hnode, hdirectory⟩
  | up hnode hdirectory => exact ⟨_, hnode, hdirectory⟩
  | into hnode hdirectory hname hinner => exact ⟨_, hnode, hdirectory⟩

/-- Every turn leads to a node. -/
theorem Turn.exists_node {root : Node} {last : Bool} {names next : List String} {segment : String}
    (h : Turn root last names segment next) : ∃ node, root.at? next.reverse = some node := by
  cases h with
  | empty hnode hlast => exact ⟨_, hnode⟩
  | here hnode hdirectory => exact ⟨_, hnode⟩
  | up hnode hdirectory =>
      rw [List.reverse_cons, Node.at?_append] at hnode
      obtain ⟨node, hnode, -⟩ := Option.bind_eq_some_iff.mp hnode
      exact ⟨node, hnode⟩
  | into hnode hdirectory hname hinner =>
      rw [List.reverse_cons, Node.at?_concat hnode]
      exact ⟨_, hinner⟩

theorem exists_node_of_walk {root : Node} {names segments found : List String}
    (hstart : ∃ node, root.at? names.reverse = some node)
    (h : walk root names segments = .ok found) : ∃ node, root.at? found.reverse = some node := by
  induction segments generalizing names with
  | nil =>
      cases h
      exact hstart
  | cons segment rest ih =>
      obtain ⟨next, hturn, h⟩ := walk_cons_iff.mp h
      exact ih hturn.exists_node h

/-- A walk goes on from where it leads. -/
theorem walk_append {root : Node} {names segments found : List String}
    (h : walk root names segments = .ok found) (more : List String) {last : List String}
    (hmore : walk root found more = .ok last) : walk root names (segments ++ more) = .ok last := by
  induction segments generalizing names with
  | nil =>
      cases h
      exact hmore
  | cons segment rest ih =>
      obtain ⟨next, hturn, h⟩ := walk_cons_iff.mp h
      refine walk_cons_iff.mpr ⟨next, hturn.of_last fun _ hlast => ?_, ih h⟩
      rw [List.isEmpty_iff] at hlast ⊢
      exact (List.append_eq_nil_iff.mp hlast).1

/-- A walk that leads to a directory goes on to a name in it. -/
theorem walk_concat {root node inner : Node} {segments outer : List String} {last : String}
    (h : walk root [] segments = .ok outer.reverse) (hnode : root.at? outer = some node)
    (hdirectory : node.isDirectory = true) (hlast : last ≠ "" ∧ last ≠ "." ∧ last ≠ "..")
    (hinner : root.at? (outer ++ [last]) = some inner) :
    walk root [] (segments ++ [last]) = .ok (outer ++ [last]).reverse := by
  rw [Node.at?_concat hnode] at hinner
  rw [← List.reverse_reverse outer] at hnode
  have hturn : Turn root true outer.reverse last (last :: outer.reverse) :=
    .into hnode hdirectory hlast hinner
  rw [List.reverse_concat]
  exact walk_append h [last] (walk_cons_iff.mpr ⟨_, hturn, rfl⟩)

/-- A walk without empty segments leads somewhere as far as it is followed. -/
theorem walk_of_append {root : Node} {names segments more found : List String}
    (hsegments : "" ∉ segments) (h : walk root names (segments ++ more) = .ok found) :
    ∃ last, walk root names segments = .ok last := by
  induction segments generalizing names with
  | nil => exact ⟨names, rfl⟩
  | cons segment rest ih =>
      -- an empty segment may be taken at a file within a walk, but not at the end of one
      obtain ⟨hsegment, hrest⟩ := not_or.mp (fun hmem => hsegments (List.mem_cons.mpr hmem))
      obtain ⟨next, hturn, h⟩ := walk_cons_iff.mp h
      obtain ⟨last, hlast⟩ := ih hrest h
      exact ⟨last, walk_cons_iff.mpr
        ⟨next, hturn.of_last fun hempty _ => absurd hempty.symm hsegment, hlast⟩⟩

theorem Turn.of_extends {old new : Node} (hextends : old.Extends new) {last : Bool}
    {names next : List String} {segment : String} (h : Turn old last names segment next) :
    Turn new last names segment next := by
  cases h with
  | empty hnode hlast =>
      obtain ⟨node', hnode', hkept⟩ := hextends _ _ hnode
      exact .empty hnode' fun hl => hkept (hlast hl)
  | here hnode hdirectory =>
      obtain ⟨node', hnode', hkept⟩ := hextends _ _ hnode
      exact .here hnode' (hkept hdirectory)
  | up hnode hdirectory =>
      obtain ⟨node', hnode', hkept⟩ := hextends _ _ hnode
      exact .up hnode' (hkept hdirectory)
  | @into name names node inner hnode hdirectory hname hinner =>
      obtain ⟨node', hnode', hkept⟩ := hextends _ _ hnode
      rw [← Node.at?_concat hnode] at hinner
      obtain ⟨inner', hinner', -⟩ := hextends _ _ hinner
      rw [Node.at?_concat hnode'] at hinner'
      exact .into hnode' (hkept hdirectory) hname hinner'

theorem walk_of_extends {old new : Node} (hextends : old.Extends new)
    {names segments found : List String} (h : walk old names segments = .ok found) :
    walk new names segments = .ok found := by
  induction segments generalizing names with
  | nil => exact h
  | cons segment rest ih =>
      obtain ⟨next, hturn, h⟩ := walk_cons_iff.mp h
      exact walk_cons_iff.mpr ⟨next, hturn.of_extends hextends, ih h⟩

/-! ### Parents -/

/-- Repeated separators and dots make no difference to where a walk leads. -/
theorem walk_filter {root : Node} {names segments found : List String}
    (h : walk root names segments = .ok found) :
    walk root names (segments.filter Path.isStep) = .ok found := by
  induction segments generalizing names with
  | nil => exact h
  | cons segment rest ih =>
      obtain ⟨next, hturn, h⟩ := walk_cons_iff.mp h
      rw [List.filter_cons]
      split
      next hstep =>
        have hempty : segment ≠ "" := by
          rw [Path.isStep, decide_eq_true_iff] at hstep
          exact hstep.1
        exact walk_cons_iff.mpr
          ⟨next, hturn.of_last fun hsegment _ => absurd hsegment hempty, ih h⟩
      next hstep =>
        cases hturn with
        | empty hnode hlast => exact ih h
        | here hnode hdirectory => exact ih h
        | up hnode hdirectory => exact absurd (by decide) hstep
        | into hnode hdirectory hname hinner =>
            refine absurd ?_ hstep
            rw [Path.isStep, decide_eq_true_iff]
            exact ⟨hname.1, hname.2.1⟩

theorem walk_steps {root : Node} {p : Path} {found : List String}
    (h : walk root [] p.segments = .ok found) : walk root [] p.steps = .ok found := by
  rw [Path.steps]
  split
  next hhead =>
    obtain ⟨rest, hrest⟩ := List.head?_eq_some_iff.mp hhead
    have hdot : Turn root (p.segments.filter Path.isStep).isEmpty [] "." [] := by
      rw [hrest] at h
      obtain ⟨next, hturn, -⟩ := walk_cons_iff.mp h
      obtain ⟨node, hnode, hdirectory⟩ := hturn.directory (by decide)
      exact .here hnode hdirectory
    exact walk_cons_iff.mpr ⟨[], hdot, walk_filter h⟩
  next => exact walk_filter h

theorem node_eq_ok_iff {files : Files} {p : Path} {node : Node} :
    files.node p = .ok node ↔
      ∃ names, files.locate p = .ok names ∧ files.root.at? names = some node := by
  rw [Files.node]
  cases files.locate p with
  | error cause => exact ⟨nofun, nofun⟩
  | ok names =>
      cases hnode : files.root.at? names with
      | none => simp [hnode, bind, Except.bind]
      | some found => simp [hnode, bind, Except.bind]

theorem node_of_exists_eq_false {files : Files} {p : Path} (h : files.exists p = false) :
    ∃ cause, files.node p = .error cause := by
  rw [Files.exists, Bool.or_eq_false_iff] at h
  cases hnode : files.node p with
  | error cause => exact ⟨cause, rfl⟩
  | ok node =>
      rw [hnode] at h
      cases h.2

theorem locate_eq_ok_iff {files : Files} {p : Path} {names : List String} :
    files.locate p = .ok names ↔
      '\x00' ∉ p.text.toList ∧ p.text ≠ "" ∧ p.isAbsolute = false ∧
        walk files.root [] p.segments = .ok names.reverse := by
  rw [locate, String.contains_char_eq]
  by_cases hnul : '\x00' ∈ p.text.toList
  · simp [hnul]
  by_cases hempty : p.text = ""
  · simp [hempty]
  cases habsolute : p.isAbsolute with
  | true => simp [hnul, hempty]
  | false =>
      cases walk files.root [] p.segments with
      | error cause => simp [hnul, hempty, Except.map]
      | ok found => simp [hnul, hempty, Except.map, List.reverse_eq_iff]

/-- Where a path leads somewhere, so does the path of its first steps. -/
theorem isOk_node_of_steps {files : Files} {p : Path} {node : Node}
    (h : files.node p = .ok node) {name : String} {names : List String}
    (hnames : name :: names <+: p.steps) :
    (files.node (.ofNames (name :: names))).isOk = true := by
  obtain ⟨found, hfound, -⟩ := node_eq_ok_iff.mp h
  obtain ⟨hnul, -, -, hwalk⟩ := locate_eq_ok_iff.mp hfound
  have hsub : name :: names ⊆ p.steps := hnames.subset
  have hempty : "" ∉ name :: names := fun hmem => (Path.of_mem_steps (hsub hmem)).1 rfl
  have hname : name ≠ "" := (List.ne_of_not_mem_cons hempty).symm
  have hslash : '/' ∉ name.toList := Path.slash_notMem_of_mem_steps (hsub List.mem_cons_self)
  have hjoinedNul : '\x00' ∉ (Path.ofNames (name :: names)).text.toList := by
    intro hmem
    rcases Path.of_mem_toList_ofNames hsub hmem with htext | hslash | hdot
    · exact hnul htext
    · exact absurd hslash (by decide)
    · exact absurd hdot (by decide)
  have hsegments : (Path.ofNames (name :: names)).segments = name :: names :=
    Path.segments_ofNames (List.cons_ne_nil name names)
      fun n hn => Path.slash_notMem_of_mem_steps (hsub hn)
  -- the walk is followed as far as these steps go
  obtain ⟨more, hmore⟩ := hnames
  have hsteps := walk_steps hwalk
  rw [← hmore] at hsteps
  obtain ⟨last, hlast⟩ := walk_of_append hempty hsteps
  obtain ⟨inner, hinner⟩ := exists_node_of_walk ⟨files.root, rfl⟩ hlast
  have hlocate : files.locate (.ofNames (name :: names)) = .ok last.reverse := by
    refine locate_eq_ok_iff.mpr ⟨hjoinedNul, Path.text_ofNames_ne_empty hname names,
      Path.isAbsolute_ofNames hname hslash names, ?_⟩
    rw [hsegments, List.reverse_reverse]
    exact hlast
  rw [node_eq_ok_iff.mpr ⟨_, hlocate, hinner⟩]
  rfl

/-- Where a path leads somewhere, the directory it lies in exists. -/
theorem exists_parent {files : Files} {p outer : Path} {node : Node}
    (h : files.node p = .ok node) (hparent : p.parent = some outer) :
    outer.text = "" ∨ files.exists outer = true := by
  obtain ⟨found, hfound, -⟩ := node_eq_ok_iff.mp h
  obtain ⟨-, -, hrelative, -⟩ := locate_eq_ok_iff.mp hfound
  rw [Path.parent_eq hrelative hparent]
  cases hsteps : p.steps.dropLast with
  | nil => exact .inl rfl
  | cons name names =>
      have hnames : name :: names <+: p.steps := hsteps ▸ List.dropLast_prefix p.steps
      rw [Files.exists, isOk_node_of_steps h hnames, Bool.or_true]
      exact .inr rfl

end Files

end MutationTesting
