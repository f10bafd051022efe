import MutationTesting.Proofs.Files.Walk
import MutationTesting.Proofs.Success

/-!
Writing files. What is written at a path is there afterwards, and a path that leads to a file may be
written again.
-/

namespace MutationTesting

namespace Node

theorem child_directory (entries : List (String × Node)) (name : String) :
    (directory entries).child name = (entries.find? fun entry => entry.1 == name).map (·.2) := rfl

theorem child_setEntry (entries : List (String × Node)) (name : String) (new : Node) :
    (directory (setEntry entries name new)).child name = some new := by
  induction entries with
  | nil => simp [setEntry, child_directory]
  | cons entry rest ih =>
      rw [setEntry]
      split
      next h => simp [h, child_directory]
      next h =>
        rw [child_directory, List.find?_cons_of_neg (by simpa using h)]
        exact ih

theorem child_setEntry_of_ne (entries : List (String × Node)) {name other : String}
    (h : other ≠ name) (new : Node) :
    (directory (setEntry entries name new)).child other = (directory entries).child other := by
  induction entries with
  | nil => simp [setEntry, child_directory, h.symm]
  | cons entry rest ih =>
      rw [setEntry]
      split
      next hname => simp [hname, child_directory, h.symm]
      next =>
        simp only [child_directory, List.find?_cons] at ih ⊢
        cases entry.1 == other with
        | true => rfl
        | false => exact ih

theorem child_entries (node : Node) (name : String) :
    (directory node.entries).child name = node.child name := rfl

theorem child_eq_none {node : Node} (h : node.isDirectory = false) (name : String) :
    node.child name = none := by
  cases node with
  | file content => rfl
  | database content => rfl
  | directory entries => cases h

theorem at?_put (node : Node) (names : List String) (new : Node) :
    (node.put names new).at? names = some new := by
  induction names generalizing node with
  | nil => rfl
  | cons name names ih =>
      rw [put, at?, child_setEntry]
      exact ih _

/-- Nothing is lost but what is replaced, unless that is a directory. -/
theorem extends_put {node : Node} {names : List String}
    (h : ∀ old, node.at? names = some old → old.isDirectory = false) (new : Node) :
    node.Extends (node.put names new) := by
  induction names generalizing node with
  | nil =>
      -- what is replaced is no directory, so nothing lies below it
      have hnode : node.isDirectory = false := h node rfl
      intro names' found hfound
      cases names' with
      | nil =>
          cases hfound
          exact ⟨new, rfl, fun hdirectory => by rw [hnode] at hdirectory; cases hdirectory⟩
      | cons name names' =>
          rw [at?, child_eq_none hnode] at hfound
          cases hfound
  | cons name names ih =>
      intro names' found hfound
      cases names' with
      | nil => exact ⟨_, rfl, fun _ => rfl⟩
      | cons name' names' =>
          rw [at?] at hfound
          split at hfound
          next next hnext =>
            rw [put, at?]
            by_cases hname : name' = name
            · subst hname
              rw [child_setEntry, hnext, Option.getD_some]
              refine ih (fun old hold => h old ?_) names' found hfound
              rw [at?, hnext]
              exact hold
            · rw [child_setEntry_of_ne _ hname, child_entries, hnext]
              exact ⟨found, hfound, id⟩
          next => cases hfound

end Node

namespace Files

theorem locateParent_eq_ok {files : Files} {p : Path} {outer : List String} {last : String}
    (h : files.locateParent p = .ok (outer, last)) :
    ('\x00' ∉ p.text.toList ∧ p.text ≠ "" ∧ p.isAbsolute = false) ∧
      (last ≠ "" ∧ last ≠ "." ∧ last ≠ "..") ∧
      ∃ segments entries, p.segments = segments ++ [last] ∧
        walk files.root [] segments = .ok outer.reverse ∧
        files.root.at? outer = some (.directory entries) := by
  rw [locateParent, String.contains_char_eq] at h
  split at h
  · cases h
  next hnul =>
    split at h
    · cases h
    next hplain =>
      obtain ⟨hempty, habsolute⟩ := not_or.mp hplain
      split at h
      · cases h
      next last' segments hsegments =>
        obtain ⟨names, hwalk, h⟩ := bind_ok h
        split at h
        next entries hentries =>
          split at h
          · cases h
          next hlast =>
            cases h
            refine ⟨⟨by simpa using hnul, hempty, by simpa using habsolute⟩, by simpa using hlast,
              segments.reverse, entries, ?_, by rw [List.reverse_reverse]; exact hwalk, hentries⟩
            rw [← List.reverse_reverse p.segments, hsegments, List.reverse_cons]
        · cases h
        · cases h

/-- A file is written in place of one that is there, or in its directory, where nothing is. -/
theorem write_eq_ok {files written : Files} {p : Path} {content : Node}
    (h : files.write p content = .ok written) :
    (∃ names old, files.locate p = .ok names ∧ files.root.at? names = some old ∧
        old.isDirectory = false ∧ written = ⟨files.root.put names content⟩) ∨
      ∃ outer last, (∀ node, files.node p ≠ .ok node) ∧
        files.locateParent p = .ok (outer, last) ∧
        written = ⟨files.root.put (outer ++ [last]) content⟩ := by
  rw [write] at h
  split at h
  · cases h
  next old hnode hold =>
    obtain ⟨names, hnames, hat⟩ := node_eq_ok_iff.mp hold
    rw [hnames] at h
    refine .inl ⟨names, old, hnames, hat, ?_, (Except.ok.inj h).symm⟩
    cases old with
    | file content => rfl
    | database content => rfl
    | directory entries => exact absurd rfl (hnode entries)
  next cause hnode =>
    obtain ⟨⟨outer, last⟩, hparent, h⟩ := bind_ok h
    refine .inr ⟨outer, last, ?_, hparent, (Except.ok.inj h).symm⟩
    intro node hok
    rw [hnode] at hok
    cases hok

/-- A path at whose place a node is put leads to it. -/
theorem node_put {files : Files} {p : Path} {names : List String} {new : Node}
    (hextends : files.root.Extends (files.root.put names new))
    (h : files.locate p = .ok names) : node ⟨files.root.put names new⟩ p = .ok new := by
  obtain ⟨hnul, hempty, hrelative, hwalk⟩ := locate_eq_ok_iff.mp h
  exact node_eq_ok_iff.mpr ⟨names, locate_eq_ok_iff.mpr
    ⟨hnul, hempty, hrelative, walk_of_extends hextends hwalk⟩, Node.at?_put _ _ _⟩

/-- What is written is there. -/
theorem node_write {files written : Files} {p : Path} {content : Node}
    (h : files.write p content = .ok written) : written.node p = .ok content := by
  obtain ⟨names, old, hnames, hat, hold, rfl⟩ | ⟨outer, last, hnone, hparent, rfl⟩ :=
    write_eq_ok h
  · refine node_put (Node.extends_put (fun old' hold' => ?_) content) hnames
    rw [hat] at hold'
    cases hold'
    exact hold
  · obtain ⟨⟨hnul, hempty, hrelative⟩, hlast, segments, entries, hsegments, hwalk, houter⟩ :=
      locateParent_eq_ok hparent
    -- the path would lead to what was already there
    have hmissing : ∀ inner, files.root.at? (outer ++ [last]) ≠ some inner := by
      intro inner hinner
      have hfound := walk_concat hwalk houter rfl hlast hinner
      rw [← hsegments] at hfound
      exact hnone inner (node_eq_ok_iff.mpr ⟨outer ++ [last], locate_eq_ok_iff.mpr
        ⟨hnul, hempty, hrelative, hfound⟩, hinner⟩)
    have hextends := Node.extends_put (fun old hold => absurd hold (hmissing old)) content
    obtain ⟨outer', houter', hdirectory⟩ := hextends _ _ houter
    have hput := Node.at?_put files.root (outer ++ [last]) content
    have hfound :=
      walk_concat (walk_of_extends hextends hwalk) houter' (hdirectory rfl) hlast hput
    rw [← hsegments] at hfound
    exact node_eq_ok_iff.mpr ⟨outer ++ [last], locate_eq_ok_iff.mpr
      ⟨hnul, hempty, hrelative, hfound⟩, hput⟩

/-- A file may be written again. -/
theorem write_of_node {files : Files} {p : Path} {old : Node} (h : files.node p = .ok old)
    (hold : old.isDirectory = false) (content : Node) :
    ∃ written, files.write p content = .ok written := by
  obtain ⟨names, hnames, -⟩ := node_eq_ok_iff.mp h
  rw [write, h, hnames]
  cases old with
  | file content => exact ⟨_, rfl⟩
  | database content => exact ⟨_, rfl⟩
  | directory entries => cases hold

end Files

end MutationTesting
