import MutationTesting.Proofs.Files.Directories
import MutationTesting.Proofs.Ledger.Campaigns

/-!
Ledgers in files: how the file of a ledger is found, made and written. Actions are described by the
files that they leave, whatever they print.
-/

namespace MutationTesting

namespace Action

variable {α β : Type} {files files' files'' : Files} {a : α} {b : β}

/-- The action succeeds on the files, whatever has been printed, and leaves other files. -/
def Succeeds (action : Action α) (files : Files) (a : α) (files' : Files) : Prop :=
  ∀ printed, ∃ printed', action.run.run ⟨files, printed⟩ = (.ok a, ⟨files', printed'⟩)

theorem succeeds_pure (files : Files) (a : α) : Succeeds (pure a) files a files :=
  fun printed => ⟨printed, rfl⟩

theorem succeeds_say (files : Files) (line : String) : Succeeds (say line) files () files :=
  fun printed => ⟨printed ++ line ++ "\n", rfl⟩

theorem succeeds_modify (files new : Files) :
    Succeeds (modify fun console => { console with files := new }) files () new :=
  fun printed => ⟨printed, rfl⟩

theorem Succeeds.bind {step : Action α} {next : α → Action β} (h : Succeeds step files a files')
    (hnext : Succeeds (next a) files' b files'') : Succeeds (step >>= next) files b files'' := by
  intro printed
  obtain ⟨printed', hstep⟩ := h printed
  obtain ⟨printed'', hnext⟩ := hnext printed'
  refine ⟨printed'', ?_⟩
  rw [ExceptT.run_bind, StateT.run_bind, hstep]
  exact hnext

theorem run_get_bind (next : Console → Action α) (console : Console) :
    (get >>= next : Action α).run.run console = (next console).run.run console := rfl

theorem Succeeds.get_bind {next : Console → Action α}
    (h : ∀ printed, Succeeds (next ⟨files, printed⟩) files a files') :
    Succeeds (get >>= next) files a files' :=
  fun printed => h printed printed

theorem succeeds_change {edit : Files → Except FileError Files} (h : edit files = .ok files') :
    Succeeds (change edit) files () files' := by
  refine Succeeds.get_bind fun printed => ?_
  simp only [h]
  exact succeeds_modify files files'

/-- An action does one thing. -/
theorem Succeeds.unique {action : Action α} {a' : α} (h : Succeeds action files a files')
    (h' : Succeeds action files a' files'') : a = a' ∧ files' = files'' := by
  obtain ⟨printed, hrun⟩ := h ""
  obtain ⟨printed', hrun'⟩ := h' ""
  rw [hrun, Prod.mk.injEq, Except.ok.injEq, Console.mk.injEq] at hrun'
  exact ⟨hrun'.1, hrun'.2.1⟩

end Action

namespace Ledger

open MutationTesting.Action

variable {files files' : Files} {path : Path}

/-! ### Files of ledgers -/

theorem makeDirectoryOf_of_node {node : Node} (h : files.node path = .ok node) :
    Succeeds (makeDirectoryOf path) files () files := by
  rw [makeDirectoryOf]
  split
  next => exact succeeds_pure files ()
  next outer hparent =>
    refine Succeeds.get_bind fun printed => ?_
    rw [if_pos (Files.exists_parent h hparent)]
    exact succeeds_pure files ()

theorem openFile_of_database {content : Database} (hnamed : isTransient path = false)
    (h : files.node path = .ok (.database content)) :
    Succeeds (openFile path) files (some content) files := by
  rw [openFile, hnamed]
  refine Succeeds.get_bind fun printed => ?_
  simp only [h]
  exact succeeds_pure files _

theorem openFile_of_write {cause : FileError} (hnamed : isTransient path = false)
    (hnode : files.node path = .error cause)
    (hwrite : files.write path (.file .empty) = .ok files') :
    Succeeds (openFile path) files (some .empty) files' := by
  rw [openFile, hnamed]
  refine Succeeds.get_bind fun printed => ?_
  simp only [hnode, hwrite]
  exact (succeeds_modify files files').bind (succeeds_pure files' _)

theorem keep_of_write {content : Database} (hnamed : isTransient path = false)
    (h : files.write path (.database content) = .ok files') :
    Succeeds (keep path content) files () files' := by
  rw [keep, hnamed]
  refine Succeeds.get_bind fun printed => ?_
  simp only [h]
  exact succeeds_modify files files'

/-- What is in the file of a database may be replaced. -/
theorem keep_of_node {old : Node} (hnamed : isTransient path = false)
    (h : files.node path = .ok old) (hold : old.isDirectory = false) (content : Database) :
    ∃ files', Succeeds (keep path content) files () files' ∧
      files'.node path = .ok (.database content) := by
  obtain ⟨files', hwrite⟩ := Files.write_of_node h hold (.database content)
  exact ⟨files', keep_of_write hnamed hwrite, Files.node_write hwrite⟩

/-! ### Making a ledger -/

/-- A path at which there is no file and a database can make one: the directories that it lies in can
be made, there is still no file then, and opening a database there leaves one. The empty path and
`:memory:` are no such paths, since what is opened there is in no file. -/
structure Creatable (files : Files) (path : Path) : Prop where
  absent : files.exists path = false
  opens : ∃ made opened content, Succeeds (makeDirectoryOf path) files () made ∧
    made.exists path = false ∧
    Succeeds (openFile path) made content opened ∧ opened.exists path = true

/-- A file that opening makes is empty, and made under the name of the path. -/
theorem openFile_of_absent {content : Option Database} (habsent : files.exists path = false)
    (h : Succeeds (openFile path) files content files') (hfile : files'.exists path = true) :
    isTransient path = false ∧ content = some .empty ∧ files'.node path = .ok (.file .empty) := by
  obtain ⟨cause, hnode⟩ := Files.node_of_exists_eq_false habsent
  cases hnamed : isTransient path with
  | true =>
      -- nothing is made then, so there would still be no file
      have hopen : Succeeds (openFile path) files (some .empty) files := by
        rw [openFile, hnamed]
        exact succeeds_pure files _
      obtain ⟨-, rfl⟩ := h.unique hopen
      rw [habsent] at hfile
      cases hfile
  | false =>
      cases hwrite : files.write path (.file .empty) with
      | error cause =>
          obtain ⟨printed, hrun⟩ := h ""
          have hfail : (openFile path).run.run ⟨files, ""⟩ =
              (.error (.database .unusable), ⟨files, ""⟩) := by
            rw [openFile, hnamed]
            refine (run_get_bind _ _).trans ?_
            simp only [hnode, hwrite]
            rfl
          rw [hfail] at hrun
          cases hrun
      | ok written =>
          obtain ⟨rfl, rfl⟩ := h.unique (openFile_of_write hnamed hnode hwrite)
          exact ⟨rfl, rfl, Files.node_write hwrite⟩

section

variable {root : Node} {outer : List String} {last : String}

/-- Where nothing but directories is in the way, the missing ones are made. -/
theorem makeDirectoryOf_ofNames (hnames : ∀ name ∈ outer ++ [last], Path.IsName name)
    (hclear : root.Clear outer) (hmissing : root.at? (outer ++ [last]) = none) :
    ∃ made entries,
      Succeeds (makeDirectoryOf (Path.ofNames (outer ++ [last]))) ⟨root⟩ () ⟨made⟩ ∧
        made.Clear outer ∧ made.at? outer = some (.directory entries) ∧
        made.at? (outer ++ [last]) = none := by
  have houterNames := (List.forall_mem_append.mp hnames).1
  rw [makeDirectoryOf, Path.parent_plain hnames]
  cases houter : root.at? outer with
  | some node =>
      obtain ⟨entries, rfl⟩ := hclear.exists_entries houter
      have hthere : (Path.ofNames outer).text = "" ∨
          (Files.mk root).exists (Path.ofNames outer) = true := by
        by_cases hne : outer = []
        · rw [hne]
          exact .inl rfl
        · rw [Files.exists, Files.node_ofNames houterNames hne houter]
          exact .inr (Bool.or_true _)
      refine ⟨root, entries, Succeeds.get_bind fun printed => ?_, hclear, houter, hmissing⟩
      rw [if_pos hthere]
      exact succeeds_pure _ ()
  | none =>
      have hne : outer ≠ [] := by
        rintro rfl
        cases houter
      have hgone : ¬((Path.ofNames outer).text = "" ∨
          (Files.mk root).exists (Path.ofNames outer) = true) := by
        rw [Files.exists_missing houterNames hclear houter]
        rintro (htext | hexists)
        · exact Path.text_plain_ne_empty houterNames hne htext
        · cases hexists
      have hdepth : outer.length ≤ (Path.ofNames outer).components.length + 1 := by
        rw [Path.components_plain houterNames hne, List.length_map]
        omega
      refine ⟨_, [], Succeeds.get_bind fun printed => ?_, Node.clear_put_directory root outer,
        Node.at?_put _ _ _, Node.at?_put_directory root outer last⟩
      rw [if_neg hgone]
      exact succeeds_change (Files.makeDirectories_ofNames houterNames hclear houter hdepth)

/-- Where nothing but directories is in the way, a ledger may be made. -/
theorem creatable_ofNames (hnames : ∀ name ∈ outer ++ [last], Path.IsName name)
    (hclear : root.Clear outer) (hmissing : root.at? (outer ++ [last]) = none)
    (hmemory : (Path.ofNames (outer ++ [last])).text ≠ ":memory:") :
    Creatable ⟨root⟩ (Path.ofNames (outer ++ [last])) := by
  have hempty := Path.text_plain_ne_empty hnames (List.concat_ne_nil last outer)
  have hnamed : isTransient (Path.ofNames (outer ++ [last])) = false :=
    decide_eq_false (not_or.mpr ⟨hempty, hmemory⟩)
  obtain ⟨made, entries, hmade, hclear', houter, hgap⟩ :=
    makeDirectoryOf_ofNames hnames hclear hmissing
  have hnode := Files.node_missing hnames (hclear'.concat hgap) hgap
  have hwrite : (Files.mk made).write (Path.ofNames (outer ++ [last])) (.file .empty) =
      .ok ⟨made.put (outer ++ [last]) (.file .empty)⟩ := by
    rw [Files.write, hnode]
    simp only [Files.locateParent_ofNames hnames houter, bind, Except.bind]
  refine ⟨Files.exists_missing hnames (hclear.concat hmissing) hmissing, ⟨made⟩, _, _, hmade,
    Files.exists_missing hnames (hclear'.concat hgap) hgap,
    openFile_of_write hnamed hnode hwrite, ?_⟩
  rw [Files.exists, Files.node_write hwrite]
  exact Bool.or_true _

end

/-- Where a ledger may be made, a check makes an empty one. -/
theorem check_of_creatable (h : Creatable files path) :
    ∃ files', Succeeds (check path) files () files' ∧
      isTransient path = false ∧ files'.node path = .ok (.database (ofCampaigns [])) := by
  obtain ⟨made, opened, content, hmade, habsent, hopened, hfile⟩ := h.opens
  obtain ⟨hnamed, rfl, hempty⟩ := openFile_of_absent habsent hopened hfile
  obtain ⟨files', hkeep, hnode⟩ := keep_of_node hnamed hempty rfl (ofCampaigns [])
  rw [← withSchema_empty] at hkeep
  refine ⟨files', ?_, hnamed, hnode⟩
  refine (succeeds_say files _).bind (Succeeds.get_bind fun printed => ?_)
  rw [h.absent]
  exact hmade.bind (hopened.bind ((succeeds_say opened _).bind hkeep))

end Ledger

end MutationTesting
