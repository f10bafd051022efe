import Mathlib
import MutationTesting.Campaign.Loading
import MutationTesting.Proofs.Program.OpcodeVariant

/-!
Module files. A module is written as JSON without its absent debug locations and files or with every
member; a document may give the members of its objects in any order and leave out those that hold
their default. Every such document is read as the module it was written from.
-/

namespace MutationTesting

open Json Shape MutationTesting.Module

/-! ### Written forms -/

namespace DebugLocation

/-- Written with every member. -/
def explicitJson (d : DebugLocation) : Json :=
  .object [("line", .integer d.line.toNat), ("column", .integer d.column.toNat),
    ("file", .ofOption .string d.file)]

end DebugLocation

namespace Instruction

def explicitJson (i : Instruction) : Json :=
  .object [("opcode", i.opcode.json), ("debug_loc", .ofOption DebugLocation.explicitJson i.debug)]

end Instruction

namespace Function

/-- A function as JSON, over the written form of instructions. -/
def jsonBy (write : Instruction → Json) (f : Function) : Json :=
  .object [("name", .string f.name), ("params", .integer f.params.toNat),
    ("instructions", .ofList write f.body)]

end Function

namespace Module

/-- A module as JSON, over the written form of instructions. -/
def jsonBy (write : Instruction → Json) (m : Module) : Json :=
  .object [("name", .string m.name), ("source_file", .ofOption .string m.sourceFile),
    ("functions", .ofList (Function.jsonBy write) m.functions)]

/-- A module with every member, also those that `json` leaves out when they are absent. -/
def explicitJson (m : Module) : Json := m.jsonBy Instruction.explicitJson

theorem json_eq_jsonBy (m : Module) : m.json = m.jsonBy Instruction.json := rfl

end Module

/-! ### Places, instructions, functions and modules -/

namespace DebugLocation

variable {d : DebugLocation} {v : Json}

theorem fields_independent : fields.Pairwise RecordField.Independent := by
  simp only [fields, List.pairwise_cons, List.forall_mem_cons, List.not_mem_nil, false_implies,
    implies_true, List.Pairwise.nil, and_true]
  repeat' apply And.intro
  all_goals exact independent_of_set (fun _ _ => rfl) (fun _ _ => rfl) (fun _ _ _ => rfl)

theorem fromMembers_kept {t u : Json} {w : Option Json} {line column : UInt32}
    {file : Option (Option String)} (ht : uint32 t = .ok line) (hu : uint32 u = .ok column)
    (hw : w.mapM (Shape.optional Shape.string) = .ok file) :
    fromMembers fields {} (("line", t) :: ("column", u) :: presentMember "file" id w) =
      .ok ⟨some line, some column, file⟩ := by
  rcases mapM_option_ok hw with ⟨rfl, rfl⟩ | ⟨w, file, rfl, rfl, hw⟩ <;>
    simp [fromMembers, members, missing?, presentMember, fields, requiredField, optionalField, bind,
      Except.bind, Except.map, *]

theorem shape_of_members {file : List (String × Json)}
    (hfile : Writes defaults "file" Shape.string d.file file)
    (h : Variant defaults (.object (("line", .integer d.line.toNat) ::
      ("column", .integer d.column.toNat) :: file)) v) : v ≠ .null ∧ shape v = .ok d := by
  constructor
  · cases h
    exact Json.noConfusion
  · refine record_of_variant fields_independent ?_ ?_ h
    · have hkeys := (hfile.names.cons_cons "column").cons_cons "line"
      exact hkeys.nodup (by decide)
    intro kept hkept
    obtain ⟨t, _, rfl, ht, hkept⟩ := hkept.exists_keep (by simp [defaults])
    obtain ⟨u, _, rfl, hu, hkept⟩ := hkept.exists_keep (by simp [defaults])
    obtain ⟨w, x, rfl, hw, hx⟩ := hfile.read _ hkept
    refine ⟨_, fromMembers_kept (uint32_of_variant ht) (uint32_of_variant hu) hw, ?_⟩
    simp [hx]

theorem shape_of_variant (h : Variant defaults d.json v ∨ Variant defaults d.explicitJson v) :
    v ≠ .null ∧ shape v = .ok d := by
  have hread : ∀ s w, Variant defaults (.string s) w → w ≠ .null ∧ Shape.string w = .ok s :=
    fun _ _ hw => string_of_variant hw
  rcases h with h | h
  · exact shape_of_members (writes_present hread (by simp [defaults]) d.file) h
  · exact shape_of_members (writes_explicit hread (by simp [defaults]) d.file) h

end DebugLocation

namespace Instruction

variable {i : Instruction} {v : Json}

theorem fields_independent : fields.Pairwise RecordField.Independent := by
  simp only [fields, List.pairwise_cons, List.forall_mem_cons, List.not_mem_nil, false_implies,
    implies_true, List.Pairwise.nil, and_true]
  exact independent_of_set (fun _ _ => rfl) (fun _ _ => rfl) (fun _ _ _ => rfl)

theorem fromMembers_kept {t : Json} {w : Option Json} {opcode : Opcode}
    {debug : Option (Option DebugLocation)} (ht : Opcode.shape room t = .ok opcode)
    (hw : w.mapM (Shape.optional DebugLocation.shape) = .ok debug) :
    fromMembers fields {} (("opcode", t) :: presentMember "debug_loc" id w) =
      .ok ⟨some opcode, debug⟩ := by
  rcases mapM_option_ok hw with ⟨rfl, rfl⟩ | ⟨w, debug, rfl, rfl, hw⟩ <;>
    simp [fromMembers, members, missing?, presentMember, fields, requiredField, optionalField, bind,
      Except.bind, Except.map, *]

theorem shape_of_members {debug : List (String × Json)}
    (hdebug : Writes defaults "debug_loc" DebugLocation.shape i.debug debug)
    (h : Variant defaults (.object (("opcode", i.opcode.json) :: debug)) v) : shape v = .ok i := by
  refine record_of_variant fields_independent ?_ ?_ h
  · have hkeys := hdebug.names.cons_cons "opcode"
    exact hkeys.nodup (by decide)
  intro kept hkept
  obtain ⟨t, _, rfl, ht, hkept⟩ := hkept.exists_keep (by simp [defaults])
  obtain ⟨w, x, rfl, hw, hx⟩ := hdebug.read _ hkept
  refine ⟨_, fromMembers_kept (Opcode.shape_of_variant 119 ht) hw, ?_⟩
  simp [hx]

theorem shape_of_variant (h : Variant defaults i.json v) : shape v = .ok i := by
  have hread : ∀ d w, Variant defaults (DebugLocation.json d) w →
      w ≠ .null ∧ DebugLocation.shape w = .ok d :=
    fun _ _ hw => DebugLocation.shape_of_variant (.inl hw)
  exact shape_of_members (writes_present hread (by simp [defaults, DebugLocation.json]) i.debug) h

theorem shape_of_explicit_variant (h : Variant defaults i.explicitJson v) : shape v = .ok i := by
  have hread : ∀ d w, Variant defaults (DebugLocation.explicitJson d) w →
      w ≠ .null ∧ DebugLocation.shape w = .ok d :=
    fun _ _ hw => DebugLocation.shape_of_variant (.inr hw)
  exact shape_of_members
    (writes_explicit hread (by simp [defaults, DebugLocation.explicitJson]) i.debug) h

end Instruction

section Modules

variable {write : Instruction → Json}

namespace Function

theorem fields_independent : fields.Pairwise RecordField.Independent := by
  simp only [fields, List.pairwise_cons, List.forall_mem_cons, List.not_mem_nil, false_implies,
    implies_true, List.Pairwise.nil, and_true]
  repeat' apply And.intro
  all_goals exact independent_of_set (fun _ _ => rfl) (fun _ _ => rfl) (fun _ _ _ => rfl)

theorem fromMembers_kept {t u : Json} {w : Option Json} {name : String} {params : Option UInt32}
    {body : List Instruction} (ht : Shape.string t = .ok name) (hw : w.mapM uint32 = .ok params)
    (hu : Shape.list Instruction.shape u = .ok body) :
    fromMembers fields {} (("name", t) :: (presentMember "params" id w ++ [("instructions", u)])) =
      .ok ⟨some name, params, some body⟩ := by
  rcases mapM_option_ok hw with ⟨rfl, rfl⟩ | ⟨w, params, rfl, rfl, hw⟩ <;>
    simp [fromMembers, members, missing?, presentMember, fields, requiredField, optionalField, bind,
      Except.bind, Except.map, *]

theorem shape_of_variant
    (hwrite : ∀ i v, Variant defaults (write i) v → Instruction.shape v = .ok i)
    {f : Function} {v : Json} (h : Variant defaults (f.jsonBy write) v) : shape v = .ok f := by
  have hparams : ("params", Json.integer f.params.toNat) ∈ defaults → f.params = 0 := by
    simp [defaults, ← UInt32.toNat_inj]
  refine record_of_variant fields_independent (by simp) ?_ h
  intro kept hkept
  obtain ⟨t, _, rfl, ht, hkept⟩ := hkept.exists_keep (by simp [defaults])
  obtain ⟨w, x, _, rfl, hw, hx, hkept⟩ :=
    hkept.exists_optional (fun _ hw => uint32_of_variant hw) hparams
  obtain ⟨u, _, rfl, hu, hkept⟩ := hkept.exists_keep (by simp [defaults])
  rw [hkept.eq_nil]
  refine ⟨_, fromMembers_kept (string_of_variant ht).2 hw (list_of_variant hwrite hu), ?_⟩
  simp [hx]

end Function

namespace Module

theorem fields_independent : fields.Pairwise RecordField.Independent := by
  simp only [fields, List.pairwise_cons, List.forall_mem_cons, List.not_mem_nil, false_implies,
    implies_true, List.Pairwise.nil, and_true]
  repeat' apply And.intro
  all_goals exact independent_of_set (fun _ _ => rfl) (fun _ _ => rfl) (fun _ _ _ => rfl)

theorem fromMembers_kept {t u : Json} {w : Option Json} {name : String}
    {sourceFile : Option (Option String)} {functions : List Function}
    (ht : Shape.string t = .ok name)
    (hw : w.mapM (Shape.optional Shape.string) = .ok sourceFile)
    (hu : Shape.list Function.shape u = .ok functions) :
    fromMembers fields {}
      (("name", t) :: (presentMember "source_file" id w ++ [("functions", u)])) =
        .ok ⟨some name, sourceFile, some functions⟩ := by
  rcases mapM_option_ok hw with ⟨rfl, rfl⟩ | ⟨w, sourceFile, rfl, rfl, hw⟩ <;>
    simp [fromMembers, members, missing?, presentMember, fields, requiredField, optionalField, bind,
      Except.bind, Except.map, *]

theorem shape_of_variant
    (hwrite : ∀ i v, Variant defaults (write i) v → Instruction.shape v = .ok i)
    {m : Module} {v : Json} (h : Variant defaults (m.jsonBy write) v) : shape v = .ok m := by
  have hread : ∀ s w, Variant defaults (.string s) w → w ≠ .null ∧ Shape.string w = .ok s :=
    fun _ _ hw => string_of_variant hw
  have hfile : ("source_file", Json.ofOption .string m.sourceFile) ∈ defaults →
      m.sourceFile = none := by
    cases m.sourceFile <;> simp [defaults, Json.ofOption]
  refine record_of_variant fields_independent (by simp) ?_ h
  intro kept hkept
  obtain ⟨t, _, rfl, ht, hkept⟩ := hkept.exists_keep (by simp [defaults])
  obtain ⟨w, x, _, rfl, hw, hx, hkept⟩ :=
    hkept.exists_optional (fun _ hw => optional_of_variant hread hw) hfile
  obtain ⟨u, _, rfl, hu, hkept⟩ := hkept.exists_keep (by simp [defaults])
  rw [hkept.eq_nil]
  have hfunctions := list_of_variant (fun _ _ hv => Function.shape_of_variant hwrite hv) hu
  refine ⟨_, fromMembers_kept (string_of_variant ht).2 hw hfunctions, ?_⟩
  simp [hx]

end Module

end Modules

/-! ### Documents -/

theorem exact_presentMember {α : Type} {write : α → Json} (h : ∀ a, Exact (write a)) (key : String)
    (value : Option α) : ∀ m ∈ presentMember key write value, Exact m.2 := by
  intro m hm
  cases value with
  | none => cases hm
  | some a =>
      rw [List.mem_singleton.mp hm]
      exact h a

theorem DebugLocation.json_exact (d : DebugLocation) : Exact d.json := by
  refine .object fun m hm => ?_
  simp only [List.cons_append, List.nil_append, List.mem_cons] at hm
  rcases hm with rfl | rfl | hm
  · exact .ofUInt32 d.line
  · exact .ofUInt32 d.column
  · exact exact_presentMember Exact.string "file" d.file m hm

theorem DebugLocation.explicitJson_exact (d : DebugLocation) : Exact d.explicitJson := by
  refine .object fun m hm => ?_
  simp only [List.mem_cons, List.not_mem_nil, or_false] at hm
  rcases hm with rfl | rfl | rfl
  · exact .ofUInt32 d.line
  · exact .ofUInt32 d.column
  · exact .ofOption Exact.string d.file

theorem Instruction.json_exact (i : Instruction) : Exact i.json := by
  refine .object fun m hm => ?_
  rcases List.mem_cons.mp hm with rfl | hm
  · exact i.opcode.json_exact
  · exact exact_presentMember DebugLocation.json_exact "debug_loc" i.debug m hm

theorem Instruction.explicitJson_exact (i : Instruction) : Exact i.explicitJson := by
  refine .object fun m hm => ?_
  simp only [List.mem_cons, List.not_mem_nil, or_false] at hm
  rcases hm with rfl | rfl
  · exact i.opcode.json_exact
  · exact .ofOption DebugLocation.explicitJson_exact i.debug

theorem Function.jsonBy_exact {write : Instruction → Json} (h : ∀ i, Exact (write i))
    (f : Function) : Exact (f.jsonBy write) := by
  refine .object fun m hm => ?_
  simp only [List.mem_cons, List.not_mem_nil, or_false] at hm
  rcases hm with rfl | rfl | rfl
  · exact .string f.name
  · exact .ofUInt32 f.params
  · exact .ofList h f.body

namespace Module

theorem jsonBy_exact {write : Instruction → Json} (h : ∀ i, Exact (write i)) (m : Module) :
    Exact (m.jsonBy write) := by
  refine .object fun member hm => ?_
  simp only [List.mem_cons, List.not_mem_nil, or_false] at hm
  rcases hm with rfl | rfl | rfl
  · exact .string m.name
  · exact .ofOption Exact.string m.sourceFile
  · exact .ofList (Function.jsonBy_exact h) m.functions

/-- **Module files are read as they were written.** Let the members of every object of a written
module stand in any order, and leave out any of those that hold their default; absent debug
locations and files may also have been written. The compact text of what results denotes it, and a
file with any text that does is loaded as the module. -/
theorem loadModule_of_variant (m : Module) (document : Json)
    (h : Variant defaults m.json document ∨ Variant defaults m.explicitJson document) :
    Json.read document.compact = ⟨document, false⟩ ∧
      ∀ (files : Files) (path : Path) (text : String), Json.read text = ⟨document, false⟩ →
        files.readText path = .ok text → files.loadModule path = .ok m := by
  rw [json_eq_jsonBy, explicitJson] at h
  have hexact : Exact document := by
    rcases h with h | h
    · exact h.exact (m.jsonBy_exact Instruction.json_exact)
    · exact h.exact (m.jsonBy_exact Instruction.explicitJson_exact)
  have hshape : shape document = .ok m := by
    rcases h with h | h
    · exact shape_of_variant (fun _ _ hi => Instruction.shape_of_variant hi) h
    · exact shape_of_variant (fun _ _ hi => Instruction.shape_of_explicit_variant hi) h
  refine ⟨hexact.read_compact, fun files path text hread htext => ?_⟩
  have htext' : ofText text = .ok m := by
    rw [ofText, hread]
    exact document_eq hshape
  simp only [Files.loadModule, htext, htext']

/-- A module most of which may be left out of its file. -/
def sparse : Module :=
  ⟨"m", none, [⟨"f", 0, [⟨.call none "g" [], none⟩, ⟨.ret none, some ⟨3, 0, none⟩⟩]⟩]⟩

/-- The names of what is called stand before the kinds, and defaults are left out but one. -/
def sparseDocument : Json :=
  .object
    [("functions", .array [.object
      [("instructions", .array
        [.object [("opcode", .object [("callee", .string "g"), ("kind", .string "call")])],
          .object [("debug_loc", .object
              [("file", .null), ("column", .integer 0), ("line", .integer 3)]),
            ("opcode", .object [("kind", .string "return")])]]),
        ("name", .string "f")]]),
      ("name", .string "m")]

theorem sparse_variant : Variant defaults sparse.explicitJson sparseDocument := by
  have hcall : Variant defaults (Instruction.explicitJson ⟨.call none "g" [], none⟩)
      (.object [("opcode", .object [("callee", .string "g"), ("kind", .string "call")])]) := by
    refine .object (.keep ?_ (.drop (by simp [defaults, Json.ofOption]) .nil)) (.refl _)
    refine .object (.keep (.string _) (.drop (by simp [defaults, Json.ofOption]) ?_)) (.swap _ _ _)
    exact .keep (.string _) (.drop (by simp [defaults, Json.ofList]) .nil)
  have hreturn : Variant defaults (Instruction.explicitJson ⟨.ret none, some ⟨3, 0, none⟩⟩)
      (.object [("debug_loc", .object
          [("file", .null), ("column", .integer 0), ("line", .integer 3)]),
        ("opcode", .object [("kind", .string "return")])]) := by
    refine .object (.keep ?_ (.keep ?_ .nil)) (.swap _ _ _)
    · exact .object (.keep (.string _) (.drop (by simp [defaults, Json.ofOption]) .nil)) (.refl _)
    · refine .object (.keep (.integer _) (.keep (.integer _) (.keep .null .nil))) ?_
      exact (List.reverse_perm _).symm
  refine .object (.keep (.string _) (.drop (by simp [defaults, Json.ofOption, sparse]) ?_))
    (.swap _ _ _)
  refine .keep (.array (.cons (.object ?_ (.swap _ _ _)) .nil)) .nil
  refine .keep (.string _) (.drop (by simp [defaults]) (.keep ?_ .nil))
  exact .array (.cons hcall (.cons hreturn .nil))

/-- A directory of one file with a text. -/
def oneFile (text : String) : Files := ⟨.directory [("m", .file text.toUTF8)]⟩

theorem readText_oneFile (text : String) : (oneFile text).readText ⟨"m"⟩ = .ok text := by
  have hsegments : (⟨"m"⟩ : Path).segments = ["m"] := by cbv
  have hrelative : (⟨"m"⟩ : Path).isAbsolute = false := by cbv
  have hbytes : (oneFile text).readBytes ⟨"m"⟩ = .ok text.toUTF8 := by
    simp [Files.readBytes, Files.isRoot, Files.node, Files.locate, Files.walk, oneFile, hsegments,
      hrelative, Node.at?, Node.child, Node.isDirectory, Node.entries, Except.map, bind,
      Except.bind]
  simp only [Files.readText, hbytes, bind, Except.bind, fromUTF8?_toUTF8]

/-- The module is loaded from this document, and from the one that it is written as. -/
theorem sparse_loadModule :
    Variant defaults sparse.explicitJson sparseDocument ∧
      (oneFile sparseDocument.compact).loadModule ⟨"m"⟩ = .ok sparse ∧
      (oneFile sparse.json.compact).loadModule ⟨"m"⟩ = .ok sparse := by
  have hvariant := sparse_variant
  have hwritten : Variant defaults sparse.json sparse.json :=
    (sparse.jsonBy_exact Instruction.json_exact).variant_self
  obtain ⟨hread, hload⟩ := loadModule_of_variant sparse sparseDocument (.inr hvariant)
  obtain ⟨hread', hload'⟩ := loadModule_of_variant sparse sparse.json (.inl hwritten)
  exact ⟨hvariant, hload _ _ _ hread (readText_oneFile _),
    hload' _ _ _ hread' (readText_oneFile _)⟩

end Module

end MutationTesting
