import MutationTesting.Object.Artifact
import MutationTesting.Proofs.Program.Notation
import MutationTesting.Proofs.Program.Slot

/-!
Object images as bytes. Every image is decoded to itself, so that the bytes of an artifact tell the
image they were made from, and with it a module up to what does not reach images: its debug
locations and its source file.
-/

namespace MutationTesting

open Json Shape

namespace Symbol

theorem json_exact (s : Symbol) : Exact s.json := by
  refine .object fun m hm => ?_
  simp only [List.mem_cons, List.not_mem_nil, or_false] at hm
  rcases hm with rfl | rfl | rfl
  · exact .string s.name
  · exact .ofUInt32 s.params
  · exact .ofList Opcode.json_exact s.code.toList

theorem shape_members {t u v : Json} {name : String} {params : UInt32} {code : List Opcode}
    (ht : Shape.string t = .ok name) (hu : uint32 u = .ok params)
    (hv : Shape.list (Opcode.shape room) v = .ok code) :
    shape (.object [("name", t), ("params", u), ("code", v)]) =
      .ok ⟨name, params, code.toArray⟩ := by
  simp [shape, record, fromMembers, members, missing?, fields, requiredField, ht, hu, hv, bind,
    Except.bind, Except.map]

theorem shape_json (s : Symbol) : shape s.json = .ok s :=
  shape_members (string_string s.name) (uint32_integer s.params)
    (list_ofList (Opcode.shape_json 120) s.code.toList)

end Symbol

namespace Image

theorem json_exact (i : Image) : Exact i.json := by
  refine .object fun m hm => ?_
  simp only [List.mem_cons, List.not_mem_nil, or_false] at hm
  rcases hm with rfl | rfl | rfl
  · exact .ofUInt32 i.formatVersion
  · exact .string i.module
  · exact .ofList Symbol.json_exact i.symbols

theorem shape_members {t u v : Json} {version : UInt32} {name : String} {symbols : List Symbol}
    (ht : uint32 t = .ok version) (hu : Shape.string u = .ok name)
    (hv : Shape.list Symbol.shape v = .ok symbols) :
    shape (.object [("format_version", t), ("module", u), ("symbols", v)]) =
      .ok ⟨version, name, symbols⟩ := by
  simp [shape, record, fromMembers, members, missing?, fields, requiredField, ht, hu, hv, bind,
    Except.bind, Except.map]

theorem shape_json (i : Image) : shape i.json = .ok i :=
  shape_members (uint32_integer i.formatVersion) (string_string i.module)
    (list_ofList Symbol.shape_json i.symbols)

theorem decode_encode (i : Image) : decode i.encode = .ok i := by
  have hread : readBytes i.encode = ⟨i.json, false⟩ := i.json_exact.readBytes_compact
  rw [decode, hread]
  exact document_eq i.shape_json

theorem encode_injective {i j : Image} (h : i.encode = j.encode) : i = j := by
  have hi := i.decode_encode
  rw [h, decode_encode] at hi
  exact (Except.ok.inj hi).symm

end Image

/-! ### Artifacts of modules -/

namespace Artifact

theorem image_ofImage (i : Image) : (ofImage i).image = .ok i := i.decode_encode

end Artifact

namespace Symbol

/-- The function of a symbol, without debug locations. -/
def toFunction (s : Symbol) : Function := ⟨s.name, s.params, s.code.toList.map fun o => ⟨o, none⟩⟩

end Symbol

namespace Function

/-- A function without its debug locations. -/
def stripped (f : Function) : Function :=
  { f with body := f.body.map fun i => { i with debug := none } }

theorem toFunction_ofFunction (f : Function) : (Symbol.ofFunction f).toFunction = f.stripped := by
  simp only [Symbol.toFunction, Symbol.ofFunction, code, stripped, List.map_map]
  rfl

theorem ofFunction_stripped (f : Function) :
    Symbol.ofFunction f.stripped = Symbol.ofFunction f := by
  simp only [Symbol.ofFunction, code, stripped, List.map_map]
  rfl

end Function

namespace Module

/-- A module without its debug locations and its source file. -/
def stripped (m : Module) : Module :=
  { m with sourceFile := none, functions := m.functions.map Function.stripped }

/-- An image tells all of its module that is not stripped off, and nothing else. -/
theorem ofModule_eq_iff (m n : Module) :
    Image.ofModule m = Image.ofModule n ↔ m.stripped = n.stripped := by
  constructor
  · intro h
    have hback : ∀ m : Module,
        m.stripped = ⟨(Image.ofModule m).module, none,
          (Image.ofModule m).symbols.map Symbol.toFunction⟩ := by
      intro m
      have hfunctions : m.functions.map Function.stripped =
          (m.functions.map Symbol.ofFunction).map Symbol.toFunction := by
        rw [List.map_map]
        exact List.map_congr_left fun f _ => f.toFunction_ofFunction.symm
      rw [stripped, hfunctions]
      rfl
    rw [hback m, hback n, h]
  · intro h
    have hforth : ∀ m : Module, Image.ofModule m.stripped = Image.ofModule m := by
      intro m
      have hsymbols : (m.functions.map Function.stripped).map Symbol.ofFunction =
          m.functions.map Symbol.ofFunction := by
        rw [List.map_map]
        exact List.map_congr_left fun f _ => f.ofFunction_stripped
      rw [Image.ofModule, Image.ofModule, ← hsymbols]
      rfl
    rw [← hforth m, ← hforth n, h]

/-- **Objects determine accepted modules.** The object of an accepted module is read as format
version 1, the name of the module and its functions in order with names, parameter counts and code;
writing what was read gives the artifact again. Two accepted modules have one object exactly if they
differ at most in debug locations and source files. -/
theorem compile_image {m n : Module} {a b : Artifact} (hm : m.compile = .ok a)
    (hn : n.compile = .ok b) :
    ∃ i, a.image = .ok i ∧
      i = ⟨1, m.name,
        m.functions.map fun f => ⟨f.name, f.params, (f.body.map (·.opcode)).toArray⟩⟩ ∧
      Artifact.ofImage i = a ∧ (a.object = b.object ↔ m.stripped = n.stripped) := by
  obtain rfl := eq_ofModule_of_compile hm
  obtain rfl := eq_ofModule_of_compile hn
  refine ⟨.ofModule m, Artifact.image_ofImage _, rfl, rfl, ?_⟩
  rw [← ofModule_eq_iff]
  constructor
  · intro h
    exact Image.encode_injective h
  · intro h
    rw [h]

/-- A module with every form of opcode and operand, with extreme numbers, and with names that have
to be escaped. -/
def ornate (debug : Option DebugLocation) : Module :=
  let last : Opcode := .ret (some (.imm (-9223372036854775808)))
  let body : List Opcode :=
    [.move 4294967295 (.arg 0), .binary 0 .rem (.reg 4294967295) (.imm 9223372036854775807),
      .compare 1 .sge (.reg 0) (.imm (-1)), .call (some 2) "\"\\/\n" [], .call none "" [.reg 1],
      .branch (.reg 1) 7 0, .jump 8, .ret none, last]
  ⟨"\u0001\u007f é😀", debug.map fun _ => "", [⟨"\t", 4294967295, body.map fun o => ⟨o, debug⟩⟩,
    ⟨"", 0, [⟨last, debug⟩]⟩]⟩

/-- Both forms of the module are accepted, and what is read from the one object they share is the
code of either. -/
theorem ornate_compile_image :
    ∃ a b, (ornate none).compile = .ok a ∧ (ornate (some ⟨7, 3, none⟩)).compile = .ok b ∧
      a.image = .ok (.ofModule (ornate (some ⟨7, 3, none⟩))) ∧ a.object = b.object := by
  have hnone := compile_of_violation?_none (m := ornate none) (by decide)
  have hsome := compile_of_violation?_none (m := ornate (some ⟨7, 3, none⟩)) (by decide)
  obtain ⟨i, hi, rfl, -, hiff⟩ := compile_image hnone hsome
  exact ⟨_, _, hnone, hsome, hi, hiff.mpr (by decide)⟩

end Module

end MutationTesting
