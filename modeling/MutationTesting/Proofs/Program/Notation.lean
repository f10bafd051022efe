import MutationTesting.Program.Notation
import MutationTesting.Proofs.Json.RoundTrip
import MutationTesting.Proofs.Json.Shape

/-!
Operands and opcodes as JSON. Each is written as a value that its text denotes, and is read back as
it was; an opcode is kept whole before its members are read, which takes room for two containers.
-/

namespace MutationTesting

namespace Json

theorem Exact.ofUInt32 (n : UInt32) : Exact (.integer n.toNat) := by
  have hsize : n.toNat < UInt64.size := Nat.lt_trans n.toNat_lt_size (by decide)
  exact .integer (by omega) (Int.ofNat_lt.mpr hsize)

theorem Exact.ofUInt64 (n : UInt64) : Exact (.integer n.toNat) :=
  .integer (by omega) (Int.ofNat_lt.mpr n.toNat_lt_size)

theorem Exact.ofInt64 (i : Int64) : Exact (.integer i.toInt) := by
  have hlow := i.le_toInt
  have hhigh : i.toInt < UInt64.size := Int.lt_trans i.toInt_lt (by decide)
  exact .integer hlow hhigh

theorem Exact.ofOption {α : Type} {write : α → Json} (h : ∀ a, Exact (write a)) (value : Option α) :
    Exact (.ofOption write value) := by
  cases value with
  | none => exact .null
  | some a => exact h a

theorem Exact.ofList {α : Type} {write : α → Json} (h : ∀ a, Exact (write a)) (items : List α) :
    Exact (.ofList write items) := by
  refine .array fun v hv => ?_
  obtain ⟨a, -, rfl⟩ := List.mem_map.mp hv
  exact h a

end Json

open Json Shape

theorem valueTag_object {known : List String} {name : String} (h : known.contains name = true)
    (content : Json) : valueTag known (.object [(name, content)]) = .ok (name, content) := by
  simp only [valueTag, tagged, h, if_true, bind, Except.bind]

namespace Operand

theorem json_exact (o : Operand) : Exact o.json := by
  cases o with
  | reg index => exact .object fun m hm => by rw [List.mem_singleton.mp hm]; exact .ofUInt32 index
  | arg index => exact .object fun m hm => by rw [List.mem_singleton.mp hm]; exact .ofUInt32 index
  | imm value => exact .object fun m hm => by rw [List.mem_singleton.mp hm]; exact .ofInt64 value

theorem shape_reg (v : Json) : shape (.object [("reg", v)]) = (uint32 v).map .reg := by
  have htag := valueTag_object (show ["reg", "arg", "imm"].contains "reg" by simp) v
  simp only [shape, htag, bind, Except.bind, if_true]

theorem shape_arg (v : Json) : shape (.object [("arg", v)]) = (uint32 v).map .arg := by
  have htag := valueTag_object (show ["reg", "arg", "imm"].contains "arg" by simp) v
  simp only [shape, htag, bind, Except.bind, String.reduceEq, if_true, if_false]

theorem shape_imm (v : Json) : shape (.object [("imm", v)]) = (int64 v).map .imm := by
  have htag := valueTag_object (show ["reg", "arg", "imm"].contains "imm" by simp) v
  simp only [shape, htag, bind, Except.bind, String.reduceEq, if_false]

theorem shape_json (o : Operand) : shape o.json = .ok o := by
  cases o with
  | reg index => rw [json, shape_reg, uint32_integer, Except.map]
  | arg index => rw [json, shape_arg, uint32_integer, Except.map]
  | imm value => rw [json, shape_imm, int64_integer, Except.map]

theorem json_ne_null (o : Operand) : o.json ≠ .null := by
  cases o <;> exact Json.noConfusion

theorem keep_json (room : Nat) (o : Operand) : keep (room + 1) o.json = .ok () := by
  cases o <;> rfl

end Operand

namespace BinaryOp

theorem shape_name (op : BinaryOp) : shape (.string op.name) = .ok op := by
  cases op <;> rfl

end BinaryOp

namespace Predicate

theorem shape_name (pred : Predicate) : shape (.string pred.name) = .ok pred := by
  cases pred <;> rfl

end Predicate

namespace Opcode

/-- What holds of every kind of member holds of all members of an opcode. -/
theorem forall_parts {P : Json → Prop} (hnull : P .null) (hstring : ∀ s, P (.string s))
    (hword : ∀ n : UInt32, P (.integer n.toNat)) (htarget : ∀ n : UInt64, P (.integer n.toNat))
    (hoperand : ∀ o : Operand, P o.json) (hargs : ∀ args, P (.ofList Operand.json args))
    (o : Opcode) : ∀ m ∈ o.parts, P m.2 := by
  intro m hm
  cases o with
  | move dst src =>
      simp only [parts, List.mem_cons, List.not_mem_nil, or_false] at hm
      rcases hm with rfl | rfl
      · exact hword dst
      · exact hoperand src
  | binary dst op lhs rhs =>
      simp only [parts, List.mem_cons, List.not_mem_nil, or_false] at hm
      rcases hm with rfl | rfl | rfl | rfl
      · exact hword dst
      · exact hstring op.name
      · exact hoperand lhs
      · exact hoperand rhs
  | compare dst pred lhs rhs =>
      simp only [parts, List.mem_cons, List.not_mem_nil, or_false] at hm
      rcases hm with rfl | rfl | rfl | rfl
      · exact hword dst
      · exact hstring pred.name
      · exact hoperand lhs
      · exact hoperand rhs
  | call dst callee args =>
      simp only [parts, List.mem_cons, List.not_mem_nil, or_false] at hm
      rcases hm with rfl | rfl | rfl
      · cases dst with
        | none => exact hnull
        | some dst => exact hword dst
      · exact hstring callee
      · exact hargs args
  | jump target =>
      rw [List.mem_singleton.mp hm]
      exact htarget target
  | branch cond thenTarget elseTarget =>
      simp only [parts, List.mem_cons, List.not_mem_nil, or_false] at hm
      rcases hm with rfl | rfl | rfl
      · exact hoperand cond
      · exact htarget thenTarget
      · exact htarget elseTarget
  | ret value =>
      rw [List.mem_singleton.mp hm]
      cases value with
      | none => exact hnull
      | some o => exact hoperand o

theorem json_exact (o : Opcode) : Exact o.json := by
  refine .object fun m hm => ?_
  rcases List.mem_cons.mp hm with rfl | hm
  · exact .string o.kind
  · exact o.forall_parts .null .string .ofUInt32 .ofUInt64 Operand.json_exact
      (.ofList Operand.json_exact) m hm

theorem ne_kind_of_mem_parts {o : Opcode} {m : String × Json} (h : m ∈ o.parts) :
    m.1 ≠ "kind" := by
  have hkeys : "kind" ∉ o.parts.map (·.1) := by
    cases o <;> simp [parts]
  rintro heq
  exact hkeys (heq ▸ List.mem_map_of_mem h)

theorem keep_operands (room : Nat) (args : List Operand) :
    keep (room + 2) (.ofList Operand.json args) = .ok () := by
  rw [Json.ofList, keep]
  induction args with
  | nil => rfl
  | cons o args ih =>
      rw [List.map_cons, keepElements, o.keep_json, ih]
      rfl

/-- Members that are not the kind and nest no deeper than the room there is are kept as they are. -/
theorem split_eq {room : Nat} (found : Option Form) {members : List (String × Json)}
    (hkey : ∀ m ∈ members, m.1 ≠ "kind") (hkeep : ∀ m ∈ members, keep room m.2 = .ok ()) :
    split room found members = .ok (found, members) := by
  induction members with
  | nil => rfl
  | cons m members ih =>
      obtain ⟨key, value⟩ := m
      have hrest := ih (fun m hm => hkey m (List.mem_cons_of_mem _ hm))
        fun m hm => hkeep m (List.mem_cons_of_mem _ hm)
      have hne : key ≠ "kind" := hkey _ List.mem_cons_self
      have hvalue : keep room value = .ok () := hkeep _ List.mem_cons_self
      simp only [split, hne, hvalue, hrest, if_false, bind, Except.bind]

theorem split_json (room : Nat) (o : Opcode) {f : Form} (h : form (.string o.kind) = .ok f) :
    split (room + 2) none (("kind", .string o.kind) :: o.parts) = .ok (some f, o.parts) := by
  have hkeep := o.forall_parts (P := fun v => keep (room + 2) v = .ok ()) rfl (fun _ => rfl)
    (fun _ => rfl) (fun _ => rfl) (Operand.keep_json _) (keep_operands room)
  have hparts := split_eq (some f) (fun m hm => ne_kind_of_mem_parts hm) hkeep
  simp only [split, h, hparts, if_true, Option.isSome_none, Bool.false_eq_true, if_false, bind,
    Except.bind]

/-! The members of each kind, over any values that read as they should: were the values written out,
reducing a reader would compare their numbers with its bounds. -/

section Members

open Parts

variable {f : Form} {t u v w : Json} {dst : UInt32} {lhs rhs : Operand}

theorem ofMembers_move (hf : form (.string "move") = .ok f) (ht : uint32 t = .ok dst)
    (hu : Operand.shape u = .ok rhs) :
    ofMembers f [("dst", t), ("src", u)] = .ok (.move dst rhs) := by
  cases hf
  simp [ofMembers, fromMembers, members, missing?, dstField, srcField, requiredField, ht, hu, bind,
    Except.bind, Except.map]

theorem ofMembers_binary {op : BinaryOp} (hf : form (.string "binary") = .ok f)
    (ht : uint32 t = .ok dst) (hu : BinaryOp.shape u = .ok op) (hv : Operand.shape v = .ok lhs)
    (hw : Operand.shape w = .ok rhs) :
    ofMembers f [("dst", t), ("op", u), ("lhs", v), ("rhs", w)] = .ok (.binary dst op lhs rhs) := by
  cases hf
  simp [ofMembers, fromMembers, members, missing?, dstField, opField, lhsField, rhsField,
    requiredField, ht, hu, hv, hw, bind, Except.bind, Except.map]

theorem ofMembers_compare {pred : Predicate} (hf : form (.string "compare") = .ok f)
    (ht : uint32 t = .ok dst) (hu : Predicate.shape u = .ok pred) (hv : Operand.shape v = .ok lhs)
    (hw : Operand.shape w = .ok rhs) :
    ofMembers f [("dst", t), ("pred", u), ("lhs", v), ("rhs", w)] =
      .ok (.compare dst pred lhs rhs) := by
  cases hf
  simp [ofMembers, fromMembers, members, missing?, dstField, predField, lhsField, rhsField,
    requiredField, ht, hu, hv, hw, bind, Except.bind, Except.map]

theorem ofMembers_call {dst : Option UInt32} {callee : String} {args : List Operand}
    (hf : form (.string "call") = .ok f) (ht : Shape.optional uint32 t = .ok dst)
    (hu : Shape.string u = .ok callee) (hv : Shape.list Operand.shape v = .ok args) :
    ofMembers f [("dst", t), ("callee", u), ("args", v)] = .ok (.call dst callee args) := by
  cases hf
  simp [ofMembers, fromMembers, members, missing?, callDstField, calleeField, argsField,
    requiredField, optionalField, ht, hu, hv, bind, Except.bind, Except.map]

theorem ofMembers_jump {target : UInt64} (hf : form (.string "jump") = .ok f)
    (ht : uint64 "usize" t = .ok target) : ofMembers f [("target", t)] = .ok (.jump target) := by
  cases hf
  simp [ofMembers, fromMembers, members, missing?, targetField, requiredField, ht, bind,
    Except.bind, Except.map]

theorem ofMembers_branch {thenTarget elseTarget : UInt64} (hf : form (.string "branch") = .ok f)
    (ht : Operand.shape t = .ok lhs) (hu : uint64 "usize" u = .ok thenTarget)
    (hv : uint64 "usize" v = .ok elseTarget) :
    ofMembers f [("cond", t), ("then_target", u), ("else_target", v)] =
      .ok (.branch lhs thenTarget elseTarget) := by
  cases hf
  simp [ofMembers, fromMembers, members, missing?, condField, thenTargetField, elseTargetField,
    requiredField, ht, hu, hv, bind, Except.bind, Except.map]

theorem ofMembers_return {value : Option Operand} (hf : form (.string "return") = .ok f)
    (ht : Shape.optional Operand.shape t = .ok value) :
    ofMembers f [("value", t)] = .ok (.ret value) := by
  cases hf
  simp [ofMembers, fromMembers, members, missing?, valueField, optionalField, ht, bind, Except.bind,
    Except.map]

end Members

theorem exists_form (o : Opcode) : ∃ f, form (.string o.kind) = .ok f := by
  cases o <;> exact ⟨_, rfl⟩

theorem ofMembers_parts {o : Opcode} {f : Form} (hf : form (.string o.kind) = .ok f) :
    ofMembers f o.parts = .ok o := by
  cases o with
  | move dst src => exact ofMembers_move hf (uint32_integer dst) src.shape_json
  | binary dst op lhs rhs =>
      exact ofMembers_binary hf (uint32_integer dst) op.shape_name lhs.shape_json rhs.shape_json
  | compare dst pred lhs rhs =>
      exact ofMembers_compare hf (uint32_integer dst) pred.shape_name lhs.shape_json rhs.shape_json
  | call dst callee args =>
      exact ofMembers_call hf (optional_ofOption uint32_integer (fun _ => Json.noConfusion) dst) rfl
        (list_ofList Operand.shape_json args)
  | jump target => exact ofMembers_jump hf (uint64_integer "usize" target)
  | branch cond thenTarget elseTarget =>
      exact ofMembers_branch hf cond.shape_json (uint64_integer "usize" thenTarget)
        (uint64_integer "usize" elseTarget)
  | ret value =>
      exact ofMembers_return hf (optional_ofOption Operand.shape_json Operand.json_ne_null value)

/-- **An opcode is read back as it was written,** wherever there is room for two containers. -/
theorem shape_json (room : Nat) (o : Opcode) : shape (room + 2) o.json = .ok o := by
  obtain ⟨f, hf⟩ := o.exists_form
  rw [json, shape, split_json room o hf]
  exact ofMembers_parts hf

end Opcode

end MutationTesting
