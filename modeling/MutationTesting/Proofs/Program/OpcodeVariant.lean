import MutationTesting.Proofs.Json.Variant
import MutationTesting.Proofs.Program.Notation

/-!
Opcodes with their members in any order and without those that hold their default. The kind may
stand anywhere: all other members are kept until it is known, and then are read as if they stood in
the order of writing.
-/

namespace MutationTesting

open Json Shape

namespace Module

/-- The members a document may leave out. Their names tell what they are members of, but for a
destination, which only a call may lack: elsewhere it is a number. -/
def defaults : List (String × Json) :=
  [("source_file", .null), ("params", .integer 0), ("dst", .null), ("args", .array []),
    ("value", .null), ("debug_loc", .null), ("file", .null)]

end Module

open MutationTesting.Module (defaults)

/-! ### Scalars -/

section Scalars

variable {v : Json}

theorem uint32_of_variant {n : UInt32} (h : Variant defaults (.integer n.toNat) v) :
    uint32 v = .ok n := by
  cases h with
  | integer => exact uint32_integer n

theorem uint64_of_variant {n : UInt64} (kind : String)
    (h : Variant defaults (.integer n.toNat) v) : uint64 kind v = .ok n := by
  cases h with
  | integer => exact uint64_integer kind n

theorem string_of_variant {s : String} (h : Variant defaults (.string s) v) :
    v ≠ .null ∧ Shape.string v = .ok s := by
  cases h with
  | string => exact ⟨Json.noConfusion, rfl⟩

theorem BinaryOp.shape_of_variant {op : BinaryOp} (h : Variant defaults (.string op.name) v) :
    BinaryOp.shape v = .ok op := by
  cases h with
  | string => exact op.shape_name

theorem Predicate.shape_of_variant {pred : Predicate}
    (h : Variant defaults (.string pred.name) v) : Predicate.shape v = .ok pred := by
  cases h with
  | string => exact pred.shape_name

theorem Operand.eq_of_variant {o : Operand} (h : Variant defaults o.json v) : v = o.json := by
  have hinteger : ∀ i u, Variant defaults (.integer i) u → u = .integer i := by
    intro i u hu
    cases hu with
    | integer => rfl
  cases o with
  | reg index => exact h.eq_of_singleton (by simp [defaults]) (hinteger _)
  | arg index => exact h.eq_of_singleton (by simp [defaults]) (hinteger _)
  | imm value => exact h.eq_of_singleton (by simp [defaults]) (hinteger _)

theorem Operand.shape_of_variant {o : Operand} (h : Variant defaults o.json v) :
    v ≠ .null ∧ Operand.shape v = .ok o := by
  rw [Operand.eq_of_variant h]
  exact ⟨o.json_ne_null, o.shape_json⟩

end Scalars

/-! ### Opcodes -/

namespace Opcode

open Parts

theorem fields_independent {f : Form} (h : f ∈ forms) :
    f.fields.Pairwise RecordField.Independent := by
  simp only [forms, List.mem_cons, List.not_mem_nil, or_false] at h
  rcases h with rfl | rfl | rfl | rfl | rfl | rfl | rfl <;>
    simp only [List.pairwise_cons, List.forall_mem_cons, List.not_mem_nil, false_implies,
      implies_true, List.Pairwise.nil, and_true]
  all_goals
    -- two parts of an opcode are two entries of the record
    repeat' apply And.intro
    all_goals exact independent_of_set (fun _ _ => rfl) (fun _ _ => rfl) (fun _ _ _ => rfl)

theorem ofMembers_call_kept {f : Form} {t v : Option Json} {u : Json} {x : Option (Option UInt32)}
    {callee : String} {y : Option (List Operand)} (hf : form (.string "call") = .ok f)
    (ht : t.mapM (Shape.optional uint32) = .ok x) (hu : Shape.string u = .ok callee)
    (hv : v.mapM (Shape.list Operand.shape) = .ok y) :
    ofMembers f (presentMember "dst" id t ++ ("callee", u) :: (presentMember "args" id v ++ [])) =
      .ok (.call (x.getD none) callee (y.getD [])) := by
  cases hf
  rcases mapM_option_ok ht with ⟨rfl, rfl⟩ | ⟨t, dst, rfl, rfl, ht⟩ <;>
    rcases mapM_option_ok hv with ⟨rfl, rfl⟩ | ⟨v, args, rfl, rfl, hv⟩ <;>
      simp [ofMembers, fromMembers, members, missing?, presentMember, callDstField, calleeField,
        argsField, requiredField, optionalField, bind, Except.bind, Except.map, *]

theorem ofMembers_return_kept {f : Form} {t : Option Json} {x : Option (Option Operand)}
    (hf : form (.string "return") = .ok f) (ht : t.mapM (Shape.optional Operand.shape) = .ok x) :
    ofMembers f (presentMember "value" id t ++ []) = .ok (.ret (x.getD none)) := by
  cases hf
  rcases mapM_option_ok ht with ⟨rfl, rfl⟩ | ⟨t, value, rfl, rfl, ht⟩ <;>
    simp [ofMembers, fromMembers, members, missing?, presentMember, valueField, optionalField, bind,
      Except.bind, Except.map, *]

theorem ofMembers_of_retains {o : Opcode} {f : Form} {kept : List (String × Json)}
    (hf : form (.string o.kind) = .ok f) (h : Retains defaults o.parts kept) :
    ofMembers f kept = .ok o := by
  cases o with
  | move dst src =>
      obtain ⟨t, _, rfl, ht, h⟩ := h.exists_keep (by simp [defaults])
      obtain ⟨u, _, rfl, hu, h⟩ := h.exists_keep (by simp [defaults])
      rw [h.eq_nil]
      exact ofMembers_move hf (uint32_of_variant ht) (Operand.shape_of_variant hu).2
  | binary dst op lhs rhs =>
      obtain ⟨t, _, rfl, ht, h⟩ := h.exists_keep (by simp [defaults])
      obtain ⟨u, _, rfl, hu, h⟩ := h.exists_keep (by simp [defaults])
      obtain ⟨v, _, rfl, hv, h⟩ := h.exists_keep (by simp [defaults])
      obtain ⟨w, _, rfl, hw, h⟩ := h.exists_keep (by simp [defaults])
      rw [h.eq_nil]
      exact ofMembers_binary hf (uint32_of_variant ht) (BinaryOp.shape_of_variant hu)
        (Operand.shape_of_variant hv).2 (Operand.shape_of_variant hw).2
  | compare dst pred lhs rhs =>
      obtain ⟨t, _, rfl, ht, h⟩ := h.exists_keep (by simp [defaults])
      obtain ⟨u, _, rfl, hu, h⟩ := h.exists_keep (by simp [defaults])
      obtain ⟨v, _, rfl, hv, h⟩ := h.exists_keep (by simp [defaults])
      obtain ⟨w, _, rfl, hw, h⟩ := h.exists_keep (by simp [defaults])
      rw [h.eq_nil]
      exact ofMembers_compare hf (uint32_of_variant ht) (Predicate.shape_of_variant hu)
        (Operand.shape_of_variant hv).2 (Operand.shape_of_variant hw).2
  | call dst callee args =>
      have hdst : ∀ w, Variant defaults (.ofOption (fun d : UInt32 => .integer d.toNat) dst) w →
          Shape.optional uint32 w = .ok dst := by
        intro w hw
        refine optional_of_variant (fun d u hu => ⟨?_, uint32_of_variant hu⟩) hw
        cases hu
        exact Json.noConfusion
      have hargs : ∀ w, Variant defaults (.ofList Operand.json args) w →
          Shape.list Operand.shape w = .ok args :=
        fun w hw => list_of_variant (fun _ _ hu => (Operand.shape_of_variant hu).2) hw
      obtain ⟨t, x, _, rfl, ht, hx, h⟩ := h.exists_optional (b := none) hdst (by
        cases dst <;> simp [defaults, Json.ofOption])
      obtain ⟨u, _, rfl, hu, h⟩ := h.exists_keep (by simp [defaults])
      obtain ⟨v, y, _, rfl, hv, hy, h⟩ := h.exists_optional (b := []) hargs (by
        cases args <;> simp [defaults, Json.ofList])
      rw [h.eq_nil, ofMembers_call_kept hf ht (string_of_variant hu).2 hv, hx, hy]
  | jump target =>
      obtain ⟨t, _, rfl, ht, h⟩ := h.exists_keep (by simp [defaults])
      rw [h.eq_nil]
      exact ofMembers_jump hf (uint64_of_variant "usize" ht)
  | branch cond thenTarget elseTarget =>
      obtain ⟨t, _, rfl, ht, h⟩ := h.exists_keep (by simp [defaults])
      obtain ⟨u, _, rfl, hu, h⟩ := h.exists_keep (by simp [defaults])
      obtain ⟨v, _, rfl, hv, h⟩ := h.exists_keep (by simp [defaults])
      rw [h.eq_nil]
      exact ofMembers_branch hf (Operand.shape_of_variant ht).2 (uint64_of_variant "usize" hu)
        (uint64_of_variant "usize" hv)
  | ret value =>
      have hvalue : ∀ w, Variant defaults (.ofOption Operand.json value) w →
          Shape.optional Operand.shape w = .ok value :=
        fun w hw => optional_of_variant (fun _ _ hu => Operand.shape_of_variant hu) hw
      obtain ⟨t, x, _, rfl, ht, hx, h⟩ := h.exists_optional (b := none) hvalue (by
        cases value with
        | none => simp
        | some o => cases o <;> simp [defaults, Json.ofOption, Operand.json])
      rw [h.eq_nil, ofMembers_return_kept hf ht, hx]

theorem mem_forms {v : Json} {f : Form} (h : form v = .ok f) : f ∈ forms := by
  cases v with
  | string name =>
      rw [form] at h
      split at h
      next f' hf =>
        cases h
        exact List.mem_of_find?_eq_some hf
      · cases h
  | _ => cases h

/-- The kind may stand anywhere among the members. -/
theorem split_kind {room : Nat} {f : Form} {kind : Json} (hf : form kind = .ok f)
    {before after : List (String × Json)} (hkey : ∀ m ∈ before ++ after, m.1 ≠ "kind")
    (hkeep : ∀ m ∈ before ++ after, keep room m.2 = .ok ()) :
    split room none (before ++ ("kind", kind) :: after) = .ok (some f, before ++ after) := by
  induction before with
  | nil =>
      rw [List.nil_append] at hkey hkeep
      have hafter := split_eq (some f) hkey hkeep
      simp [split, hf, hafter, bind, Except.bind]
  | cons m before ih =>
      obtain ⟨key, value⟩ := m
      rw [List.cons_append] at hkey hkeep
      obtain ⟨hne, hkey⟩ := List.forall_mem_cons.mp hkey
      obtain ⟨hvalue, hkeep⟩ := List.forall_mem_cons.mp hkeep
      simp only [List.cons_append, split, if_neg hne, hvalue, ih hkey hkeep, bind, Except.bind]

theorem shape_of_variant (room : Nat) {o : Opcode} {v : Json} (h : Variant defaults o.json v) :
    shape (room + 2) v = .ok o := by
  obtain ⟨kept, found, hretained, horder, rfl⟩ := h.exists_object
  obtain ⟨kind, parts, rfl, hkind, hparts⟩ := hretained.exists_keep (by simp [defaults])
  cases hkind
  -- what stands before the kind and what stands after it are the parts, in some order
  obtain ⟨before, after, rfl⟩ := List.append_of_mem (horder.mem_iff.mp List.mem_cons_self)
  have horder : parts.Perm (before ++ after) :=
    (List.perm_cons _).mp (horder.trans List.perm_middle)
  obtain ⟨f, hf⟩ := o.exists_form
  have hnames : ∀ m ∈ before ++ after, m.1 ≠ "kind" := by
    intro m hm hname
    have hmem := hparts.keys_sublist.subset (List.mem_map_of_mem (horder.mem_iff.mpr hm))
    obtain ⟨m', hm', heq⟩ := List.mem_map.mp hmem
    exact ne_kind_of_mem_parts hm' (heq.trans hname)
  have hkeep : ∀ m ∈ before ++ after, keep (room + 2) m.2 = .ok () := by
    intro m hm
    have hall := o.forall_parts (P := fun v => keep (room + 2) v = .ok ()) rfl (fun _ => rfl)
      (fun _ => rfl) (fun _ => rfl) (Operand.keep_json _) (keep_operands room)
    exact hparts.hereditary hereditary_keep _ hall m (horder.mem_iff.mpr hm)
  rw [shape, split_kind hf hnames hkeep]
  show ofMembers f (before ++ after) = .ok o
  obtain ⟨p, hp, ho⟩ := map_ok (ofMembers_of_retains hf hparts)
  rw [ofMembers, fromMembers_of_perm (fields_independent (mem_forms hf)) horder ?_ hp]
  · exact congrArg _ ho
  · apply hparts.keys_sublist.nodup
    cases o <;> simp [Opcode.parts]

end Opcode

end MutationTesting
