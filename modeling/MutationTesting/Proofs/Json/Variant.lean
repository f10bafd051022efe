import MutationTesting.Proofs.Json.Record
import MutationTesting.Proofs.Json.RoundTrip
import MutationTesting.Proofs.Json.Shape
import MutationTesting.Program.Notation

/-!
Documents that say the same. The members of an object may stand in any order, and a member may be
left out where it holds a default; this at every depth. The variants of a value that its text
denotes are such values themselves.
-/

namespace MutationTesting

namespace Json

variable (defaults : List (String × Json))

mutual

/-- The second document is the first with the members of its objects in another order and without
some of those that are among the defaults. -/
inductive Variant : Json → Json → Prop where
  | null : Variant .null .null
  | bool (b : Bool) : Variant (.bool b) (.bool b)
  | integer (i : Int) : Variant (.integer i) (.integer i)
  | real (x : Binary64) : Variant (.real x) (.real x)
  | string (s : String) : Variant (.string s) (.string s)
  | array {elements found : List Json} (each : Variants elements found) :
      Variant (.array elements) (.array found)
  | object {members kept found : List (String × Json)} (retained : Retains members kept)
      (order : kept.Perm found) : Variant (.object members) (.object found)

/-- Elements keep their places. -/
inductive Variants : List Json → List Json → Prop where
  | nil : Variants [] []
  | cons {v w : Json} {elements found : List Json} (first : Variant v w)
      (rest : Variants elements found) : Variants (v :: elements) (w :: found)

/-- The members that are not left out, in their order. -/
inductive Retains : List (String × Json) → List (String × Json) → Prop where
  | nil : Retains [] []
  | keep {key : String} {v w : Json} {members kept : List (String × Json)} (first : Variant v w)
      (rest : Retains members kept) : Retains ((key, v) :: members) ((key, w) :: kept)
  | drop {m : String × Json} {members kept : List (String × Json)} (default : m ∈ defaults)
      (rest : Retains members kept) : Retains (m :: members) kept

end

variable {defaults}

/-! ### What all variants of a value share -/

/-- A property, one for each index, that a container has if its contents have it for an index below;
so the order of the contents does not matter. -/
structure Hereditary {ι : Type} (P : ι → Json → Prop) (below : ι → ι → Prop) : Prop where
  array : ∀ i elements, P i (.array elements) ↔ ∃ j, below i j ∧ ∀ v ∈ elements, P j v
  object : ∀ i members, P i (.object members) ↔ ∃ j, below i j ∧ ∀ m ∈ members, P j m.2

section Hereditary

variable {ι : Type} {P : ι → Json → Prop} {below : ι → ι → Prop}

mutual

theorem Variant.hereditary {v w : Json} (h : Variant defaults v w) (hP : Hereditary P below) (i : ι)
    (hv : P i v) : P i w := by
  cases h with
  | null => exact hv
  | bool b => exact hv
  | integer n => exact hv
  | real x => exact hv
  | string s => exact hv
  | array each =>
      obtain ⟨j, hj, hall⟩ := (hP.array i _).mp hv
      exact (hP.array i _).mpr ⟨j, hj, each.hereditary hP j hall⟩
  | object retained order =>
      obtain ⟨j, hj, hall⟩ := (hP.object i _).mp hv
      have hkept := retained.hereditary hP j hall
      exact (hP.object i _).mpr ⟨j, hj, fun m hm => hkept m (order.mem_iff.mpr hm)⟩

theorem Variants.hereditary {elements found : List Json} (h : Variants defaults elements found)
    (hP : Hereditary P below) (i : ι) (hall : ∀ v ∈ elements, P i v) : ∀ w ∈ found, P i w := by
  cases h with
  | nil => exact hall
  | cons first rest =>
      have hfirst := first.hereditary hP i (hall _ List.mem_cons_self)
      have hrest := rest.hereditary hP i fun v hv => hall v (List.mem_cons_of_mem _ hv)
      exact List.forall_mem_cons.mpr ⟨hfirst, hrest⟩

theorem Retains.hereditary {members kept : List (String × Json)}
    (h : Retains defaults members kept) (hP : Hereditary P below) (i : ι)
    (hall : ∀ m ∈ members, P i m.2) : ∀ m ∈ kept, P i m.2 := by
  cases h with
  | nil => exact hall
  | keep first rest =>
      have hfirst := first.hereditary hP i (hall _ List.mem_cons_self)
      have hrest := rest.hereditary hP i fun m hm => hall m (List.mem_cons_of_mem _ hm)
      exact List.forall_mem_cons.mpr ⟨hfirst, hrest⟩
  | drop _ rest => exact rest.hereditary hP i fun m hm => hall m (List.mem_cons_of_mem _ hm)

end

end Hereditary

theorem hereditary_exact : Hereditary (fun _ : Unit => Exact) fun _ _ => True where
  array := by
    intro _ elements
    constructor
    · intro h
      cases h with
      | array all => exact ⟨(), trivial, all⟩
    · rintro ⟨-, -, all⟩
      exact .array all
  object := by
    intro _ members
    constructor
    · intro h
      cases h with
      | object all => exact ⟨(), trivial, all⟩
    · rintro ⟨-, -, all⟩
      exact .object all

theorem Variant.exact {v w : Json} (h : Variant defaults v w) (hv : Exact v) : Exact w :=
  h.hereditary hereditary_exact () hv

theorem keepElements_eq_ok_iff {room : Nat} {elements : List Json} :
    Shape.keepElements room elements = .ok () ↔ ∀ v ∈ elements, Shape.keep room v = .ok () := by
  induction elements with
  | nil => simp [Shape.keepElements]
  | cons v elements ih =>
      rw [List.forall_mem_cons, ← ih, Shape.keepElements]
      cases Shape.keep room v with
      | error e => simp [bind, Except.bind]
      | ok => simp [bind, Except.bind]

theorem keepMembers_eq_ok_iff {room : Nat} {members : List (String × Json)} :
    Shape.keepMembers room members = .ok () ↔ ∀ m ∈ members, Shape.keep room m.2 = .ok () := by
  induction members with
  | nil => simp [Shape.keepMembers]
  | cons m members ih =>
      rw [List.forall_mem_cons, ← ih, Shape.keepMembers]
      cases Shape.keep room m.2 with
      | error e => simp [bind, Except.bind]
      | ok => simp [bind, Except.bind]

theorem hereditary_keep :
    Hereditary (fun room v => Shape.keep room v = .ok ()) fun room room' => room = room' + 1 where
  array := by
    intro room elements
    cases room with
    | zero => simp [Shape.keep]
    | succ room => simp [Shape.keep, keepElements_eq_ok_iff]
  object := by
    intro room members
    cases room with
    | zero => simp [Shape.keep]
    | succ room => simp [Shape.keep, keepMembers_eq_ok_iff]

/-- A document is the variant of itself in which nothing is left out or moved. -/
theorem Exact.variant_self {v : Json} (h : Exact v) : Variant defaults v v := by
  induction h with
  | null => exact .null
  | bool b => exact .bool b
  | integer low high => exact .integer _
  | string s => exact .string s
  | @array elements all ih =>
      refine .array ?_
      induction elements with
      | nil => exact .nil
      | cons v elements ih' =>
          obtain ⟨hv, hall⟩ := List.forall_mem_cons.mp ih
          exact .cons hv (ih' (List.forall_mem_cons.mp all).2 hall)
  | @object members all ih =>
      refine .object ?_ (List.Perm.refl members)
      induction members with
      | nil => exact .nil
      | cons m members ih' =>
          obtain ⟨hm, hall⟩ := List.forall_mem_cons.mp ih
          exact .keep hm (ih' (List.forall_mem_cons.mp all).2 hall)

/-! ### What may be left of members -/

/-- What is left of members has their names, in their order. -/
theorem Retains.keys_sublist {members kept : List (String × Json)}
    (h : Retains defaults members kept) :
    (kept.map Prod.fst).Sublist (members.map Prod.fst) := by
  induction members generalizing kept with
  | nil =>
      cases h with
      | nil => exact .slnil
  | cons m members ih =>
      cases h with
      | keep first rest => exact (ih rest).cons_cons _
      | drop _ rest => exact (ih rest).cons _

theorem Retains.eq_nil {kept : List (String × Json)} (h : Retains defaults [] kept) :
    kept = [] := by
  cases h with
  | nil => rfl

/-- A member that is no default stays. -/
theorem Retains.exists_keep {key : String} {v : Json} {members kept : List (String × Json)}
    (h : Retains defaults ((key, v) :: members) kept) (hdefault : (key, v) ∉ defaults) :
    ∃ w kept', kept = (key, w) :: kept' ∧ Variant defaults v w ∧
      Retains defaults members kept' := by
  cases h with
  | keep first rest => exact ⟨_, _, rfl, first, rest⟩
  | drop default rest => exact absurd default hdefault

/-- A member that may be a default stays, or it is one. What its value is read as is `a`; an absent
member stands for `b`. -/
theorem Retains.exists_optional {α : Type} {shape : Shape α} {key : String} {v : Json}
    {members kept : List (String × Json)} {a b : α}
    (h : Retains defaults ((key, v) :: members) kept)
    (hread : ∀ w, Variant defaults v w → shape w = .ok a)
    (hdefault : (key, v) ∈ defaults → a = b) :
    ∃ w x kept', kept = presentMember key id w ++ kept' ∧ w.mapM shape = .ok x ∧ x.getD b = a ∧
      Retains defaults members kept' := by
  cases h with
  | @keep _ _ w _ kept' first rest =>
      refine ⟨some w, some a, kept', rfl, ?_, rfl, rest⟩
      simp [hread w first, Functor.map, Except.map]
  | drop default rest => exact ⟨none, none, kept, rfl, rfl, (hdefault default).symm, rest⟩

theorem Variant.exists_object {members : List (String × Json)} {v : Json}
    (h : Variant defaults (.object members) v) :
    ∃ kept found, Retains defaults members kept ∧ kept.Perm found ∧ v = .object found := by
  cases h with
  | object retained order => exact ⟨_, _, retained, order, rfl⟩

/-- An object of one member that is no default has no variant but itself, if its value has none. -/
theorem Variant.eq_of_singleton {key : String} {v w : Json} (hdefault : (key, v) ∉ defaults)
    (hv : ∀ u, Variant defaults v u → u = v) (h : Variant defaults (.object [(key, v)]) w) :
    w = .object [(key, v)] := by
  obtain ⟨kept, found, hretained, horder, rfl⟩ := h.exists_object
  obtain ⟨u, rest, rfl, hu, hrest⟩ := hretained.exists_keep hdefault
  rw [hrest.eq_nil, hv u hu] at horder
  rw [List.perm_singleton.mp horder.symm]

end Json

open Json

variable {defaults : List (String × Json)}

namespace Shape

/-- A list is read from any variant of its written form if its items are. -/
theorem list_of_variant {α : Type} {shape : Shape α} {write : α → Json}
    (hread : ∀ a v, Variant defaults (write a) v → shape v = .ok a) {items : List α} {v : Json}
    (h : Variant defaults (.ofList write items) v) : list shape v = .ok items := by
  cases h with
  | @array _ found each =>
      rw [list]
      induction items generalizing found with
      | nil =>
          cases each with
          | nil => rfl
      | cons a items ih =>
          cases each with
          | cons first rest =>
              rw [List.mapM_cons, hread a _ first, ih rest]
              rfl

/-- An optional value is read from any variant of its written form if a present one is. -/
theorem optional_of_variant {α : Type} {shape : Shape α} {write : α → Json}
    (hread : ∀ a v, Variant defaults (write a) v → v ≠ .null ∧ shape v = .ok a) {value : Option α}
    {v : Json} (h : Variant defaults (.ofOption write value) v) :
    optional shape v = .ok value := by
  cases value with
  | none =>
      cases h with
      | null => rfl
  | some a =>
      obtain ⟨hnull, hshape⟩ := hread a v h
      rw [optional, hshape]
      · rfl
      · exact hnull

/-- What a record makes is read from any variant of an object if it is from what may be left of the
members in their own order. -/
theorem record_of_variant {σ α : Type} {name : String} {fields : List (RecordField σ)} {empty : σ}
    {build : σ → α} {a : α} (hfields : fields.Pairwise RecordField.Independent)
    {ms : List (String × Json)} (hkeys : (ms.map Prod.fst).Nodup)
    (hread : ∀ kept, Retains defaults ms kept →
      ∃ r, fromMembers fields empty kept = .ok r ∧ build r = a) {v : Json}
    (h : Variant defaults (.object ms) v) : (record name fields empty v).map build = .ok a := by
  obtain ⟨kept, found, hretained, horder, rfl⟩ := h.exists_object
  have hnodup := hretained.keys_sublist.nodup hkeys
  obtain ⟨r, hr, rfl⟩ := hread kept hretained
  rw [record, fromMembers_of_perm hfields horder hnodup hr, Except.map]

end Shape

/-- Members that write an optional value under a name: it is told by what may be left of them. -/
structure Json.Writes {α : Type} (defaults : List (String × Json)) (key : String) (shape : Shape α)
    (value : Option α) (members : List (String × Json)) : Prop where
  names : (members.map Prod.fst).Sublist [key]
  read : ∀ kept, Retains defaults members kept →
    ∃ w x, kept = presentMember key id w ∧ w.mapM (Shape.optional shape) = .ok x ∧
      x.getD none = value

section Writes

variable {α : Type} {shape : Shape α} {write : α → Json} {key : String}

/-- A value that is left out when it is absent. -/
theorem writes_present
    (hread : ∀ a w, Variant defaults (write a) w → w ≠ .null ∧ shape w = .ok a)
    (hdefault : ∀ a, (key, write a) ∉ defaults) (value : Option α) :
    Writes defaults key shape value (presentMember key write value) := by
  cases value with
  | none => exact ⟨List.nil_sublist _, fun kept h => ⟨none, none, h.eq_nil, rfl, rfl⟩⟩
  | some a =>
      refine ⟨List.Sublist.refl _, fun kept h => ?_⟩
      obtain ⟨w, _, rfl, hw, hrest⟩ := h.exists_keep (hdefault a)
      have hvariant : Variant defaults (.ofOption write (some a)) w := hw
      have hoptional := Shape.optional_of_variant hread hvariant
      refine ⟨some w, some (some a), by rw [hrest.eq_nil]; rfl, ?_, rfl⟩
      simp [hoptional, Functor.map, Except.map]

/-- A value that is written as null when it is absent. -/
theorem writes_explicit
    (hread : ∀ a w, Variant defaults (write a) w → w ≠ .null ∧ shape w = .ok a)
    (hdefault : ∀ a, (key, write a) ∉ defaults) (value : Option α) :
    Writes defaults key shape value [(key, .ofOption write value)] := by
  refine ⟨List.Sublist.refl _, fun kept h => ?_⟩
  have hnone : (key, Json.ofOption write value) ∈ defaults → value = none := by
    intro hmem
    cases value with
    | none => rfl
    | some a => exact absurd hmem (hdefault a)
  obtain ⟨w, x, kept', rfl, hw, hx, hrest⟩ :=
    h.exists_optional (fun _ hw => Shape.optional_of_variant hread hw) hnone
  exact ⟨w, x, by rw [hrest.eq_nil, List.append_nil], hw, hx⟩

end Writes

end MutationTesting
