import MutationTesting.Json.Shape

/-!
Readers of scalars, options, lists and documents on what the writer of the same kind of value gives.
-/

namespace MutationTesting.Shape

theorem string_string (s : String) : string (.string s) = .ok s := rfl

theorem integer_eq {low high i : Int} (expected : String) (h : low ≤ i ∧ i < high) :
    integer low high expected (.integer i) = .ok i := by
  rw [integer, if_pos h]

theorem uint32_integer (n : UInt32) : uint32 (.integer n.toNat) = .ok n := by
  have hrange : (0 : Int) ≤ n.toNat ∧ (n.toNat : Int) < UInt32.size :=
    ⟨Int.natCast_nonneg _, Int.ofNat_lt.mpr n.toNat_lt_size⟩
  rw [uint32, integer_eq _ hrange, Except.map, Int.toNat_natCast, UInt32.ofNat_toNat]

theorem uint64_integer (kind : String) (n : UInt64) : uint64 kind (.integer n.toNat) = .ok n := by
  have hrange : (0 : Int) ≤ n.toNat ∧ (n.toNat : Int) < UInt64.size :=
    ⟨Int.natCast_nonneg _, Int.ofNat_lt.mpr n.toNat_lt_size⟩
  rw [uint64, integer_eq _ hrange, Except.map, Int.toNat_natCast, UInt64.ofNat_toNat]

theorem int64_integer (i : Int64) : int64 (.integer i.toInt) = .ok i := by
  have hrange : -9223372036854775808 ≤ i.toInt ∧ i.toInt < 9223372036854775808 :=
    ⟨i.le_toInt, i.toInt_lt⟩
  rw [int64, integer_eq _ hrange, Except.map, Int64.ofInt_toInt]

theorem optional_ofOption {α : Type} {shape : Shape α} {write : α → Json}
    (hread : ∀ a, shape (write a) = .ok a) (hnull : ∀ a, write a ≠ .null) (value : Option α) :
    optional shape (.ofOption write value) = .ok value := by
  cases value with
  | none => rfl
  | some a =>
      rw [Json.ofOption, optional]
      · rw [hread]
        rfl
      · exact hnull a

theorem list_ofList {α : Type} {shape : Shape α} {write : α → Json}
    (hread : ∀ a, shape (write a) = .ok a) (items : List α) :
    list shape (.ofList write items) = .ok items := by
  rw [Json.ofList, list]
  induction items with
  | nil => rfl
  | cons a items ih =>
      rw [List.map_cons, List.mapM_cons, hread, ih]
      rfl

theorem document_eq {α : Type} {shape : Shape α} {value : Json} {a : α} (h : shape value = .ok a) :
    document shape ⟨value, false⟩ = .ok a := by
  simp only [document, h, bind, Except.bind, Bool.false_eq_true, if_false]

end MutationTesting.Shape
