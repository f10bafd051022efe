import Mathlib.Data.List.Forall2
import Mathlib.Data.List.Induction
import MutationTesting.Proofs.Object.Store

/-!
Recording artifacts. After any artifacts have been recorded, for modules in any order, a store gives
for each of these modules the one recorded last, and lists them by module number. Two stores that
give the same for each number are one, so nothing else of the past is left in a store.
-/

namespace MutationTesting.ArtifactStore

/-- The store in which artifacts were recorded for modules, one after the other. -/
def ofList (records : List (Nat × Artifact)) : ArtifactStore :=
  records.foldl (fun s r => s.insert r.1 r.2) empty

/-- The artifact that was recorded last for a module. -/
def Latest (records : List (Nat × Artifact)) (id : Nat) (a : Artifact) : Prop :=
  ∃ earlier later, records = earlier ++ (id, a) :: later ∧ ∀ r ∈ later, r.1 ≠ id

theorem not_latest_nil (id : Nat) (a : Artifact) : ¬ Latest [] id a := by
  rintro ⟨earlier, later, h, -⟩
  simp at h

theorem latest_concat_iff {records : List (Nat × Artifact)} {r : Nat × Artifact} {id : Nat}
    {a : Artifact} :
    Latest (records ++ [r]) id a ↔ if id = r.1 then r.2 = a else Latest records id a := by
  constructor
  · rintro ⟨earlier, later, h, hlater⟩
    rcases List.eq_nil_or_concat later with rfl | ⟨later, last, rfl⟩
    · obtain ⟨-, hr⟩ := List.append_inj' h rfl
      cases hr
      rw [if_pos rfl]
    · rw [List.concat_eq_append, ← List.cons_append, ← List.append_assoc] at h
      obtain ⟨hrecords, hlast⟩ := List.append_inj' h rfl
      cases hlast
      have hne : r.1 ≠ id := hlater r (by simp)
      rw [if_neg hne.symm]
      exact ⟨earlier, later, hrecords, fun r' hr' => hlater r' (by simp [hr'])⟩
  · split
    next hid =>
      rintro rfl
      exact ⟨records, [], by rw [hid], by simp⟩
    next hid =>
      rintro ⟨earlier, later, rfl, hlater⟩
      refine ⟨earlier, later ++ [r], by simp, List.forall_mem_append.mpr ⟨hlater, ?_⟩⟩
      simpa using Ne.symm hid

theorem exists_latest_iff {records : List (Nat × Artifact)} {id : Nat} :
    (∃ a, Latest records id a) ↔ ∃ a, (id, a) ∈ records := by
  constructor
  · rintro ⟨a, earlier, later, rfl, -⟩
    exact ⟨a, by simp⟩
  · rintro ⟨a, ha⟩
    induction records using List.reverseRecOn with
    | nil => cases ha
    | append_singleton records r ih =>
        simp only [latest_concat_iff]
        by_cases hid : id = r.1
        · exact ⟨r.2, by rw [if_pos hid]⟩
        · simp only [if_neg hid]
          refine ih ((List.mem_append.mp ha).resolve_right fun hr => hid ?_)
          rw [← List.mem_singleton.mp hr]

/-- A store gives for each module the artifact recorded last. -/
theorem get?_ofList_eq_some_iff {records : List (Nat × Artifact)} {id : Nat} {a : Artifact} :
    (ofList records).get? id = some a ↔ Latest records id a := by
  induction records using List.reverseRecOn with
  | nil => exact iff_of_false (by simp [ofList, get?, empty]) (not_latest_nil id a)
  | append_singleton records r ih =>
      rw [latest_concat_iff, ← ih, ofList, List.foldl_append, List.foldl_cons, List.foldl_nil,
        get?_insert]
      split
      · exact Option.some_inj
      · rfl

theorem mem_numbers_ofList_iff {records : List (Nat × Artifact)} {id : Nat} :
    id ∈ (ofList records).numbers ↔ ∃ a, (id, a) ∈ records := by
  simp only [mem_numbers_iff, get?_ofList_eq_some_iff, exists_latest_iff]

/-- No more than the last record of each module is left of what was recorded. -/
theorem ofList_append_eq {records records' : List (Nat × Artifact)}
    (h : ∀ id a, Latest records' id a ↔ Latest records id a) (later : List (Nat × Artifact)) :
    ofList (records' ++ later) = ofList (records ++ later) := by
  have hsame : ofList records' = ofList records := by
    refine ext_get? fun id => Option.ext fun a => ?_
    rw [get?_ofList_eq_some_iff, get?_ofList_eq_some_iff, h]
  rw [ofList, ofList, List.foldl_append, List.foldl_append]
  exact congrArg (later.foldl fun s r => s.insert r.1 r.2) hsame

/-- **The last record of each module.** A store in which artifacts were recorded, for modules in any
order, lists them by strictly increasing module number, for each module that occurs the one recorded
last. All but those of one module are the list without what stands in the place of its number, and
all of it for a module that does not occur. Looking a module up gives what is listed in its place,
which is what was recorded last for it, and the size is the number of modules. If the last records of
each module agree, then there is one store, whatever is recorded from then on. -/
theorem ofList_latest (records : List (Nat × Artifact)) :
    (∃ ids : List Nat, ids.Pairwise (· < ·) ∧ (∀ id, id ∈ ids ↔ ∃ a, (id, a) ∈ records) ∧
      List.Forall₂ (Latest records) ids (ofList records).all ∧
      (∀ id, (ofList records).allExcept id = (ofList records).all.eraseIdx (ids.idxOf id)) ∧
      (∀ id, id ∉ ids → (ofList records).allExcept id = (ofList records).all) ∧
      (∀ id, (ofList records).get? id = (ofList records).all[ids.idxOf id]?) ∧
      (ofList records).size = ids.length) ∧
    (∀ id a, (ofList records).get? id = some a ↔ Latest records id a) ∧
    ∀ records' : List (Nat × Artifact),
      (∀ id a, Latest records' id a ↔ Latest records id a) →
      ∀ later, ofList (records' ++ later) = ofList (records ++ later) := by
  refine ⟨⟨(ofList records).numbers, pairwise_numbers _, fun id => mem_numbers_ofList_iff,
    forall₂_all fun id a => get?_ofList_eq_some_iff.mp, allExcept_eq_eraseIdx _, fun id hid => ?_,
    get?_eq_getElem?_all _, (length_numbers _).symm⟩, fun id a => get?_ofList_eq_some_iff,
    fun records' h later => ofList_append_eq h later⟩
  rw [allExcept_eq_eraseIdx, List.idxOf_eq_length hid, List.eraseIdx_of_length_le]
  exact Nat.le_of_eq (by rw [length_numbers, size, all, List.length_map])

/-- An artifact for module 2, one for module 0 and another one for module 2. -/
def replaced : List (Nat × Artifact) :=
  [(2, ⟨"sum", .empty, "a"⟩), (0, ⟨"test", .empty, "b"⟩), (2, ⟨"sum", .empty, "c"⟩)]

/-- The first artifact of module 2 leaves no trace, and module 7 has none to be left out. -/
theorem replaced_ofList_latest :
    (∀ id a, Latest replaced.tail id a ↔ Latest replaced id a) ∧
      ofList (replaced.tail ++ [(1, ⟨"main", .empty, "d"⟩)]) =
        ofList (replaced ++ [(1, ⟨"main", .empty, "d"⟩)]) ∧
      (∀ a, (7, a) ∉ replaced) ∧ (ofList replaced).allExcept 7 = (ofList replaced).all ∧
      (ofList replaced).get? 2 = some ⟨"sum", .empty, "c"⟩ := by
  obtain ⟨⟨ids, -, hids, -, -, habsent, -, -⟩, hget, hagree⟩ := ofList_latest replaced
  have hlatest : ∀ id a, Latest replaced.tail id a ↔ Latest replaced id a := by
    intro id a
    change Latest ([] ++ [_] ++ [_]) id a ↔ Latest ([] ++ [_] ++ [_] ++ [_]) id a
    simp only [latest_concat_iff]
    split
    · rfl
    · split <;> rfl
  have hseven : ∀ a, (7, a) ∉ replaced := by simp [replaced]
  refine ⟨hlatest, hagree replaced.tail hlatest _, hseven, habsent 7 ?_, ?_⟩
  · rw [hids, not_exists]
    exact hseven
  · exact (hget 2 _).mpr ⟨[_, _], [], rfl, by simp⟩

end MutationTesting.ArtifactStore
