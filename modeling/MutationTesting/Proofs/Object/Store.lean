import Mathlib.Data.List.Forall2
import Mathlib.Data.List.Perm.Basic
import MutationTesting.Object.Store

/-!
Looking into stores. A number has at most one artifact, and recording another artifact for it
changes that entry alone. A store is determined by what it gives for each number, and lists this in
the order of numbers. One that holds the artifacts of consecutive modules is the list of them, and an
artifact that comes after all the others makes up, but for the order, that list with the artifact in
its place.
-/

namespace MutationTesting.ArtifactStore

theorem get?_eq_some_iff (s : ArtifactStore) (id : Nat) (a : Artifact) :
    s.get? id = some a ↔ (id, a) ∈ s.entries := by
  obtain ⟨entries, hincreasing⟩ := s
  simp only [get?]
  induction entries with
  | nil => simp
  | cons head rest ih =>
      obtain ⟨hhead, hrest⟩ := List.pairwise_cons.mp hincreasing
      rw [List.find?_cons, List.mem_cons]
      by_cases hid : head.1 = id
      · rw [beq_iff_eq.mpr hid, Option.map_some, Option.some.injEq]
        constructor
        · rintro rfl
          exact Or.inl (Prod.ext hid.symm rfl)
        · rintro (heq | hmem)
          · rw [← heq]
          · exact absurd (hhead _ hmem) (by rw [hid]; exact Nat.lt_irrefl id)
      · rw [beq_eq_false_iff_ne.mpr hid, ih hrest]
        constructor
        · exact Or.inr
        · rintro (heq | hmem)
          · exact absurd (congrArg Prod.fst heq).symm hid
          · exact hmem

theorem find?_insertInto_self (id : Nat) (a : Artifact) (entries : List (Nat × Artifact)) :
    (insertInto id a entries).find? (fun e => e.1 == id) = some (id, a) := by
  induction entries with
  | nil => exact List.find?_cons_of_pos (beq_self_eq_true id)
  | cons head rest ih =>
      rw [insertInto]
      split
      next => exact List.find?_cons_of_pos (beq_self_eq_true id)
      next =>
        split
        next => exact List.find?_cons_of_pos (beq_self_eq_true id)
        next hne => rw [List.find?_cons_of_neg (by simpa using Ne.symm hne), ih]

theorem find?_insertInto_of_ne {id other : Nat} (h : other ≠ id) (a : Artifact)
    (entries : List (Nat × Artifact)) :
    (insertInto id a entries).find? (fun e => e.1 == other) =
      entries.find? fun e => e.1 == other := by
  have hskip : ∀ rest : List (Nat × Artifact),
      ((id, a) :: rest).find? (fun e => e.1 == other) = rest.find? fun e => e.1 == other :=
    fun rest => List.find?_cons_of_neg (by simpa using h.symm)
  induction entries with
  | nil => exact hskip []
  | cons head rest ih =>
      rw [insertInto]
      split
      next => exact hskip (head :: rest)
      next =>
        split
        next heq =>
          rw [hskip, List.find?_cons_of_neg]
          simpa [← heq] using h.symm
        next => rw [List.find?_cons, List.find?_cons, ih]

theorem get?_insert (s : ArtifactStore) (id other : Nat) (a : Artifact) :
    (s.insert id a).get? other = if other = id then some a else s.get? other := by
  split
  next hid => rw [get?, insert, hid, find?_insertInto_self, Option.map_some]
  next hid => rw [get?, get?, insert, find?_insertInto_of_ne hid]

/-- Stores are told apart by what they give for some module. -/
theorem ext_get? {s t : ArtifactStore} (h : ∀ id, s.get? id = t.get? id) : s = t := by
  have hnodup : ∀ s : ArtifactStore, s.entries.Nodup := fun s =>
    s.increasing.imp fun hlt heq => absurd (congrArg Prod.fst heq) (Nat.ne_of_lt hlt)
  refine ArtifactStore.ext (List.Perm.eq_of_pairwise (fun e e' _ _ hlt hgt => ?_) s.increasing
    t.increasing ((List.perm_ext_iff_of_nodup (hnodup s) (hnodup t)).mpr fun e => ?_))
  · exact absurd hlt (Nat.lt_asymm hgt)
  · rw [← s.get?_eq_some_iff, h, t.get?_eq_some_iff]

theorem insertInto_of_mem {id : Nat} {a b : Artifact} {entries : List (Nat × Artifact)}
    (hincreasing : entries.Pairwise fun a b => a.1 < b.1) (h : (id, b) ∈ entries) :
    insertInto id a entries = entries.map fun e => if e.1 = id then (id, a) else e := by
  induction entries with
  | nil => exact absurd h List.not_mem_nil
  | cons head rest ih =>
      obtain ⟨hhead, hrest⟩ := List.pairwise_cons.mp hincreasing
      rw [insertInto, List.map_cons]
      rcases List.mem_cons.mp h with rfl | hmem
      · have hkeep : rest.map (fun e => if e.1 = id then (id, a) else e) = rest := by
          refine (List.map_congr_left fun e he => ?_).trans (List.map_id rest)
          have hlt : id < e.1 := hhead e he
          rw [if_neg (by omega)]
          rfl
        rw [if_neg (Nat.lt_irrefl id), if_pos rfl, if_pos rfl, hkeep]
      · have hlt : head.1 < id := hhead _ hmem
        rw [if_neg (by omega), if_neg (by omega), if_neg (by omega), ih hrest hmem]

/-- An artifact recorded for a number that has one already takes its place. -/
theorem entries_insert {s : ArtifactStore} {id : Nat} {b : Artifact} (h : s.get? id = some b)
    (a : Artifact) :
    (s.insert id a).entries = s.entries.map fun e => if e = (id, b) then (id, a) else e := by
  have hmem := (s.get?_eq_some_iff id b).mp h
  refine (insertInto_of_mem s.increasing hmem).trans (List.map_congr_left fun e he => ?_)
  by_cases hid : e.1 = id
  · have he' := (s.get?_eq_some_iff id e.2).mpr (hid ▸ he)
    rw [h, Option.some.injEq] at he'
    rw [if_pos hid, if_pos (Prod.ext hid he'.symm)]
  · rw [if_neg hid, if_neg fun heq => hid (congrArg Prod.fst heq)]

/-- An artifact recorded for a number beyond all others comes last. -/
theorem insertInto_of_lt {id : Nat} {a : Artifact} {entries : List (Nat × Artifact)}
    (h : ∀ e ∈ entries, e.1 < id) : insertInto id a entries = entries ++ [(id, a)] := by
  induction entries with
  | nil => rfl
  | cons head rest ih =>
      have hhead : head.1 < id := h head List.mem_cons_self
      have hrest := ih fun e he => h e (List.mem_cons_of_mem head he)
      rw [insertInto, if_neg (by omega), if_neg (by omega), hrest, List.cons_append]

/-- The module numbers of a store, each with the digest of its artifact. -/
def digests (s : ArtifactStore) : List (Nat × String) := s.entries.map fun e => (e.1, e.2.digest)

theorem digests_insert {s : ArtifactStore} {id : Nat} {a b : Artifact} (h : s.get? id = some b)
    (hdigest : b.digest = a.digest) : (s.insert id a).digests = s.digests := by
  rw [digests, digests, entries_insert h, List.map_map]
  refine List.map_congr_left fun e _ => ?_
  by_cases he : e = (id, b)
  · rw [Function.comp_apply, if_pos he, he, hdigest]
  · rw [Function.comp_apply, if_neg he]

/-- The digest that a store holds for a module is among its digests. -/
theorem digest_eq_iff (s : ArtifactStore) (id : Nat) (digest : String) :
    (s.get? id).any (·.digest == digest) = true ↔ (id, digest) ∈ s.digests := by
  rw [digests, List.mem_map, Option.any_eq_true]
  constructor
  · rintro ⟨a, ha, hdigest⟩
    exact ⟨(id, a), (s.get?_eq_some_iff id a).mp ha, Prod.ext rfl (beq_iff_eq.mp hdigest)⟩
  · rintro ⟨⟨id, a⟩, he, heq⟩
    cases heq
    exact ⟨a, (s.get?_eq_some_iff id a).mpr he, beq_self_eq_true _⟩

theorem insert_self {s : ArtifactStore} {id : Nat} {a : Artifact} (h : s.get? id = some a) :
    s.insert id a = s := by
  refine ext_get? fun other => ?_
  rw [get?_insert]
  split
  next hid => rw [hid, h]
  next => rfl

/-! ### What a store lists -/

/-- The numbers of the modules that a store has artifacts for. -/
def numbers (s : ArtifactStore) : List Nat := s.entries.map (·.1)

theorem pairwise_numbers (s : ArtifactStore) : s.numbers.Pairwise (· < ·) :=
  List.pairwise_map.mpr s.increasing

theorem mem_numbers_iff (s : ArtifactStore) (id : Nat) :
    id ∈ s.numbers ↔ ∃ a, s.get? id = some a := by
  simp [numbers, get?_eq_some_iff]

theorem forall₂_all {s : ArtifactStore} {P : Nat → Artifact → Prop}
    (h : ∀ id a, s.get? id = some a → P id a) : List.Forall₂ P s.numbers s.all := by
  rw [numbers, all, List.forall₂_map_left_iff, List.forall₂_map_right_iff, List.forall₂_same]
  exact fun e he => h e.1 e.2 ((s.get?_eq_some_iff e.1 e.2).mpr he)

theorem length_numbers (s : ArtifactStore) : s.numbers.length = s.size := List.length_map _

/-- A store gives for a module what it lists in the place of its number. -/
theorem get?_eq_getElem?_all (s : ArtifactStore) (id : Nat) :
    s.get? id = s.all[s.numbers.idxOf id]? := by
  rw [get?, all, numbers]
  induction s.entries with
  | nil => rfl
  | cons head rest ih =>
      rw [List.find?_cons, List.map_cons, List.map_cons]
      by_cases hid : head.1 = id
      · rw [beq_iff_eq.mpr hid, List.idxOf_cons_eq _ hid]
        rfl
      · rw [beq_eq_false_iff_ne.mpr hid, List.idxOf_cons_ne _ hid]
        exact ih

/-- Leaving out a module takes away what is listed in the place of its number. -/
theorem allExcept_eq_eraseIdx (s : ArtifactStore) (id : Nat) :
    s.allExcept id = s.all.eraseIdx (s.numbers.idxOf id) := by
  obtain ⟨entries, hincreasing⟩ := s
  rw [allExcept, all, numbers]
  simp only
  induction entries with
  | nil => rfl
  | cons head rest ih =>
      obtain ⟨hhead, hrest⟩ := List.pairwise_cons.mp hincreasing
      rw [List.map_cons, List.map_cons]
      by_cases hid : head.1 = id
      · have hkeep : rest.filter (fun e => e.1 != id) = rest := by
          refine List.filter_eq_self.mpr fun e he => bne_iff_ne.mpr ?_
          have hlt := hhead e he
          omega
        rw [List.filter_cons_of_neg (by simpa using hid), hkeep, List.idxOf_cons_eq _ hid]
        rfl
      · rw [List.filter_cons_of_pos (by simpa using hid), List.idxOf_cons_ne _ hid, List.map_cons,
          ih hrest]
        rfl

/-! ### Artifacts of consecutive modules -/

/-- Artifacts with the numbers from `first` on. -/
def numbered (first : Nat) : List Artifact → List (Nat × Artifact)
  | [] => []
  | a :: rest => (first, a) :: numbered (first + 1) rest

theorem fst_numbered (first : Nat) (artifacts : List Artifact) :
    (numbered first artifacts).map (·.1) = List.range' first artifacts.length := by
  induction artifacts generalizing first with
  | nil => rfl
  | cons a rest ih => rw [numbered, List.map_cons, ih, List.length_cons, List.range'_succ]

theorem map_numbered (first : Nat) (artifacts : List Artifact) :
    (numbered first artifacts).map (·.2) = artifacts := by
  induction artifacts generalizing first with
  | nil => rfl
  | cons a rest ih => rw [numbered, List.map_cons, ih]

/-- A store that holds these artifacts for the modules from the first one on. -/
def Lists (s : ArtifactStore) (artifacts : List Artifact) : Prop :=
  s.entries = numbered 0 artifacts

section Listing

variable {s : ArtifactStore} {artifacts : List Artifact}

theorem Lists.numbers (h : s.Lists artifacts) : s.numbers = List.range artifacts.length := by
  rw [ArtifactStore.numbers, h, fst_numbered, List.range_eq_range']

theorem Lists.all (h : s.Lists artifacts) : s.all = artifacts := by
  rw [ArtifactStore.all, h, map_numbered]

theorem Lists.idxOf_numbers (h : s.Lists artifacts) {id : Nat} (hid : id < artifacts.length) :
    s.numbers.idxOf id = id := by
  have hindex : id < (List.range artifacts.length).length := by rwa [List.length_range]
  have hget := List.nodup_range.idxOf_getElem id hindex
  rwa [List.getElem_range, ← h.numbers] at hget

theorem Lists.get? (h : s.Lists artifacts) (id : Nat) : s.get? id = artifacts[id]? := by
  rw [get?_eq_getElem?_all, h.all]
  by_cases hid : id < artifacts.length
  · rw [h.idxOf_numbers hid]
  · have habsent : id ∉ s.numbers := by rwa [h.numbers, List.mem_range]
    rw [List.idxOf_eq_length habsent, h.numbers, List.length_range,
      List.getElem?_eq_none (Nat.le_refl _), List.getElem?_eq_none (Nat.le_of_not_lt hid)]

/-- The other artifacts with one for a module at the end are all artifacts, with that one in the
place of the module. -/
theorem Lists.perm_set (h : s.Lists artifacts) {id : Nat} (hid : id < artifacts.length)
    (a : Artifact) : (s.allExcept id ++ [a]).Perm (artifacts.set id a) := by
  rw [allExcept_eq_eraseIdx, h.all, h.idxOf_numbers hid]
  exact (List.perm_append_singleton _ _).trans (List.set_perm_cons_eraseIdx hid a).symm

end Listing

end MutationTesting.ArtifactStore
