import Mathlib.Data.List.Nodup
import MutationTesting.Proofs.Program.Slot

/-!
Functions of a program by their names. The definition of a name is the first function that has it;
where no two functions share a name, it is the only one. Writing an opcode changes one function and
no name.
-/

namespace MutationTesting

namespace Module

theorem function?_eq_some {m : Module} {name : String} {index : Nat}
    (h : m.function? name = some index) :
    ∃ f, m.functions[index]? = some f ∧ f.name = name := by
  obtain ⟨hlt, hname, -⟩ := List.findIdx?_eq_some_iff_getElem.mp h
  exact ⟨m.functions[index], List.getElem?_eq_getElem hlt, beq_iff_eq.mp hname⟩

theorem function?_eq_none {m : Module} {name : String} (h : m.function? name = none) :
    ∀ f ∈ m.functions, f.name ≠ name := by
  intro f hf hname
  have hno := List.findIdx?_eq_none_iff.mp h f hf
  rw [beq_eq_false_iff_ne] at hno
  exact hno hname

/-- Names belong to the outline. -/
theorem names_eq (m : Module) :
    m.functions.map Function.name = m.outline.2.2.map Prod.fst := by
  rw [outline, List.map_map]
  rfl

/-- Where the functions of a module have different names, a name is that of one position. -/
theorem position_unique {m : Module} (h : (m.functions.map Function.name).Nodup)
    {index index' : Nat} {f g : Function} (hf : m.functions[index]? = some f)
    (hg : m.functions[index']? = some g) (hname : f.name = g.name) : index = index' := by
  have hnames : (m.functions.map Function.name)[index]? =
      (m.functions.map Function.name)[index']? := by
    rw [List.getElem?_map, List.getElem?_map, hf, hg, Option.map_some, Option.map_some, hname]
  have hlt : index < (m.functions.map Function.name).length := by
    rw [List.length_map]
    exact (List.getElem?_eq_some_iff.mp hf).1
  exact (List.getElem?_inj hlt h).mp hnames

end Module

namespace Program

/-- Every function in load order. -/
def functions (p : Program) : List Function := p.modules.flatMap Module.functions

theorem function?_eq_some_iff (p : Program) (id index : Nat) (f : Function) :
    p.function? id index = some f ↔
      ∃ m, p.modules[id]? = some m ∧ m.functions[index]? = some f := by
  simp only [function?, module?, Option.bind_eq_bind, Option.bind_eq_some_iff]

theorem opcode?_eq_some {p : Program} {a : Address} {o : Opcode} (h : p.opcode? a = some o) :
    ∃ f i, p.function? a.module a.function = some f ∧ f.body[a.instruction]? = some i ∧
      i.opcode = o := by
  rw [opcode?, instruction?, Option.map_eq_some_iff] at h
  obtain ⟨i, hi, ho⟩ := h
  obtain ⟨m, hm, hi⟩ := Option.bind_eq_some_iff.mp hi
  obtain ⟨f, hf, hi⟩ := Option.bind_eq_some_iff.mp hi
  exact ⟨f, i, (p.function?_eq_some_iff _ _ f).mpr ⟨m, hm, hf⟩, hi, ho⟩

theorem mem_functions_iff (p : Program) (f : Function) :
    f ∈ p.functions ↔ ∃ id index, p.function? id index = some f := by
  simp only [functions, List.mem_flatMap, function?_eq_some_iff]
  constructor
  · rintro ⟨m, hm, hf⟩
    obtain ⟨id, hid⟩ := List.getElem?_of_mem hm
    obtain ⟨index, hindex⟩ := List.getElem?_of_mem hf
    exact ⟨id, index, m, hid, hindex⟩
  · rintro ⟨id, index, m, hid, hindex⟩
    exact ⟨m, List.mem_of_getElem? hid, List.mem_of_getElem? hindex⟩

/-- The sites of all functions. -/
def sites (p : Program) : List (Nat × Nat) :=
  p.modules.zipIdx.flatMap fun (m, id) => (List.range m.functions.length).map fun index =>
    (id, index)

theorem length_sites (p : Program) : p.sites.length = p.functions.length := by
  have hmodules : (p.modules.zipIdx.map Prod.fst).flatMap Module.functions = p.functions := by
    rw [List.zipIdx_map_fst, functions]
  rw [← hmodules, sites, List.flatMap_map]
  simp only [List.length_flatMap, List.length_map, List.length_range]

theorem mem_sites_of_function? {p : Program} {id index : Nat} {f : Function}
    (h : p.function? id index = some f) : (id, index) ∈ p.sites := by
  obtain ⟨m, hm, hf⟩ := (p.function?_eq_some_iff id index f).mp h
  refine List.mem_flatMap.mpr ⟨(m, id), List.mem_zipIdx_iff_getElem?.mpr hm, ?_⟩
  exact List.mem_map.mpr ⟨index, List.mem_range.mpr (List.getElem?_eq_some_iff.mp hf).1, rfl⟩

/-! ### Definitions -/

theorem findFrom_eq_some {name : String} {first : Nat} {modules : List Module} {id index : Nat}
    (h : findFrom name first modules = some (id, index)) :
    ∃ k m f, id = first + k ∧ modules[k]? = some m ∧ m.functions[index]? = some f ∧
      f.name = name := by
  induction modules generalizing first with
  | nil => cases h
  | cons m rest ih =>
      rw [findFrom] at h
      cases hm : m.function? name with
      | some found =>
          rw [hm] at h
          cases h
          obtain ⟨f, hf, hname⟩ := Module.function?_eq_some hm
          exact ⟨0, m, f, rfl, rfl, hf, hname⟩
      | none =>
          rw [hm] at h
          obtain ⟨k, m', f, hid, hm', hf, hname⟩ := ih h
          exact ⟨k + 1, m', f, by omega, hm', hf, hname⟩

theorem findFrom_eq_none {name : String} {first : Nat} {modules : List Module}
    (h : findFrom name first modules = none) :
    ∀ m ∈ modules, ∀ f ∈ m.functions, f.name ≠ name := by
  induction modules generalizing first with
  | nil => exact fun m hm => absurd hm List.not_mem_nil
  | cons m rest ih =>
      rw [findFrom] at h
      cases hm : m.function? name with
      | some found =>
          rw [hm] at h
          cases h
      | none =>
          rw [hm] at h
          intro m' hm'
          rcases List.mem_cons.mp hm' with rfl | hrest
          · exact Module.function?_eq_none hm
          · exact ih h m' hrest

theorem definition?_eq_some {p : Program} {name : String} {id index : Nat}
    (h : p.definition? name = some (id, index)) :
    ∃ f, p.function? id index = some f ∧ f.name = name := by
  obtain ⟨k, m, f, hid, hm, hf, hname⟩ := findFrom_eq_some h
  rw [Nat.zero_add] at hid
  subst hid
  exact ⟨f, (p.function?_eq_some_iff id index f).mpr ⟨m, hm, hf⟩, hname⟩

theorem definition?_eq_none_iff (p : Program) (name : String) :
    p.definition? name = none ↔ ∀ f ∈ p.functions, f.name ≠ name := by
  constructor
  · intro h f hf
    obtain ⟨m, hm, hfm⟩ := List.mem_flatMap.mp hf
    exact findFrom_eq_none h m hm f hfm
  · intro h
    cases hfound : p.definition? name with
    | none => rfl
    | some site =>
        obtain ⟨f, hf, hname⟩ := definition?_eq_some hfound
        exact absurd hname (h f ((p.mem_functions_iff f).mpr ⟨site.1, site.2, hf⟩))

/-- No two functions share a name. -/
def Distinct (p : Program) : Prop := (p.functions.map Function.name).Nodup

instance (p : Program) : Decidable p.Distinct :=
  inferInstanceAs (Decidable (p.functions.map Function.name).Nodup)

section Distinct

variable {p : Program}

/-- A name is that of one function at one site. -/
theorem Distinct.site_unique (h : p.Distinct) {id index id' index' : Nat} {f g : Function}
    (hf : p.function? id index = some f) (hg : p.function? id' index' = some g)
    (hname : f.name = g.name) : id = id' ∧ index = index' := by
  obtain ⟨m, hm, hfm⟩ := (p.function?_eq_some_iff id index f).mp hf
  obtain ⟨n, hn, hgn⟩ := (p.function?_eq_some_iff id' index' g).mp hg
  rw [Distinct, functions, List.map_flatMap, List.nodup_flatMap] at h
  obtain ⟨hwithin, hacross⟩ := h
  have hfname : f.name ∈ m.functions.map Function.name :=
    List.mem_map_of_mem (List.mem_of_getElem? hfm)
  have hgname : f.name ∈ n.functions.map Function.name :=
    hname ▸ List.mem_map_of_mem (List.mem_of_getElem? hgn)
  obtain ⟨hid, hidm⟩ := List.getElem?_eq_some_iff.mp hm
  obtain ⟨hid', hidn⟩ := List.getElem?_eq_some_iff.mp hn
  have hmodules : id = id' := by
    rcases Nat.lt_trichotomy id id' with hlt | heq | hlt
    · have hdisjoint := List.pairwise_iff_getElem.mp hacross id id' hid hid' hlt
      rw [hidm, hidn] at hdisjoint
      exact (hdisjoint hfname hgname).elim
    · exact heq
    · have hdisjoint := List.pairwise_iff_getElem.mp hacross id' id hid' hid hlt
      rw [hidm, hidn] at hdisjoint
      exact (hdisjoint hgname hfname).elim
  subst hmodules
  have hsame : m = n := Option.some.inj (hm.symm.trans hn)
  subst hsame
  exact ⟨rfl, Module.position_unique (hwithin m (List.mem_of_getElem? hm)) hfm hgn hname⟩

theorem Distinct.definition?_eq_some_iff (h : p.Distinct) (name : String) (id index : Nat) :
    p.definition? name = some (id, index) ↔
      ∃ f, p.function? id index = some f ∧ f.name = name := by
  constructor
  · exact definition?_eq_some
  · rintro ⟨f, hf, rfl⟩
    cases hfound : p.definition? f.name with
    | none =>
        have hno := (p.definition?_eq_none_iff f.name).mp hfound
        exact absurd rfl (hno f ((p.mem_functions_iff f).mpr ⟨id, index, hf⟩))
    | some site =>
        obtain ⟨g, hg, hname⟩ := definition?_eq_some hfound
        obtain ⟨hid, hindex⟩ := h.site_unique hf hg hname.symm
        rw [hid, hindex]

end Distinct

/-! ### Writing opcodes -/

theorem function?_setOpcode (p : Program) (a : Address) (o : Opcode) (id index : Nat) :
    (p.setOpcode a o).function? id index =
      if a.module = id ∧ a.function = index then
        (p.function? id index).map fun f => f.setOpcode a.instruction o
      else p.function? id index := by
  simp only [function?, module?_setOpcode]
  cases p.module? id with
  | none => simp
  | some m =>
      by_cases hid : a.module = id
      · by_cases hindex : a.function = index
        · simp [hid, hindex, Module.setOpcode]
        · simp [hid, hindex, Module.setOpcode]
      · simp [hid]

/-- Names belong to the outline. -/
theorem names_eq (p : Program) :
    p.functions.map Function.name = p.outline.flatMap fun m => m.2.2.map Prod.fst := by
  simp only [functions, outline, List.map_flatMap, List.flatMap_map, Module.names_eq]

theorem distinct_setOpcode_iff (p : Program) (a : Address) (o : Opcode) :
    (p.setOpcode a o).Distinct ↔ p.Distinct := by
  rw [Distinct, Distinct, names_eq, names_eq, outline_setOpcode]

end Program

end MutationTesting
