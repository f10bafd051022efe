import Mathlib.Data.List.Nodup
import MutationTesting.Execution.Verdict

/-!
What linking gives. Artifacts link if they can be decoded and no two of their symbols share a name,
and then each name stands for the symbol that has it. None of this depends on the order of the
artifacts or on how the symbols are distributed over them, although the errors of linking do.
-/

namespace MutationTesting

namespace Artifact

/-- The symbols of an artifact; one that cannot be decoded has none. -/
def symbols (a : Artifact) : List Symbol :=
  match a.image with
  | .ok i => i.symbols
  | .error _ => []

end Artifact

/-- Artifacts that link. -/
structure Linkable (artifacts : List Artifact) : Prop where
  decodable : ∀ a ∈ artifacts, ∃ i, a.image = .ok i
  distinct : ((artifacts.flatMap Artifact.symbols).map Symbol.name).Nodup

/-- The same symbols, in another order or over other artifacts. -/
structure Redistributed (as bs : List Artifact) : Prop where
  decodable : (∀ a ∈ as, ∃ i, a.image = .ok i) ↔ ∀ b ∈ bs, ∃ i, b.image = .ok i
  symbols : (as.flatMap Artifact.symbols).Perm (bs.flatMap Artifact.symbols)

section Redistributed

variable {as bs : List Artifact}

theorem Redistributed.symm (h : Redistributed as bs) : Redistributed bs as :=
  ⟨h.decodable.symm, h.symbols.symm⟩

theorem Redistributed.of_perm (hperm : as.Perm bs) : Redistributed as bs where
  decodable := by simp only [hperm.mem_iff]
  symbols := hperm.flatMap_right Artifact.symbols

theorem Redistributed.linkable (h : Redistributed as bs) (has : Linkable as) : Linkable bs where
  decodable := h.decodable.mp has.decodable
  distinct := (h.symbols.map Symbol.name).nodup_iff.mp has.distinct

end Redistributed

namespace SymbolTable

/-- The names of a table stand for these symbols, and for nothing else. -/
structure Holds (table : SymbolTable) (symbols : List Symbol) : Prop where
  distinct : (symbols.map Symbol.name).Nodup
  found : ∀ name s, table[name]? = some s ↔ s ∈ symbols ∧ s.name = name

theorem Holds.empty : Holds {} [] where
  distinct := List.nodup_nil
  found := fun name s => by simp

theorem Holds.contains {table : SymbolTable} {symbols : List Symbol} (h : Holds table symbols)
    (name : String) : table.contains name = true ↔ name ∈ symbols.map Symbol.name := by
  rw [Std.HashMap.contains_eq_isSome_getElem?, Option.isSome_iff_exists, List.mem_map]
  exact exists_congr fun s => h.found name s

theorem Holds.insert {table : SymbolTable} {symbols : List Symbol} (h : Holds table symbols)
    {s : Symbol} (hnew : s.name ∉ symbols.map Symbol.name) :
    Holds (table.insert s.name s) (symbols ++ [s]) where
  distinct := by
    rw [List.map_append, List.map_singleton, List.nodup_append]
    refine ⟨h.distinct, List.pairwise_singleton _ _, fun a ha b hb => ?_⟩
    rw [List.mem_singleton.mp hb]
    exact fun heq => hnew (heq ▸ ha)
  found := fun name t => by
    rw [Std.HashMap.getElem?_insert, List.mem_append, List.mem_singleton]
    by_cases hname : s.name = name
    · rw [if_pos (beq_iff_eq.mpr hname), Option.some.injEq]
      constructor
      · rintro rfl
        exact ⟨Or.inr rfl, hname⟩
      · rintro ⟨ht | rfl, rfl⟩
        · exact absurd (List.mem_map.mpr ⟨t, ht, rfl⟩) (hname ▸ hnew)
        · rfl
    · rw [if_neg (fun heq => hname (beq_iff_eq.mp heq)), h.found]
      constructor
      · rintro ⟨ht, rfl⟩
        exact ⟨Or.inl ht, rfl⟩
      · rintro ⟨ht | rfl, rfl⟩
        · exact ⟨ht, rfl⟩
        · exact absurd rfl hname

/-- Symbols are added up to the first whose name is there already. -/
theorem addSymbols_holds {table : SymbolTable} {known : List Symbol} (h : Holds table known)
    (artifact : String) (more : List Symbol) :
    match addSymbols artifact table more with
    | .ok table => Holds table (known ++ more)
    | .error _ => ¬ ((known ++ more).map Symbol.name).Nodup := by
  induction more generalizing table known with
  | nil => simpa only [addSymbols, List.append_nil] using h
  | cons s more ih =>
      rw [addSymbols]
      by_cases hs : s.name ∈ known.map Symbol.name
      · rw [if_pos ((h.contains s.name).mpr hs)]
        intro hnodup
        rw [List.map_append, List.nodup_append] at hnodup
        exact hnodup.2.2 s.name hs s.name List.mem_cons_self rfl
      · rw [if_neg fun hcontains => hs ((h.contains s.name).mp hcontains)]
        have hrest := ih (h.insert hs)
        rwa [List.append_assoc, List.singleton_append] at hrest

theorem addArtifacts_holds {table : SymbolTable} {known : List Symbol} (h : Holds table known)
    (artifacts : List Artifact) :
    match addArtifacts table artifacts with
    | .ok table => (∀ a ∈ artifacts, ∃ i, a.image = .ok i) ∧
        Holds table (known ++ artifacts.flatMap Artifact.symbols)
    | .error _ => ¬ ((∀ a ∈ artifacts, ∃ i, a.image = .ok i) ∧
        ((known ++ artifacts.flatMap Artifact.symbols).map Symbol.name).Nodup) := by
  induction artifacts generalizing table known with
  | nil =>
      rw [addArtifacts, List.flatMap_nil, List.append_nil]
      exact ⟨fun a ha => absurd ha List.not_mem_nil, h⟩
  | cons a artifacts ih =>
      cases himage : a.image with
      | error cause =>
          rw [addArtifacts, himage]
          rintro ⟨hdecodable, -⟩
          obtain ⟨i, hi⟩ := hdecodable a List.mem_cons_self
          rw [himage] at hi
          cases hi
      | ok i =>
          have hsymbols : a.symbols = i.symbols := by rw [Artifact.symbols, himage]
          have hstep : addArtifacts table (a :: artifacts) =
              (addSymbols a.moduleName table i.symbols).bind fun t => addArtifacts t artifacts := by
            rw [addArtifacts, himage]
            rfl
          have hadded := addSymbols_holds h a.moduleName i.symbols
          rw [hstep, List.flatMap_cons, hsymbols, ← List.append_assoc]
          cases htable : addSymbols a.moduleName table i.symbols with
          | error cause =>
              rw [htable] at hadded
              rw [Except.bind]
              rintro ⟨-, hnodup⟩
              rw [List.map_append, List.nodup_append] at hnodup
              exact hadded hnodup.1
          | ok table' =>
              rw [htable] at hadded
              have hrest := ih hadded
              rw [Except.bind]
              cases hall : addArtifacts table' artifacts with
              | error cause =>
                  rw [hall] at hrest
                  rintro ⟨hdecodable, hnodup⟩
                  exact hrest ⟨fun b hb => hdecodable b (List.mem_cons_of_mem a hb), hnodup⟩
              | ok table'' =>
                  rw [hall] at hrest
                  refine ⟨fun b hb => ?_, hrest.2⟩
                  rcases List.mem_cons.mp hb with rfl | hb
                  · exact ⟨i, himage⟩
                  · exact hrest.1 b hb

end SymbolTable

namespace Executable

theorem ext {p q : Executable} (h : ∀ name s, p.symbol? name = some s ↔ q.symbol? name = some s) :
    p = q := by
  obtain ⟨f⟩ := p
  obtain ⟨g⟩ := q
  have hfg : f = g := funext fun name => Option.ext (h name)
  rw [hfg]

/-- What linking succeeds on, and what it gives. -/
theorem link_cases (artifacts : List Artifact) :
    (Linkable artifacts ∧ ∃ p, link artifacts = .ok p ∧
        ∀ name s, p.symbol? name = some s ↔
          s ∈ artifacts.flatMap Artifact.symbols ∧ s.name = name) ∨
      ¬ Linkable artifacts ∧ ∃ cause, link artifacts = .error cause := by
  have hadded := SymbolTable.addArtifacts_holds SymbolTable.Holds.empty artifacts
  rw [List.nil_append] at hadded
  cases htable : SymbolTable.addArtifacts {} artifacts with
  | ok table =>
      rw [htable] at hadded
      refine Or.inl ⟨⟨hadded.1, hadded.2.distinct⟩, ⟨fun name => table[name]?⟩, ?_, hadded.2.found⟩
      rw [link, htable]
      rfl
  | error cause =>
      rw [htable] at hadded
      refine Or.inr ⟨fun h => hadded ⟨h.decodable, h.distinct⟩, cause, ?_⟩
      rw [link, htable]
      rfl

theorem exists_link_iff (artifacts : List Artifact) :
    (∃ p, link artifacts = .ok p) ↔ Linkable artifacts := by
  rcases link_cases artifacts with ⟨h, p, hp, -⟩ | ⟨h, cause, hcause⟩
  · exact iff_of_true ⟨p, hp⟩ h
  · refine iff_of_false ?_ h
    rintro ⟨p, hp⟩
    rw [hcause] at hp
    cases hp

theorem symbol?_of_link {artifacts : List Artifact} {p : Executable}
    (h : link artifacts = .ok p) (name : String) (s : Symbol) :
    p.symbol? name = some s ↔ s ∈ artifacts.flatMap Artifact.symbols ∧ s.name = name := by
  rcases link_cases artifacts with ⟨-, q, hq, hfound⟩ | ⟨-, cause, hcause⟩
  · rw [h, Except.ok.injEq] at hq
    rw [hq]
    exact hfound name s
  · rw [h] at hcause
    cases hcause

/-- The symbols of a name are the one that it stands for, and none if it stands for nothing. -/
theorem filter_name_of_link {artifacts : List Artifact} {p : Executable}
    (h : link artifacts = .ok p) (name : String) :
    (artifacts.flatMap Artifact.symbols).filter (fun s => s.name = name) =
      (p.symbol? name).toList := by
  have hdistinct := ((exists_link_iff artifacts).mp ⟨p, h⟩).distinct
  have hsymbol := symbol?_of_link h name
  generalize artifacts.flatMap Artifact.symbols = symbols at hdistinct hsymbol ⊢
  cases hs : p.symbol? name with
  | none =>
      refine List.filter_eq_nil_iff.mpr fun s hmem hname => ?_
      rw [(hsymbol s).mpr ⟨hmem, of_decide_eq_true hname⟩] at hs
      cases hs
  | some s =>
      obtain ⟨hmem, rfl⟩ := (hsymbol s).mp hs
      calc symbols.filter (fun t => t.name = s.name)
          = symbols.filter (fun t => t = s) := by
            refine List.filter_congr fun t ht => decide_eq_decide.mpr ⟨fun hname => ?_, ?_⟩
            · exact List.inj_on_of_nodup_map hdistinct ht hmem hname
            · rintro rfl
              rfl
        _ = List.replicate (symbols.count s) s := List.filter_eq s
        _ = [s] := by rw [List.count_eq_one_of_mem hdistinct.of_map hmem, List.replicate_one]

/-- Artifacts with the same symbols link to one executable. -/
theorem link_redistributed {as bs : List Artifact} {p : Executable} (hsame : Redistributed as bs)
    (h : link as = .ok p) : link bs = .ok p := by
  have hlinkable := hsame.linkable ((exists_link_iff as).mp ⟨p, h⟩)
  obtain ⟨q, hq⟩ := (exists_link_iff bs).mpr hlinkable
  have hqp : q = p := by
    refine ext fun name s => ?_
    rw [symbol?_of_link hq, symbol?_of_link h, hsame.symbols.mem_iff]
  rw [hq, hqp]

/-- Artifacts that link do so in any order, and to one executable. -/
theorem link_perm {as bs : List Artifact} {p : Executable} (hperm : as.Perm bs)
    (h : link as = .ok p) : link bs = .ok p :=
  link_redistributed (.of_perm hperm) h

end Executable

end MutationTesting
