import MutationTesting.Proofs.Execution.Build

/-!
Names before and after linking. In a program, a name is that of its first definition in load order;
in an executable, of the one symbol in the table. The compiler lets no module define a name twice,
and linking no two modules, so the first definition is the only one, and both look-ups find the same
code.
-/

namespace MutationTesting

namespace Program

/-- A program in which each name is that of one site has different names. -/
theorem distinct_of_site_unique {p : Program}
    (h : ∀ id index id' index' f g, p.function? id index = some f →
      p.function? id' index' = some g → f.name = g.name → id = id' ∧ index = index') :
    p.Distinct := by
  have hsite : ∀ {id index : Nat} {m : Module} {f : Function}, p.modules[id]? = some m →
      m.functions[index]? = some f → p.function? id index = some f :=
    fun hm hf => (p.function?_eq_some_iff _ _ _).mpr ⟨_, hm, hf⟩
  rw [Distinct, functions, List.map_flatMap, List.nodup_flatMap]
  constructor
  · intro m hm
    obtain ⟨id, hid⟩ := List.getElem?_of_mem hm
    refine List.pairwise_iff_getElem.mpr fun i j hi hj hlt hname => ?_
    rw [List.length_map] at hi hj
    rw [List.getElem_map, List.getElem_map] at hname
    have hsame := h id i id j _ _ (hsite hid (List.getElem?_eq_getElem hi))
      (hsite hid (List.getElem?_eq_getElem hj)) hname
    omega
  · refine List.pairwise_iff_getElem.mpr fun i j hi hj hlt name hname hname' => ?_
    obtain ⟨f, hf, rfl⟩ := List.mem_map.mp hname
    obtain ⟨g, hg, hgname⟩ := List.mem_map.mp hname'
    obtain ⟨k, hk⟩ := List.getElem?_of_mem hf
    obtain ⟨l, hl⟩ := List.getElem?_of_mem hg
    have hsame := h i k j l f g (hsite (List.getElem?_eq_getElem hi) hk)
      (hsite (List.getElem?_eq_getElem hj) hl) hgname.symm
    omega

section Resolution

variable {p : Program} {artifacts linked : List Artifact} {exe : Executable}

/-- The order in which the artifacts are linked does not matter. -/
theorem builds_of_link_perm (hrebuild : p.rebuild = .ok artifacts) (hperm : artifacts.Perm linked)
    (hlink : Executable.link linked = .ok exe) : p.Builds exe :=
  (p.builds_iff exe).mpr ⟨artifacts, hrebuild, Executable.link_perm hperm.symm hlink⟩

/-- The artifacts of a program link, in any order, exactly if it has no definition besides the first
of its name. -/
theorem exists_link_iff_first (hrebuild : p.rebuild = .ok artifacts)
    (hperm : artifacts.Perm linked) :
    (∃ exe, Executable.link linked = .ok exe) ↔ ∀ id index f, p.function? id index = some f →
      p.definition? f.name = some (id, index) := by
  constructor
  · rintro ⟨exe, hlink⟩ id index f hf
    have hbuilds := builds_of_link_perm hrebuild hperm hlink
    exact (hbuilds.distinct.definition?_eq_some_iff f.name id index).mpr ⟨f, hf, rfl⟩
  · intro hfirst
    obtain ⟨haccepted, -⟩ := (p.rebuild_eq_ok_iff artifacts).mp hrebuild
    have hdistinct : p.Distinct := by
      refine distinct_of_site_unique fun id index id' index' f g hf hg hname => ?_
      have hsame := (hfirst id index f hf).symm.trans (hname ▸ hfirst id' index' g hg)
      rwa [Option.some.injEq, Prod.mk.injEq] at hsame
    obtain ⟨exe, hbuilds⟩ := p.exists_builds_iff.mpr ⟨haccepted, hdistinct⟩
    obtain ⟨artifacts', hrebuild', hlink⟩ := (p.builds_iff exe).mp hbuilds
    rw [hrebuild, Except.ok.injEq] at hrebuild'
    subst hrebuild'
    exact ⟨exe, Executable.link_perm hperm hlink⟩

/-- Linking finds by name what the program does. -/
theorem Builds.symbol?_eq (h : p.Builds exe) (name : String) :
    exe.symbol? name = (p.definition? name).bind fun site =>
      (p.function? site.1 site.2).map Symbol.ofFunction := by
  cases hname : p.definition? name with
  | none =>
      cases hs : exe.symbol? name with
      | none => rfl
      | some s =>
          obtain ⟨id, index, f, hsite, -⟩ := h.definition?_of_symbol? hs
          rw [hname] at hsite
          cases hsite
  | some site =>
      obtain ⟨f, hf, rfl⟩ := definition?_eq_some hname
      rw [h.symbol?_of_function? hf, Option.bind_some, hf, Option.map_some]

end Resolution

/-- **Static and dynamic look-up agree.** Let all modules of a program compile, and let the
artifacts link in some order. A name has a definition exactly if it stands for a symbol, and then
the symbol has the parameters and the opcodes of the function that is found; no other function of
the program has the name. -/
theorem resolution_agrees (p : Program) (artifacts linked : List Artifact) (exe : Executable)
    (hrebuild : p.rebuild = .ok artifacts) (hperm : artifacts.Perm linked)
    (hlink : Executable.link linked = .ok exe) (name : String) :
    ((∃ site, p.definition? name = some site) ↔ ∃ s, exe.symbol? name = some s) ∧
      ∀ id index, p.definition? name = some (id, index) →
        ∃ f s, p.function? id index = some f ∧ f.name = name ∧ exe.symbol? name = some s ∧
          s.params = f.params ∧ s.code.toList = f.body.map (·.opcode) ∧
          ∀ id' index' g, p.function? id' index' = some g → g.name = name →
            id' = id ∧ index' = index := by
  have hbuilds := builds_of_link_perm hrebuild hperm hlink
  have hfound : ∀ id index, p.definition? name = some (id, index) →
      ∃ f, p.function? id index = some f ∧ f.name = name ∧
        exe.symbol? name = some (.ofFunction f) := by
    intro id index hname
    obtain ⟨f, hf, hfname⟩ := definition?_eq_some hname
    refine ⟨f, hf, hfname, ?_⟩
    rw [hbuilds.symbol?_eq, hname, Option.bind_some, hf, Option.map_some]
  refine ⟨⟨?_, ?_⟩, fun id index hname => ?_⟩
  · rintro ⟨⟨id, index⟩, hname⟩
    obtain ⟨f, -, -, hs⟩ := hfound id index hname
    exact ⟨_, hs⟩
  · rintro ⟨s, hs⟩
    obtain ⟨id, index, f, hname, -⟩ := hbuilds.definition?_of_symbol? hs
    exact ⟨(id, index), hname⟩
  · obtain ⟨f, hf, hfname, hs⟩ := hfound id index hname
    refine ⟨f, _, hf, hfname, hs, rfl, rfl, fun id' index' g hg hgname => ?_⟩
    exact hbuilds.distinct.site_unique hg hf (hgname.trans hfname.symm)

end Program

/-- A function, and in another module the one that it calls, after a function that nothing calls. -/
def parity : Program :=
  ⟨[⟨"main", none, [⟨"odd", 1, [⟨.call (some 0) "even" [.arg 0], none⟩,
      ⟨.compare 1 .eq (.reg 0) (.imm 0), none⟩, ⟨.ret (some (.reg 1)), none⟩]⟩]⟩,
    ⟨"even", none, [⟨"same", 1, [⟨.ret (some (.arg 0)), none⟩]⟩,
      ⟨"even", 1, [⟨.branch (.arg 0) 1 2, none⟩, ⟨.ret none, none⟩,
        ⟨.ret (some (.imm 1)), none⟩]⟩]⟩]⟩

/-- The artifacts may be linked in reverse. -/
theorem parity_resolution_agrees :
    ∃ artifacts exe, parity.rebuild = .ok artifacts ∧ artifacts.Perm artifacts.reverse ∧
      Executable.link artifacts.reverse = .ok exe ∧ parity.definition? "even" = some (1, 1) ∧
      ∃ s, exe.symbol? "even" = some s ∧ s.params = 1 ∧
        s.code.toList = [.branch (.arg 0) 1 2, .ret none, .ret (some (.imm 1))] := by
  obtain ⟨exe, hbuilds⟩ := parity.exists_builds_iff.mpr ⟨by decide, by decide⟩
  obtain ⟨artifacts, hrebuild, hlink⟩ := (parity.builds_iff exe).mp hbuilds
  have hperm : artifacts.Perm artifacts.reverse := artifacts.reverse_perm.symm
  have hreverse := Executable.link_perm hperm hlink
  have hname : parity.definition? "even" = some (1, 1) := by decide
  obtain ⟨-, hagrees⟩ :=
    parity.resolution_agrees artifacts artifacts.reverse exe hrebuild hperm hreverse "even"
  obtain ⟨f, s, hf, -, hs, hparams, hcode, -⟩ := hagrees 1 1 hname
  cases hf
  exact ⟨artifacts, exe, hrebuild, hperm, hreverse, hname, s, hs, hparams, hcode⟩

end MutationTesting
