import MutationTesting.Relevance.Detector

/-!
Detectors over time. A detector remembers the files that it has parsed, but as long as no file
changes what it remembers is what it would find anew, so that its answers do not depend on the
points it was asked about before.
-/

namespace MutationTesting

theorem SourceUnit.parse_error {files : Files} {path : Path} {arguments : List String}
    {cause : Failure} (h : parse files path arguments = .error cause) :
    ∃ path reason, cause = .source path reason := by
  rw [parse] at h
  split at h
  · cases h
    exact ⟨_, _, rfl⟩
  · split at h
    · cases h
      exact ⟨_, _, rfl⟩
    · cases h

namespace JunkDetector

variable {files : Files} {d e : JunkDetector}

/-- Detectors for which every file is the same. -/
structure Agrees (files : Files) (d e : JunkDetector) : Prop where
  database : e.database = d.database
  flags : e.flags = d.flags
  unit : ∀ file, (e.unit files file).1 = (d.unit files file).1

theorem Agrees.refl (d : JunkDetector) : Agrees files d d := ⟨rfl, rfl, fun _ => rfl⟩

/-- How a file is parsed does not depend on the files parsed before. -/
theorem parse_eq (hdatabase : e.database = d.database) (hflags : e.flags = d.flags)
    (file : String) : e.parse files file = d.parse files file := by
  simp only [parse, arguments, hdatabase, hflags]

theorem unit_of_cached {file : String} {u : SourceUnit} (h : d.units.lookup file = some u) :
    d.unit files file = (.ok u, d) := by
  rw [unit, unit?, h]

theorem unit_of_parsed {file : String} {u : SourceUnit} (h : d.units.lookup file = none)
    (hparse : d.parse files file = .ok u) :
    d.unit files file = (.ok u, { d with units := (file, u) :: d.units }) := by
  rw [unit, unit?, h, hparse]

theorem unit_of_failed {file : String} {cause : Failure} (h : d.units.lookup file = none)
    (hparse : d.parse files file = .error cause) : d.unit files file = (.error cause, d) := by
  rw [unit, unit?, h, hparse]

/-- A file that is not known is what it is parsed to. -/
theorem unit_of_unknown {file : String} (h : d.units.lookup file = none) :
    (d.unit files file).1 = d.parse files file := by
  rw [unit, unit?, h]
  cases d.parse files file <;> rfl

/-- Remembering a file that was parsed changes no file. -/
theorem agrees_unit (d : JunkDetector) (files : Files) (file : String) :
    Agrees files d (d.unit files file).2 := by
  cases hcached : d.units.lookup file with
  | some u =>
      rw [unit_of_cached hcached]
      exact Agrees.refl d
  | none =>
      cases hparse : d.parse files file with
      | error cause =>
          rw [unit_of_failed hcached hparse]
          exact Agrees.refl d
      | ok u =>
          rw [unit_of_parsed hcached hparse]
          refine ⟨rfl, rfl, fun other => ?_⟩
          by_cases hother : other = file
          · subst hother
            rw [unit_of_cached (by rw [List.lookup_cons, beq_self_eq_true]),
              unit_of_parsed hcached hparse]
          · have hlookup : ((file, u) :: d.units).lookup other = d.units.lookup other := by
              rw [List.lookup_cons, beq_eq_false_iff_ne.mpr hother]
            rw [unit, unit, unit?, unit?, hlookup,
              parse_eq (d := d) (e := { d with units := (file, u) :: d.units }) rfl rfl]
            cases d.units.lookup other with
            | some u => rfl
            | none => cases d.parse files other <;> rfl

theorem Agrees.trans {f : JunkDetector} (h : Agrees files d e) (h' : Agrees files e f) :
    Agrees files d f :=
  ⟨h'.database.trans h.database, h'.flags.trans h.flags,
    fun file => (h'.unit file).trans (h.unit file)⟩

theorem agrees_isJunk (d : JunkDetector) (files : Files) (point : MutationPoint) :
    Agrees files d (d.isJunk files point).2 := by
  rw [isJunk]
  split
  · exact Agrees.refl d
  · split
    · exact d.agrees_unit files _
    · exact Agrees.refl d

/-- Detectors for which files are the same give the same answers. -/
theorem Agrees.isJunk (h : Agrees files d e) (point : MutationPoint) :
    (e.isJunk files point).1 = (d.isJunk files point).1 := by
  rw [JunkDetector.isJunk, JunkDetector.isJunk]
  split
  · rfl
  · split
    · simp only [isJunkAt, h.unit]
    · rfl

/-- A detector fails only at a source file. -/
theorem isJunk_error {point : MutationPoint} {cause : Failure}
    (h : (d.isJunk files point).1 = .error cause) : ∃ path reason, cause = .source path reason := by
  rw [isJunk] at h
  split at h
  · cases h
  next location _ =>
    split at h
    next category _ =>
      simp only [isJunkAt, unit] at h
      split at h
      · cases h
      · cases hparse : d.parse files location.filePath with
        | ok u =>
            rw [hparse] at h
            cases h
        | error reason =>
            rw [hparse] at h
            cases h
            exact SourceUnit.parse_error hparse
    · cases h

end JunkDetector

end MutationTesting
