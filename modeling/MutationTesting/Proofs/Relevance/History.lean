import Mathlib
import MutationTesting.Proofs.Relevance.Detector

/-!
Detectors while files change. Between the questions that a detector is asked, files may be written,
removed or changed in any other way. What the detector remembers of a file is what the file was at
the first question that had it parsed; of all other files it remembers nothing. So each answer is
that of a detector that has just been made, on the files as they were then.
-/

namespace MutationTesting

namespace JunkDetector

/-- What a detector is asked about: a point, or a place in a source file. -/
inductive Question where
  | point (p : MutationPoint)
  | place (location : SourceLocation) (category : SyntaxCategory)

namespace Question

def answer (q : Question) (d : JunkDetector) (files : Files) : Except Failure Bool × JunkDetector :=
  match q with
  | .point p => d.isJunk files p
  | .place location category => d.isJunkAt files location category

/-- The file that has to be known for the answer. A point that has no place, or whose kind says
nothing about the source, needs none. -/
def file? : Question → Option String
  | .point p =>
    match p.location, SyntaxCategory.ofKind p.kind with
    | some location, some _ => some location.filePath
    | _, _ => none
  | .place location _ => some location.filePath

end Question

/-- What happens around a detector. -/
inductive Event where
  /-- Files are written, removed or changed in any other way. -/
  | change (edit : Files → Files)
  | ask (question : Question)

/-- The files and the detector after an event. -/
def happen : Event → Files × JunkDetector → Files × JunkDetector
  | .change edit, (files, d) => (edit files, d)
  | .ask question, (files, d) => (files, (question.answer d files).2)

def happenAll (events : List Event) (start : Files × JunkDetector) : Files × JunkDetector :=
  events.foldl (fun now event => happen event now) start

/-- The questions among events, each with the files as they are when it is asked. -/
def asked : Files → List Event → List (Files × Question)
  | _, [] => []
  | files, .change edit :: rest => asked (edit files) rest
  | files, .ask question :: rest => (files, question) :: asked files rest

/-- Whether a question has the file parsed, unless that has been done before. -/
def parses (d : JunkDetector) (file : String) (moment : Files × Question) : Bool :=
  moment.2.file? == some file && (d.parse moment.1 file).isOk

/-- The files as they were at the first question that had this file parsed. -/
def parsedAt (d : JunkDetector) (history : List (Files × Question)) (file : String) :
    Option Files :=
  (history.find? (d.parses file)).map (·.1)

/-- The files that questions had parsed. -/
def parsedFiles (d : JunkDetector) (history : List (Files × Question)) : List String :=
  history.filterMap fun moment => moment.2.file?.filter fun file => d.parses file moment

section History

variable {d e : JunkDetector} {history : List (Files × Question)} {files : Files}

/-! ### Questions -/

theorem answer_of_file?_none {q : Question} (h : q.file? = none) (e : JunkDetector)
    (files : Files) : (q.answer e files).2 = e := by
  cases q with
  | place location category => cases h
  | point p =>
      simp only [Question.file?] at h
      simp only [Question.answer, isJunk]
      cases hlocation : p.location with
      | none => rfl
      | some location =>
          cases hcategory : SyntaxCategory.ofKind p.kind with
          | none => rfl
          | some category =>
              rw [hlocation, hcategory] at h
              cases h

/-- A question about a file depends on the detector by what it has for the file, and leaves behind
the detector that knows it. -/
theorem exists_answer_eq {q : Question} {file : String} (h : q.file? = some file) :
    ∃ judge : SourceUnit → Bool, ∀ (e : JunkDetector) (files : Files),
      q.answer e files = ((e.unit files file).1.map judge, (e.unit files file).2) := by
  cases q with
  | place location category =>
      cases h
      exact ⟨fun u => u.isJunkAt location category, fun e files => rfl⟩
  | point p =>
      simp only [Question.file?] at h
      cases hlocation : p.location with
      | none =>
          rw [hlocation] at h
          cases h
      | some location =>
          cases hcategory : SyntaxCategory.ofKind p.kind with
          | none =>
              rw [hlocation, hcategory] at h
              cases h
          | some category =>
              rw [hlocation, hcategory] at h
              cases h
              refine ⟨fun u => u.isJunkAt location category, fun e files => ?_⟩
              simp only [Question.answer, isJunk, hlocation, hcategory, isJunkAt]

/-- A file that cannot be parsed is not remembered. -/
theorem unit_error {file : String} {cause : Failure} (h : (e.unit files file).1 = .error cause) :
    (e.unit files file).2 = e := by
  cases hknown : e.units.lookup file with
  | some u => rw [unit_of_cached hknown]
  | none =>
      cases hparse : e.parse files file with
      | error cause => rw [unit_of_failed hknown hparse]
      | ok u =>
          rw [unit_of_parsed hknown hparse] at h
          cases h

/-! ### What a detector remembers -/

/-- Of one more question only the file matters that it has parsed, if that was not parsed before. -/
theorem parsedAt_concat (d : JunkDetector) (history : List (Files × Question)) (files : Files)
    (q : Question) (file : String) :
    d.parsedAt (history ++ [(files, q)]) file =
      (d.parsedAt history file).or
        (if q.file? = some file ∧ (d.parse files file).isOk = true then some files else none) := by
  have hparses : d.parses file (files, q) = true ↔
      q.file? = some file ∧ (d.parse files file).isOk = true := by
    rw [parses, Bool.and_eq_true, beq_iff_eq]
  simp only [parsedAt, List.find?_append, Option.map_or]
  by_cases h : d.parses file (files, q) = true
  · rw [if_pos (hparses.mp h), List.find?_cons_of_pos h]
    rfl
  · rw [if_neg fun hfile => h (hparses.mpr hfile), List.find?_cons_of_neg h]
    rfl

theorem mem_parsedFiles_iff (d : JunkDetector) (history : List (Files × Question))
    (file : String) : file ∈ d.parsedFiles history ↔ (d.parsedAt history file).isSome = true := by
  rw [parsedAt, Option.isSome_map, List.find?_isSome, parsedFiles, List.mem_filterMap]
  refine exists_congr fun moment => and_congr_right fun _ => ?_
  rw [Option.filter_eq_some_iff]
  constructor
  · exact fun h => h.2
  · intro h
    refine ⟨?_, h⟩
    rw [parses, Bool.and_eq_true, beq_iff_eq] at h
    exact h.1

/-- The detector `e` has come out of `d`, which knew no file, by these questions. -/
structure Follows (d : JunkDetector) (history : List (Files × Question)) (e : JunkDetector) :
    Prop where
  database : e.database = d.database
  flags : e.flags = d.flags
  unit? : ∀ file,
    e.unit? file = (d.parsedAt history file).bind fun files => (d.parse files file).toOption
  nodup : (e.units.map Prod.fst).Nodup

theorem Follows.start (h : d.units = []) : d.Follows [] d where
  database := rfl
  flags := rfl
  unit? := by
    intro file
    rw [JunkDetector.unit?, h]
    rfl
  nodup := by
    rw [h]
    exact List.nodup_nil

theorem Follows.parse_eq (h : d.Follows history e) (files : Files) (file : String) :
    e.parse files file = d.parse files file :=
  JunkDetector.parse_eq h.database h.flags file

/-- A file that was parsed is remembered as it was then. -/
theorem Follows.exists_parsed (h : d.Follows history e) {file : String} {past : Files}
    (hpast : d.parsedAt history file = some past) :
    ∃ u, d.parse past file = .ok u ∧ e.unit? file = some u := by
  have hfound := hpast
  rw [parsedAt, Option.map_eq_some_iff] at hfound
  obtain ⟨moment, hmoment, rfl⟩ := hfound
  have hparses := List.find?_some hmoment
  rw [parses, Bool.and_eq_true] at hparses
  cases hparse : d.parse moment.1 file with
  | error cause =>
      rw [hparse] at hparses
      cases hparses.2
  | ok u =>
      refine ⟨u, rfl, ?_⟩
      rw [h.unit?, hpast, Option.bind_some, hparse]
      rfl

theorem isSome_unit?_iff (e : JunkDetector) (file : String) :
    (e.unit? file).isSome = true ↔ file ∈ e.units.map Prod.fst := by
  simp only [JunkDetector.unit?, List.lookup_isSome_iff, beq_iff_eq, List.mem_map]
  exact exists_congr fun known => and_congr_right fun _ => eq_comm

theorem Follows.unit?_eq_none (h : d.Follows history e) {file : String}
    (hpast : d.parsedAt history file = none) : e.unit? file = none := by
  rw [h.unit?, hpast]
  rfl

theorem Follows.isSome_unit? (h : d.Follows history e) (file : String) :
    (e.unit? file).isSome = (d.parsedAt history file).isSome := by
  cases hpast : d.parsedAt history file with
  | none => simp [h.unit?_eq_none hpast]
  | some past =>
      obtain ⟨u, -, hu⟩ := h.exists_parsed hpast
      simp [hu]

/-- A file is what it was when it was parsed, or else what it is now. -/
theorem Follows.unit_eq (h : d.Follows history e) (hfresh : d.units = []) (files : Files)
    (file : String) :
    (e.unit files file).1 = (d.unit ((d.parsedAt history file).getD files) file).1 := by
  have hfirst : ∀ files, (d.unit files file).1 = d.parse files file := fun _ =>
    unit_of_unknown (by rw [hfresh, List.lookup_nil])
  rw [hfirst]
  cases hpast : d.parsedAt history file with
  | none => rw [unit_of_unknown (h.unit?_eq_none hpast), h.parse_eq, Option.getD_none]
  | some past =>
      obtain ⟨u, hparse, hu⟩ := h.exists_parsed hpast
      rw [unit, hu]
      exact hparse.symm

/-- A question leaves a detector that remembers one file more, if it had that file parsed. -/
theorem Follows.ask (h : d.Follows history e) (files : Files) (q : Question) :
    d.Follows (history ++ [(files, q)]) (q.answer e files).2 := by
  have hsame : (∀ file, d.parsedAt (history ++ [(files, q)]) file = d.parsedAt history file) →
      d.Follows (history ++ [(files, q)]) e := by
    intro hpast
    exact { h with unit? := fun file => by rw [hpast, h.unit?] }
  cases hq : q.file? with
  | none =>
      rw [answer_of_file?_none hq]
      exact hsame fun file => by simp [parsedAt_concat, hq]
  | some file =>
      obtain ⟨judge, hanswer⟩ := exists_answer_eq hq
      rw [hanswer]
      cases hpast : d.parsedAt history file with
      | some past =>
          -- the file is known, and the files are not looked at
          obtain ⟨u, -, hu⟩ := h.exists_parsed hpast
          rw [unit_of_cached hu]
          refine hsame fun other => ?_
          by_cases hother : file = other
          · subst hother
            simp [parsedAt_concat, hpast]
          · simp [parsedAt_concat, hq, hother]
      | none =>
          have hunknown : e.units.lookup file = none := h.unit?_eq_none hpast
          have heparse := h.parse_eq files file
          cases hparse : d.parse files file with
          | error cause =>
              rw [unit_of_failed hunknown (heparse.trans hparse)]
              refine hsame fun other => ?_
              by_cases hother : file = other
              · subst hother
                simp [parsedAt_concat, hparse, Except.isOk, Except.toBool]
              · simp [parsedAt_concat, hq, hother]
          | ok u =>
              rw [unit_of_parsed hunknown (heparse.trans hparse)]
              refine ⟨h.database, h.flags, fun other => ?_, ?_⟩
              · by_cases hother : file = other
                · subst hother
                  simp [parsedAt_concat, hq, hpast, hparse, Except.isOk, Except.toBool,
                    JunkDetector.unit?, Except.toOption]
                · have hne : (other == file) = false := by simpa using Ne.symm hother
                  have hold := h.unit? other
                  simp only [JunkDetector.unit?] at hold
                  simp [parsedAt_concat, hq, hother, JunkDetector.unit?, List.lookup_cons, hne,
                    hold]
              · have hnew : file ∉ e.units.map Prod.fst := by
                  rw [← isSome_unit?_iff, h.unit?_eq_none hpast]
                  exact Bool.false_ne_true
                rw [List.map_cons, List.nodup_cons]
                exact ⟨hnew, h.nodup⟩

/-- Whatever happens, the detector follows from the questions that it has been asked. -/
theorem Follows.happenAll (h : d.Follows history e) (files : Files) (events : List Event) :
    d.Follows (history ++ asked files events) (happenAll events (files, e)).2 := by
  induction events generalizing history e files with
  | nil => simpa [asked, JunkDetector.happenAll] using h
  | cons event rest ih =>
      cases event with
      | change edit => exact ih h (edit files)
      | ask question =>
          have hrest := ih (h.ask files question) files
          rw [List.append_assoc] at hrest
          exact hrest

/-- As many files are remembered as were parsed. -/
theorem Follows.cachedUnits_eq (h : d.Follows history e) :
    e.cachedUnits = (d.parsedFiles history).toFinset.card := by
  have hsame : (e.units.map Prod.fst).toFinset = (d.parsedFiles history).toFinset := by
    ext file
    rw [List.mem_toFinset, List.mem_toFinset, mem_parsedFiles_iff, ← h.isSome_unit?,
      isSome_unit?_iff]
  rw [← hsame, List.toFinset_card_of_nodup h.nodup, List.length_map]
  rfl

end History

/-- **Frozen at the first parse.** Let a detector that has just been made be asked questions while
files change. Whatever has happened so far, a point without a place is junk and a point whose kind
says nothing about the source is not, whatever the files are, and the detector learns nothing from
it. Every other question is answered as a new detector with the same database and flags would answer
it on the files as they were when the file was first parsed, or as they are now if it was not; an
answer that is an error leaves the detector as it is. And as many files are known as were parsed. -/
theorem answers_frozen (database : Option CompilationDatabase) (flags : List String)
    (files : Files) (events : List Event) :
    let fresh : JunkDetector := ⟨database, flags, []⟩
    let history := asked files events
    let now := happenAll events (files, fresh)
    (∀ p : MutationPoint, p.location = none →
        ∀ anyFiles, now.2.isJunk anyFiles p = (.ok true, now.2)) ∧
      (∀ p : MutationPoint, p.location.isSome = true → SyntaxCategory.ofKind p.kind = none →
        ∀ anyFiles, now.2.isJunk anyFiles p = (.ok false, now.2)) ∧
      (∀ (q : Question) (file : String), q.file? = some file →
        (q.answer now.2 now.1).1 =
          (q.answer fresh ((fresh.parsedAt history file).getD now.1)).1 ∧
        ∀ cause, (q.answer now.2 now.1).1 = .error cause → (q.answer now.2 now.1).2 = now.2) ∧
      now.2.cachedUnits = (fresh.parsedFiles history).toFinset.card := by
  intro fresh history now
  have hnow : fresh.Follows history now.2 := (Follows.start rfl).happenAll files events
  refine ⟨?_, ?_, ?_, hnow.cachedUnits_eq⟩
  · intro p hp anyFiles
    simp only [isJunk, hp]
  · intro p hp hkind anyFiles
    obtain ⟨location, hlocation⟩ := Option.isSome_iff_exists.mp hp
    simp only [isJunk, hlocation, hkind]
  · intro q file hq
    obtain ⟨judge, hanswer⟩ := exists_answer_eq hq
    simp only [hanswer]
    refine ⟨by rw [hnow.unit_eq rfl], fun cause hcause => ?_⟩
    cases hunit : (now.2.unit now.1 file).1 with
    | ok u =>
        rw [hunit] at hcause
        cases hcause
    | error cause => exact unit_error hunit

/-- A file without text, in which no comparison stands. -/
def blankFile : Files := Files.empty.place ⟨"a.c"⟩ (.file "".toUTF8)

def comparisonAtStart : Question := .place ⟨"a.c", 1, 1⟩ .relational

/-- Once the file has been parsed the answer outlives it; a new detector would not find it. -/
theorem blankFile_answers_frozen :
    let events : List Event := [.ask comparisonAtStart, .change fun files => files.delete ⟨"a.c"⟩]
    let now := happenAll events (blankFile, ⟨none, [], []⟩)
    (comparisonAtStart.answer now.2 now.1).1 = .ok true ∧
      (comparisonAtStart.answer ⟨none, [], []⟩ now.1).1 =
        .error (.source ⟨"a.c"⟩ (.file .notFound)) ∧
      now.2.cachedUnits = 1 := by
  intro events now
  obtain ⟨-, -, hquestion, hcount⟩ := answers_frozen none [] blankFile events
  have hfirst : (comparisonAtStart.answer ⟨none, [], []⟩ blankFile).1 = .ok true := by cbv
  have hparses : parses ⟨none, [], []⟩ "a.c" (blankFile, comparisonAtStart) = true := by
    cases hparse : (⟨none, [], []⟩ : JunkDetector).parse blankFile "a.c" with
    | ok u => simp [parses, comparisonAtStart, Question.file?, hparse, Except.isOk, Except.toBool]
    | error cause =>
        simp [Question.answer, comparisonAtStart, isJunkAt, unit, unit?, hparse, Except.map]
          at hfirst
  have hpast : (⟨none, [], []⟩ : JunkDetector).parsedAt (asked blankFile events) "a.c" =
      some blankFile := by
    simp [parsedAt, events, asked, hparses]
  have hfiles : (⟨none, [], []⟩ : JunkDetector).parsedFiles (asked blankFile events) = ["a.c"] := by
    have hfile : comparisonAtStart.file? = some "a.c" := rfl
    have hmoments : asked blankFile events = [(blankFile, comparisonAtStart)] := rfl
    rw [hmoments, parsedFiles, List.filterMap_cons, hfile, Option.filter_some, hparses]
    rfl
  refine ⟨?_, by cbv, ?_⟩
  · rw [(hquestion comparisonAtStart "a.c" rfl).1, hpast]
    exact hfirst
  · rw [hcount, hfiles]
    rfl

end JunkDetector

end MutationTesting
