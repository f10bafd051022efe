import MutationTesting.Campaign.Settings
import MutationTesting.Proofs.Json.Omission
import MutationTesting.Proofs.Json.Shape
import MutationTesting.Proofs.Program.Document

/-!
Settings files. Settings are read from what they are written as, in any order of members, at both
depths; and each member that is taken out, at either depth, leaves its own default behind.
-/

namespace MutationTesting

open Json Shape

/-! ### Junk detection -/

namespace JunkSettings

/-- The settings with the defaults of the members of these names. -/
def reset (s : JunkSettings) (removed : List String) : JunkSettings where
  enabled := if "enabled" ∈ removed then defaults.enabled else s.enabled
  databaseDirectory :=
    if "compdb_directory" ∈ removed then defaults.databaseDirectory else s.databaseDirectory
  flags := if "compilation_flags" ∈ removed then defaults.flags else s.flags

theorem json_exact (s : JunkSettings) : Exact s.json := by
  refine .object fun m hm => ?_
  simp only [List.mem_cons, List.not_mem_nil, or_false] at hm
  rcases hm with rfl | rfl | rfl
  · exact .bool s.enabled
  · exact .ofOption (fun p => .string p.text) s.databaseDirectory
  · exact .ofOption Exact.string s.flags

theorem fields_independent : fields.Pairwise RecordField.Independent := by
  simp only [fields, List.pairwise_cons, List.forall_mem_cons, List.not_mem_nil, false_implies,
    implies_true, List.Pairwise.nil, and_true]
  repeat' apply And.intro
  all_goals exact independent_of_set (fun _ _ => rfl) (fun _ _ => rfl) (fun _ _ _ => rfl)

theorem fromMembers_kept {u v w : Option Json} {enabled : Option Bool}
    {directory flags : Option (Option String)} (hu : u.mapM Shape.boolean = .ok enabled)
    (hv : v.mapM (Shape.optional Shape.string) = .ok directory)
    (hw : w.mapM (Shape.optional Shape.string) = .ok flags) :
    fromMembers fields {} (presentMember "enabled" id u ++
      (presentMember "compdb_directory" id v ++ (presentMember "compilation_flags" id w ++ []))) =
        .ok ⟨enabled, directory, flags⟩ := by
  refine fromMembers_of_members ?_ rfl
  calc members fields {} _
      = members fields ⟨enabled, none, none⟩ _ :=
        members_optional rfl rfl hu (by cases enabled <;> rfl) _
    _ = members fields ⟨enabled, directory, none⟩ _ :=
        members_optional rfl rfl hv (by cases directory <;> rfl) _
    _ = members fields ⟨enabled, directory, flags⟩ [] :=
        members_optional rfl rfl hw (by cases flags <;> rfl) _
    _ = .ok ⟨enabled, directory, flags⟩ := rfl

/-- Each member that is taken out has its default. -/
theorem shape_of_without {s : JunkSettings} {removed : List String} {v : Json}
    (h : Without removed s.json v) : shape v = .ok (s.reset removed) := by
  have hdirectory : Json.ofOption (fun p : Path => .string p.text) s.databaseDirectory =
      .ofOption .string (s.databaseDirectory.map Path.text) := by
    cases s.databaseDirectory <;> rfl
  have hpath : (s.databaseDirectory.map Path.text).map Path.mk = s.databaseDirectory := by
    cases s.databaseDirectory <;> rfl
  have hread : record "junk detection settings" fields {} v =
      .ok ⟨kept removed "enabled" s.enabled,
        kept removed "compdb_directory" (s.databaseDirectory.map Path.text),
        kept removed "compilation_flags" s.flags⟩ := by
    rw [json, hdirectory] at h
    refine record_of_without fields_independent (by simp) ?_ h
    rw [filter_members_cons, filter_members_cons, filter_members_cons, List.filter_nil]
    exact fromMembers_kept (mapM_kept removed "enabled" rfl)
      (mapM_kept removed "compdb_directory" (optional_ofOption string_string nofun _))
      (mapM_kept removed "compilation_flags" (optional_ofOption string_string nofun _))
  rw [shape, hread, Except.map, map_kept, getD_kept, getD_kept, getD_kept, hpath]
  rfl

end JunkSettings

/-! ### Frameworks -/

namespace Framework

theorem json_exact (f : Framework) : Exact f.json := by
  cases f with
  | simple => exact .string "simple"
  | pattern text =>
      refine .object fun m hm => ?_
      rw [List.mem_singleton.mp hm]
      exact .string text

theorem shape_json (f : Framework) : shape f.json = .ok f := by
  cases f with
  | simple => rfl
  | pattern text => rfl

end Framework

/-! ### Settings -/

namespace Settings

/-- The settings as JSON, over how those of junk detection are written. -/
def jsonOver (s : Settings) (junk : Json) : Json :=
  .object [("module_paths", .ofList (fun p : Path => .string p.text) s.modulePaths),
    ("junk_detection", junk), ("test_framework", s.framework.json),
    ("mutators", .ofList .string s.mutators), ("timeout_secs", .integer s.timeoutSeconds.toNat),
    ("fuel", .integer s.fuel.toNat), ("max_distance", .integer s.maxDistance.toNat)]

theorem setMember_json (s : Settings) (junk : Json) :
    s.json.setMember "junk_detection" junk = s.jsonOver junk := rfl

theorem jsonOver_exact (s : Settings) {junk : Json} (hjunk : Exact junk) :
    Exact (s.jsonOver junk) := by
  refine .object fun m hm => ?_
  simp only [List.mem_cons, List.not_mem_nil, or_false] at hm
  rcases hm with rfl | rfl | rfl | rfl | rfl | rfl | rfl
  · exact .ofList (fun p => .string p.text) s.modulePaths
  · exact hjunk
  · exact s.framework.json_exact
  · exact .ofList Exact.string s.mutators
  · exact .ofUInt64 s.timeoutSeconds
  · exact .ofUInt64 s.fuel
  · exact .ofUInt64 s.maxDistance

/-- The settings with the defaults of the members of these names, and those of junk detection with
the defaults of theirs. -/
def reset (s : Settings) (removed removedJunk : List String) : Settings where
  modulePaths := if "module_paths" ∈ removed then defaults.modulePaths else s.modulePaths
  junk := if "junk_detection" ∈ removed then defaults.junk else s.junk.reset removedJunk
  framework := if "test_framework" ∈ removed then defaults.framework else s.framework
  mutators := if "mutators" ∈ removed then defaults.mutators else s.mutators
  timeoutSeconds := if "timeout_secs" ∈ removed then defaults.timeoutSeconds else s.timeoutSeconds
  fuel := if "fuel" ∈ removed then defaults.fuel else s.fuel
  maxDistance := if "max_distance" ∈ removed then defaults.maxDistance else s.maxDistance

theorem fields_independent : fields.Pairwise RecordField.Independent := by
  simp only [fields, List.pairwise_cons, List.forall_mem_cons, List.not_mem_nil, false_implies,
    implies_true, List.Pairwise.nil, and_true]
  repeat' apply And.intro
  all_goals exact independent_of_set (fun _ _ => rfl) (fun _ _ => rfl) (fun _ _ _ => rfl)

theorem fromMembers_kept {paths junk framework mutators timeout fuel distance : Option Json}
    {p : Parts} (hpaths : paths.mapM (Shape.list Shape.string) = .ok p.modulePaths)
    (hjunk : junk.mapM JunkSettings.shape = .ok p.junk)
    (hframework : framework.mapM Framework.shape = .ok p.framework)
    (hmutators : mutators.mapM (Shape.list Shape.string) = .ok p.mutators)
    (htimeout : timeout.mapM (uint64 "u64") = .ok p.timeoutSeconds)
    (hfuel : fuel.mapM (uint64 "u64") = .ok p.fuel)
    (hdistance : distance.mapM (uint64 "usize") = .ok p.maxDistance) :
    fromMembers fields {} (presentMember "module_paths" id paths ++
      (presentMember "junk_detection" id junk ++ (presentMember "test_framework" id framework ++
      (presentMember "mutators" id mutators ++ (presentMember "timeout_secs" id timeout ++
      (presentMember "fuel" id fuel ++ (presentMember "max_distance" id distance ++ []))))))) =
        .ok p := by
  obtain ⟨modulePaths, junk', framework', mutators', timeoutSeconds, fuel', maxDistance⟩ := p
  refine fromMembers_of_members ?_ rfl
  calc members fields {} _
      = members fields ⟨modulePaths, none, none, none, none, none, none⟩ _ :=
        members_optional rfl rfl hpaths (by cases modulePaths <;> rfl) _
    _ = members fields ⟨modulePaths, junk', none, none, none, none, none⟩ _ :=
        members_optional rfl rfl hjunk (by cases junk' <;> rfl) _
    _ = members fields ⟨modulePaths, junk', framework', none, none, none, none⟩ _ :=
        members_optional rfl rfl hframework (by cases framework' <;> rfl) _
    _ = members fields ⟨modulePaths, junk', framework', mutators', none, none, none⟩ _ :=
        members_optional rfl rfl hmutators (by cases mutators' <;> rfl) _
    _ = members fields
          ⟨modulePaths, junk', framework', mutators', timeoutSeconds, none, none⟩ _ :=
        members_optional rfl rfl htimeout (by cases timeoutSeconds <;> rfl) _
    _ = members fields
          ⟨modulePaths, junk', framework', mutators', timeoutSeconds, fuel', none⟩ _ :=
        members_optional rfl rfl hfuel (by cases fuel' <;> rfl) _
    _ = members fields
          ⟨modulePaths, junk', framework', mutators', timeoutSeconds, fuel', maxDistance⟩ [] :=
        members_optional rfl rfl hdistance (by cases maxDistance <;> rfl) _
    _ = .ok ⟨modulePaths, junk', framework', mutators', timeoutSeconds, fuel', maxDistance⟩ := rfl

/-- Each member that is taken out has its default, at both depths. -/
theorem shape_of_without {s : Settings} {removed removedJunk : List String} {junk v : Json}
    (hjunk : Without removedJunk s.junk.json junk) (h : Without removed (s.jsonOver junk) v) :
    shape v = .ok (s.reset removed removedJunk) := by
  have hwritten : Json.ofList (fun p : Path => .string p.text) s.modulePaths =
      .ofList .string (s.modulePaths.map Path.text) := by
    rw [Json.ofList, Json.ofList, List.map_map]
    rfl
  have hpaths : (s.modulePaths.map Path.text).map Path.mk = s.modulePaths := by
    rw [List.map_map]
    exact List.map_id _
  have hread : record "settings" fields {} v =
      .ok ⟨kept removed "module_paths" (s.modulePaths.map Path.text),
        kept removed "junk_detection" (s.junk.reset removedJunk),
        kept removed "test_framework" s.framework, kept removed "mutators" s.mutators,
        kept removed "timeout_secs" s.timeoutSeconds, kept removed "fuel" s.fuel,
        kept removed "max_distance" s.maxDistance⟩ := by
    rw [jsonOver, hwritten] at h
    refine record_of_without fields_independent (by simp) ?_ h
    rw [filter_members_cons, filter_members_cons, filter_members_cons, filter_members_cons,
      filter_members_cons, filter_members_cons, filter_members_cons, List.filter_nil]
    exact fromMembers_kept
      (mapM_kept removed "module_paths" (list_ofList string_string _))
      (mapM_kept removed "junk_detection" (JunkSettings.shape_of_without hjunk))
      (mapM_kept removed "test_framework" s.framework.shape_json)
      (mapM_kept removed "mutators" (list_ofList string_string _))
      (mapM_kept removed "timeout_secs" (uint64_integer "u64" _))
      (mapM_kept removed "fuel" (uint64_integer "u64" _))
      (mapM_kept removed "max_distance" (uint64_integer "usize" _))
  rw [shape, hread, Except.map, map_kept]
  simp only [getD_kept, hpaths, reset]

/-- **A settings file may leave any member out.** Take members out of written settings, of those of
junk detection and of the whole, and let the rest stand in any order. The compact text of what
results denotes it, and settings are loaded from a file with any text that does: they are the ones
that were written, with the defaults of exactly the members that are not there. -/
theorem load_of_without (s : Settings) (removed removedJunk : List String) (junk document : Json)
    (hjunk : Without removedJunk s.junk.json junk)
    (h : Without removed (s.json.setMember "junk_detection" junk) document) :
    Json.read document.compact = ⟨document, false⟩ ∧
      ∀ (files : Files) (path : Path) (text : String), Json.read text = ⟨document, false⟩ →
        files.readText path = .ok text →
          load files path = .ok (s.reset removed removedJunk) := by
  rw [setMember_json] at h
  have hexact : Exact document := h.exact (s.jsonOver_exact (hjunk.exact s.junk.json_exact))
  refine ⟨hexact.read_compact, fun files path text hread htext => ?_⟩
  have htext' : ofText text = .ok (s.reset removed removedJunk) := by
    rw [ofText, hread]
    exact document_eq (shape_of_without hjunk h)
  simp only [load, htext, htext']

/-- Settings of which no member is as by default. -/
def particular : Settings :=
  ⟨[⟨"foo.ir.json"⟩, ⟨"bar.ir.json"⟩], ⟨false, some ⟨"build"⟩, some "-I include"⟩,
    .pattern "^check_", ["math_add"], 3, 500, 2⟩

def particularJunk : Json := .object [("compilation_flags", .string "-I include")]

/-- Without the operators and the limits, and with the rest in reverse. -/
def particularDocument : Json :=
  .object [("test_framework", .object [("pattern", .string "^check_")]),
    ("junk_detection", particularJunk),
    ("module_paths", .array [.string "foo.ir.json", .string "bar.ir.json"])]

/-- What the file leaves out is as by default, although it was written otherwise. -/
theorem particular_load :
    Without ["enabled", "compdb_directory"] particular.junk.json particularJunk ∧
      Without ["mutators", "timeout_secs", "fuel", "max_distance"]
        (particular.json.setMember "junk_detection" particularJunk) particularDocument ∧
      load (Module.oneFile particularDocument.compact) ⟨"m"⟩ =
        .ok ⟨[⟨"foo.ir.json"⟩, ⟨"bar.ir.json"⟩], ⟨true, none, some "-I include"⟩,
          .pattern "^check_", [], 10, 10000000, 1⟩ := by
  have hjunk : Without ["enabled", "compdb_directory"] particular.junk.json particularJunk :=
    .object (.refl _)
  have h : Without ["mutators", "timeout_secs", "fuel", "max_distance"]
      (particular.json.setMember "junk_detection" particularJunk) particularDocument :=
    .object (List.reverse_perm _).symm
  obtain ⟨hread, hload⟩ := load_of_without particular _ _ _ _ hjunk h
  exact ⟨hjunk, h, hload _ _ _ hread (Module.readText_oneFile _)⟩

end Settings

end MutationTesting
