import MutationTesting.Discovery.Framework
import MutationTesting.Program.Notation
import MutationTesting.Relevance.Detector

/-!
What a campaign is told: where its modules are, what a test is, which operators to use, and its
limits. A settings file is a JSON document; a member that it leaves out has its default.
-/

namespace MutationTesting

structure Settings where
  modulePaths : List Path
  junk : JunkSettings
  framework : Framework
  /-- Names of operators; none stand for the usual ones. -/
  mutators : List String
  timeoutSeconds : UInt64
  /-- The number of instructions that one run of a test may execute. -/
  fuel : UInt64
  /-- The number of calls that a mutated function may be away from a test. -/
  maxDistance : UInt64
  deriving DecidableEq

namespace JunkSettings

def defaults : JunkSettings := ⟨true, none, none⟩

def json (s : JunkSettings) : Json :=
  .object [("enabled", .bool s.enabled),
    ("compdb_directory", .ofOption (fun p : Path => .string p.text) s.databaseDirectory),
    ("compilation_flags", .ofOption .string s.flags)]

/-- The members as far as they have been read. -/
structure Parts where
  enabled : Option Bool := none
  databaseDirectory : Option (Option String) := none
  flags : Option (Option String) := none

open Shape in
def fields : List (RecordField Parts) :=
  [optionalField "enabled" Parts.enabled (fun p x => { p with enabled := some x }) boolean,
   optionalField "compdb_directory" Parts.databaseDirectory
     (fun p x => { p with databaseDirectory := some x }) (optional string),
   optionalField "compilation_flags" Parts.flags (fun p x => { p with flags := some x })
     (optional string)]

def shape : Shape JunkSettings := fun v =>
  (Shape.record "junk detection settings" fields {} v).map fun p =>
    ⟨p.enabled.getD defaults.enabled,
     (p.databaseDirectory.map (Option.map Path.mk)).getD defaults.databaseDirectory,
     p.flags.getD defaults.flags⟩

end JunkSettings

namespace Framework

def json : Framework → Json
  | .simple => .string "simple"
  | .pattern text => .object [("pattern", .string text)]

open Shape in
/-- The simple framework is a name alone, a pattern a name with a text. -/
def shape : Shape Framework := fun v => do
  let (name, content) ← tagged ["simple", "pattern"] v
  match name == "simple", content with
  | true, none => .ok .simple
  | true, some content => do
    unit content
    .ok .simple
  | false, none => .error (.invalidType .unitVariant "newtype variant")
  | false, some content => (string content).map .pattern

end Framework

namespace Settings

def defaults : Settings := ⟨[], .defaults, .simple, [], 10, 10000000, 1⟩

def json (s : Settings) : Json :=
  .object [("module_paths", .ofList (fun p : Path => .string p.text) s.modulePaths),
    ("junk_detection", s.junk.json), ("test_framework", s.framework.json),
    ("mutators", .ofList .string s.mutators), ("timeout_secs", .integer s.timeoutSeconds.toNat),
    ("fuel", .integer s.fuel.toNat), ("max_distance", .integer s.maxDistance.toNat)]

/-- The members as far as they have been read. -/
structure Parts where
  modulePaths : Option (List String) := none
  junk : Option JunkSettings := none
  framework : Option Framework := none
  mutators : Option (List String) := none
  timeoutSeconds : Option UInt64 := none
  fuel : Option UInt64 := none
  maxDistance : Option UInt64 := none

open Shape in
def fields : List (RecordField Parts) :=
  [optionalField "module_paths" Parts.modulePaths (fun p x => { p with modulePaths := some x })
     (list string),
   optionalField "junk_detection" Parts.junk (fun p x => { p with junk := some x })
     JunkSettings.shape,
   optionalField "test_framework" Parts.framework (fun p x => { p with framework := some x })
     Framework.shape,
   optionalField "mutators" Parts.mutators (fun p x => { p with mutators := some x }) (list string),
   optionalField "timeout_secs" Parts.timeoutSeconds
     (fun p x => { p with timeoutSeconds := some x }) (uint64 "u64"),
   optionalField "fuel" Parts.fuel (fun p x => { p with fuel := some x }) (uint64 "u64"),
   optionalField "max_distance" Parts.maxDistance (fun p x => { p with maxDistance := some x })
     (uint64 "usize")]

def shape : Shape Settings := fun v =>
  (Shape.record "settings" fields {} v).map fun p =>
    ⟨(p.modulePaths.map (List.map Path.mk)).getD defaults.modulePaths,
     p.junk.getD defaults.junk,
     p.framework.getD defaults.framework,
     p.mutators.getD defaults.mutators,
     p.timeoutSeconds.getD defaults.timeoutSeconds,
     p.fuel.getD defaults.fuel,
     p.maxDistance.getD defaults.maxDistance⟩

def ofText (text : String) : Except ShapeError Settings := Shape.document shape (Json.read text)

/-- The settings in a file. -/
def load (files : Files) (path : Path) : Except Failure Settings :=
  match files.readText path with
  | .error _ => .error (.settings (.reading path))
  | .ok text =>
    match ofText text with
    | .error _ => .error (.settings (.parsing path))
    | .ok s => .ok s

/-- The first reason why a campaign cannot go by these settings. -/
def fault? (s : Settings) : Option InputError :=
  if s.modulePaths.isEmpty then some .noModulePaths
  else if s.maxDistance = 0 then some .zeroDistance
  else if s.timeoutSeconds = 0 ∨ s.fuel = 0 then some .zeroLimit
  else none

def validate (s : Settings) : Except Failure Unit :=
  match s.fault? with
  | some cause => .error (.input cause)
  | none => .ok ()

end Settings

end MutationTesting
