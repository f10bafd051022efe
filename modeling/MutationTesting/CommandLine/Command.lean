import MutationTesting.Campaign.Run
import MutationTesting.CommandLine.Options
import MutationTesting.Ledger.Store

/-!
The commands of the tool. `run` makes settings from a file and the options, which go before it, and
carries out a campaign with everything it prints and keeps; `list-mutators` prints the names of all
operators.
-/

namespace MutationTesting

namespace CommandLine

structure RunOptions where
  modules : List Path
  settingsFile : Option Path
  databaseDirectory : Option Path
  flags : Option String
  withoutJunkDetection : Bool
  mutators : Option (List String)
  testPattern : Option String
  timeout : Option UInt64
  maxDistance : Option UInt64
  report : Option Path
  ledger : Option Path
  deriving DecidableEq

inductive Command where
  | run (options : RunOptions)
  | listMutators
  deriving DecidableEq

namespace RunOptions

def forms : List OptionForm :=
  [.valued "config" (some 'c'), .valued "compdb-dir" none,
   ⟨"compilation-flags", none, .one, true, false⟩, .flag "disable-junk-detection" none,
   ⟨"mutators", some 'm', .one, false, true⟩, .valued "test-pattern" none,
   .valued "timeout" (some 't'), .valued "max-distance" none, .valued "report" (some 'r'),
   ⟨"sqlite", none, .atMostOne, false, false⟩, .flag "verbose" (some 'v')]

/-- A path is not empty. -/
def path? (text : String) : Option Path := if text = "" then none else some ⟨text⟩

/-- A whole number below 2^64, perhaps after a plus sign. -/
def number? (text : String) : Option UInt64 :=
  let digits := match text.toList with
    | '+' :: rest => rest
    | all => all
  if digits.isEmpty || !digits.all Char.isDigit then none
  else
    let n : Nat := digits.foldl (fun n c => n * 10 + (c.toNat - '0'.toNat)) 0
    if n < UInt64.size then some n.toUInt64 else none

/-- Reads the value of an option, if there is one. -/
def read {α : Type} (p : Parsed) (name : String) (reader : String → Option α) :
    Option (Option α) :=
  match p.value? name with
  | none => some none
  | some text => (reader text).map some

def ofParsed (p : Parsed) : Option RunOptions := do
  let ledger ← read p "sqlite" path?
  return {
    modules := ← p.words.mapM path?
    settingsFile := ← read p "config" path?
    databaseDirectory := ← read p "compdb-dir" path?
    flags := p.value? "compilation-flags"
    withoutJunkDetection := p.has "disable-junk-detection"
    mutators := (p.values? "mutators").map fun values => values.flatMap fun v => v.splitOn ","
    testPattern := p.value? "test-pattern"
    timeout := ← read p "timeout" number?
    maxDistance := ← read p "max-distance" number?
    report := ← read p "report" path?
    ledger := if p.has "sqlite" then some (ledger.getD Ledger.defaultPath) else none }

/-- Settings with what the options say in place of what they said. -/
def apply (o : RunOptions) (s : Settings) : Settings where
  modulePaths := if o.modules.isEmpty then s.modulePaths else o.modules
  junk := {
    enabled := s.junk.enabled && !o.withoutJunkDetection
    databaseDirectory := o.databaseDirectory.or s.junk.databaseDirectory
    flags := o.flags.or s.junk.flags }
  framework := (o.testPattern.map Framework.pattern).getD s.framework
  mutators := o.mutators.getD s.mutators
  timeoutSeconds := o.timeout.getD s.timeoutSeconds
  fuel := s.fuel
  maxDistance := o.maxDistance.getD s.maxDistance

/-- The settings of a run. -/
def settings (o : RunOptions) (files : Files) : Except Failure Settings := do
  let base ← match o.settingsFile with
    | some path => Settings.load files path
    | none => .ok .defaults
  let s := o.apply base
  s.validate
  return s

/-- Does something with a path if there is one. -/
def forPath (path : Option Path) (action : Path → Action Unit) : Action Unit :=
  match path with
  | some path => action path
  | none => return

/-- Carries out a campaign: its ledger is made ready first, and its results are printed, reported
and added to the ledger, in this order. -/
def perform (o : RunOptions) (date : String) : Action Unit := do
  let settings ← ExceptT.mk (pure (o.settings (← get).files))
  forPath o.ledger Ledger.check
  let results ← ExceptT.mk (pure (Campaign.run settings .standard () (← get).files))
  Action.sayAll (resultLines results)
  forPath o.report fun path => (Report.ofResults date results).save path
  forPath o.ledger fun path => do
    let _ ← Ledger.store path results

end RunOptions

namespace Command

/-- The command that the words make up, if they do. -/
def ofWords : List String → Option Command
  | "run" :: rest => do
    let p ← parse RunOptions.forms rest
    return .run (← RunOptions.ofParsed p)
  | "list-mutators" :: rest => do
    let p ← parse [] rest
    if p.words.isEmpty then some .listMutators else none
  | _ => none

def perform (date : String) : Command → Action Unit
  | .run options => options.perform date
  | .listMutators => Action.sayAll (MutationOperator.all.map (·.kind.name))

end Command

/-- What remains of a run of the tool: its exit code, why it failed if it did, the files and what it
has printed. -/
structure Outcome where
  exitCode : Nat
  failure : Option Failure
  console : Console
  deriving Inhabited

/-- Runs the tool. Words that make up no command are refused with exit code 2, and a command that
fails ends with exit code 1. -/
def invoke (words : List String) (date : String) (files : Files) : Outcome :=
  match Command.ofWords words with
  | none => ⟨2, none, ⟨files, ""⟩⟩
  | some command =>
    match (command.perform date).perform files with
    | (.error cause, console) => ⟨1, some cause, console⟩
    | (.ok (), console) => ⟨0, none, console⟩

end CommandLine

end MutationTesting
