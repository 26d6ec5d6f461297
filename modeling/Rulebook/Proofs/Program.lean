import Mathlib
import Rulebook.Program
import Rulebook.Proofs.Files
import Rulebook.Proofs.Path
import Rulebook.Proofs.Running

namespace Rulebook.Program

open Running

/-- Finds the rules that arguments ask for, as it is done for the tasks on rules. -/
def resolving (invocation : Invocation) (settings : Settings) (arguments : Command.Arguments) :
    Step Resolved := do
  let query ← query invocation (← get).state.files arguments
  resolve invocation settings query

/-- The path of the project that the arguments name cannot be made absolute, and the error that
tells so. Of what can go wrong there, links of other kinds and rights to read are left out, as in
`Files`. -/
inductive LosesProject (invocation : Invocation) (files : Files) (arguments : Command.Arguments) :
    Crash → Prop where
  | unknownHome {text : String} (named : arguments.value? "project" = some text)
      (lacks : (Path.parse text).LacksHome invocation.homes) :
      LosesProject invocation files arguments .unknownHome
  | badProject {text : String} {path : Path} {error : Files.ResolveError}
      (named : arguments.value? "project" = some text)
      (expanded : (Path.parse text).expandHome invocation.homes = some path)
      (refused : files.Refuses path error) :
      LosesProject invocation files arguments (.badProject error)

/-- The words call for a task with the arguments, in an environment that tells the settings and
leads to the log. -/
structure Invocation.Calls (invocation : Invocation) (files : Files) (task : Task)
    (settings : Settings) (log : List LogLine) (arguments : Command.Arguments) : Prop where
  words : ∃ name rest, enter command invocation.words = .ok (name, rest) ∧
    ∃ own, enter rulesCommand rest = .ok (task.name, own) ∧
      accept task.command files own = .ok arguments
  screen : invocation.checkScreen = .ok ()
  settings : Settings.fromEnvironment invocation.homes invocation.environment = some (settings, log)

section

variable {invocation : Invocation} {settings : Settings} {arguments : Command.Arguments}
  {task : Task} {disk : Disk} {log : List LogLine} {run after : Run Disk} {stop : Stop} {α : Type}

theorem resolve_on (invocation : Invocation) (settings : Settings) (query : RuleQuery)
    (run : Run Disk) :
    (∃ resolved, (on (resolve invocation settings query) run).1 = .ok resolved) ∨
      ∃ message, (on (resolve invocation settings query) run).1 =
        .error (.failed ("Fatal: " ++ message)) := by
  simp only [resolve, on_bind, on_outcome]
  cases (on (Manager.resolve (loader settings) invocation.around query {}) run).1 with
  | ok found => exact .inl ⟨found.1, rfl⟩
  | error breakdown => exact .inr ⟨breakdown.message, rfl⟩

theorem query_of_losesProject {files : Files} {crash : Crash}
    (loses : LosesProject invocation files arguments crash) :
    query invocation files arguments = .error (.crashed crash) := by
  cases loses with
  | unknownHome named lacks =>
      rw [query, named]
      simp only [Path.expandHome_eq_none_iff.mpr lacks]
      rfl
  | badProject named expanded refused =>
      rw [query, named]
      simp only [expanded, Files.absolute_eq_error_iff.mpr refused]
      rfl

theorem query_of_keepsProject {files : Files}
    (keeps : ∀ crash, ¬ LosesProject invocation files arguments crash) :
    ∃ found, query invocation files arguments = .ok found := by
  cases named : arguments.value? "project" with
  | none =>
      rw [query, named]
      exact ⟨_, rfl⟩
  | some text =>
      cases expanded : (Path.parse text).expandHome invocation.homes with
      | none =>
          exact absurd (.unknownHome named (Path.expandHome_eq_none_iff.mp expanded)) (keeps _)
      | some path =>
          cases resolved : files.absolute path with
          | error error =>
              have refused := Files.absolute_eq_error_iff.mp resolved
              exact absurd (.badProject named expanded refused) (keeps _)
          | ok whole =>
              rw [query, named]
              simp only [expanded, resolved]
              exact ⟨_, rfl⟩

theorem resolving_of_losesProject {crash : Crash}
    (loses : LosesProject invocation run.state.files arguments crash) (settings : Settings) :
    on (resolving invocation settings arguments) run = (.error (.crashed crash), run) := by
  simp only [resolving, on_bind, on_get, on_liftM, query_of_losesProject loses]

theorem resolving_of_keepsProject
    (keeps : ∀ crash, ¬ LosesProject invocation run.state.files arguments crash)
    (settings : Settings) :
    (∃ resolved, (on (resolving invocation settings arguments) run).1 = .ok resolved) ∨
      ∃ message, (on (resolving invocation settings arguments) run).1 =
        .error (.failed ("Fatal: " ++ message)) := by
  obtain ⟨found, asked⟩ := query_of_keepsProject keeps
  simp only [resolving, on_bind, on_get, on_liftM, asked]
  exact resolve_on invocation settings found run

/-- Where no rules are found, a task on rules ends alike. -/
theorem task_of_resolving [Pattern.Edition] (onRules : task ≠ .checkUpdate)
    (failed : on (resolving invocation settings arguments) run = (.error stop, after)) :
    on (task.run invocation settings arguments) run = (.error stop, after) := by
  simp only [resolving, on_bind, on_get, on_liftM] at failed
  cases task with
  | checkUpdate => exact absurd rfl onRules
  | list | classify =>
      simp only [Task.run, listRules, classifyText, on_bind, on_get, on_liftM]
      cases asked : query invocation run.state.files arguments with
      | error problem =>
          rw [asked] at failed
          cases failed
          rfl
      | ok query =>
          rw [asked] at failed
          simp only [failed]

/-- The words, the screen and the settings are read, and the task is run. -/
theorem perform_of_calls [Pattern.Edition]
    (calls : invocation.Calls disk.files task settings log arguments) :
    on (perform invocation) ⟨disk, [], []⟩ =
      on (task.run invocation settings arguments) ⟨disk, log, []⟩ := by
  obtain ⟨⟨name, rest, entered, own, inside, accepted⟩, screen, told⟩ := calls
  have found : Task.all.find? (fun known => known.name == task.name) = some task := by
    cases task <;> rfl
  simp only [perform, on_bind, on_liftM, entered, screen, told, inside, found, on_get, on_modify,
    accepted]
  rfl

theorem run_of_failed [Pattern.Edition] {message : String}
    (ended : on (perform invocation) ⟨disk, [], []⟩ = (.error (.failed message), after)) :
    (Program.run invocation disk).ending = .ok 2 ∧ (Program.run invocation disk).output = "" ∧
      (Program.run invocation disk).complaint = "Error: " ++ message ++ "\n" := by
  have ran : (perform invocation).run.run { state := disk } = (.error (.failed message), after) :=
    ended
  rw [Program.run, ran]
  exact ⟨rfl, rfl, by simp [lines]⟩

theorem run_of_crashed [Pattern.Edition] {crash : Crash}
    (ended : on (perform invocation) ⟨disk, [], []⟩ = (.error (.crashed crash), after)) :
    (Program.run invocation disk).ending = .error crash ∧
      (Program.run invocation disk).output = "" ∧ (Program.run invocation disk).complaint = "" ∧
      (Program.run invocation disk).disk = after.state ∧
      (Program.run invocation disk).requests = after.requests := by
  have ran : (perform invocation).run.run { state := disk } = (.error (.crashed crash), after) :=
    ended
  rw [Program.run, ran]
  exact ⟨rfl, rfl, rfl, rfl, rfl⟩

/-- A task on rules finds them, or ends with a code after a message that tells what went wrong. That
the path of the project cannot be made absolute is no part of that: it breaks the run off, with
nothing told and nothing done. -/
theorem failed_resolution_told [Pattern.Edition] (onRules : task ≠ .checkUpdate)
    (calls : invocation.Calls disk.files task settings log arguments) :
    let resolution := on (resolving invocation settings arguments) ⟨disk, log, []⟩
    let outcome := Program.run invocation disk
    ((∀ crash, ¬ LosesProject invocation disk.files arguments crash) →
      (∃ resolved, resolution.1 = .ok resolved) ∨
      ∃ message, resolution.1 = .error (.failed ("Fatal: " ++ message)) ∧
        outcome.ending = .ok 2 ∧ outcome.output = "" ∧
        outcome.complaint = "Error: Fatal: " ++ message ++ "\n") ∧
    ∀ crash, LosesProject invocation disk.files arguments crash →
      resolution.1 = .error (.crashed crash) ∧
      outcome.ending = .error crash ∧ outcome.output = "" ∧ outcome.complaint = "" ∧
      outcome.disk = disk ∧ outcome.requests = [] := by
  intro resolution outcome
  have performed : ∀ {stop after}, resolution = (.error stop, after) →
      on (perform invocation) ⟨disk, [], []⟩ = (.error stop, after) :=
    fun failed => (perform_of_calls calls).trans (task_of_resolving onRules failed)
  refine ⟨fun keeps => ?_, fun crash loses => ?_⟩
  · have settled : (∃ resolved, resolution.1 = .ok resolved) ∨
        ∃ message, resolution.1 = .error (.failed ("Fatal: " ++ message)) :=
      resolving_of_keepsProject keeps settings
    refine settled.imp_right ?_
    rintro ⟨message, failed⟩
    obtain ⟨ending, output, complaint⟩ := run_of_failed (performed (Prod.ext failed rfl))
    exact ⟨message, failed, ending, output, by rw [complaint, ← String.append_assoc]; rfl⟩
  · have crashed : resolution = (.error (.crashed crash), ⟨disk, log, []⟩) :=
      resolving_of_losesProject loses settings
    exact ⟨congrArg Prod.fst crashed, run_of_crashed (performed crashed)⟩

end

namespace Sample

/-- The rules of a project are asked for that is the home directory of an unknown user. -/
def listing : Invocation where
  words := ["rules", "list", "--project", "~nobody"]
  environment := [("RULEKIT_CACHE_DB", "/cache.sqlite")]
  homes := ⟨"/home/own", []⟩
  around := ⟨fun _ => .failure "OSError" "unreachable", 0⟩

def settings : Settings := { cacheDatabase := ⟨"/", ["cache.sqlite"]⟩ }

def bare : Disk := ⟨⟨[], []⟩, false⟩

def given : Command.Arguments := { given := [(ruleOptions[2], "~nobody")] }

theorem given_accepted :
    accept Task.list.command bare.files ["--project", "~nobody"] = .ok given := by
  have read : readWords Task.list.command ["--project", "~nobody"] = .ok given := by cbv
  have plain : "~nobody".contains '\x00' = false := by simp
  have noFile : bare.files.isFileText "~nobody" = false := by cbv
  have switch : ruleOptions[2].check bare.files.isFileText "~nobody" = .ok () := by
    simp only [Command.Switch.check, ruleOptions, List.getElem_cons_succ, List.getElem_cons_zero,
      plain, noFile]
    rfl
  have value : (given.value? ruleOptions[2].long).getD "~nobody" = "~nobody" := by cbv
  have checked : Task.list.command.check bare.files.isFileText given = .ok () := by
    simp only [Command.check, given, List.forIn_cons, List.forIn_nil] at value ⊢
    simp only [value, switch]
    rfl
  simp only [accept, read, checked, bind, Except.bind]
  rfl

theorem listing_calls : listing.Calls bare.files .list settings [] given where
  words := by
    refine ⟨"rules", ["list", "--project", "~nobody"], ?_, ["--project", "~nobody"], ?_,
      given_accepted⟩ <;> cbv
  screen := by cbv
  settings := by rfl

theorem listing_loses : LosesProject listing bare.files given .unknownHome := by
  have lacks : (Path.parse "~nobody").LacksHome listing.homes := by
    refine ⟨by cbv, "nobody", [], by cbv, ?_⟩
    simp [listing, Path.Homes.of?]
  exact .unknownHome (by cbv) lacks

theorem unknown_user_not_told : Task.list ≠ .checkUpdate ∧
    listing.Calls bare.files .list settings [] given ∧
    LosesProject listing bare.files given .unknownHome ∧
    (Program.run listing bare).ending = .error .unknownHome := by
  have crashed := (failed_resolution_told (by decide) listing_calls).2 .unknownHome listing_loses
  exact ⟨by decide, listing_calls, listing_loses, crashed.2.1⟩

/-- No rules are found for the project, and the run does not end with a code. -/
theorem unknown_user_without_code :
    (on (resolving listing settings given) ⟨bare, [], []⟩).1 = .error (.crashed .unknownHome) ∧
      (Program.run listing bare).ending ≠ .ok 2 := by
  have crashed : on (resolving listing settings given) ⟨bare, [], []⟩ =
      (.error (.crashed .unknownHome), ⟨bare, [], []⟩) :=
    resolving_of_losesProject listing_loses settings
  have ended := run_of_crashed
    ((perform_of_calls listing_calls).trans (task_of_resolving (by decide) crashed))
  exact ⟨congrArg Prod.fst crashed, by simp [ended.1]⟩

end Sample

end Rulebook.Program
