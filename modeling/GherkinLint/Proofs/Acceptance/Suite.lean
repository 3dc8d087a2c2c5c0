import GherkinLint.Acceptance.Scenario
import GherkinLint.Proofs.Acceptance.History
import GherkinLint.Proofs.LintRun.Completion

namespace GherkinLint.Acceptance

def inhabited (disk : FileSystem) (home : List String) (entry : Entry) : FileSystem :=
  { disk with root := Entry.alter (fun _ ↦ entry) home (some disk.root) }

structure State.KeepsTo (disk : FileSystem) (home : List String) (state : State) : Prop where
  place : state.environment.home = home
  around : ∃ entry, state.environment.disk = inhabited disk home entry
  inward : ∀ file ∈ state.environment.files, Project.Inward file.1

section Steps

variable {platform : Platform} {disk : FileSystem} {home : List String} {state : State}

theorem State.keepsTo_enter : (State.enter disk home).KeepsTo disk home where
  place := rfl
  around := by
    have hroot : disk.root.makeDirectory home = Entry.alter
        (fun _ ↦ (disk.root.at? home).getD (.directory [])) home (some disk.root) :=
      Entry.alter_eq_of_at? _ rfl
    exact ⟨_, congrArg (fun root ↦ { disk with root }) hroot⟩
  inward file hfile := by cases hfile

theorem State.KeepsTo.setFile (h : state.KeepsTo disk home) {path text : String}
    (hpath : Project.Inward path) : (state.setFile path text).KeepsTo disk home where
  place := h.place
  around := h.around
  inward file hfile := by
    rcases Members.mem_put hfile with rfl | hfile
    · exact hpath
    · exact h.inward file hfile

/-- What is written, is written in the home. -/
theorem State.KeepsTo.written (h : state.KeepsTo disk home) :
    ∃ entry, state.environment.written = inhabited disk home entry := by
  obtain ⟨entry, hentry⟩ := h.around
  have hroot := Environment.written_root h.inward
  rw [Environment.projectDirectory, h.place, hentry, inhabited, Entry.alter_append,
    Entry.alter_alter] at hroot
  have hdisk : state.environment.written =
      { state.environment.disk with root := state.environment.written.root } := rfl
  rw [hdisk, hroot, hentry]
  exact ⟨_, rfl⟩

theorem State.KeepsTo.run (h : state.KeepsTo disk home) (arguments : List String) :
    (state.run platform arguments).KeepsTo disk home where
  place := h.place
  around := by
    have hdisk : (state.run platform arguments).environment.disk = state.environment.ready := rfl
    rw [hdisk, Environment.ready]
    split
    · exact h.around
    · exact h.written
  inward := h.inward

theorem State.eq_of_check {next : State} {holds : Run → Except Failure Bool}
    (h : state.check holds = .ok next) : next = state := by
  unfold check at h
  split at h
  · cases h
  next run =>
    obtain ⟨passes, -, h⟩ := exists_of_bind h
    split at h <;> cases h
    rfl

theorem inward_exampleFeature {name text : String} (h : exampleFeatures.lookup name = some text) :
    Project.Inward ("features/" ++ name ++ ".feature") := by
  have hall : ∀ name ∈ exampleFeatures.names,
      Project.Inward ("features/" ++ name ++ ".feature") := by
    decide +kernel
  obtain ⟨before, after, hlist, -⟩ := List.lookup_eq_some_iff.1 h
  have hmem : (name, text) ∈ exampleFeatures := by
    rw [hlist]
    exact List.mem_append_right before List.mem_cons_self
  exact hall name (List.mem_map_of_mem hmem)

theorem State.KeepsTo.perform (h : state.KeepsTo disk home) {task : Task} {next : State}
    (hnext : state.perform platform task = .ok next) : next.KeepsTo disk home := by
  have hproject : Project.Inward projectFileName := by decide +kernel
  cases task with
  | newProject =>
    cases hnext
    exact h.setFile hproject
  | noProjectFile =>
    cases hnext
    exact h
  | exampleFeature name =>
    unfold State.perform at hnext
    dsimp only at hnext
    split at hnext
    next text htext =>
      cases hnext
      exact h.setFile (inward_exampleFeature htext)
    next => cases hnext
  | ruleSeverity rule severity =>
    unfold State.perform at hnext
    dsimp only at hnext
    split at hnext
    · cases hnext
      exact h.setFile hproject
    · cases hnext
  | run | runPlain =>
    cases hnext
    exact h.run _
  | exitCode | outputHoldsText | outputHolds | outputLacks =>
    obtain rfl := State.eq_of_check hnext
    exact h

theorem State.KeepsTo.call (h : state.KeepsTo disk home) (task : Task) :
    (state.call platform task).state.KeepsTo disk home := by
  unfold State.call
  split
  next next hnext => exact h.perform hnext
  next => exact h

theorem lastState_cons (state : State) (result : Result) (results : List Result) :
    lastState state (result :: results) = lastState result.state results := by
  unfold lastState
  rw [List.getLast?_cons]
  cases results.getLast? <;> rfl

theorem State.KeepsTo.lastState (h : state.KeepsTo disk home) (play : Play) :
    (lastState state (play.results platform state)).KeepsTo disk home := by
  induction play generalizing state with
  | done => exact h
  | call task next ih =>
    rw [Play.results, lastState_cons]
    exact ih _ (h.call task)

end Steps

/-- A directory that is there has nothing yet of the name of the home. -/
def IsFree (disk : FileSystem) (home : List String) : Prop :=
  ∃ above name entries, home = above ++ [name] ∧
    disk.root.at? above = some (.directory entries) ∧ entries.lookup name = none

theorem State.KeepsTo.leave {disk : FileSystem} {home : List String} {state : State}
    (h : state.KeepsTo disk home) (hfree : IsFree disk home) : state.environment.leave = disk := by
  obtain ⟨above, name, entries, rfl, habove, hname⟩ := hfree
  obtain ⟨entry, hentry⟩ := h.around
  rw [Environment.leave, hentry, h.place, inhabited, Entry.remove_alter _ habove hname]

theorem suite_eq_map {platform : Platform} {disk : FileSystem}
    {scenarios : List (List String × Play)}
    (hfree : ∀ scenario ∈ scenarios, IsFree disk scenario.1) :
    suite platform disk scenarios =
      scenarios.map fun scenario ↦ scenario.2.results platform (.enter disk scenario.1) := by
  induction scenarios with
  | nil => rfl
  | cons scenario scenarios ih =>
    obtain ⟨home, play⟩ := scenario
    have hleave : (lastState (.enter disk home)
        (play.results platform (.enter disk home))).environment.leave = disk :=
      (State.keepsTo_enter.lastState play).leave (hfree (home, play) List.mem_cons_self)
    rw [suite, List.map_cons]
    dsimp only
    rw [hleave, ih fun other hother ↦ hfree other (List.mem_cons_of_mem _ hother)]

/-- An environment keeps the project of its first run, so that its runs depend on their arguments
alone, and a scenario has the same results among others as on its own. -/
theorem runs_and_scenarios_kept {platform : Platform} {e : Environment}
    {actions scene : List Environment.Action} {arguments : List String} {disk : FileSystem}
    {scenarios : List (List String × Play)} (hvacant : e.IsVacant)
    (hquiet : e.IsQuiet platform actions) (hfirst : scene ++ [.run arguments] <+: actions)
    (hscene : ∀ arguments, .run arguments ∉ scene)
    (hfiles : Project.Creatable (e.after platform scene).files)
    (hfree : ∀ scenario ∈ scenarios, IsFree disk scenario.1) :
    e.Kept platform actions scene ∧ suite platform disk scenarios =
      scenarios.map fun scenario ↦ scenario.2.results platform (.enter disk scenario.1) :=
  ⟨Environment.kept hvacant hquiet hfirst hscene hfiles, suite_eq_map hfree⟩

def tried : Environment := .fresh ["home"]

def triedPlatform : Platform :=
  .knowing [(Run.plainText, featureMessage "x" [])] [plainProject]

def triedScene : List Environment.Action :=
  [.setFile projectFileName plainProject.1,
    .setFile "steps/../features/a.feature" Run.plainText]

/-- The second run comes after a change that would make it fail. -/
def triedActions : List Environment.Action :=
  triedScene ++ [.run ["features"], .setFile "features/a.feature" "Scenario: x\n",
    .run ["features"]]

def inTurn : List Task → Play
  | [] => .done
  | task :: tasks => .call task fun failure ↦ if failure.isNone then inTurn tasks else .done

def triedScenarios : List (List String × Play) :=
  [(["first"], inTurn [.newProject, .runPlain, .exitCode "0"]),
    (["second"], inTurn [.noProjectFile, .runPlain, .exitCode "0", .runPlain])]

theorem runs_and_scenarios_kept_tried :
    ((tried.after triedPlatform (triedActions.take 4)).run triedPlatform ["features"]).1.exitCode =
        0 ∧
      (suite triedPlatform ⟨.directory [], [], []⟩ triedScenarios).map (·.map Result.failure) =
        [[none, none, none], [none, none, some .assertion]] := by
  have hvacant : tried.IsVacant := ⟨by decide, rfl⟩
  have hquiet : tried.IsQuiet triedPlatform triedActions := by
    refine ⟨rfl, fun arguments h options hoptions ↦ ?_⟩
    obtain rfl : arguments = ["features"] := by simpa [triedActions, triedScene] using h
    cases hoptions
    rfl
  have hfirst : triedScene ++ [.run ["features"]] <+: triedActions := ⟨_, rfl⟩
  have hscene : ∀ arguments, .run arguments ∉ triedScene := by simp [triedScene]
  have hfiles : Project.Creatable (tried.after triedPlatform triedScene).files := by
    constructor <;> decide +kernel
  have hfree : ∀ scenario ∈ triedScenarios, IsFree ⟨.directory [], [], []⟩ scenario.1 := by
    intro scenario hscenario
    simp only [triedScenarios, List.mem_cons, List.not_mem_nil, or_false] at hscenario
    rcases hscenario with rfl | rfl
    · exact ⟨[], "first", [], rfl, rfl, rfl⟩
    · exact ⟨[], "second", [], rfl, rfl, rfl⟩
  obtain ⟨hkept, hsuite⟩ :=
    runs_and_scenarios_kept hvacant hquiet hfirst hscene hfiles hfree
  constructor
  · have hsame := hkept.repeats (triedActions.take 4) triedScene ["features"] ⟨[], rfl⟩ hfirst
    rw [hsame]
    decide +kernel
  · rw [hsuite]
    decide +kernel

end GherkinLint.Acceptance
