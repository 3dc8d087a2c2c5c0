import GherkinLint.Proofs.Acceptance.Project

namespace GherkinLint

def CommandLine.IsQuiet (platform : Platform) (given : List String) : Prop :=
  ∀ options, platform.options given = .call options → options.verbose = false

def Event.IsLog (event : Event) : Prop := ∃ logger message, event = .logged logger message

theorem CommandLine.not_isLog_of_isQuiet {platform : Platform} {fs : FileSystem}
    {given : List String} {event : Event} (h : IsQuiet platform given)
    (hevent : event ∈ (run platform fs given).events) : ¬event.IsLog := by
  rintro ⟨logger, message, rfl⟩
  unfold run at hevent
  split at hevent
  next options hoptions => simp [Run.main, shown, h options hoptions] at hevent
  next => simp [Run.print] at hevent
  next => simp at hevent

namespace Environment

inductive Action where
  | setFile (path text : String)
  | run (arguments : List String)
  deriving DecidableEq, Repr

def act (platform : Platform) (e : Environment) : Action → Environment
  | .setFile path text => e.setFile path text
  | .run arguments => (e.run platform arguments).2

def after (platform : Platform) (e : Environment) (actions : List Action) : Environment :=
  actions.foldl (act platform) e

variable {platform : Platform}

theorem after_append (e : Environment) (first second : List Action) :
    e.after platform (first ++ second) = (e.after platform first).after platform second :=
  List.foldl_append

theorem after_concat (e : Environment) (actions : List Action) (action : Action) :
    e.after platform (actions ++ [action]) = (e.after platform actions).act platform action :=
  after_append e actions [action]

def ready (e : Environment) : FileSystem := if e.isWritten then e.disk else e.written

theorem workingDirectory_ready (e : Environment) :
    e.ready.workingDirectory = e.disk.workingDirectory := by
  unfold ready
  split <;> rfl

theorem run_snd (e : Environment) (arguments : List String) :
    (e.run platform arguments).2 = { e with disk := e.ready } := by
  rfl

theorem run_fst {e : Environment} (h : e.verbose = false) (arguments : List String) :
    (e.run platform arguments).1 =
      CommandLine.run platform { e.ready with workingDirectory := e.projectDirectory }
        arguments := by
  simp only [run, h, Bool.false_eq_true, if_false]
  rfl

/-- What no single action changes stays as it is. -/
theorem after_eq_of_act {α : Type} (f : Environment → α) {e : Environment} {actions : List Action}
    (h : ∀ other, ∀ action ∈ actions, f (act platform other action) = f other) :
    f (e.after platform actions) = f e := by
  induction actions generalizing e with
  | nil => rfl
  | cons action actions ih =>
    have hfirst : f (e.act platform action) = f e := h e action List.mem_cons_self
    exact (ih fun other next hnext ↦ h other next (List.mem_cons_of_mem action hnext)).trans hfirst

theorem home_after (e : Environment) (actions : List Action) :
    (e.after platform actions).home = e.home :=
  after_eq_of_act home fun _ action _ ↦ by cases action <;> rfl

theorem verbose_after (e : Environment) (actions : List Action) :
    (e.after platform actions).verbose = e.verbose :=
  after_eq_of_act verbose fun _ action _ ↦ by cases action <;> rfl

theorem projectDirectory_after (e : Environment) (actions : List Action) :
    (e.after platform actions).projectDirectory = e.projectDirectory := by
  rw [projectDirectory, home_after, projectDirectory]

theorem disk_after_of_not_run {e : Environment} {actions : List Action}
    (h : ∀ arguments, .run arguments ∉ actions) : (e.after platform actions).disk = e.disk := by
  refine after_eq_of_act disk fun other action haction ↦ ?_
  cases action with
  | setFile path text => rfl
  | run arguments => exact absurd haction (h arguments)

/-- A project that has been written is not written again. -/
theorem disk_after_of_isWritten {e : Environment} (h : e.isWritten = true)
    (actions : List Action) : (e.after platform actions).disk = e.disk := by
  induction actions generalizing e with
  | nil => rfl
  | cons action actions ih =>
    rw [after, List.foldl_cons]
    cases action with
    | setFile path text => exact ih h
    | run arguments =>
      have hdisk : (e.act platform (.run arguments)).disk = e.disk := by
        rw [act, run_snd, ready, if_pos h]
      refine (ih ?_).trans hdisk
      rwa [isWritten, hdisk]

/-- Nothing lies where the project is to be made, and there are no files in the way. -/
def IsVacant (e : Environment) : Prop :=
  ".." ∉ e.home ∧ e.disk.find (.ofAbsolute e.projectDirectory) = .error .notFound

def placed (e : Environment) (project : Entry) : FileSystem :=
  { e.disk with root := Entry.alter (fun _ ↦ project) e.projectDirectory (some e.disk.root) }

theorem at?_placed (e : Environment) (project : Entry) :
    (e.placed project).root.at? e.projectDirectory = some project :=
  Entry.at?_alter _ e.projectDirectory (some e.disk.root)

section Place

variable {e : Environment} (hhome : ".." ∉ e.home)
include hhome

theorem isWritten_iff : e.isWritten = true ↔
    ∃ entry, e.disk.root.at? e.projectDirectory = some entry := by
  have hway : ".." ∉ e.projectDirectory := by
    rw [projectDirectory, List.mem_append, not_or]
    exact ⟨hhome, by decide⟩
  have hfind (entry : Entry) : e.disk.find (.ofAbsolute e.projectDirectory) = .ok entry ↔
      e.disk.root.at? e.projectDirectory = some entry :=
    FileSystem.follow_eq_ok_iff hway
  simp only [← hfind, isWritten]
  cases e.disk.find (.ofAbsolute e.projectDirectory) <;> simp [Except.isOk, Except.toBool]

theorem isWritten_placed (project : Entry) {other : Environment} (hother : other.home = e.home)
    (hdisk : other.disk = e.placed project) : other.isWritten = true := by
  rw [isWritten_iff (hother ▸ hhome), hdisk, projectDirectory, hother]
  exact ⟨project, at?_placed e project⟩

end Place

theorem IsVacant.isWritten_eq_false {e : Environment} (h : e.IsVacant) : e.isWritten = false := by
  rw [isWritten, h.2]
  rfl

theorem IsVacant.written_eq {e : Environment} (h : e.IsVacant)
    (hfiles : ∀ file ∈ e.files, Project.Inward file.1) :
    e.written = e.placed (Project.treeFrom (.directory []) e.files) := by
  have hnone : e.disk.root.at? e.projectDirectory = none := by
    have hno : ¬∃ entry, e.disk.root.at? e.projectDirectory = some entry := by
      rw [← isWritten_iff h.1, h.isWritten_eq_false]
      exact Bool.false_ne_true
    exact Option.eq_none_iff_forall_ne_some.2 (not_exists.1 hno)
  have hroot : e.written.root = (e.placed (Project.treeFrom (.directory []) e.files)).root := by
    refine (written_root hfiles).trans (Entry.alter_eq_of_at? _ ?_)
    rw [Option.bind_some, hnone]
    rfl
  exact congrArg (fun root ↦ { e.disk with root }) hroot

structure IsQuiet (platform : Platform) (e : Environment) (actions : List Action) : Prop where
  verbose : e.verbose = false
  arguments : ∀ arguments, .run arguments ∈ actions → CommandLine.IsQuiet platform arguments

section History

variable {e : Environment} {actions scene before : List Action} {arguments : List String}

/-- Actions with a run among them begin with the first run. -/
theorem prefix_of_run_mem (hfirst : scene ++ [.run arguments] <+: actions)
    (hscene : ∀ arguments, .run arguments ∉ scene) (hbefore : before <+: actions)
    {given : List String} (hrun : .run given ∈ before) : scene ++ [.run arguments] <+: before := by
  rcases List.prefix_or_prefix_of_prefix hfirst hbefore with h | h
  · exact h
  · rcases List.prefix_concat_iff.1 h with rfl | h
    · exact List.prefix_rfl
    · exact absurd (h.mem hrun) (hscene given)

/-- A first run has nothing but the scene before it. -/
theorem eq_of_run_not_mem (hfirst : scene ++ [.run arguments] <+: actions)
    (hscene : ∀ arguments, .run arguments ∉ scene) {given : List String}
    (hbefore : before ++ [.run given] <+: actions) (hno : ∀ arguments, .run arguments ∉ before) :
    before = scene := by
  have hmem : Action.run given ∈ before ++ [.run given] :=
    List.mem_append_right before (List.mem_singleton_self _)
  have hle := prefix_of_run_mem hfirst hscene hbefore hmem
  rcases List.prefix_concat_iff.1 hle with h | h
  · exact ((List.append_inj' h rfl).1).symm
  · exact absurd (h.mem (List.mem_append_right scene (List.mem_singleton_self _))) (hno arguments)

variable (hvacant : e.IsVacant) (hfirst : scene ++ [.run arguments] <+: actions)
  (hscene : ∀ arguments, .run arguments ∉ scene)
  (hfiles : ∀ file ∈ (e.after platform scene).files, Project.Inward file.1)
include hvacant hscene hfiles

theorem ready_after_scene : (e.after platform scene).ready =
    e.placed (Project.treeFrom (.directory []) (e.after platform scene).files) := by
  have hdisk : (e.after platform scene).disk = e.disk := disk_after_of_not_run hscene
  have hplace : (e.after platform scene).IsVacant := by
    rw [IsVacant, home_after, projectDirectory_after, hdisk]
    exact hvacant
  rw [ready, if_neg (by simp [hplace.isWritten_eq_false]), hplace.written_eq hfiles, placed, hdisk,
    projectDirectory_after]
  rfl

include hfirst

theorem disk_after_of_run (hbefore : before <+: actions) {given : List String}
    (hrun : .run given ∈ before) : (e.after platform before).disk =
      e.placed (Project.treeFrom (.directory []) (e.after platform scene).files) := by
  obtain ⟨more, rfl⟩ := prefix_of_run_mem hfirst hscene hbefore hrun
  have hdisk : (e.after platform (scene ++ [.run arguments])).disk =
      e.placed (Project.treeFrom (.directory []) (e.after platform scene).files) := by
    rw [after_concat, act, run_snd, ready_after_scene hvacant hscene hfiles]
  have hwritten : (e.after platform (scene ++ [.run arguments])).isWritten = true :=
    isWritten_placed hvacant.1 _ (home_after e _) hdisk
  rw [after_append, disk_after_of_isWritten hwritten, hdisk]

theorem ready_after {given : List String} (hbefore : before ++ [.run given] <+: actions) :
    (e.after platform before).ready =
      e.placed (Project.treeFrom (.directory []) (e.after platform scene).files) := by
  by_cases hno : ∀ arguments, .run arguments ∉ before
  · obtain rfl := eq_of_run_not_mem hfirst hscene hbefore hno
    exact ready_after_scene hvacant hscene hfiles
  · obtain ⟨other, hrun⟩ := not_forall_not.1 hno
    have hdisk := disk_after_of_run hvacant hfirst hscene hfiles
      ((List.prefix_append before _).trans hbefore) hrun
    rw [ready, if_pos (isWritten_placed hvacant.1 _ (home_after e before) hdisk), hdisk]

end History

/-- What becomes of an environment in the course of the actions, of which those in `scene` come
before the first run. -/
structure Kept (platform : Platform) (e : Environment) (actions scene : List Action) : Prop where
  /-- The project is made at the first run, of the files of that moment, and the disk stays as it is
  from then on. -/
  project : ∃ project, Project.Holds project (e.after platform scene).files ∧
    (e.placed project).root.at? e.projectDirectory = some project ∧
    ∀ before, before <+: actions →
      ((∀ arguments, .run arguments ∉ before) → (e.after platform before).disk = e.disk) ∧
      ((∃ arguments, .run arguments ∈ before) → (e.after platform before).disk = e.placed project)
  workingDirectory : ∀ before arguments, before ++ [.run arguments] <+: actions →
    ((e.after platform before).run platform arguments).2.disk.workingDirectory =
      (e.after platform before).disk.workingDirectory
  quiet : ∀ before arguments, before ++ [.run arguments] <+: actions →
    ∀ event ∈ ((e.after platform before).run platform arguments).1.events, ¬event.IsLog
  repeats : ∀ before other arguments, before ++ [.run arguments] <+: actions →
    other ++ [.run arguments] <+: actions →
    ((e.after platform before).run platform arguments).1 =
      ((e.after platform other).run platform arguments).1

theorem kept {e : Environment} {actions scene : List Action} {arguments : List String}
    (hvacant : e.IsVacant) (hquiet : e.IsQuiet platform actions)
    (hfirst : scene ++ [.run arguments] <+: actions) (hscene : ∀ arguments, .run arguments ∉ scene)
    (hfiles : Project.Creatable (e.after platform scene).files) :
    e.Kept platform actions scene := by
  have hready {before : List Action} {given : List String}
      (hbefore : before ++ [.run given] <+: actions) :=
    ready_after hvacant hfirst hscene hfiles.inward hbefore
  have hverbose (before : List Action) : (e.after platform before).verbose = false := by
    rw [verbose_after, hquiet.verbose]
  constructor
  · refine ⟨_, Project.holds_treeFrom hfiles, at?_placed e _, fun before hbefore ↦ ⟨?_, ?_⟩⟩
    · exact disk_after_of_not_run
    · rintro ⟨given, hrun⟩
      exact disk_after_of_run hvacant hfirst hscene hfiles.inward hbefore hrun
  · intro before given hbefore
    rw [run_snd]
    exact workingDirectory_ready (e.after platform before)
  · intro before given hbefore event hevent
    have hgiven : Action.run given ∈ actions :=
      hbefore.mem (List.mem_append_right before (List.mem_singleton_self _))
    rw [run_fst (hverbose before)] at hevent
    exact CommandLine.not_isLog_of_isQuiet (hquiet.arguments given hgiven) hevent
  · intro before other given hbefore hother
    rw [run_fst (hverbose before), run_fst (hverbose other), hready hbefore, hready hother,
      projectDirectory_after, projectDirectory_after]

end Environment

end GherkinLint
