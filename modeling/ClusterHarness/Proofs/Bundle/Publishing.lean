import ClusterHarness.Bundle.Patch
import ClusterHarness.Proofs.Bundle.Edits
import ClusterHarness.Proofs.Host.Deeds
import ClusterHarness.Rehearsal.Host

/-!
# How patched bundles are published

Both objects are pulled and patched before anything is pushed, and the pipeline is pushed after the
task that it refers to.  So whatever fails on the way, no pipeline is published that refers to a
task that is not.  What is pushed is a file that is read as the patched object, given that the
library which writes it is faithful.
-/

namespace ClusterHarness

open Errand

variable {σ : Type}

def Launch.object? (launch : Launch) : Option Yaml := launch.output?.bind Yaml.ofText?

theorem Launch.object?_eq (launch : Launch) :
    launch.object? = launch.output.toOption.bind Yaml.ofText? := by
  rw [object?, launch.toOption_output]

namespace BundlePatch

/-! ## Pulls and pushes -/

def pullCommand (bundle kind name : String) : Command :=
  { Command.ofProgram "tkn" ["bundle", "list", bundle, kind, name, "-o", "yaml"] with
    captured := true }

def pushCommand (bundle file : String) : Command :=
  { Command.ofProgram "tkn" ["bundle", "push", bundle, "-f", file] with captured := true }

/-- An object is pulled by one command, and is what the command printed. -/
def Pulls (bundle kind name : String) (result : Except Failure Yaml) (acts : List Act) : Prop :=
  ∃ launch : Launch, acts = [.launched launch] ∧
    launch.command = pullCommand bundle kind name ∧ launch.object? = result.toOption

theorem comesTo_pull (host : Host σ) (bundle kind name : String) :
    (pull host.journaled bundle kind name).ComesTo (Pulls bundle kind name) := by
  unfold pull
  refine (host.comesTo_outputOf _).bind (fun failure acts ran => ?_) fun text acts ran => ?_
  · obtain ⟨launch, rfl, command, printed⟩ := ran
    refine ⟨launch, rfl, command, ?_⟩
    rw [launch.object?_eq, ← printed]
    rfl
  · obtain ⟨launch, rfl, command, printed⟩ := ran
    have shown : launch.object? = Yaml.ofText? text := by
      rw [launch.object?_eq, ← printed]
      rfl
    cases read : Yaml.ofText? text with
    | none => exact comesTo_ofExcept ⟨launch, rfl, command, shown.trans read⟩
    | some object => exact comesTo_pure ⟨launch, rfl, command, shown.trans read⟩

/-- What it may come to to push an object as a bundle: there is no room for its file or no text of
it, its file cannot be written, or it is written and the push goes one way or the other. -/
inductive Pushing (host : Host σ) (bundle : String) (object : Yaml) :
    Except Failure Unit → List Act → Prop where
  | noRoom {s : σ} {fault : String} (failed : (host.temporaryDirectory s).1 = .error fault) :
      Pushing host bundle object (.error (.ofText fault)) []
  | noText (failed : host.yamlText object = none) :
      Pushing host bundle object (.error (.malformed .yaml)) []
  | unwritten {file text fault : String} (written : host.yamlText object = some text) :
      Pushing host bundle object (.error (.ofText fault))
        [.wrote file (Utf8.encode text) (.error fault)]
  | refused {file text : String} {launch : Launch} (written : host.yamlText object = some text)
      (command : launch.command = pushCommand bundle file) (failed : launch.succeeded = false)
      (failure : Failure) :
      Pushing host bundle object (.error failure)
        [.wrote file (Utf8.encode text) (.ok ()), .launched launch]
  | accepted {file text : String} {launch : Launch} (written : host.yamlText object = some text)
      (command : launch.command = pushCommand bundle file)
      (succeeded : launch.succeeded = true) :
      Pushing host bundle object (.ok ())
        [.wrote file (Utf8.encode text) (.ok ()), .launched launch]

theorem comesTo_push (host : Host σ) (bundle : String) (object : Yaml) :
    (push host.journaled bundle object).ComesTo (Pushing host bundle object) := by
  have same : host.journaled.yamlText = host.yamlText := rfl
  unfold push
  rw [same]
  refine host.comesTo_temporary_bind (fun _ _ failed => .noRoom failed) fun directory => ?_
  dsimp only
  cases written : host.yamlText object with
  | none => exact comesTo_ofExcept (.noText written)
  | some text =>
      refine (host.comesTo_writeFile _ _).bind (fun failure acts wrote => ?_) fun _ acts wrote => ?_
      · obtain ⟨outcome, rfl, same⟩ := wrote
        cases outcome with
        | ok => cases same
        | error fault =>
            cases same
            exact .unwritten written
      · obtain ⟨outcome, rfl, same⟩ := wrote
        cases outcome with
        | error => cases same
        | ok =>
            refine (host.comesTo_await _).mono ?_
            rintro (failure | _) _ ⟨launch, rfl, command, succeeded⟩
            · exact .refused written command succeeded.symm failure
            · exact .accepted written command succeeded.symm

/-! ## Whole runs -/

structure Retargeted (patch : BundlePatch) (selector : String) where
  source : String
  selected : Selector.bundleOf selector selectorName = .ok source
  pull : Launch
  command : pull.command = pullCommand source "pipeline" pipelineName
  pipeline : Yaml
  pulled : pull.object? = some pipeline
  previous : String
  newPipeline : Yaml
  retargeted : Bundle.retargetTask taskName patch.taskBundle pipeline = (.ok previous, newPipeline)

/-- Both objects as they were pulled and as they were patched. -/
structure Prepared (patch : BundlePatch) (selector : String) extends
    Retargeted patch selector where
  taskPull : Launch
  taskCommand : taskPull.command = pullCommand previous "task" taskName
  task : Yaml
  taskPulled : taskPull.object? = some task
  newTask : Yaml
  replaced : Bundle.replaceStepImage stepName patch.image task = (.ok (), newTask)

def Prepared.pulls {patch : BundlePatch} {selector : String} (prepared : Prepared patch selector) :
    List Act :=
  [.launched prepared.pull, .launched prepared.taskPull]

/-- The patched objects are the pulled ones but for the bundles and images that were to change. -/
structure Prepared.Changes {patch : BundlePatch} {selector : String}
    (prepared : Prepared patch selector) : Prop where
  retargeted : Bundle.EntriesChanged "tasks" (Bundle.EntryRetargeted taskName patch.taskBundle)
    prepared.pipeline prepared.newPipeline
  pointsTo : Bundle.PointsTo taskName patch.taskBundle prepared.newPipeline
  mentions : Bundle.Mentions taskName prepared.previous prepared.pipeline
  replaced : Bundle.EntriesChanged "steps" (Bundle.StepReplaced stepName patch.image)
    prepared.task prepared.newTask

variable {patch : BundlePatch} {selector : String}

theorem Prepared.changes (prepared : Prepared patch selector) : prepared.Changes := by
  obtain ⟨retargeted, pointsTo, mentions⟩ := Bundle.retargetTask_eq_ok prepared.retargeted
  exact ⟨retargeted, pointsTo, mentions, (Bundle.replaceStepImage_eq_ok prepared.replaced).1⟩

theorem depth_object? {launch : Launch} {object : Yaml} (pulled : launch.object? = some object) :
    object.depth ≤ Yaml.depthLimit := by
  obtain ⟨_, _, read⟩ := Option.bind_eq_some_iff.mp pulled
  exact Yaml.depth_ofText? read

/-- What was read and then patched could be read again. -/
theorem Prepared.shallow (prepared : Prepared patch selector) :
    prepared.newTask.depth ≤ Yaml.depthLimit ∧ prepared.newPipeline.depth ≤ Yaml.depthLimit := by
  have changes := prepared.changes
  exact ⟨Nat.le_trans (changes.replaced.depth_le fun _ _ replaced => replaced.depth_le)
      (depth_object? prepared.taskPulled),
    Nat.le_trans (changes.retargeted.depth_le fun _ _ retargeted => retargeted.depth_le)
      (depth_object? prepared.pulled)⟩

inductive Unprepared (patch : BundlePatch) (selector : String) : List Launch → Prop where
  | unselected {failure : Failure}
      (failed : Selector.bundleOf selector selectorName = .error failure) :
      Unprepared patch selector []
  | noPipeline {source : String} {pull : Launch}
      (selected : Selector.bundleOf selector selectorName = .ok source)
      (command : pull.command = pullCommand source "pipeline" pipelineName)
      (failed : pull.object? = none) : Unprepared patch selector [pull]
  | notRetargeted {source : String} {pull : Launch} {pipeline : Yaml} {fault : EditError}
      (selected : Selector.bundleOf selector selectorName = .ok source)
      (command : pull.command = pullCommand source "pipeline" pipelineName)
      (pulled : pull.object? = some pipeline)
      (failed : (Bundle.retargetTask taskName patch.taskBundle pipeline).1 = .error fault) :
      Unprepared patch selector [pull]
  | noTask (retargeted : Retargeted patch selector) {pull : Launch}
      (command : pull.command = pullCommand retargeted.previous "task" taskName)
      (failed : pull.object? = none) : Unprepared patch selector [retargeted.pull, pull]
  | notReplaced (retargeted : Retargeted patch selector) {pull : Launch} {task : Yaml}
      {fault : EditError}
      (command : pull.command = pullCommand retargeted.previous "task" taskName)
      (pulled : pull.object? = some task)
      (failed : (Bundle.replaceStepImage stepName patch.image task).1 = .error fault) :
      Unprepared patch selector [retargeted.pull, pull]

inductive Course (host : Host σ) (patch : BundlePatch) (selector : String) :
    Except Failure String → List Act → Prop where
  | unprepared {launches : List Launch} (failed : Unprepared patch selector launches)
      (failure : Failure) : Course host patch selector (.error failure) (launches.map .launched)
  | taskUnpushed (prepared : Prepared patch selector) {acts : List Act} {failure : Failure}
      (task : Pushing host patch.taskBundle prepared.newTask (.error failure) acts) :
      Course host patch selector (.error failure) (prepared.pulls ++ acts)
  | pipelineUnpushed (prepared : Prepared patch selector) {acts more : List Act}
      {failure : Failure} (task : Pushing host patch.taskBundle prepared.newTask (.ok ()) acts)
      (pipeline : Pushing host patch.pipelineBundle prepared.newPipeline (.error failure) more) :
      Course host patch selector (.error failure) (prepared.pulls ++ (acts ++ more))
  | published (prepared : Prepared patch selector) {acts more : List Act}
      (task : Pushing host patch.taskBundle prepared.newTask (.ok ()) acts)
      (pipeline : Pushing host patch.pipelineBundle prepared.newPipeline (.ok ()) more) :
      Course host patch selector (.ok patch.pipelineBundle) (prepared.pulls ++ (acts ++ more))

/-- What is left once both objects are patched. -/
def publish (patch : BundlePatch) (host : Host σ) (task pipeline : Yaml) : Errand σ String := do
  push host patch.taskBundle task
  push host patch.pipelineBundle pipeline
  host.tell (.success ("Pushed " ++ patch.pipelineBundle))
  return patch.pipelineBundle

/-- What is left once the pipeline is retargeted. -/
def patchTask (patch : BundlePatch) (host : Host σ) (previous : String) (pipeline : Yaml) :
    Errand σ String := do
  let (replaced, task) := Bundle.replaceStepImage stepName patch.image
    (← pull host previous "task" taskName)
  ofEdit replaced
  publish patch host task pipeline

/-- An edit that fails ends the run. -/
theorem comesTo_ofEdit_bind {α β : Type} {edited : Except EditError α}
    {next : α → Errand (σ × List Act) β} {Q : Except Failure β → List Act → Prop}
    (fails : ∀ fault, edited = .error fault → Q (.error (.ofText fault.message)) [])
    (tail : ∀ value, edited = .ok value → (next value).ComesTo Q) :
    (ofEdit edited >>= next).ComesTo Q := by
  cases edited with
  | error fault =>
      refine comesTo_ofExcept_bind (fun failure failed => ?_) nofun
      cases failed
      exact fails fault rfl
  | ok value =>
      refine comesTo_ofExcept_bind nofun fun found done => ?_
      cases done
      exact tail value rfl

section Runs

variable (host : Host σ)

theorem Prepared.comesTo_publish (prepared : Prepared patch selector) :
    (publish patch host.journaled prepared.newTask prepared.newPipeline).ComesTo
      fun result acts => Course host patch selector result (prepared.pulls ++ acts) := by
  unfold publish
  refine (comesTo_push host _ _).bind
    (fun _ _ task => .taskUnpushed prepared task) fun _ acts task => ?_
  refine (comesTo_push host _ _).bind
    (fun _ _ pipeline => .pipelineUnpushed prepared task pipeline) fun _ more pipeline => ?_
  refine comesTo_tell_bind host _ (comesTo_pure ?_)
  rw [List.append_nil]
  exact .published prepared task pipeline

theorem Retargeted.comesTo_patchTask (retargeted : Retargeted patch selector) :
    (patchTask patch host.journaled retargeted.previous retargeted.newPipeline).ComesTo
      fun result acts => Course host patch selector result (.launched retargeted.pull :: acts) := by
  unfold patchTask
  refine (comesTo_pull host _ _ _).bind (fun failure acts pulled => ?_) fun task acts pulled => ?_
  · obtain ⟨pull, rfl, command, shown⟩ := pulled
    exact .unprepared (.noTask retargeted command shown) failure
  · obtain ⟨pull, rfl, command, shown⟩ := pulled
    dsimp only
    refine comesTo_ofEdit_bind (fun _ failed =>
      .unprepared (.notReplaced retargeted command shown failed) _) fun _ replaced => ?_
    have whole : Bundle.replaceStepImage stepName patch.image task = (.ok (), _) :=
      Prod.ext replaced rfl
    exact Prepared.comesTo_publish host ⟨retargeted, pull, command, task, shown, _, whole⟩

/-- Every run takes one of the courses. -/
theorem comesTo_run : (patch.run host.journaled selector).ComesTo (Course host patch selector) := by
  unfold run
  refine comesTo_ofExcept_bind
    (fun failure unselected => .unprepared (.unselected unselected) failure) fun source selected => ?_
  refine comesTo_tell_bind host _ ?_
  refine (comesTo_pull host _ _ _).bind (fun failure acts pulled => ?_)
    fun pipeline acts pulled => ?_
  · obtain ⟨pull, rfl, command, shown⟩ := pulled
    exact .unprepared (.noPipeline selected command shown) failure
  · obtain ⟨pull, rfl, command, shown⟩ := pulled
    dsimp only
    refine comesTo_ofEdit_bind (fun _ failed =>
      .unprepared (.notRetargeted selected command shown failed) _) fun previous retargeted => ?_
    have whole : Bundle.retargetTask taskName patch.taskBundle pipeline = (.ok previous, _) :=
      Prod.ext retargeted rfl
    exact Retargeted.comesTo_patchTask host
      ⟨source, selected, pull, command, pipeline, shown, previous, _, whole⟩

end Runs

def result (patch : BundlePatch) (host : Host σ) (selector : String) (s : σ) :
    Except Failure String :=
  ((patch.run host.journaled selector).run (s, [])).1

def acts (patch : BundlePatch) (host : Host σ) (selector : String) (s : σ) : List Act :=
  ((patch.run host.journaled selector).run (s, [])).2.2

theorem course (host : Host σ) (s : σ) :
    Course host patch selector (patch.result host selector s) (patch.acts host selector s) := by
  obtain ⟨ended, t, done, ran, course⟩ := comesTo_run host s []
  unfold result acts
  rwa [ran]

/-! ## What precedes a push -/

def IsPush (launch : Launch) : Prop :=
  ∃ rest, launch.command.arguments = "bundle" :: "push" :: rest

theorem not_isPush_of_pull {launch : Launch} {bundle kind name : String}
    (pull : launch.command = pullCommand bundle kind name) : ¬IsPush launch := by
  rintro ⟨rest, pushes⟩
  rw [pull] at pushes
  simp [pullCommand, Command.ofProgram] at pushes

/-- What has been done when a bundle is pushed: both objects are prepared, and a file has just been
written that is read as the one to push; before the pipeline is, the task has been pushed with
success. -/
inductive Justified (patch : BundlePatch) (selector : String) : List Act → Launch → Prop where
  | task (prepared : Prepared patch selector) {file : String} {content : List UInt8}
      {launch : Launch} (spells : prepared.newTask.Spells content)
      (command : launch.command = pushCommand patch.taskBundle file) :
      Justified patch selector (prepared.pulls ++ [.wrote file content (.ok ())]) launch
  | pipeline (prepared : Prepared patch selector) {taskFile file : String}
      {taskContent content : List UInt8} {taskPush launch : Launch}
      (taskSpells : prepared.newTask.Spells taskContent)
      (taskCommand : taskPush.command = pushCommand patch.taskBundle taskFile)
      (published : taskPush.succeeded = true) (spells : prepared.newPipeline.Spells content)
      (command : launch.command = pushCommand patch.pipelineBundle file) :
      Justified patch selector
        (prepared.pulls ++ [.wrote taskFile taskContent (.ok ()), .launched taskPush,
          .wrote file content (.ok ())]) launch

section Pushing

variable {host : Host σ} {bundle : String} {object : Yaml} {outcome : Except Failure Unit}
  {acts before after : List Act}

/-- The launch of a push comes right after its file. -/
theorem Pushing.split {launch : Launch} (pushing : Pushing host bundle object outcome acts)
    (parts : acts = before ++ .launched launch :: after) :
    ∃ file text, host.yamlText object = some text ∧ launch.command = pushCommand bundle file ∧
      before = [.wrote file (Utf8.encode text) (.ok ())] := by
  have onlyLaunch {file text : String} {other : Launch} (written : host.yamlText object = some text)
      (command : other.command = pushCommand bundle file)
      (same : [.wrote file (Utf8.encode text) (.ok ()), .launched other] =
        before ++ Act.launched launch :: after) :
      ∃ file text, host.yamlText object = some text ∧ launch.command = pushCommand bundle file ∧
        before = [.wrote file (Utf8.encode text) (.ok ())] := by
    obtain _ | ⟨first, _ | ⟨second, rest⟩⟩ := before
    · cases same
    · cases same
      exact ⟨file, text, written, command, rfl⟩
    · simp at same
  cases pushing with
  | noRoom => simp at parts
  | noText => simp at parts
  | unwritten =>
      obtain _ | ⟨first, rest⟩ := before
      · cases parts
      · simp at parts
  | refused written command => exact onlyLaunch written command parts
  | accepted written command => exact onlyLaunch written command parts

/-- A push that succeeded wrote its file and launched its command. -/
theorem Pushing.of_ok (pushing : Pushing host bundle object (.ok ()) acts) :
    ∃ file text launch, host.yamlText object = some text ∧
      launch.command = pushCommand bundle file ∧ launch.succeeded = true ∧
      acts = [.wrote file (Utf8.encode text) (.ok ()), .launched launch] := by
  generalize same : (Except.ok () : Except Failure Unit) = outcome at pushing
  cases pushing with
  | accepted written command succeeded => exact ⟨_, _, _, written, command, succeeded, rfl⟩
  | _ => cases same

end Pushing

theorem Prepared.not_isPush (prepared : Prepared patch selector) {launch : Launch}
    (pulled : .launched launch ∈ prepared.pulls) : ¬IsPush launch := by
  simp only [pulls, List.mem_cons, List.not_mem_nil, or_false, Act.launched.injEq] at pulled
  rcases pulled with rfl | rfl
  · exact not_isPush_of_pull prepared.command
  · exact not_isPush_of_pull prepared.taskCommand

theorem Unprepared.not_isPush {launches : List Launch} (failed : Unprepared patch selector launches)
    {launch : Launch} (listed : launch ∈ launches) : ¬IsPush launch := by
  cases failed with
  | unselected => cases listed
  | noPipeline _ command =>
      rw [List.mem_singleton.mp listed]
      exact not_isPush_of_pull command
  | notRetargeted _ command =>
      rw [List.mem_singleton.mp listed]
      exact not_isPush_of_pull command
  | noTask retargeted command =>
      rcases List.mem_pair.mp listed with rfl | rfl
      · exact not_isPush_of_pull retargeted.command
      · exact not_isPush_of_pull command
  | notReplaced retargeted command =>
      rcases List.mem_pair.mp listed with rfl | rfl
      · exact not_isPush_of_pull retargeted.command
      · exact not_isPush_of_pull command

section Courses

variable {host : Host σ} (faithful : Yaml.Faithful host.yamlText) {acts before after : List Act}
  {launch : Launch}

include faithful

/-- After the pulls the task's push is the only one, unless it is over. -/
theorem Prepared.justified_task (prepared : Prepared patch selector)
    {outcome : Except Failure Unit}
    (task : Pushing host patch.taskBundle prepared.newTask outcome acts)
    (parts : acts = before ++ .launched launch :: after) :
    Justified patch selector (prepared.pulls ++ before) launch := by
  obtain ⟨file, text, written, command, rfl⟩ := task.split parts
  exact .task prepared (faithful.spells prepared.shallow.1 written) command

/-- No bundle is pushed unless what it takes has been done. -/
theorem Course.justified {outcome : Except Failure String}
    (course : Course host patch selector outcome acts)
    (parts : acts = before ++ .launched launch :: after) (push : IsPush launch) :
    Justified patch selector before launch := by
  have inBoth (prepared : Prepared patch selector) {first more : List Act}
      {outcome : Except Failure Unit}
      (task : Pushing host patch.taskBundle prepared.newTask (.ok ()) first)
      (pipeline : Pushing host patch.pipelineBundle prepared.newPipeline outcome more)
      (same : prepared.pulls ++ (first ++ more) = before ++ Act.launched launch :: after) :
      Justified patch selector before launch := by
    rcases append_eq_append_cons same with ⟨rest, pulled⟩ | ⟨rest, rfl, pushed⟩
    · exact absurd push (prepared.not_isPush (pulled ▸ by simp))
    · rcases append_eq_append_cons pushed with ⟨_, inTask⟩ | ⟨rest, rfl, inPipeline⟩
      · exact prepared.justified_task faithful task inTask
      · obtain ⟨_, _, _, taskWritten, taskCommand, published, rfl⟩ := task.of_ok
        obtain ⟨_, _, written, command, rfl⟩ := pipeline.split inPipeline
        exact .pipeline prepared (faithful.spells prepared.shallow.1 taskWritten) taskCommand
          published (faithful.spells prepared.shallow.2 written) command
  cases course with
  | unprepared failed =>
      have listed : Act.launched launch ∈ before ++ Act.launched launch :: after := by simp
      rw [← parts, List.mem_map] at listed
      obtain ⟨other, member, same⟩ := listed
      cases same
      exact absurd push (failed.not_isPush member)
  | taskUnpushed prepared task =>
      rcases append_eq_append_cons parts with ⟨rest, pulled⟩ | ⟨rest, rfl, pushed⟩
      · exact absurd push (prepared.not_isPush (pulled ▸ by simp))
      · exact prepared.justified_task faithful task pushed
  | pipelineUnpushed prepared task pipeline => exact inBoth prepared task pipeline parts
  | published prepared task pipeline => exact inBoth prepared task pipeline parts

end Courses

/-! ## What is published -/

/-- A bundle has been pushed with success. -/
def Pushed (bundle : String) (acts : List Act) : Prop :=
  ∃ file launch, .launched launch ∈ acts ∧ launch.command = pushCommand bundle file ∧
    launch.succeeded = true

theorem taskBundle_ne_pipelineBundle (patch : BundlePatch) :
    patch.taskBundle ≠ patch.pipelineBundle := by
  intro same
  have long := congrArg String.length same
  simp only [taskBundle, pipelineBundle, String.length_append] at long
  have shorter : ":task-bundle-".length < ":pipeline-bundle-".length := by decide
  omega

theorem pushCommand_inj {bundle bundle' file file' : String}
    (same : pushCommand bundle file = pushCommand bundle' file') : bundle = bundle' := by
  have arguments : ["bundle", "push", bundle, "-f", file] =
      ["bundle", "push", bundle', "-f", file'] := congrArg Command.arguments same
  cases arguments
  rfl

theorem isPush_of_pushCommand {launch : Launch} {bundle file : String}
    (command : launch.command = pushCommand bundle file) : IsPush launch :=
  ⟨_, congrArg Command.arguments command⟩

theorem Pushing.pushed {host : Host σ} {bundle : String} {object : Yaml} {acts : List Act}
    (pushing : Pushing host bundle object (.ok ()) acts) : Pushed bundle acts := by
  obtain ⟨file, _, launch, _, command, succeeded, rfl⟩ := pushing.of_ok
  exact ⟨file, launch, by simp, command, succeeded⟩

/-- What is pushed when an object is pushed is its bundle, and that only if all goes well. -/
theorem Pushing.of_pushed {host : Host σ} {bundle bundle' : String} {object : Yaml}
    {acts : List Act} {outcome : Except Failure Unit}
    (pushing : Pushing host bundle object outcome acts) (pushed : Pushed bundle' acts) :
    bundle' = bundle ∧ outcome = .ok () := by
  obtain ⟨file, launch, member, command, succeeded⟩ := pushed
  cases pushing with
  | noRoom => cases member
  | noText => cases member
  | unwritten => simp at member
  | refused _ command' failed =>
      obtain rfl : launch = _ := by simpa using member
      rw [failed] at succeeded
      cases succeeded
  | accepted _ command' =>
      obtain rfl : launch = _ := by simpa using member
      exact ⟨pushCommand_inj (command.symm.trans command'), rfl⟩

theorem pushed_append {bundle : String} {first second : List Act} :
    Pushed bundle (first ++ second) ↔ Pushed bundle first ∨ Pushed bundle second := by
  constructor
  · rintro ⟨file, launch, member, command, succeeded⟩
    rcases List.mem_append.mp member with before | after
    · exact Or.inl ⟨file, launch, before, command, succeeded⟩
    · exact Or.inr ⟨file, launch, after, command, succeeded⟩
  · rintro (⟨file, launch, member, pushed⟩ | ⟨file, launch, member, pushed⟩)
    · exact ⟨file, launch, List.mem_append_left _ member, pushed⟩
    · exact ⟨file, launch, List.mem_append_right _ member, pushed⟩

theorem Prepared.not_pushed (prepared : Prepared patch selector) (bundle : String) :
    ¬Pushed bundle prepared.pulls := by
  rintro ⟨file, launch, member, command, _⟩
  exact prepared.not_isPush member (isPush_of_pushCommand command)

/-- A run has a result exactly if both bundles have been pushed. -/
theorem Course.ok_iff {host : Host σ} {acts : List Act} {outcome : Except Failure String}
    (course : Course host patch selector outcome acts) :
    outcome = .ok patch.pipelineBundle ↔
      Pushed patch.taskBundle acts ∧ Pushed patch.pipelineBundle acts := by
  cases course with
  | unprepared failed failure =>
      refine ⟨nofun, ?_⟩
      rintro ⟨⟨file, launch, member, command, _⟩, _⟩
      obtain ⟨other, listed, same⟩ := List.mem_map.mp member
      cases same
      exact absurd (isPush_of_pushCommand command) (failed.not_isPush listed)
  | taskUnpushed prepared task =>
      refine ⟨nofun, ?_⟩
      rintro ⟨pushed, _⟩
      rcases pushed_append.mp pushed with pulled | pushed
      · exact absurd pulled (prepared.not_pushed _)
      · cases (task.of_pushed pushed).2
  | pipelineUnpushed prepared task pipeline =>
      refine ⟨nofun, ?_⟩
      rintro ⟨_, pushed⟩
      rcases pushed_append.mp pushed with pulled | pushed
      · exact absurd pulled (prepared.not_pushed _)
      · rcases pushed_append.mp pushed with inTask | inPipeline
        · exact absurd (task.of_pushed inTask).1.symm patch.taskBundle_ne_pipelineBundle
        · cases (pipeline.of_pushed inPipeline).2
  | published prepared task pipeline =>
      refine ⟨fun _ => ?_, fun _ => rfl⟩
      simp only [pushed_append]
      exact ⟨Or.inr (Or.inl task.pushed), Or.inr (Or.inr pipeline.pushed)⟩

theorem Course.eq_of_ok {host : Host σ} {acts : List Act} {bundle : String}
    (course : Course host patch selector (.ok bundle) acts) : bundle = patch.pipelineBundle := by
  cases course
  rfl

/-- A run that publishes the patched objects consistently. -/
structure Consistent (host : Host σ) (patch : BundlePatch) (selector : String)
    (result : Except Failure String) (acts : List Act) : Prop where
  course : Course host patch selector result acts
  /-- Nothing is pushed unless both objects have been pulled and patched, the pipeline is pushed
  only after the task, and each as a file that is read as the patched object. -/
  justified : ∀ before launch after, acts = before ++ .launched launch :: after → IsPush launch →
    Justified patch selector before launch
  ok_iff : result = .ok patch.pipelineBundle ↔
    Pushed patch.taskBundle acts ∧ Pushed patch.pipelineBundle acts
  eq_of_ok : ∀ bundle, result = .ok bundle → bundle = patch.pipelineBundle
  /-- The patched pipeline refers to the task in the task's bundle only and is the pulled one
  otherwise; the task is the one that the pulled pipeline referred to, with another image in the
  steps to patch. -/
  changes : ∀ prepared : Prepared patch selector, prepared.Changes

/-- Whatever the commands come to, every run publishes consistently. -/
theorem publishes_consistently (patch : BundlePatch) (host : Host σ)
    (faithful : Yaml.Faithful host.yamlText) (selector : String) (s : σ) :
    Consistent host patch selector (patch.result host selector s) (patch.acts host selector s) := by
  have course : Course host patch selector _ _ := course host s
  exact ⟨course, fun _ _ _ parts push => course.justified faithful parts push, course.ok_iff,
    fun _ ended => Course.eq_of_ok (ended ▸ course), Prepared.changes⟩

end BundlePatch

namespace Rehearsal

/-- A command that prints a text and ends well. -/
def printing (text : String) : Play := ⟨.exited 0, Utf8.encode text, [], false⟩

/-- A host whose registry has a pipeline and the task it refers to, and takes what is pushed. -/
def registryHost : Host HostState := host {
  server := "", script := [], secureServers := [], secureScript := none, programs := ["tkn"]
  plays := [("tkn", [
    printing "spec: \x7btasks: [\x7btaskRef: \x7bname: s2i-java, bundle: t\x7d\x7d]\x7d",
    printing "spec: \x7bsteps: [\x7bname: analyse-dependencies-java-sbom\x7d]\x7d"])]
  absent := [], environment := [], verbosity := .info, coloured := false
  workingDirectory := "/", home := "/", repository := ".", kubeconfig := none, executable := ""
  today := ⟨⟨2024, 3, 10⟩, 720, 0, 0⟩ }

def javaSelector : String :=
  "spec: \x7bselectors: [\x7bname: Java, pipelineRef: \x7bbundle: b\x7d\x7d]\x7d"

def trialPatch : BundlePatch := ⟨"abc", "image", "repo"⟩

theorem trialPatch_published :
    trialPatch.result registryHost javaSelector (.start []) = .ok trialPatch.pipelineBundle ∧
      BundlePatch.Pushed trialPatch.taskBundle
        (trialPatch.acts registryHost javaSelector (.start [])) ∧
      BundlePatch.Pushed trialPatch.pipelineBundle
        (trialPatch.acts registryHost javaSelector (.start [])) := by
  have ended : (trialPatch.result registryHost javaSelector (.start [])).toOption =
      some trialPatch.pipelineBundle := by decide +kernel
  have result : trialPatch.result registryHost javaSelector (.start []) =
      .ok trialPatch.pipelineBundle := by
    generalize trialPatch.result registryHost javaSelector (.start []) = outcome at ended
    cases outcome with
    | error => cases ended
    | ok bundle => exact congrArg Except.ok (Option.some.inj ended)
  exact ⟨result, (trialPatch.publishes_consistently registryHost faithful_yamlText javaSelector
    (.start [])).ok_iff.mp result⟩

end Rehearsal

end ClusterHarness
