/-
**A run of the command does all or nothing.**

A run reads, maps and writes in this order, and it writes once, when nothing else can fail any more.
So it leaves either the whole text of a model, on the output or in a file, or all files as they
were.

* `compose` is a run up to the text that it comes to, and `deliver` what it does with the text. What
  is told on the way apart, a run is one behind the other, wherever the files are
  (`silent_mapSource`);
* `Requested`, `Rendered` and `Yields` say which settings, text and model arguments ask for. These
  are composed (`compose_run`);
* `FileAccess.Honest`: reading and writing may fail for any reason, but do nothing else than they
  say. On such access a text is delivered as a whole, or nothing changes (`deliver_run`);
* `run_all_or_nothing` puts this together, and compares runs that write to a file or to the output,
  and runs that tell what they do or do not.
-/

import InfoModel.CommandLine.Run
import InfoModel.Proofs.Document.Declarations
import InfoModel.Proofs.Files.Overwriting
import Mathlib

namespace InfoModel.CommandLine

/-! ### A run without what it tells -/

/-- The outcome without the lines for whoever runs the command. -/
def silent (outcome : Outcome) : Outcome :=
  { outcome with messages := [] }

section Parts

variable {m : Type → Type} [Monad m] (access : FileAccess m)

/-- The text that a run comes to, before it is written anywhere. -/
def compose (source : String) (request : Arguments) : m (Except Failure String) := do
  match ← settingsOf access request with
  | .error failure => return .error failure
  | .ok settings =>
    match ← Mapper.loadFrom access.read { settings } (aliasOf source request) source with
    | .error fault => return .error (.unmapped source fault)
    | .ok model => return .ok (render model (request.format.getD .json))

/-- What becomes of the text: it is the output, or it is written to a file. -/
def deliver (output : Option String) : Except Failure String → m Outcome
  | .error _ => return { exitCode := 1 }
  | .ok text =>
    match output with
    | none => return { output := text }
    | some path => do
      match ← access.write path text with
      | .error _ => return { exitCode := 1 }
      | .ok () => return {}

variable {access} [LawfulMonad m]

theorem silent_finish (request : Arguments) (lines : List String) (text : String) :
    silent <$> finish access request lines text = deliver access request.output (.ok text) := by
  unfold finish deliver
  cases request.output with
  | none => exact map_pure ..
  | some path =>
      simp only [map_bind]
      refine bind_congr fun result => ?_
      cases result with
      | error fault => exact map_pure ..
      | ok written => exact map_pure ..

/-- **What it tells apart, a run composes a text and delivers it.** -/
theorem silent_mapSource (source : String) (request : Arguments) :
    silent <$> mapSource access source request =
      compose access source request >>= deliver access request.output := by
  unfold mapSource compose
  simp only [map_bind, bind_assoc]
  refine bind_congr fun settings => ?_
  cases settings with
  | error failure =>
      rw [pure_bind]
      exact map_pure ..
  | ok settings =>
      simp only [map_bind, bind_assoc]
      refine bind_congr fun loaded => ?_
      cases loaded with
      | error fault =>
          rw [pure_bind]
          exact map_pure ..
      | ok model =>
          rw [pure_bind]
          exact silent_finish ..

end Parts

/-! ### Composing a text -/

/-- **The settings that are asked for**: those of the file that is given, or the usual ones, and
without inherited members if this is asked for. -/
def Requested (read : String → Except FileFault String) (request : Arguments)
    (settings : Settings) : Prop :=
  ∃ given : Settings,
    (match request.config with
      | none => given = {}
      | some path => ∃ text, read path = .ok text ∧ Settings.ofTomlText text = .ok given) ∧
    settings = if request.noInherited then { given with includeInherited := false } else given

/-- **The text that is asked for**: what is loaded from the source under the settings, written in
the format. -/
def Rendered (read : String → Except FileFault String) (source : String) (request : Arguments)
    (text : String) : Prop :=
  ∃ settings model, Requested read request settings ∧
    Id.run (Mapper.loadFrom (fun path => pure (read path)) { settings } (aliasOf source request)
      source) = .ok model ∧
    text = render model (request.format.getD .json)

theorem adjusted_eq (request : Arguments) (given : Settings) :
    adjusted request given =
      if request.noInherited then { given with includeInherited := false } else given := by
  unfold adjusted
  cases request.noInherited with
  | false => simp
  | true => simp

/-- A computation goes on with the value and in the state that its first step ends with. -/
theorem run_bind_of_run {σ α β : Type} {step : StateM σ α} {next : α → StateM σ β}
    {state after : σ} {value : α} (ran : step.run state = (value, after)) :
    (step >>= next).run state = (next value).run after := by
  rw [StateT.run_bind, ran]
  rfl

section Reading

variable {access : FileAccess (StateM FileSet)} {files : FileSet}
  {read : String → Except FileFault String}
  (reads : ∀ path, (access.read path).run files = (read path, files))

include reads

theorem readSettings_run (path : String) :
    ∃ result, (readSettings access path).run files = (result, files) ∧
      ∀ given, result = .ok given ↔
        ∃ text, read path = .ok text ∧ Settings.ofTomlText text = .ok given := by
  unfold readSettings
  rw [run_bind_of_run (reads path)]
  cases read path with
  | error fault =>
      refine ⟨_, rfl, fun given => ⟨nofun, ?_⟩⟩
      rintro ⟨_, ⟨⟩, -⟩
  | ok text =>
      cases parsed : Settings.ofTomlText text with
      | error fault =>
          refine ⟨.error (.unparsedSettings path), ?_, fun given => ⟨nofun, ?_⟩⟩
          · simp only [parsed]
            rfl
          · rintro ⟨_, ⟨⟩, isParsed⟩
            rw [parsed] at isParsed
            cases isParsed
      | ok settings =>
          refine ⟨.ok settings, ?_, fun given => ⟨?_, ?_⟩⟩
          · simp only [parsed]
            rfl
          · rintro ⟨⟩
            exact ⟨text, rfl, parsed⟩
          · rintro ⟨_, ⟨⟩, isParsed⟩
            obtain rfl := Except.ok.inj (parsed.symm.trans isParsed)
            rfl

/-- Settings are those that are asked for, and no file changes. -/
theorem settingsOf_run (request : Arguments) :
    ∃ result, (settingsOf access request).run files = (result, files) ∧
      ∀ settings, result = .ok settings ↔ Requested read request settings := by
  unfold settingsOf Requested
  simp only [← adjusted_eq]
  cases request.config with
  | none =>
      refine ⟨_, rfl, fun settings => ⟨?_, ?_⟩⟩
      · rintro ⟨⟩
        exact ⟨{}, rfl, rfl⟩
      · rintro ⟨_, rfl, rfl⟩
        rfl
  | some path =>
      obtain ⟨result, ran, isGiven⟩ := readSettings_run reads path
      simp only [← isGiven]
      refine ⟨result.map (adjusted request), run_bind_of_run ran, fun settings => ?_⟩
      cases result with
      | error failure => simp [Except.map]
      | ok given => simp [Except.map, eq_comm]

/-- A model is loaded from what is read, and no file changes. -/
theorem loadFrom_run (mapper : Mapper) (aliasName source : String) :
    (mapper.loadFrom access.read aliasName source).run files =
      (Id.run (mapper.loadFrom (fun path => pure (read path)) aliasName source), files) := by
  unfold Mapper.loadFrom
  cases SourceFormat.ofPath? source with
  | error written => rfl
  | ok format =>
      refine (run_bind_of_run (reads source)).trans ?_
      simp only [pure_bind]
      cases read source <;> rfl

/-- **The text that is asked for is composed**, and no file changes. -/
theorem compose_run (source : String) (request : Arguments) :
    ∃ result, (compose access source request).run files = (result, files) ∧
      ∀ text, result = .ok text ↔ Rendered read source request text := by
  obtain ⟨settings, ran, isRequested⟩ := settingsOf_run reads request
  unfold compose Rendered
  rw [run_bind_of_run ran]
  simp only [← isRequested]
  cases settings with
  | error failure =>
      refine ⟨_, rfl, fun text => ⟨nofun, ?_⟩⟩
      rintro ⟨_, _, ⟨⟩, -⟩
  | ok settings =>
      have loads := loadFrom_run reads { settings } (aliasOf source request) source
      simp only [run_bind_of_run loads]
      cases loaded : Id.run (Mapper.loadFrom (fun path => pure (read path)) { settings }
        (aliasOf source request) source) with
      | error fault =>
          refine ⟨_, rfl, fun text => ⟨nofun, ?_⟩⟩
          rintro ⟨_, model, ⟨⟩, isLoaded, -⟩
          rw [loaded] at isLoaded
          cases isLoaded
      | ok model =>
          refine ⟨_, rfl, fun text => ⟨?_, ?_⟩⟩
          · rintro ⟨⟩
            exact ⟨settings, model, rfl, loaded, rfl⟩
          · rintro ⟨_, other, ⟨⟩, isLoaded, rfl⟩
            rw [loaded] at isLoaded
            cases isLoaded
            rfl

end Reading

end InfoModel.CommandLine

namespace InfoModel

/-! ### Runs on files -/

/-- **Access that does what it says, or nothing.** What is read is the text of the file, and no file
changes. What is written takes the place of the file's content. Reading and writing may fail for any
reason, and change nothing then. -/
structure FileAccess.Honest (access : FileAccess (StateM FileSet)) : Prop where
  read : ∀ files path, ∃ result, (access.read path).run files = (result, files) ∧
    ∀ text, result = .ok text → files.readText path = .ok text
  write : ∀ files path text, ∃ result after, (access.write path text).run files = (result, after) ∧
    (result = .ok () → files.writeText path text = .ok after) ∧
    ∀ fault, result = .error fault → after = files

namespace CommandLine

theorem reads_setAccess (files : FileSet) (path : String) :
    (setAccess.read path).run files = (files.readText path, files) := rfl

theorem write_setAccess (files : FileSet) (path text : String) :
    (setAccess.write path text).run files =
      match files.writeText path text with
      | .ok after => (.ok (), after)
      | .error fault => (.error fault, files) := by
  have got : (get : StateM FileSet FileSet).run files = (files, files) := rfl
  refine (run_bind_of_run got).trans ?_
  cases files.writeText path text <;> rfl

theorem honest_setAccess : setAccess.Honest where
  read files path := ⟨files.readText path, rfl, fun _ => id⟩
  write files path text := by
    rw [write_setAccess]
    cases files.writeText path text with
    | error fault => exact ⟨_, _, rfl, nofun, fun _ _ => rfl⟩
    | ok after => exact ⟨_, _, rfl, fun _ => rfl, nofun⟩

/-- **The model that is asked for**: what the loader gives for the source under the settings that
are asked for. -/
def Yields (files : FileSet) (source : String) (request : Arguments) (model : Model) : Prop :=
  ∃ settings, Requested files.readText request settings ∧
    Mapper.load { settings } files (aliasOf source request) source = .ok model

/-- The model that is asked for is one at most. -/
theorem Yields.unique {files : FileSet} {source : String} {request : Arguments}
    {first second : Model} (yields : Yields files source request first)
    (others : Yields files source request second) : first = second := by
  obtain ⟨settings, requested, loaded⟩ := yields
  obtain ⟨otherSettings, otherRequested, otherLoaded⟩ := others
  obtain ⟨result, -, isRequested⟩ := settingsOf_run (reads_setAccess files) request
  have sameResult := ((isRequested _).mpr requested).symm.trans ((isRequested _).mpr otherRequested)
  obtain rfl := Except.ok.inj sameResult
  exact Except.ok.inj (loaded.symm.trans otherLoaded)

theorem rendered_readText_iff {files : FileSet} {source text : String} {request : Arguments} :
    Rendered files.readText source request text ↔
      ∃ model, Yields files source request model ∧
        text = render model (request.format.getD .json) := by
  constructor
  · rintro ⟨settings, model, requested, loaded, written⟩
    exact ⟨model, ⟨settings, requested, loaded⟩, written⟩
  · rintro ⟨model, ⟨settings, requested, loaded⟩, written⟩
    exact ⟨settings, model, requested, loaded, written⟩

/-- **A text is delivered**: it is all of the output, and no file changes; or there is no output,
the text is all that a file holds, and no other file changes. -/
def Delivered (files : FileSet) (text : String) : Option String → String → FileSet → Prop
  | none, output, after => output = text ∧ after = files
  | some path, output, after => output = "" ∧ files.Overwritten path text after

/-- **A run does all or nothing.** -/
structure AllOrNothing (files : FileSet) (source : String) (request : Arguments)
    (outcome : Outcome) (after : FileSet) : Prop where
  ends : outcome.exitCode = 0 ∨ outcome.exitCode = 1
  nothing : outcome.exitCode = 1 → outcome.output = "" ∧ after = files
  all : outcome.exitCode = 0 → ∃ model, Yields files source request model ∧
    Delivered files (render model (request.format.getD .json)) request.output outcome.output after

/-- A model is loaded from a text that is read. -/
theorem loadFrom_eq_ok_iff {read : String → Except FileFault String} {mapper : Mapper}
    {aliasName source : String} {model : Model} :
    Id.run (mapper.loadFrom (fun path => pure (read path)) aliasName source) = .ok model ↔
      ∃ format text, SourceFormat.ofPath? source = .ok format ∧ read source = .ok text ∧
        mapper.loadText aliasName format text = .ok model := by
  unfold Mapper.loadFrom
  cases SourceFormat.ofPath? source with
  | error written => exact ⟨nofun, by rintro ⟨_, _, ⟨⟩, -⟩⟩
  | ok format =>
      simp only [pure_bind]
      cases read source with
      | error fault => exact ⟨nofun, by rintro ⟨_, _, -, ⟨⟩, -⟩⟩
      | ok text =>
          refine ⟨fun loaded => ⟨format, text, rfl, rfl, loaded⟩, ?_⟩
          rintro ⟨_, _, ⟨⟩, ⟨⟩, loaded⟩
          exact loaded

/-- A model is loaded from a JSON text by mapping what the text holds. -/
theorem loadText_of_ofJsonText {mapper : Mapper} {aliasName text : String}
    {source : InformationModel} {model : Model}
    (read : InformationModel.ofJsonText text = .ok source)
    (mapped : (mapper.map source (some aliasName)).outcome = .ok model) :
    mapper.loadText aliasName .json text = .ok model := by
  have parsed : InformationModel.parse .json text = .ok source := by
    unfold InformationModel.parse
    simp only [read]
  unfold Mapper.loadText
  simp only [parsed, bind, Except.bind, mapped]
  rfl

/-- What is asked for is what can be read, so it stays what is asked for if more can be read. -/
theorem Rendered.mono {read other : String → Except FileFault String} {source text : String}
    {request : Arguments} (more : ∀ path text, read path = .ok text → other path = .ok text)
    (rendered : Rendered read source request text) : Rendered other source request text := by
  obtain ⟨settings, model, ⟨given, isGiven, adjusted⟩, loaded, written⟩ := rendered
  refine ⟨settings, model, ⟨given, ?_, adjusted⟩, ?_, written⟩
  · cases config : request.config with
    | none => simpa only [config] using isGiven
    | some path =>
        simp only [config] at isGiven ⊢
        obtain ⟨text, isRead, parsed⟩ := isGiven
        exact ⟨text, more path text isRead, parsed⟩
  · rw [loadFrom_eq_ok_iff] at loaded ⊢
    obtain ⟨format, text, isFormat, isRead, isLoaded⟩ := loaded
    exact ⟨format, text, isFormat, more source text isRead, isLoaded⟩

section Honest

variable {access : FileAccess (StateM FileSet)} (honest : access.Honest)

include honest

/-- What is delivered is delivered as a whole, or nothing changes. -/
theorem deliver_run (files : FileSet) (output : Option String) (result : Except Failure String) :
    ∃ outcome after, (deliver access output result).run files = (outcome, after) ∧
      ((outcome.exitCode = 1 ∧ outcome.output = "" ∧ after = files) ∨
        (outcome.exitCode = 0 ∧ ∃ text, result = .ok text ∧
          Delivered files text output outcome.output after)) := by
  cases result with
  | error failure => exact ⟨_, _, rfl, .inl ⟨rfl, rfl, rfl⟩⟩
  | ok text =>
      cases output with
      | none => exact ⟨_, _, rfl, .inr ⟨rfl, text, rfl, rfl, rfl⟩⟩
      | some path =>
          obtain ⟨result, after, ran, written, kept⟩ := honest.write files path text
          unfold deliver
          simp only [run_bind_of_run ran]
          cases result with
          | error fault => exact ⟨_, _, rfl, .inl ⟨rfl, rfl, kept fault rfl⟩⟩
          | ok done =>
              have overwritten := FileSet.overwritten_of_writeText (written rfl)
              exact ⟨_, _, rfl, .inr ⟨rfl, text, rfl, rfl, overwritten⟩⟩

/-- What can be read is the text of files. -/
theorem exists_reads (files : FileSet) : ∃ read : String → Except FileFault String,
    (∀ path, (access.read path).run files = (read path, files)) ∧
      ∀ path text, read path = .ok text → files.readText path = .ok text := by
  choose read reads backed using honest.read files
  exact ⟨read, reads, backed⟩

end Honest

/-- A run leaves what comes of delivering the composed text. -/
theorem mapSource_run {access : FileAccess (StateM FileSet)} {files : FileSet} {source : String}
    {request : Arguments} {result : Except Failure String}
    (composed : (compose access source request).run files = (result, files)) :
    (deliver access request.output result).run files =
      (silent ((mapSource access source request).run files).1,
        ((mapSource access source request).run files).2) := by
  have parts := congrArg (·.run files) (@silent_mapSource _ _ access _ source request)
  simp only [run_bind_of_run composed] at parts
  exact parts.symm

/-- A run on files that are reached in some way: its outcome and the files afterwards. -/
def runWith (access : FileAccess (StateM FileSet)) (files : FileSet) (arguments : List String) :
    Outcome × FileSet :=
  (run access arguments).run files

/-- A run by accepted arguments delivers the composed text. -/
theorem deliver_runWith {access : FileAccess (StateM FileSet)} {files : FileSet}
    {arguments : List String} {source : String} {request : Arguments}
    (accepted : Arguments.read arguments = .map source request) {result : Except Failure String}
    (composed : (compose access source request).run files = (result, files)) :
    (deliver access request.output result).run files =
      (silent (runWith access files arguments).1, (runWith access files arguments).2) := by
  have mapped : run access arguments = mapSource access source request := by
    unfold run
    rw [accepted]
  unfold runWith
  rw [mapped]
  exact mapSource_run composed

section Accepted

variable {access : FileAccess (StateM FileSet)} (honest : access.Honest) {arguments : List String}
  {source : String} {request : Arguments}
  (accepted : Arguments.read arguments = .map source request) (files : FileSet)

include honest accepted

theorem allOrNothing : AllOrNothing files source request (runWith access files arguments).1
    (runWith access files arguments).2 := by
  obtain ⟨read, reads, backed⟩ := exists_reads honest files
  obtain ⟨result, composed, isRendered⟩ := compose_run reads source request
  obtain ⟨outcome, after, delivered, ends⟩ := deliver_run honest files request.output result
  obtain ⟨rfl, rfl⟩ := Prod.mk.inj (delivered.symm.trans (deliver_runWith accepted composed))
  rcases ends with ⟨fails, nothing⟩ | ⟨succeeds, text, done, whole⟩
  · refine ⟨.inr fails, fun _ => nothing, fun succeeds => ?_⟩
    exact absurd (succeeds.symm.trans fails) (by decide)
  · refine ⟨.inl succeeds, fun fails => ?_, fun _ => ?_⟩
    · exact absurd (succeeds.symm.trans fails) (by decide)
    · have rendered := ((isRendered text).mp done).mono backed
      obtain ⟨model, yields, rfl⟩ := rendered_readText_iff.mp rendered
      exact ⟨model, yields, whole⟩

/-- **The text is the same** whether it is written to a file or not. -/
theorem readText_eq_output {path : String} {plain : List String}
    (toFile : request.output = some path)
    (acceptedPlain : Arguments.read plain = .map source { request with output := none })
    (succeeds : (runWith access files arguments).1.exitCode = 0) :
    (runWith access files plain).1.exitCode = 0 ∧
      (runWith access files arguments).2.readText path
        = .ok (runWith access files plain).1.output := by
  obtain ⟨read, reads, -⟩ := exists_reads honest files
  obtain ⟨result, composed, -⟩ := compose_run reads source request
  obtain ⟨outcome, after, delivered, ends⟩ := deliver_run honest files request.output result
  obtain ⟨rfl, rfl⟩ := Prod.mk.inj (delivered.symm.trans (deliver_runWith accepted composed))
  rcases ends with ⟨fails, -⟩ | ⟨-, text, rfl, whole⟩
  · exact absurd (succeeds.symm.trans fails) (by decide)
  · -- the same text is composed without the file, and it is the output then
    have plainRun : ({ output := text } : Outcome) = silent (runWith access files plain).1 :=
      (Prod.mk.inj (deliver_runWith acceptedPlain composed)).1
    rw [toFile] at whole
    refine ⟨(congrArg Outcome.exitCode plainRun).symm, ?_⟩
    rw [whole.2.read]
    exact congrArg (Except.ok ·.output) plainRun

/-- **What is told is told only.** -/
theorem silent_runWith_verbose {verbose : Bool} {others : List String}
    (acceptedOthers : Arguments.read others = .map source { request with verbose }) :
    silent (runWith access files others).1 = silent (runWith access files arguments).1 ∧
      (runWith access files others).2 = (runWith access files arguments).2 := by
  obtain ⟨read, reads, -⟩ := exists_reads honest files
  obtain ⟨result, composed, -⟩ := compose_run reads source request
  have first := deliver_runWith accepted composed
  exact Prod.mk.inj ((deliver_runWith acceptedOthers composed).symm.trans first)

end Accepted

/-- On the files themselves a text is delivered just if it can be written. -/
theorem deliver_setAccess_exitCode_iff (files : FileSet) (output : Option String) (text : String) :
    ((deliver setAccess output (.ok text)).run files).1.exitCode = 0 ↔
      ∀ path ∈ output, ∃ after, files.writeText path text = .ok after := by
  cases output with
  | none => exact ⟨fun _ => nofun, fun _ => rfl⟩
  | some path =>
      unfold deliver
      have ran := write_setAccess files path text
      cases written : files.writeText path text with
      | error fault =>
          rw [written] at ran
          simp only [run_bind_of_run ran]
          refine ⟨nofun, fun writable => ?_⟩
          obtain ⟨after, isWritten⟩ := writable path rfl
          rw [written] at isWritten
          cases isWritten
      | ok after =>
          rw [written] at ran
          simp only [run_bind_of_run ran]
          refine ⟨fun _ => ?_, fun _ => rfl⟩
          rintro _ ⟨⟩
          exact ⟨after, written⟩

/-- **A run on the files themselves succeeds just if it can**: the model that is asked for is there,
and can be written. -/
theorem runOn_exitCode_eq_zero_iff {arguments : List String} {source : String} {request : Arguments}
    (accepted : Arguments.read arguments = .map source request) (files : FileSet) :
    (runOn files arguments).1.exitCode = 0 ↔ ∃ model, Yields files source request model ∧
      ∀ path ∈ request.output, ∃ after,
        files.writeText path (render model (request.format.getD .json)) = .ok after := by
  obtain ⟨result, composed, isRendered⟩ := compose_run (reads_setAccess files) source request
  have exit : (runOn files arguments).1.exitCode =
      ((deliver setAccess request.output result).run files).1.exitCode := by
    rw [deliver_runWith accepted composed]
    rfl
  rw [exit]
  constructor
  · intro succeeds
    cases result with
    | error failure => cases succeeds
    | ok text =>
        obtain ⟨model, yields, rfl⟩ := rendered_readText_iff.mp ((isRendered text).mp rfl)
        exact ⟨model, yields, (deliver_setAccess_exitCode_iff ..).mp succeeds⟩
  · rintro ⟨model, yields, writable⟩
    obtain rfl := (isRendered _).mpr (rendered_readText_iff.mpr ⟨model, yields, rfl⟩)
    exact (deliver_setAccess_exitCode_iff ..).mpr writable

/-- **A run of the command does all or nothing**, whatever fails on its way. It ends with the model
that is asked for at the one place where it belongs, or with all files as they were. The text is the
same in a file as on the output, and what is told has no part in it. On the files themselves a run
succeeds if it can. -/
theorem run_all_or_nothing {access : FileAccess (StateM FileSet)} (honest : access.Honest)
    {arguments : List String} {source : String} {request : Arguments}
    (accepted : Arguments.read arguments = .map source request) (files : FileSet) :
    AllOrNothing files source request (runWith access files arguments).1
      (runWith access files arguments).2 ∧
    (∀ path plain, request.output = some path →
      Arguments.read plain = .map source { request with output := none } →
      (runWith access files arguments).1.exitCode = 0 →
        (runWith access files plain).1.exitCode = 0 ∧
        (runWith access files arguments).2.readText path
          = .ok (runWith access files plain).1.output) ∧
    (∀ verbose others, Arguments.read others = .map source { request with verbose } →
      silent (runWith access files others).1 = silent (runWith access files arguments).1 ∧
      (runWith access files others).2 = (runWith access files arguments).2) ∧
    ((runOn files arguments).1.exitCode = 0 ↔ ∃ model, Yields files source request model ∧
      ∀ path ∈ request.output, ∃ after,
        files.writeText path (render model (request.format.getD .json)) = .ok after) :=
  ⟨allOrNothing honest accepted files,
    fun _ _ toFile plain succeeds =>
      readText_eq_output honest accepted files toFile plain succeeds,
    fun _ _ => silent_runWith_verbose honest accepted files,
    runOn_exitCode_eq_zero_iff accepted files⟩

theorem runOn_eq_runWith (files : FileSet) (arguments : List String) :
    runOn files arguments = runWith setAccess files arguments := rfl

/-- A source of books, which are media. All media have a code. -/
def media : InformationModel where
  name := "M"
  packages := [{
    name := "P"
    objectTypes :=
      [{ name := "Medium", isAbstract := true
         members := { attributes := [{ name := "code", datatype := some "CharacterString" }] } },
        { name := "Book", supertypes := ["Medium"]
          members := { attributes := [{ name := "pages", datatype := some "Integer" }] } }] }]

/-- The model of the source without inherited members: the books have pages and no code. -/
def books : Model :=
  ⟨some "m", ⟨[("Book", ⟨"Book", ["Medium"], ⟨[("pages", .ofAttribute
    { name := "pages", valueType := .integer, cardinality := .optional })], by decide⟩⟩)],
    by decide⟩⟩

/-- The source as it is stored, and settings that ask for inherited members. -/
def shelf : FileSet where
  files := [(["m.json"], media.toJson.compact.toUTF8),
    (["c.toml"], "includeInherited = true".toUTF8)]

/-- A summary in place of the source, without inherited members whatever the settings are. -/
def inPlace : Arguments where
  source := some "m.json"
  config := some "c.toml"
  format := some .summary
  output := some "m.json"
  noInherited := true

/-- The arguments that ask for it. -/
def overwriting : List String :=
  ["m.json", "--config=c.toml", "--no-inherited", "--format=summary", "--output=m.json"]

theorem walk_shelf {name : String} (named : name ≠ "" ∧ name ≠ "." ∧ name ≠ "..")
    (short : name.utf8ByteSize ≤ FileSet.nameLimit) : shelf.walk [] [name] = .ok [name] := by
  have here : shelf.entry? [] = some .directory := by
    simp [shelf, FileSet.entry?, Place.isGiven]
  rw [FileSet.walk_cons here, if_neg (not_or.mpr ⟨named.1, named.2.1⟩), if_neg named.2.2,
    if_neg (Nat.not_lt.mpr short)]
  rfl

theorem loadText_media :
    Mapper.loadText { settings := { includeInherited := false } } "m" .json media.toJson.compact
      = .ok books := by
  have shallow := media.depth_toJson_le.trans (show 8 ≤ Json.nestingLimit by decide)
  have read : InformationModel.ofJsonText media.toJson.compact = .ok media :=
    InformationModel.ofJsonText_of_read (Json.read_compact media.isExact_toJson shallow)
  exact loadText_of_ofJsonText read (by rfl)

theorem summary_books : books.summary
    = "Model 'm'\nObject types: 1\n\nBook : Medium\n  pages: Integer (0..1)\n" := by
  rfl

theorem yields_shelf : Yields shelf "m.json" inPlace books := by
  have source : shelf.readText "m.json" = .ok media.toJson.compact :=
    FileSet.readText_of_file
      (FileSet.find_of_walk (by rfl) (@walk_shelf "m.json" (by decide) (by decide)))
      (by simp [shelf, FileSet.entry?])
  have settings : shelf.readText "c.toml" = .ok "includeInherited = true" :=
    FileSet.readText_of_file
      (FileSet.find_of_walk (by rfl) (@walk_shelf "c.toml" (by decide) (by decide)))
      (by simp [shelf, FileSet.entry?])
  have stem : aliasOf "m.json" inPlace = "m" := by cbv
  refine ⟨{ includeInherited := false }, ⟨{}, ⟨_, settings, by cbv⟩, rfl⟩, ?_⟩
  rw [stem]
  exact loadFrom_eq_ok_iff.mpr ⟨.json, _, by cbv, source, loadText_media⟩

theorem writable_shelf (text : String) : ∃ after, shelf.writeText "m.json" text = .ok after := by
  have target : shelf.target "m.json" = .ok ["m.json"] :=
    FileSet.target_of_walk (by rfl) (@walk_shelf "m.json" (by decide) (by decide)) (by decide)
  have noDirectory : shelf.entry? ["m.json"] ≠ some .directory := by
    simp [shelf, FileSet.entry?]
  exact ⟨_, FileSet.writeText_eq_ok_iff.mpr ⟨_, target, noDirectory, rfl⟩⟩

/-- The summary takes the place of the source, and tells of pages only. -/
theorem run_all_or_nothing_in_place :
    setAccess.Honest ∧ Arguments.read overwriting = .map "m.json" inPlace ∧
    (runOn shelf overwriting).1.exitCode = 0 ∧ (runOn shelf overwriting).1.output = "" ∧
    Yields shelf "m.json" inPlace books ∧
    shelf.Overwritten "m.json"
      "Model 'm'\nObject types: 1\n\nBook : Medium\n  pages: Integer (0..1)\n"
      (runOn shelf overwriting).2 := by
  have accepted : Arguments.read overwriting = .map "m.json" inPlace := by rfl
  obtain ⟨whole, -, -, succeeds⟩ := run_all_or_nothing honest_setAccess accepted shelf
  have exit : (runOn shelf overwriting).1.exitCode = 0 := by
    refine succeeds.mpr ⟨books, yields_shelf, fun path isOutput => ?_⟩
    obtain rfl : "m.json" = path := Option.some.inj isOutput
    exact writable_shelf _
  rw [runOn_eq_runWith] at exit ⊢
  rw [← summary_books]
  obtain ⟨model, yields, empty, overwritten⟩ := whole.all exit
  obtain rfl := yields.unique yields_shelf
  exact ⟨honest_setAccess, accepted, exit, empty, yields, overwritten⟩

end CommandLine

end InfoModel
