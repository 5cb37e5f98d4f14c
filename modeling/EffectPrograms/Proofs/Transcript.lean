import EffectPrograms.Dispatch.Doubles
import EffectPrograms.Program.Run

set_option autoImplicit false

namespace EffectPrograms
variable {α σ : Type}

-- The progress of a run without the execution that it leaves.
inductive Standing (α : Type) where
  | finished (outcome : Outcome α)
  | violated (violation : Violation)
  | waiting (effect : Effect) (ticket : Nat)
  | bounded (effect : Effect)

def Progress.standing {program : Program α} : Progress program → Standing α
  | .finished outcome => .finished outcome
  | .violated violation => .violated violation
  | .waiting effect ticket _ => .waiting effect ticket
  | .bounded effect _ => .bounded effect

theorem Progress.finished_of_standing {program : Program α} {progress : Progress program}
    {outcome : Outcome α} (stands : progress.standing = .finished outcome) :
    progress = .finished outcome := by
  cases progress with
  | finished other => exact congrArg _ (Standing.finished.inj stands)
  | violated _ | waiting _ _ _ | bounded _ _ => cases stands

structure Transcript (α σ : Type) where
  standing : Standing α
  trace : List (Effect × Outcome Result)
  state : σ

namespace Transcript

def answered (effect : Effect) (result : Result) (rest : Transcript α σ) : Transcript α σ :=
  { rest with trace := (effect, .ok result) :: rest.trace }

@[simp] theorem answered_standing (effect : Effect) (result : Result) (rest : Transcript α σ) :
    (rest.answered effect result).standing = rest.standing := rfl

@[simp] theorem answered_state (effect : Effect) (result : Result) (rest : Transcript α σ) :
    (rest.answered effect result).state = rest.state := rfl

@[simp] theorem answered_trace (effect : Effect) (result : Result) (rest : Transcript α σ) :
    (rest.answered effect result).trace = (effect, .ok result) :: rest.trace := rfl

end Transcript

namespace Program
variable {program : Program α}

-- What a recorder and the driver show of a run that starts with no trace.
def transcript (program : Program α) (dispatcher : Dispatcher σ) (bound : Nat) (state : σ) :
    Transcript α σ :=
  let run := program.run dispatcher.recording bound (state, #[])
  ⟨run.1.standing, run.2.2.toList, run.2.1⟩

-- A program's answer to one call, with the state it is in afterwards.
abbrev Turn (program : Program α) : Type := Except Violation (Step α × program.State)

def follow (program : Program α) (dispatcher : Dispatcher σ) :
    Nat → Turn program → σ → Transcript α σ
  | _, .error violation, state => ⟨.violated violation, [], state⟩
  | _, .ok (.done outcome, _), state => ⟨.finished outcome, [], state⟩
  | 0, .ok (.suspended effect, _), state => ⟨.bounded effect, [], state⟩
  | bound + 1, .ok (.suspended effect, inner), state =>
      match dispatcher.interpret effect state with
      | (.ready (.ok result), state) =>
          (follow program dispatcher bound (program.resume inner result) state).answered effect
            result
      | (.ready (.error error), state) =>
          ⟨.finished (.error error), [(effect, .error error)], state⟩
      | (.waiting ticket, state) => ⟨.waiting effect ticket, [], state⟩

@[simp] theorem follow_violated (program : Program α) (dispatcher : Dispatcher σ) (bound : Nat)
    (violation : Violation) (state : σ) :
    program.follow dispatcher bound (.error violation) state =
      ⟨.violated violation, [], state⟩ := by
  cases bound <;> rfl

@[simp] theorem follow_done (program : Program α) (dispatcher : Dispatcher σ) (bound : Nat)
    (outcome : Outcome α) (inner : program.State) (state : σ) :
    program.follow dispatcher bound (.ok (.done outcome, inner)) state =
      ⟨.finished outcome, [], state⟩ := by
  cases bound <;> rfl

theorem follow_ok {dispatcher : Dispatcher σ} {bound : Nat} {effect : Effect}
    {inner : program.State} {state left : σ} {result : Result}
    (interpreted : dispatcher.interpret effect state = (.ready (.ok result), left)) :
    program.follow dispatcher (bound + 1) (.ok (.suspended effect, inner)) state =
      (program.follow dispatcher bound (program.resume inner result) left).answered effect
        result := by
  simp only [follow, interpreted]

theorem follow_error {dispatcher : Dispatcher σ} {bound : Nat} {effect : Effect}
    {inner : program.State} {state left : σ} {error : EffectError}
    (interpreted : dispatcher.interpret effect state = (.ready (.error error), left)) :
    program.follow dispatcher (bound + 1) (.ok (.suspended effect, inner)) state =
      ⟨.finished (.error error), [(effect, .error error)], left⟩ := by
  simp only [follow, interpreted]

theorem follow_waiting {dispatcher : Dispatcher σ} {bound : Nat} {effect : Effect}
    {inner : program.State} {state left : σ} {ticket : Nat}
    (interpreted : dispatcher.interpret effect state = (.waiting ticket, left)) :
    program.follow dispatcher (bound + 1) (.ok (.suspended effect, inner)) state =
      ⟨.waiting effect ticket, [], left⟩ := by
  simp only [follow, interpreted]

-- A run goes on only from an effect that was answered.
@[elab_as_elim]
theorem follow_induction (program : Program α) (dispatcher : Dispatcher σ)
    {motive : Nat → Turn program → σ → Prop}
    (violated : ∀ bound violation state, motive bound (.error violation) state)
    (done : ∀ bound outcome inner state, motive bound (.ok (.done outcome, inner)) state)
    (bounded : ∀ effect inner state, motive 0 (.ok (.suspended effect, inner)) state)
    (answered : ∀ bound effect inner state result left,
      dispatcher.interpret effect state = (.ready (.ok result), left) →
        motive bound (program.resume inner result) left →
          motive (bound + 1) (.ok (.suspended effect, inner)) state)
    (failed : ∀ bound effect inner state error left,
      dispatcher.interpret effect state = (.ready (.error error), left) →
        motive (bound + 1) (.ok (.suspended effect, inner)) state)
    (waits : ∀ bound effect inner state ticket left,
      dispatcher.interpret effect state = (.waiting ticket, left) →
        motive (bound + 1) (.ok (.suspended effect, inner)) state)
    (bound : Nat) (turn : Turn program) (state : σ) : motive bound turn state := by
  induction bound generalizing turn state with
  | zero =>
    rcases turn with violation | ⟨effect | outcome, inner⟩
    · exact violated 0 violation state
    · exact bounded effect inner state
    · exact done 0 outcome inner state
  | succ bound ih =>
    rcases turn with violation | ⟨effect | outcome, inner⟩
    · exact violated (bound + 1) violation state
    · rcases interpreted : dispatcher.interpret effect state with ⟨⟨error | result⟩ | ticket, left⟩
      · exact failed bound effect inner state error left interpreted
      · exact answered bound effect inner state result left interpreted (ih _ left)
      · exact waits bound effect inner state ticket left interpreted
    · exact done (bound + 1) outcome inner state

-- Effects that are answered one after another, with their results.
inductive Performs (dispatcher : Dispatcher σ) : σ → List (Effect × Result) → σ → Prop where
  | nil (state : σ) : Performs dispatcher state [] state
  | cons {effect : Effect} {result : Result} {state middle final : σ}
      {later : List (Effect × Result)}
      (answered : dispatcher.interpret effect state = (.ready (.ok result), middle))
      (rest : Performs dispatcher middle later final) :
      Performs dispatcher state ((effect, result) :: later) final

def answers (done : List (Effect × Result)) : List (Effect × Outcome Result) :=
  done.map fun entry => (entry.1, .ok entry.2)

-- A failed effect is the last of its run, and all before it were answered.
inductive Traced (dispatcher : Dispatcher σ) (state : σ) : Transcript α σ → Prop where
  | answered (standing : Standing α) (done : List (Effect × Result)) (final : σ) :
      Traced dispatcher state ⟨standing, answers done, final⟩
  | failed {done : List (Effect × Result)} {middle final : σ} {effect : Effect}
      {error : EffectError} (before : Performs dispatcher state done middle)
      (refused : dispatcher.interpret effect middle = (.ready (.error error), final)) :
      Traced dispatcher state
        ⟨.finished (.error error), answers done ++ [(effect, .error error)], final⟩

theorem Traced.after {dispatcher : Dispatcher σ} {effect : Effect} {result : Result}
    {state middle : σ} {transcript : Transcript α σ}
    (interpreted : dispatcher.interpret effect state = (.ready (.ok result), middle))
    (traced : Traced dispatcher middle transcript) :
    Traced dispatcher state (transcript.answered effect result) := by
  cases traced with
  | answered standing done final => exact .answered standing ((effect, result) :: done) final
  | failed before refused => exact .failed (.cons interpreted before) refused

theorem follow_traced (dispatcher : Dispatcher σ) (bound : Nat) (turn : Turn program) (state : σ) :
    Traced dispatcher state (program.follow dispatcher bound turn state) := by
  induction bound, turn, state using follow_induction program dispatcher with
  | violated bound violation state =>
    rw [follow_violated]
    exact .answered _ [] state
  | done bound outcome inner state =>
    rw [follow_done]
    exact .answered _ [] state
  | bounded effect inner state => exact .answered _ [] state
  | answered bound effect inner state result left interpreted ih =>
    rw [follow_ok interpreted]
    exact ih.after interpreted
  | failed bound effect inner state error left interpreted =>
    rw [follow_error interpreted]
    exact .failed (.nil state) interpreted
  | waits bound effect inner state ticket left interpreted =>
    rw [follow_waiting interpreted]
    exact .answered _ [] left

-- Turns of two programs that show the same step and leave related states.
inductive Alike {other : Program α} (related : program.State → other.State → Prop) :
    Turn program → Turn other → Prop where
  | violated (violation : Violation) : Alike related (.error violation) (.error violation)
  | done (outcome : Outcome α) (inner : program.State) (twin : other.State) :
      Alike related (.ok (.done outcome, inner)) (.ok (.done outcome, twin))
  | suspended (effect : Effect) {inner : program.State} {twin : other.State}
      (pair : related inner twin) :
      Alike related (.ok (.suspended effect, inner)) (.ok (.suspended effect, twin))

theorem follow_alike {other : Program α} {related : program.State → other.State → Prop}
    (kept : ∀ inner twin result, related inner twin →
      Alike related (program.resume inner result) (other.resume twin result))
    (dispatcher : Dispatcher σ) (bound : Nat) {turn : Turn program} {twin : Turn other}
    (alike : Alike related turn twin) (state : σ) :
    program.follow dispatcher bound turn state = other.follow dispatcher bound twin state := by
  induction bound generalizing turn twin state with
  | zero => cases alike <;> rfl
  | succ bound ih =>
    cases alike with
    | violated | done => rfl
    | suspended effect pair =>
      rcases interpreted : dispatcher.interpret effect state with ⟨⟨error | result⟩ | ticket, left⟩
      · rw [follow_error interpreted, follow_error interpreted]
      · rw [follow_ok interpreted, follow_ok interpreted, ih (kept _ _ result pair) left]
      · rw [follow_waiting interpreted, follow_waiting interpreted]

-- The guard has just seen the program suspend, so it lets the resumption through.
theorem drive_resumes {dispatcher : Dispatcher σ} {effect : Effect} {state left : σ}
    {result : Result} (bound : Nat) (execution : Execution program) (inner : program.State)
    (interpreted : dispatcher.interpret effect state = (.ready (.ok result), left)) :
    ∃ later : Execution program,
      drive dispatcher (bound + 1) (execution.observe (.ok (.suspended effect, inner))) state =
        drive dispatcher bound (later.observe (program.resume inner result)) left := by
  refine ⟨⟨inner, (Step.suspended effect : Step α).phase, execution.suspensions + 1⟩, ?_⟩
  simp only [Execution.observe, drive, interpreted]
  rfl

theorem drive_observe (dispatcher : Dispatcher σ) (bound : Nat) (execution : Execution program)
    (turn : Turn program) (state : σ) :
    let driven := drive dispatcher bound (execution.observe turn) state
    let followed := program.follow dispatcher bound turn state
    driven.1.standing = followed.standing ∧ driven.2 = followed.state := by
  induction bound, turn, state using follow_induction program dispatcher generalizing execution with
  | violated bound violation state => cases bound <;> exact ⟨rfl, rfl⟩
  | done bound outcome inner state => cases bound <;> exact ⟨rfl, rfl⟩
  | bounded effect inner state => exact ⟨rfl, rfl⟩
  | answered bound effect inner state result left interpreted ih =>
    obtain ⟨later, driven⟩ := drive_resumes bound execution inner interpreted
    rw [follow_ok interpreted, driven]
    exact ih later
  | failed bound effect inner state error left interpreted =>
    rw [follow_error interpreted]
    simp only [Execution.observe, drive, interpreted, Progress.standing, and_self]
  | waits bound effect inner state ticket left interpreted =>
    rw [follow_waiting interpreted]
    simp only [Execution.observe, drive, interpreted, Progress.standing, and_self]

theorem run_standing (program : Program α) (dispatcher : Dispatcher σ) (bound : Nat) (state : σ) :
    (program.run dispatcher bound state).1.standing =
      (program.follow dispatcher bound (program.start program.initial) state).standing :=
  (drive_observe dispatcher bound (Execution.of program) _ state).1

theorem run_state (program : Program α) (dispatcher : Dispatcher σ) (bound : Nat) (state : σ) :
    (program.run dispatcher bound state).2 =
      (program.follow dispatcher bound (program.start program.initial) state).state :=
  (drive_observe dispatcher bound (Execution.of program) _ state).2

theorem recording_interpret {dispatcher : Dispatcher σ} {effect : Effect} {state : σ}
    {answer : Poll (Outcome Result) × σ} (interpreted : dispatcher.interpret effect state = answer)
    (known : Trace) :
    dispatcher.recording.interpret effect (state, known) =
      Dispatcher.record effect answer known :=
  congrArg (fun given => Dispatcher.record effect given known) interpreted

theorem follow_recording (dispatcher : Dispatcher σ) (bound : Nat) (turn : Turn program)
    (state : σ) (known : Trace) :
    let recorded := program.follow dispatcher.recording bound turn (state, known)
    let plain := program.follow dispatcher bound turn state
    recorded.standing = plain.standing ∧
      recorded.state = (plain.state, known ++ plain.trace.toArray) := by
  induction bound, turn, state using follow_induction program dispatcher generalizing known with
  | violated bound violation state => simp
  | done bound outcome inner state => simp
  | bounded effect inner state => simp [follow]
  | answered bound effect inner state result left interpreted ih =>
    rw [follow_ok interpreted, follow_ok (recording_interpret interpreted known)]
    obtain ⟨standing, rest⟩ := ih (known.push (effect, .ok result))
    exact ⟨standing, by simpa using rest⟩
  | failed bound effect inner state error left interpreted =>
    rw [follow_error interpreted, follow_error (recording_interpret interpreted known)]
    simp
  | waits bound effect inner state ticket left interpreted =>
    rw [follow_waiting interpreted, follow_waiting (recording_interpret interpreted known)]
    simp

theorem transcript_eq_follow (program : Program α) (dispatcher : Dispatcher σ) (bound : Nat)
    (state : σ) :
    program.transcript dispatcher bound state =
      program.follow dispatcher bound (program.start program.initial) state := by
  obtain ⟨standing, rest⟩ :=
    follow_recording dispatcher bound (program.start program.initial) state #[]
  simp only [transcript, run_standing, run_state, standing, rest]
  simp

theorem run_eq_transcript (program : Program α) (dispatcher : Dispatcher σ) (bound : Nat)
    (state : σ) :
    let run := program.run dispatcher bound state
    let transcript := program.transcript dispatcher bound state
    run.1.standing = transcript.standing ∧ run.2 = transcript.state := by
  simp only [transcript_eq_follow, run_standing, run_state, and_self]

-- What is shown of a run from where it asks again for the effect that it waits for.
def resumed (dispatcher : Dispatcher σ) (bound : Nat) (effect : Effect) (ticket : Nat)
    (execution : Execution program) (state : σ) : Transcript α σ :=
  let run := resumeWaiting dispatcher.recording bound effect ticket execution (state, #[])
  ⟨run.1.standing, run.2.2.toList, run.2.1⟩

theorem call_observes (execution : Execution program) (call : Call) :
    ∃ turn : Turn program, execution.call call = execution.observe turn := by
  cases refused : execution.refusal? call with
  | none => exact ⟨program.call call execution.state, by simp only [Execution.call, refused]⟩
  | some violation =>
    exact ⟨.error violation, by simp only [Execution.call, refused, Execution.observe]⟩

theorem resumed_served {dispatcher : Dispatcher σ} {effect : Effect} {ticket : Nat}
    {state served : σ} {result : Result} (bound : Nat) (execution : Execution program)
    (asked : dispatcher.again effect ticket state = (.ready (.ok result), served)) :
    ∃ turn : Turn program,
      let run := resumeWaiting dispatcher bound effect ticket execution state
      let followed := program.follow dispatcher bound turn served
      (run.1.standing = followed.standing ∧ run.2 = followed.state) ∧
        resumed dispatcher bound effect ticket execution state =
          followed.answered effect result := by
  obtain ⟨turn, observed⟩ := call_observes execution (.resume result)
  have recorded : dispatcher.recording.again effect ticket (state, #[]) =
      (.ready (.ok result), (served, #[(effect, .ok result)])) := by
    simp [Dispatcher.recording, Dispatcher.record, asked]
  obtain ⟨stands, leaves⟩ :=
    drive_observe dispatcher.recording bound execution turn (served, #[(effect, .ok result)])
  obtain ⟨standing, rest⟩ :=
    follow_recording dispatcher bound turn served #[(effect, .ok result)]
  refine ⟨turn, ?_, ?_⟩
  · simp only [resumeWaiting, asked, Execution.resume, observed]
    exact drive_observe dispatcher bound execution turn served
  · simp only [resumed, resumeWaiting, recorded, Execution.resume, observed, stands, leaves,
      standing, rest, Transcript.answered]
    simp

theorem resumed_waiting {dispatcher : Dispatcher σ} {effect : Effect} {ticket later : Nat}
    {state left : σ} (bound : Nat) (execution : Execution program)
    (asked : dispatcher.again effect ticket state = (.waiting later, left)) :
    resumed dispatcher bound effect ticket execution state =
      ⟨.waiting effect later, [], left⟩ := by
  simp [resumed, resumeWaiting, Dispatcher.recording, Dispatcher.record, asked,
    Progress.standing]

end Program
end EffectPrograms
