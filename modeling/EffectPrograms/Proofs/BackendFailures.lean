import EffectPrograms.Proofs.Completion
import EffectPrograms.Proofs.Transcript
import EffectPrograms.Proofs.Validation
import EffectPrograms.Proofs.Work

set_option autoImplicit false

namespace EffectPrograms
variable {α σ : Type}

namespace Program
variable {program : Program α}

-- From a point a run comes to present an effect in some state; what it presented before was answered.
inductive Presents (dispatcher : Dispatcher σ) :
    Point program σ → List (σ → σ) → List (Effect × Result) → Effect → σ → Prop where
  | now (effect : Effect) (execution : Execution program) (state : σ) (changes : List (σ → σ)) :
      Presents dispatcher (.step (.ok (.suspended effect, execution)) state) changes [] effect state
  | presented {effect last : Effect} {execution : Execution program} {state middle : σ}
      {changes : List (σ → σ)} {done : List (Effect × Result)}
      (later : Presents dispatcher (.answer effect execution (dispatcher.interpret effect state))
        changes done last middle) :
      Presents dispatcher (.step (.ok (.suspended effect, execution)) state) changes done last middle
  | answered {effect last : Effect} {execution : Execution program} {result : Result}
      {state middle : σ} {changes : List (σ → σ)} {done : List (Effect × Result)}
      (later : Presents dispatcher (.step (execution.resume result) state) changes done last
        middle) :
      Presents dispatcher (.answer effect execution (.ready (.ok result), state)) changes
        ((effect, result) :: done) last middle
  | waited {effect last : Effect} {execution : Execution program} {ticket : Nat}
      {state middle : σ} {change : σ → σ} {changes : List (σ → σ)}
      {done : List (Effect × Result)}
      (later : Presents dispatcher
        (.answer effect execution (dispatcher.again effect ticket (change state))) changes done last
        middle) :
      Presents dispatcher (.answer effect execution (.waiting ticket, state)) (change :: changes)
        done last middle

def Point.margin : Point program σ → Nat
  | .step .. => 1
  | .answer .. => 0

-- An effect that fails is the last one that a run presents. The induction is on the run before it.
theorem Presents.failed {dispatcher : Dispatcher σ} {point : Point program σ}
    {changes : List (σ → σ)} {done : List (Effect × Result)} {last : Effect} {middle left : σ}
    {error : EffectError} (presents : Presents dispatcher point changes done last middle)
    (fails : dispatcher.interpret last middle = (.ready (.error error), left)) {bound reach : Nat}
    (allowed : done.length ≤ bound) (enough : done.length + point.margin ≤ reach) :
    Traces dispatcher bound reach point changes (answers done ++ [(last, .error error)])
        (.error error) left ∧
      resumeAmid dispatcher bound changes (point.progress dispatcher reach) =
        (.finished (.error error), left) := by
  induction presents generalizing reach with
  | now effect execution state changes =>
    obtain ⟨less, rfl⟩ : ∃ less, reach = less + 1 := Nat.exists_eq_add_of_le' enough
    refine ⟨.presented ?_, ?_⟩
    · rw [fails]
      exact .failed ..
    · rw [progress_suspended, fails, Point.progress, resumeAmid_of_ready (by simp)]
  | presented later ih =>
    obtain ⟨less, rfl⟩ : ∃ less, reach = less + 1 :=
      Nat.exists_eq_add_of_le' (Nat.le_of_add_left_le enough)
    obtain ⟨traces, finished⟩ := ih fails allowed (Nat.le_of_succ_le_succ enough)
    exact ⟨traces.presented, by rwa [progress_suspended]⟩
  | answered later ih =>
    obtain ⟨traces, finished⟩ := ih fails (Nat.le_of_succ_le allowed) enough
    exact ⟨traces.answered, finished⟩
  | waited later ih =>
    obtain ⟨traces, finished⟩ := ih fails allowed allowed
    exact ⟨traces.waited, by rwa [Point.progress, resumeAmid_waiting]⟩

end Program

namespace Memory

structure Tells (config : Config) (effect : Effect) (failure : BackendError) (error : EffectError) :
    Prop where
  effect_eq : error.effect = effect
  kind_eq : error.kind = failure.kind
  message_eq : error.message = failure.message
  retryable_iff : error.retryable = true ↔ failure.kind ∈ config.retry.always ∨
    failure.kind.isRetryable = true ∧ failure.kind ∉ config.retry.never

theorem error_tells (config : Config) (effect : Effect) (failure : BackendError) :
    Tells config effect failure (config.error effect failure.kind failure.message) :=
  ⟨rfl, rfl, rfl, config.isRetryable_iff failure.kind⟩

namespace Backends
variable {config : Config} {dispatcher : Dispatcher Backends}

def strikes? (backends : Backends) (effect : Effect) : Option BackendError :=
  ((backends.faultsOf effect.family).check effect.callName).1

-- What is left when a failure has struck an effect: everything but the failure if it was a one-shot.
def struck (backends : Backends) (effect : Effect) : Backends :=
  backends.withFaults ((backends.faultsOf effect.family).check effect.callName).2 effect.family

theorem interpret_struck (valid : Backends.dispatcher config = .ok dispatcher) {effect : Effect}
    (accepted : config.refusal? effect = none) {backends : Backends} {failure : BackendError}
    (strikes : backends.strikes? effect = some failure) :
    dispatcher.interpret effect backends =
      (.ready (.error (config.error effect failure.kind failure.message)),
        backends.struck effect) := by
  rw [interpret_accepted valid accepted, perform_eq, struck]
  rw [strikes?] at strikes
  generalize (backends.faultsOf effect.family).check effect.callName = answer at strikes ⊢
  obtain ⟨fired, faults⟩ := answer
  obtain rfl : fired = some failure := strikes
  rfl

/-- Where a failure strikes an effect that is not refused, the run ends with an error that tells of
it. What others change before each effect and while the run waits does not matter, and nothing is
presented later. No kind of failure is listed both ways, so either list may be looked at first. -/
theorem failure_reaches_caller (valid : Backends.dispatcher config = .ok dispatcher) :
    (∀ kind, ¬ (kind ∈ config.retry.always ∧ kind ∈ config.retry.never) ∧
      config.isRetryable kind =
        if kind ∈ config.retry.never then false
        else if kind ∈ config.retry.always then true
        else kind.isRetryable) ∧
    ∀ {α : Type} (program : Program α) (between : Nat → Backends → Backends) (start : Backends)
      (changes : List (Backends → Backends)) (done : List (Effect × Result)) (effect : Effect)
      (middle : Backends) (number : Nat) (failure : BackendError),
      Program.Presents (dispatcher.preceded between)
        (.step (Execution.of program).start (start, 0)) (Program.unseen changes) done effect
        (middle, number) →
      config.refusal? effect = none → (between number middle).strikes? effect = some failure →
        ∃ error, Tells config effect failure error ∧ ∀ bound, done.length < bound →
          let left := ((between number middle).struck effect, number + 1)
          let trace : Trace := (Program.answers done).toArray.push (effect, .error error)
          program.runAmid (dispatcher.preceded between) bound (Program.unseen changes) (start, 0) =
              (.finished (.error error), left) ∧
            program.runAmid (dispatcher.preceded between).recording bound
                (Program.unseen (Program.unseen changes)) ((start, 0), #[]) =
              (.finished (.error error), (left, trace)) := by
  have sound := fault?_of_dispatcher valid
  refine ⟨fun kind => ⟨?_, config.isRetryable_eq_never_first sound kind⟩, ?_⟩
  · obtain ⟨-, -, -, consistent⟩ := config.fault?_eq_none_iff.mp sound
    exact fun both => consistent kind both.1 both.2
  · intro α program between start changes done effect middle number failure presents accepted
      strikes
    refine ⟨_, error_tells config effect failure, fun bound allowed => ?_⟩
    have fails := Dispatcher.preceded_interpret (interpret_struck valid accepted strikes)
    obtain ⟨traces, finished⟩ := presents.failed fails (Nat.le_of_lt allowed) allowed
    have recorded := traces.recorded #[]
    rw [Array.empty_append] at recorded
    exact ⟨finished, recorded.trans (by simp)⟩

-- The second of two reads is struck, by a failure that another program scheduled after the first.
-- Failures of its kind are never to be tried again.
theorem failure_reaches_caller_get :
    let config := Config.default.withRetry ⟨[.internal], [.unavailable]⟩
    let get (key : String) := Effect.cache (.get key)
    let program : Program Cache.Lookup :=
      (Program.perform (get "k1")).andThen fun _ => Program.perform (get "k2")
    let failure := BackendError.unavailable "down"
    let between (number : Nat) (backends : Backends) : Backends :=
      if number = 1 then { backends with cache := backends.cache.failNext "get" failure }
      else backends
    ∃ dispatcher error left, Backends.dispatcher config = .ok dispatcher ∧
      Tells config (get "k2") failure error ∧ error.retryable = false ∧
        program.runAmid (dispatcher.preceded between) 2 [] (empty, 0) =
          (.finished (.error error), left) := by
  intro config get program failure between
  have valid : Backends.dispatcher config = .ok (dispatcherFor (fun _ => true) config) := rfl
  obtain ⟨-, reaches⟩ := failure_reaches_caller valid
  obtain ⟨error, tells, finished⟩ := reaches program between empty [] [_] (get "k2") _ 1 failure
    (.presented (.answered (.now (get "k2") _ _ []))) rfl rfl
  refine ⟨_, error, _, valid, tells, ?_, (finished 2 (by decide)).1⟩
  have told := tells.retryable_iff
  simpa [config, failure, Config.withRetry, BackendError.kind] using told

end Backends
end Memory
end EffectPrograms
