import EffectPrograms.Program.ReadThrough
import EffectPrograms.Proofs.Delegation

set_option autoImplicit false

namespace EffectPrograms

namespace Program
variable {α σ : Type} {program : Program α}

-- A turn comes to its outcome in so many effects, and leaves the state so.
def Reaches (dispatcher : Dispatcher σ) (bound : Nat) (turn : Turn program) (state : σ)
    (outcome : Outcome α) (left : σ) : Prop :=
  let transcript := program.follow dispatcher bound turn state
  transcript.standing = .finished outcome ∧ transcript.state = left

variable {dispatcher : Dispatcher σ} {bound : Nat} {turn : Turn program} {inner : program.State}
  {state left last : σ} {outcome : Outcome α}

theorem follow_of_done (done : turn = .ok (.done outcome, inner)) :
    program.follow dispatcher bound turn state = ⟨.finished outcome, [], state⟩ := by
  rw [done, follow_done]

theorem follow_of_answered {effect : Effect} {result : Result} {rest : Transcript α σ}
    (suspended : turn = .ok (.suspended effect, inner))
    (interpreted : dispatcher.interpret effect state = (.ready (.ok result), left))
    (later : program.follow dispatcher bound (program.resume inner result) left = rest) :
    program.follow dispatcher (bound + 1) turn state = rest.answered effect result := by
  rw [suspended, follow_ok interpreted, later]

theorem Reaches.done (done : turn = .ok (.done outcome, inner)) :
    Reaches dispatcher bound turn state outcome state := by
  rw [Reaches, follow_of_done done]
  exact ⟨rfl, rfl⟩

theorem Reaches.answered {effect : Effect} {result : Result}
    (suspended : turn = .ok (.suspended effect, inner))
    (interpreted : dispatcher.interpret effect state = (.ready (.ok result), left))
    (rest : Reaches dispatcher bound (program.resume inner result) left outcome last) :
    Reaches dispatcher (bound + 1) turn state outcome last := by
  rw [Reaches, follow_of_answered suspended interpreted rfl]
  exact rest

theorem Reaches.run
    (reaches : Reaches dispatcher bound (program.start program.initial) state outcome left) :
    program.run dispatcher bound state = (.finished outcome, left) := by
  rw [Reaches, ← run_standing, ← run_state] at reaches
  exact Prod.ext (Progress.finished_of_standing reaches.1) reaches.2

end Program

namespace ReadThrough
variable {σ : Type}

def kept? : Cache.Lookup → Option Document
  | .hit bytes => Document.decode? bytes
  | .miss => none

theorem resume_kept (r : ReadThrough) {found : Cache.Lookup} {value : Document}
    (kept : kept? found = some value) :
    r.program.resume State.checkingCache (.cache (.lookup found)) =
      .ok (.done (.ok (some value)), .finished) := by
  cases found with
  | miss => cases kept
  | hit bytes =>
    simp only [kept?] at kept
    simp only [program, Effect.accept, Effect.accept?, lookUp, Cache.Request.accept?, kept]

theorem resume_unkept (r : ReadThrough) {found : Cache.Lookup} (unkept : kept? found = none) :
    r.program.resume State.checkingCache (.cache (.lookup found)) =
      .ok (.suspended r.read, .readingRecord) := by
  cases found with
  | miss => rfl
  | hit bytes =>
    simp only [kept?] at unkept
    simp only [program, Effect.accept, Effect.accept?, lookUp, Cache.Request.accept?, unkept]

theorem resume_absent (r : ReadThrough) :
    r.program.resume State.readingRecord (.storage (.lookup .notFound)) =
      .ok (.done (.ok none), .finished) := rfl

theorem resume_found (r : ReadThrough) (value : Document) :
    r.program.resume State.readingRecord (.storage (.lookup (.found value))) =
      .ok (.suspended (r.fill value), .fillingCache value) := rfl

theorem resume_stored (r : ReadThrough) (value : Document) (ack : Cache.Ack) :
    r.program.resume (State.fillingCache value) (.cache (.stored ack)) =
      .ok (.done (.ok (some value)), .finished) := rfl

-- How a reader comes to its answer when no effect fails.
inductive Reads (dispatcher : Dispatcher σ) (r : ReadThrough) (state : σ) :
    Option Document → σ → Prop where
  | hit {found : Cache.Lookup} {left : σ} {value : Document}
      (looked : dispatcher.interpret r.lookUp state = (.ready (.ok (.cache (.lookup found))), left))
      (kept : kept? found = some value) : Reads dispatcher r state (some value) left
  | absent {found : Cache.Lookup} {left after : σ}
      (looked : dispatcher.interpret r.lookUp state = (.ready (.ok (.cache (.lookup found))), left))
      (unkept : kept? found = none)
      (read : dispatcher.interpret r.read left =
        (.ready (.ok (.storage (.lookup .notFound))), after)) : Reads dispatcher r state none after
  | filled {found : Cache.Lookup} {left after last : σ} {value : Document} {ack : Cache.Ack}
      (looked : dispatcher.interpret r.lookUp state = (.ready (.ok (.cache (.lookup found))), left))
      (unkept : kept? found = none)
      (read : dispatcher.interpret r.read left =
        (.ready (.ok (.storage (.lookup (.found value)))), after))
      (stored : dispatcher.interpret (r.fill value) after =
        (.ready (.ok (.cache (.stored ack))), last)) : Reads dispatcher r state (some value) last

theorem Reads.run {dispatcher : Dispatcher σ} {r : ReadThrough} {state left : σ}
    {answer : Option Document} (reads : Reads dispatcher r state answer left) (extra : Nat) :
    r.program.run dispatcher (extra + 3) state = (.finished (.ok answer), left) := by
  refine Program.Reaches.run ?_
  cases reads with
  | hit looked kept =>
    exact .answered rfl looked (.done (resume_kept r kept))
  | absent looked unkept read =>
    exact .answered rfl looked (.answered (resume_unkept r unkept) read
      (.done (resume_absent r)))
  | filled looked unkept read stored =>
    exact .answered rfl looked (.answered (resume_unkept r unkept) read
      (.answered (resume_found r _) stored (.done (resume_stored r _ _))))

section
variable {dispatcher : Dispatcher σ} {r : ReadThrough} {state left after last : σ}
  {found : Cache.Lookup} {value : Document} {ack : Cache.Ack}
  (looked : dispatcher.interpret r.lookUp state = (.ready (.ok (.cache (.lookup found))), left))
include looked

-- A run that the cache alone answers, and one that goes all the way to filling it.
theorem ends_hit (kept : kept? found = some value) :
    r.program.Ends dispatcher state [(r.lookUp, .ok (.cache (.lookup found)))] (.ok (some value))
      left := by
  refine (Program.ends_iff_transcript ..).mpr ⟨1, ?_⟩
  rw [Program.transcript_eq_follow]
  exact Program.follow_of_answered rfl looked (Program.follow_of_done (resume_kept r kept))

theorem ends_filled (unkept : kept? found = none)
    (read : dispatcher.interpret r.read left =
      (.ready (.ok (.storage (.lookup (.found value)))), after))
    (stored : dispatcher.interpret (r.fill value) after =
      (.ready (.ok (.cache (.stored ack))), last)) :
    r.program.Ends dispatcher state
      [(r.lookUp, .ok (.cache (.lookup found))),
        (r.read, .ok (.storage (.lookup (.found value)))),
        (r.fill value, .ok (.cache (.stored ack)))] (.ok (some value)) last := by
  refine (Program.ends_iff_transcript ..).mpr ⟨3, ?_⟩
  rw [Program.transcript_eq_follow]
  exact Program.follow_of_answered rfl looked
    (Program.follow_of_answered (resume_unkept r unkept) read
      (Program.follow_of_answered (resume_found r value) stored
        (Program.follow_of_done (resume_stored r value ack))))

end

end ReadThrough
end EffectPrograms
