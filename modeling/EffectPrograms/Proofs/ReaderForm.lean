import EffectPrograms.Proofs.MonadLaws
import EffectPrograms.Proofs.Reading

set_option autoImplicit false

namespace EffectPrograms
namespace ReadThrough
open Program

-- Reads the record, and puts it into the cache if there is one.
def readAndFill (r : ReadThrough) : Program (Option Document) :=
  (perform (.storage (.get r.table r.key))).andThen fun
    | .notFound => pure none
    | .found value =>
        (perform (.cache (.set r.cacheKey value.encoded r.ttl))).map fun _ => some value

-- Asks the cache, and reads the record where the cache has no document to offer.
def composed (r : ReadThrough) : Program (Option Document) :=
  (perform (.cache (.get r.cacheKey))).andThen fun
    | .miss => r.readAndFill
    | .hit bytes =>
        match Document.decode? bytes with
        | some value => pure (some value)
        | none => r.readAndFill

theorem matches_perform {α : Type} {whole : Program α} {effect : Effect} {state : whole.State}
    {next : effect.Response → Program α}
    (refused : ∀ result error, effect.accept result = .error error →
      ∃ inner, whole.resume state result = .ok (.done (.error error), inner))
    (answered : ∀ response, Matches whole (next response)
      (whole.resume state (effect.answer response))
      ((next response).start (next response).initial)) :
    Matches whole ((perform effect).andThen next) (.ok (.suspended effect, state))
      (((perform effect).andThen next).start ((perform effect).andThen next).initial) := by
  refine Matches.suspended effect fun result => ?_
  have resumed : ((perform effect).andThen next).resume (.first .suspended) result =
      AndThen.afterFirst (.ok (.done (effect.accept result), Perform.State.finished)) := rfl
  rw [resumed]
  cases accepted : effect.accept result with
  | error error =>
    obtain ⟨inner, done⟩ := refused result error accepted
    rw [done]
    exact .done (.error error) _ _
  | ok response =>
    obtain rfl := Effect.answer_of_accept accepted
    exact (answered response).trans (afterFirst_matches next response _).symm

variable (r : ReadThrough)

theorem filling_matches (value : Document) :
    let filling := (perform (r.fill value)).andThen fun _ => pure (some value)
    Matches r.program filling (.ok (.suspended (r.fill value), .fillingCache value))
      (filling.start filling.initial) := by
  refine matches_perform (fun result error refused => ?_) fun ack => ?_
  · exact ⟨.finished, by simp only [program, refused]⟩
  · exact .done (.ok (some value)) _ _

theorem reading_matches :
    Matches r.program r.readAndFill (.ok (.suspended r.read, .readingRecord))
      (r.readAndFill.start r.readAndFill.initial) := by
  refine matches_perform (fun result error refused => ?_) fun found => ?_
  · have refused : r.read.accept result = .error error := refused
    exact ⟨.finished, by simp only [program, refused]⟩
  · cases found with
    | notFound => exact .done (.ok none) _ _
    | found value =>
      have filling : Equivalent ((perform (r.fill value)).map fun _ => some value) _ :=
        map_eq_andThen _ _
      exact (r.filling_matches value).trans filling.symm

theorem program_equivalent : Equivalent r.program r.composed := by
  refine matches_perform (fun result error refused => ?_) fun found => ?_
  · have refused : r.lookUp.accept result = .error error := refused
    exact ⟨.finished, by simp only [program, refused]⟩
  · cases found with
    | miss => exact r.reading_matches
    | hit bytes =>
      dsimp only
      change Matches _ _ (r.program.resume State.checkingCache (.cache (.lookup (.hit bytes)))) _
      have looked : kept? (.hit bytes) = Document.decode? bytes := rfl
      cases decoded : Document.decode? bytes with
      | none =>
        rw [r.resume_unkept (looked.trans decoded)]
        exact r.reading_matches
      | some value =>
        rw [r.resume_kept (looked.trans decoded)]
        exact .done (.ok (some value)) _ _

theorem composed_built : Built r.composed := by
  have reads : Built r.readAndFill := by
    refine .andThen (.perform _) fun found => ?_
    cases found with
    | notFound => exact .pure none
    | found value => exact .map (.perform _) _
  refine .andThen (.perform _) fun found => ?_
  cases found with
  | miss => exact reads
  | hit bytes =>
    dsimp only
    cases Document.decode? bytes with
    | none => exact reads
    | some value => exact .pure (some value)

/-- A reader takes the same steps as its form put together from requests, whatever results it is
fed: the same effects, and the same outcome or error. The two also answer and refuse the same calls
after their end and out of turn. -/
theorem reader_composed (r : ReadThrough) :
    Equivalent r.program r.composed ∧ AnswersAlike r.program r.composed := by
  have same := r.program_equivalent
  exact ⟨same, same.answersAlike ⟨_, .readThrough r⟩ r.composed_built.conforms⟩

end ReadThrough
end EffectPrograms
