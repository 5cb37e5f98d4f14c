import EffectPrograms.Proofs.Transcript

set_option autoImplicit false

namespace EffectPrograms
variable {α : Type}

-- What is seen of a program that is started and given results one after another.
abbrev Behaviour (α : Type) : Type := List Result → Except Violation (Step α)

namespace Program
variable {program : Program α}

def stepsFrom (turn : Turn program) : Behaviour α
  | [] => turn.map Prod.fst
  | result :: results =>
      match turn with
      | .error violation => .error violation
      | .ok (_, inner) => stepsFrom (program.resume inner result) results

-- The step that a program takes last when it is started and resumed with results in order.
def stepAfter (program : Program α) : Behaviour α := stepsFrom (program.start program.initial)

theorem stepsFrom_suspended {turn : Turn program} {effect : Effect}
    (suspended : stepsFrom turn [] = .ok (.suspended effect)) :
    ∃ inner, turn = .ok (.suspended effect, inner) := by
  rcases turn with violation | ⟨step, inner⟩
  · cases suspended
  · obtain rfl : step = .suspended effect := Except.ok.inj suspended
    exact ⟨inner, rfl⟩

end Program

namespace Script
open Program

-- The way of a behaviour through a script: the replies, the results taken from them, the effects
-- presented, how the run stands at its end, and the replies that are left.
inductive Course : Behaviour α → List Reply → List Result → List Effect → Standing α →
    List Reply → Prop where
  | done {behaviour : Behaviour α} {outcome : Outcome α} (replies : List Reply)
      (step : behaviour [] = .ok (.done outcome)) :
      Course behaviour replies [] [] (.finished outcome) replies
  | violated {behaviour : Behaviour α} {violation : Violation} (replies : List Reply)
      (step : behaviour [] = .error violation) :
      Course behaviour replies [] [] (.violated violation) replies
  | failed {behaviour : Behaviour α} {effect : Effect} (kind : ErrorKind)
      (retryable : Option Bool) (message : String) (left : List Reply)
      (step : behaviour [] = .ok (.suspended effect)) :
      Course behaviour (.fail kind retryable message :: left) [] [effect]
        (.finished (.error ⟨effect, kind, retryable.getD kind.isRetryable, message⟩)) left
  | exhausted {behaviour : Behaviour α} {effect : Effect}
      (step : behaviour [] = .ok (.suspended effect)) :
      Course behaviour [] [] [effect]
        (.finished (.error ⟨effect, .internal, false, "dispatcher script exhausted"⟩)) []
  | replied {behaviour : Behaviour α} {effect : Effect} {result : Result}
      {replies left : List Reply} {results : List Result} {presented : List Effect}
      {standing : Standing α}
      (step : behaviour [] = .ok (.suspended effect))
      (later : Course (fun rest => behaviour (result :: rest)) replies results presented standing
        left) :
      Course behaviour (.ok result :: replies) (result :: results) (effect :: presented) standing
        left

theorem course_exists (behaviour : Behaviour α) (replies : List Reply) :
    ∃ results presented standing left,
      Course behaviour replies results presented standing left := by
  induction replies generalizing behaviour with
  | nil =>
    rcases step : behaviour [] with violation | effect | outcome
    · exact ⟨_, _, _, _, .violated [] step⟩
    · exact ⟨_, _, _, _, .exhausted step⟩
    · exact ⟨_, _, _, _, .done [] step⟩
  | cons reply replies ih =>
    rcases step : behaviour [] with violation | effect | outcome
    · exact ⟨_, _, _, _, .violated _ step⟩
    · cases reply with
      | ok result =>
        obtain ⟨_, _, _, _, later⟩ := ih fun rest => behaviour (result :: rest)
        exact ⟨_, _, _, _, .replied step later⟩
      | fail kind retryable message => exact ⟨_, _, _, _, .failed kind retryable message _ step⟩
    · exact ⟨_, _, _, _, .done _ step⟩

-- Where a behaviour that took all these results stands before the rest of the script: how the run
-- ends, the replies left, and the number of effects presented.
inductive Ending (behaviour : Behaviour α) (results : List Result) :
    List Reply → Standing α → List Reply → Nat → Prop where
  | done {outcome : Outcome α} (rest : List Reply)
      (step : behaviour results = .ok (.done outcome)) :
      Ending behaviour results rest (.finished outcome) rest results.length
  | violated {violation : Violation} (rest : List Reply)
      (step : behaviour results = .error violation) :
      Ending behaviour results rest (.violated violation) rest results.length
  | failed {effect : Effect} (kind : ErrorKind) (retryable : Option Bool) (message : String)
      (left : List Reply) (step : behaviour results = .ok (.suspended effect)) :
      Ending behaviour results (.fail kind retryable message :: left)
        (.finished (.error ⟨effect, kind, retryable.getD kind.isRetryable, message⟩)) left
        (results.length + 1)
  | exhausted {effect : Effect} (step : behaviour results = .ok (.suspended effect)) :
      Ending behaviour results []
        (.finished (.error ⟨effect, .internal, false, "dispatcher script exhausted"⟩)) []
        (results.length + 1)

theorem Ending.replied {behaviour : Behaviour α} {result : Result} {results : List Result}
    {rest left : List Reply} {standing : Standing α} {count : Nat}
    (later : Ending (fun rest => behaviour (result :: rest)) results rest standing left count) :
    Ending behaviour (result :: results) rest standing left (count + 1) := by
  cases later with
  | done _ step => exact .done rest step
  | violated _ step => exact .violated rest step
  | failed kind retryable message _ step => exact .failed kind retryable message left step
  | exhausted step => exact .exhausted step

section Reading
variable {behaviour : Behaviour α} {replies left : List Reply} {results : List Result}
  {presented : List Effect} {standing : Standing α}

-- Only the steps after the results that were taken decide the course.
theorem Course.congr {other : Behaviour α}
    (course : Course behaviour replies results presented standing left)
    (same : ∀ count, other (results.take count) = behaviour (results.take count)) :
    Course other replies results presented standing left := by
  induction course generalizing other with
  | done replies step => exact .done replies ((same 0).trans step)
  | violated replies step => exact .violated replies ((same 0).trans step)
  | failed kind retryable message left step =>
    exact .failed kind retryable message left ((same 0).trans step)
  | exhausted step => exact .exhausted ((same 0).trans step)
  | replied step later ih =>
    exact .replied ((same 0).trans step) (ih fun count => same (count + 1))

theorem Course.presented_suspends
    (course : Course behaviour replies results presented standing left) (place : Nat)
    (effect : Effect) (found : presented[place]? = some effect) :
    behaviour (results.take place) = .ok (.suspended effect) := by
  induction course generalizing place with
  | done | violated => simp at found
  | failed _ _ _ _ step | exhausted step =>
    obtain ⟨rfl, rfl⟩ : place = 0 ∧ _ = effect := by simpa [List.getElem?_singleton] using found
    exact step
  | replied step later ih =>
    cases place with
    | zero =>
      obtain rfl : _ = effect := by simpa using found
      exact step
    | succ place => exact ih place (by simpa using found)

theorem Course.ending (course : Course behaviour replies results presented standing left) :
    ∃ rest, replies = results.map .ok ++ rest ∧
      Ending behaviour results rest standing left presented.length := by
  induction course with
  | done replies step => exact ⟨replies, rfl, .done replies step⟩
  | violated replies step => exact ⟨replies, rfl, .violated replies step⟩
  | failed kind retryable message left step =>
    exact ⟨_, rfl, .failed kind retryable message left step⟩
  | exhausted step => exact ⟨[], rfl, .exhausted step⟩
  | replied step later ih =>
    obtain ⟨rest, split, ending⟩ := ih
    exact ⟨rest, congrArg _ split, ending.replied⟩

theorem Course.presented_le (course : Course behaviour replies results presented standing left) :
    presented.length ≤ replies.length + 1 := by
  induction course with
  | done | violated => simp
  | failed | exhausted => simp
  | replied _ _ ih => simpa using ih

end Reading

theorem follow_course {program : Program α} {turn : Turn program} {replies left : List Reply}
    {results : List Result} {fresh : List Effect} {standing : Standing α}
    (course : Course (stepsFrom turn) replies results fresh standing left) (bound : Nat)
    (enough : fresh.length ≤ bound) (known : List Effect) :
    let followed := program.follow .scripted bound turn ⟨replies, known⟩
    followed.standing = standing ∧ followed.state = ⟨left, known ++ fresh⟩ := by
  generalize behaves : stepsFrom turn = behaviour at course
  induction course generalizing turn bound known with
  | done replies step =>
    rw [← behaves] at step
    rcases turn with violation | ⟨step, inner⟩ <;> cases step
    simp
  | violated replies step =>
    rw [← behaves] at step
    rcases turn with violation | ⟨step, inner⟩ <;> cases step
    simp
  | failed kind retryable message left step =>
    obtain ⟨inner, rfl⟩ := stepsFrom_suspended (behaves ▸ step)
    obtain ⟨bound, rfl⟩ : ∃ less, bound = less + 1 := Nat.exists_eq_add_of_le' enough
    cases retryable with
    | none => exact ⟨rfl, rfl⟩
    | some retryable => exact ⟨rfl, rfl⟩
  | exhausted step =>
    obtain ⟨inner, rfl⟩ := stepsFrom_suspended (behaves ▸ step)
    obtain ⟨bound, rfl⟩ : ∃ less, bound = less + 1 := Nat.exists_eq_add_of_le' enough
    exact ⟨rfl, rfl⟩
  | @replied _ effect result replies _ _ presented _ step later ih =>
    obtain ⟨inner, rfl⟩ := stepsFrom_suspended (behaves ▸ step)
    obtain ⟨bound, rfl⟩ : ∃ less, bound = less + 1 :=
      Nat.exists_eq_add_of_le' (Nat.le_trans (by simp) enough)
    have interpreted : Dispatcher.scripted.interpret effect ⟨.ok result :: replies, known⟩ =
        (.ready (.ok result), ⟨replies, known ++ [effect]⟩) := rfl
    have continues : stepsFrom (program.resume inner result) = fun rest => _ :=
      funext fun rest => congrFun behaves (result :: rest)
    obtain ⟨stands, state⟩ := ih bound (by simpa using enough) (known ++ [effect]) continues
    rw [follow_ok interpreted]
    exact ⟨stands, by simpa using state⟩

theorem run_course {program : Program α} {replies left : List Reply} {results : List Result}
    {presented : List Effect} {standing : Standing α}
    (course : Course program.stepAfter replies results presented standing left) (extra : Nat) :
    let run := program.run .scripted (replies.length + 1 + extra) (.of replies)
    run.1.standing = standing ∧ run.2 = ⟨left, presented⟩ := by
  have enough : presented.length ≤ replies.length + 1 + extra :=
    Nat.le_trans course.presented_le (Nat.le_add_right _ _)
  dsimp only
  rw [run_standing, run_state]
  exact follow_course course (replies.length + 1 + extra) enough []

/-- Over a script of `m` replies every run ends within `m + 1` effects. It takes results from the
front of the script, and each effect presented is what the program suspends on after the results
before; `Ending` says what stops it. What the program would do with further results is never
asked for. -/
theorem scripted_run (program : Program α) (replies : List Reply) (extra : Nat) :
    let run := program.run .scripted (replies.length + 1 + extra) (.of replies)
    ∃ results rest, replies = results.map .ok ++ rest ∧
      Ending program.stepAfter results rest run.1.standing run.2.replies run.2.presented.length ∧
      run.2.presented.length ≤ replies.length + 1 ∧
      (∀ place effect, run.2.presented[place]? = some effect →
        program.stepAfter (results.take place) = .ok (.suspended effect)) ∧
      ∀ other : Program α,
        (∀ count, other.stepAfter (results.take count) = program.stepAfter (results.take count)) →
        let twin := other.run .scripted (replies.length + 1 + extra) (.of replies)
        twin.1.standing = run.1.standing ∧ twin.2 = run.2 := by
  obtain ⟨results, presented, standing, left, course⟩ := course_exists program.stepAfter replies
  obtain ⟨stands, script⟩ := run_course course extra
  obtain ⟨rest, split, ending⟩ := course.ending
  refine ⟨results, rest, split, ?_, ?_, ?_, ?_⟩
  · rw [stands, script]
    exact ending
  · rw [script]
    exact course.presented_le
  · intro place effect found
    rw [script] at found
    exact course.presented_suspends place effect found
  · intro other same
    obtain ⟨otherStands, otherScript⟩ := run_course (course.congr same) extra
    exact ⟨otherStands.trans stands.symm, otherScript.trans script.symm⟩

end Script
end EffectPrograms
