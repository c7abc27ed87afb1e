import LoadTest.Proofs.User.Scoping

/-!
The order in which the steps of a scenario are written.

`allWritten` lists all steps at any depth, each followed by what is inside it.  So it lists just the
steps that are inside the scenario (`mem_allWritten_iff`).
-/

namespace LoadTest

mutual

/-- A step, and then all that is inside it. -/
def Step.written : Step → List Step
  | .loop kind counter steps => .loop kind counter steps :: allWritten steps
  | .group name steps => .group name steps :: allWritten steps
  | .branch condition steps => .branch condition steps :: allWritten steps
  | .request asked => [.request asked]
  | .pause rest => [.pause rest]
  | .feed feeder => [.feed feeder]
  | .exec hook => [.exec hook]

/-- All steps at any depth, in the order in which they are written down. -/
def allWritten : List Step → List Step
  | [] => []
  | step :: steps => step.written ++ allWritten steps

end

theorem Step.written_eq (step : Step) : step.written = step :: allWritten step.children := by
  cases step <;> simp [Step.written, Step.children, allWritten]

section

variable {step inner : Step} {steps : List Step}

theorem mem_allWritten_of_mem_written (among : step ∈ steps) (written : inner ∈ step.written) :
    inner ∈ allWritten steps := by
  induction steps with
  | nil => cases among
  | cons first steps inductionHypothesis =>
      rw [allWritten, List.mem_append]
      obtain rfl | later := List.mem_cons.1 among
      · exact .inl written
      · exact .inr (inductionHypothesis later)

theorem Step.Inside.mem_allWritten (inside : inner.Inside steps) : inner ∈ allWritten steps := by
  induction inside with
  | here among =>
      refine mem_allWritten_of_mem_written among ?_
      rw [Step.written_eq]
      exact List.mem_cons_self ..
  | deeper among _ inductionHypothesis =>
      refine mem_allWritten_of_mem_written among ?_
      rw [Step.written_eq]
      exact List.mem_cons_of_mem _ inductionHypothesis

theorem Step.Inside.cons (inside : inner.Inside steps) : inner.Inside (step :: steps) := by
  cases inside with
  | here among => exact .here (List.mem_cons_of_mem _ among)
  | deeper among within => exact .deeper (List.mem_cons_of_mem _ among) within

mutual

theorem Step.inside_of_mem_written : ∀ {step inner : Step} {steps : List Step}, step ∈ steps →
    inner ∈ step.written → inner.Inside steps
  | .loop _ _ _, _, _, among, written => by
      obtain rfl | within := List.mem_cons.1 written
      · exact .here among
      · exact .deeper among (inside_of_mem_allWritten within)
  | .group _ _, _, _, among, written => by
      obtain rfl | within := List.mem_cons.1 written
      · exact .here among
      · exact .deeper among (inside_of_mem_allWritten within)
  | .branch _ _, _, _, among, written => by
      obtain rfl | within := List.mem_cons.1 written
      · exact .here among
      · exact .deeper among (inside_of_mem_allWritten within)
  | .request _, _, _, among, written => .here (List.mem_singleton.1 written ▸ among)
  | .pause _, _, _, among, written => .here (List.mem_singleton.1 written ▸ among)
  | .feed _, _, _, among, written => .here (List.mem_singleton.1 written ▸ among)
  | .exec _, _, _, among, written => .here (List.mem_singleton.1 written ▸ among)

theorem inside_of_mem_allWritten : ∀ {steps : List Step} {inner : Step},
    inner ∈ allWritten steps → inner.Inside steps
  | step :: steps, _, among => by
      rcases List.mem_append.1 among with here | later
      · exact Step.inside_of_mem_written (List.mem_cons_self ..) here
      · exact (inside_of_mem_allWritten later).cons

end

theorem mem_allWritten_iff : inner ∈ allWritten steps ↔ inner.Inside steps :=
  ⟨inside_of_mem_allWritten, Step.Inside.mem_allWritten⟩

end

end LoadTest
