import FindSelect.Query
import FindSelect.Statement.Codec

/-!
# Statements built step by step

A session holds one statement, which is empty at first. A step either replaces the statement or
fails and leaves it as it was.

* `Step`, `Step.apply`: the operations;
* `Session.run`: the statement after a list of steps;
* `Session.outcomes`: the outcome of every one of them.
-/

namespace FindSelect

/-- An operation on a statement. -/
inductive Step
  /-- The empty statement. -/
  | fresh
  /-- The statement of a query, in place of the whole one. -/
  | query (collection : String) (filter projection : Option Json)
  /-- The columns of a projection. -/
  | projection (given : Option Json)
  /-- The predicates of a filter. -/
  | predicates (filter : Json)
  /-- A limit. -/
  | limit (n : UInt64)
  /-- An offset. -/
  | offset (n : UInt64)
  /-- Sort keys. -/
  | sorts (keys : List SortKey)
  /-- The statement written and read back. -/
  | reload
  deriving Repr

/-- Why a step failed. -/
inductive StepError
  | call (e : CallError)
  | reading (fault : Fault)
  deriving Repr

/-- The statement after a step, if it succeeds. -/
def Step.apply (columns : List Column) (s : Statement) : Step → Except StepError Statement
  | .fresh => .ok .empty
  | .query collection filter given =>
    (decodeQuery collection filter given columns).mapError .call
  | .projection given => (decodeProjection s given columns).mapError .call
  | .predicates filter =>
    (s.withPredicates <$> decodeWhere columns filter).mapError .call
  | .limit n => .ok (s.withLimit n)
  | .offset n => .ok (s.withOffset n)
  | .sorts keys => .ok (s.withSorts keys)
  | .reload => (Statement.parse s.compact).mapError .reading

namespace Session

/-- The statement after a step: the same one when the step fails. -/
def advance (columns : List Column) (s : Statement) (step : Step) : Statement :=
  match step.apply columns s with
  | .ok t => t
  | .error _ => s

/-- The statement after a list of steps. -/
def run (columns : List Column) (steps : List Step) (s : Statement) : Statement :=
  steps.foldl (advance columns) s

/-- The outcome of every step of a list. -/
def outcomes (columns : List Column) : List Step → Statement → List (Except StepError Statement)
  | [], _ => []
  | step :: steps, s => step.apply columns s :: outcomes columns steps (advance columns s step)

end Session

end FindSelect
