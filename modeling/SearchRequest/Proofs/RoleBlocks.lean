/-
Blocks that run under a role of a bool query. A block is a program: it makes calls,
may give up, and may open further blocks, at any depth. The first failure ends
everything that is under way.

Blocks add nothing to the calls themselves. A block under a role is an opening and
then its calls, one after the other, so nothing is taken back when a block ends or
fails, and the role that it opened last stays open behind it.
-/

import SearchRequest.Proofs.OperationLog
import SearchRequest.Query

namespace SearchRequest

/-- A call on a bool query; between two calls the caller's own code may give up. -/
inductive BoolCall where
  | perform (operation : BoolOperation)
  | giveUp (error : RequestError)

inductive BoolStep where
  | call (call : BoolCall)
  | withRole (role : Role) (block : List BoolStep)

def BoolCall.apply (table : BoolQuery) : BoolCall → Except RequestError Unit × BoolQuery
  | .perform operation => operation.apply table
  | .giveUp error => (.error error, table)

namespace BoolProgram

/-- Goes on from the table that was reached, unless a failure came before. -/
def proceed (next : BoolQuery → Except RequestError Unit × BoolQuery) :
    Except RequestError Unit × BoolQuery → Except RequestError Unit × BoolQuery
  | (.ok _, reached) => next reached
  | (.error error, reached) => (.error error, reached)

mutual

def runStep : BoolStep → BoolQuery → Except RequestError Unit × BoolQuery
  | .call call, table => call.apply table
  | .withRole role block, table => table.withRole role fun opened => run block opened

def run : List BoolStep → BoolQuery → Except RequestError Unit × BoolQuery
  | [], table => (.ok (), table)
  | step :: steps, table => proceed (fun reached => run steps reached) (runStep step table)

end

/-- Makes the calls one after the other, up to the first one that fails. -/
def attempt : List BoolCall → BoolQuery → Except RequestError Unit × BoolQuery
  | [], table => (.ok (), table)
  | call :: calls, table => proceed (fun reached => attempt calls reached) (call.apply table)

mutual

def flattenStep : BoolStep → List BoolCall
  | .call call => [call]
  | .withRole role block => .perform (.openRole role) :: flatten block

/-- The calls of a program, with an opening in front of those of each block. -/
def flatten : List BoolStep → List BoolCall
  | [] => []
  | step :: steps => flattenStep step ++ flatten steps

end

theorem proceed_done (outcome : Except RequestError Unit × BoolQuery) :
    proceed (fun reached => (.ok (), reached)) outcome = outcome := by
  obtain ⟨result, reached⟩ := outcome
  cases result <;> rfl

theorem attempt_append (calls later : List BoolCall) (table : BoolQuery) :
    attempt (calls ++ later) table = proceed (attempt later) (attempt calls table) := by
  induction calls generalizing table with
  | nil => rfl
  | cons call calls ih =>
      rw [List.cons_append, attempt, attempt]
      obtain ⟨result, reached⟩ := call.apply table
      cases result with
      | error error => rfl
      | ok done => exact ih reached

mutual

theorem runStep_eq_attempt (step : BoolStep) (table : BoolQuery) :
    runStep step table = attempt (flattenStep step) table :=
  match step with
  | .call call => (proceed_done (call.apply table)).symm
  | .withRole role block => run_eq_attempt block (table.openRole role)

/-- A program with blocks comes to the same as its calls in a flat list. -/
theorem run_eq_attempt (program : List BoolStep) (table : BoolQuery) :
    run program table = attempt (flatten program) table :=
  match program with
  | [] => rfl
  | step :: steps => by
      have rest : run steps = attempt (flatten steps) := funext (run_eq_attempt steps)
      rw [flatten, attempt_append, ← runStep_eq_attempt step table, ← rest]
      rfl

end

/-! ### Where a run stops -/

/-- A call that fails changes nothing, whichever call it is. -/
theorem unchanged_of_failed {call : BoolCall} {table reached : BoolQuery} {error : RequestError}
    (failed : call.apply table = (.error error, reached)) : reached = table := by
  cases call with
  | giveUp stated =>
      cases failed
      rfl
  | perform operation =>
      cases operation with
      | push clause =>
          rw [BoolCall.apply, BoolOperation.apply] at failed
          cases pushed : table.push clause with
          | error refused =>
              rw [pushed] at failed
              cases failed
              rfl
          | ok accepted =>
              rw [pushed] at failed
              cases failed
      | openRole role => cases failed
      | merge clause => cases failed
      | union other => cases failed

/-- The operations have been made, and the call after them, if there is one, has failed. -/
structure StopsAfter (made : List BoolOperation) (calls : List BoolCall) (table : BoolQuery)
    (outcome : Except RequestError Unit × BoolQuery) : Prop where
  succeeded : attempt (made.map .perform) table = (.ok (), BoolRun.execute table made)
  kept : outcome.2 = BoolRun.execute table made
  ended : (outcome.1 = .ok () ∧ calls = made.map .perform) ∨
    ∃ error failing later, outcome.1 = .error error ∧
      calls = made.map .perform ++ failing :: later ∧
        failing.apply outcome.2 = (.error error, outcome.2)

theorem StopsAfter.cons {operation : BoolOperation} {table reached : BoolQuery}
    (accepted : operation.apply table = (.ok (), reached)) {made : List BoolOperation}
    {calls : List BoolCall} {outcome : Except RequestError Unit × BoolQuery}
    (stops : StopsAfter made calls reached outcome) :
    StopsAfter (operation :: made) (.perform operation :: calls) table outcome := by
  have continued : BoolRun.execute table (operation :: made) = BoolRun.execute reached made := by
    change BoolRun.execute (operation.apply table).2 made = _
    rw [accepted]
  constructor
  · calc
      attempt ((operation :: made).map .perform) table
          = proceed (attempt (made.map .perform)) (operation.apply table) := rfl
      _ = attempt (made.map .perform) reached := by rw [accepted]; rfl
      _ = (.ok (), BoolRun.execute table (operation :: made)) := by
          rw [stops.succeeded, continued]
  · rw [stops.kept, continued]
  · rcases stops.ended with ⟨done, all⟩ | ⟨error, failing, later, failed, split, refused⟩
    · exact Or.inl ⟨done, congrArg (.perform operation :: ·) all⟩
    · have splitAfter := congrArg (.perform operation :: ·) split
      exact Or.inr ⟨error, failing, later, failed, splitAfter, refused⟩

theorem attempt_stops (calls : List BoolCall) (table : BoolQuery) :
    ∃ made, StopsAfter made calls table (attempt calls table) := by
  induction calls generalizing table with
  | nil => exact ⟨[], rfl, rfl, Or.inl ⟨rfl, rfl⟩⟩
  | cons call calls ih =>
      rw [attempt]
      rcases applied : call.apply table with ⟨result, reached⟩
      cases result with
      | error error =>
          obtain rfl := unchanged_of_failed applied
          exact ⟨[], rfl, rfl, Or.inr ⟨error, call, calls, rfl, rfl, applied⟩⟩
      | ok done =>
          cases call with
          | giveUp stated => cases applied
          | perform operation =>
              obtain ⟨made, stops⟩ := ih reached
              exact ⟨operation :: made, stops.cons applied⟩

theorem run_stops (program : List BoolStep) (table : BoolQuery) :
    ∃ made, StopsAfter made (flatten program) table (run program table) := by
  rw [run_eq_attempt]
  exact attempt_stops (flatten program) table

/-- Behind a block its own last opening stays, and whatever was open around it does not count. -/
theorem StopsAfter.current {made : List BoolOperation} {calls : List BoolCall} {role : Role}
    {table : BoolQuery} {outcome : Except RequestError Unit × BoolQuery}
    (stops : StopsAfter made calls (table.openRole role) outcome) :
    outcome.2.current = some ((BoolRun.lastOpened made).getD role) :=
  calc
    outcome.2.current = (BoolRun.lastOpened made).or (some role) := by
      rw [stops.kept, BoolRun.current_execute_from]
      rfl
    _ = some ((BoolRun.lastOpened made).getD role) := Option.or_some

/-- A slot that holds the bool query which was reached. -/
def inSlot (outcome : Except RequestError Unit × BoolQuery) : Except RequestError Unit × Query :=
  (outcome.1, .boolean outcome.2)

/--
The block is its calls in a flat list, and under a role it is an opening in front of
them, also on a slot. Beside a leaf no block is run, whatever it would do.
-/
structure RunsFlat (role : Role) (block : List BoolStep) : Prop where
  flat : ∀ table, run block table = attempt (flatten block) table
  underRole : ∀ table, runStep (.withRole role block) table =
    attempt (.perform (.openRole role) :: flatten block) table
  stops : ∀ table, ∃ made, StopsAfter made (flatten block) table (run block table)
  opened : ∀ table, ∃ made,
    StopsAfter made (flatten block) (table.openRole role) (runStep (.withRole role block) table) ∧
      (runStep (.withRole role block) table).2.current =
        some ((BoolRun.lastOpened made).getD role)
  onEmpty : Query.empty.withBool role (run block) =
    inSlot (attempt (.perform (.openRole role) :: flatten block) .empty)
  onBoolean : ∀ table, (Query.boolean table).withBool role (run block) =
    inSlot (attempt (.perform (.openRole role) :: flatten block) table)
  besideLeaf : ∀ leaf (other : BoolQuery → Except RequestError Unit × BoolQuery),
    (Query.single leaf).withBool role other = (.error .multipleTopLevelClauses, .single leaf)

theorem role_blocks_flatten (role : Role) (block : List BoolStep) : RunsFlat role block := by
  have underRole : ∀ table, runStep (.withRole role block) table =
      attempt (.perform (.openRole role) :: flatten block) table :=
    runStep_eq_attempt (.withRole role block)
  constructor
  case flat => exact run_eq_attempt block
  case underRole => exact underRole
  case stops => exact run_stops block
  case opened =>
    intro table
    obtain ⟨made, stops⟩ := run_stops block (table.openRole role)
    exact ⟨made, stops, stops.current⟩
  case onEmpty => exact congrArg inSlot (underRole .empty)
  case onBoolean => exact fun table => congrArg inSlot (underRole table)
  case besideLeaf => exact fun leaf other => rfl

/-- The second push goes to the role of the inner block, and the last opening is never made. -/
example (error : RequestError) (clause : Clause) :
    run [.withRole .must [.withRole .filter [.call (.perform (.push clause))],
        .call (.perform (.push clause)), .call (.giveUp error)],
      .call (.perform (.openRole .should))] .empty =
      (.error error, ⟨[(.must, []), (.filter, [clause, clause])], some .filter⟩) :=
  rfl

end BoolProgram

end SearchRequest
