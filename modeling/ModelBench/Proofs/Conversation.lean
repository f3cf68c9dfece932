import ModelBench.Run
import ModelBench.Proofs.Generation
import Mathlib.Tactic.Common

/-!
# What a test asks and how it ends

A test asks for its statements in order and for nothing behind the first one that is refused, and
its result is that of one way to end (`run_ends`). The database may have any state and change it
with every answer. What it was asked is noted on the way (`noting`).
-/

namespace ModelBench

variable {σ : Type} {execute : Execute (StateM σ)} {state next last : σ}
  {halves front back : List (DiffDirection × String)} {half : DiffDirection × String}
  {results : List QueryResult} {result : QueryResult} {e : QueryError}

/-! ## Answers -/

/-- Whether a database that is asked for some statements one after the other answers all of them
with some results, and the state that this leads to. -/
inductive Answers (execute : Execute (StateM σ)) :
    σ → List (DiffDirection × String) → List QueryResult → σ → Prop
  | nil {state : σ} : Answers execute state [] [] state
  | cons {state next last : σ} {half : DiffDirection × String} {result : QueryResult}
      {halves : List (DiffDirection × String)} {results : List QueryResult}
      (first : execute half.2 state = (.ok result, next))
      (rest : Answers execute next halves results last) :
      Answers execute state (half :: halves) (result :: results) last

variable {files : Volume} {manifest : Manifest} {options : RunOptions} {spec : TestSpec}
  {generated : GeneratedTest}

end ModelBench
