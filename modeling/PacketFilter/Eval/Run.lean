/-
This file holds runs of the evaluator: a result, which may be a failure, and the debug log that
was written on the way to it. A failure ends a run but keeps its log.
-/

import PacketFilter.Eval.Error
import PacketFilter.Expr.Text
import PacketFilter.Fault
import PacketFilter.Registry

namespace PacketFilter

/-- What the evaluator notes in the debug log. -/
inductive Event where
  /-- A test, by its operator and its level, has a truth value. -/
  | reduced (op : TestOp) (depth : Nat) (node : Node) (result : Bool)
  /-- The whole expression has a truth value. -/
  | finished (node : Node) (result : Bool)

/-- The record that an event leaves in the log. -/
def Event.record (zone : Zone) : Event → LogRecord
  | .reduced op depth node result =>
    { message := "reduced test"
      facts :=
        [("op", .string op.symbol), ("depth", .integer depth),
          ("expr", .string (node.text zone)), ("result", .bool result)] }
  | .finished node result =>
    { message := "evaluation finished"
      facts := [("expr", .string (node.text zone)), ("result", .bool result)] }

/-- A computation that writes a log and may fail. -/
structure Run (Result : Type) where
  log : List Event
  result : Except (Failure EvalError) Result

namespace Run

/-- The run that does nothing but have a result. -/
def pure {Result : Type} (result : Result) : Run Result :=
  ⟨[], .ok result⟩

/-- The run that goes on with the result of another one, if it has one. -/
def bind {First Second : Type} (first : Run First) (next : First → Run Second) : Run Second :=
  match first.result with
  | .error failure => ⟨first.log, .error failure⟩
  | .ok result => ⟨first.log ++ (next result).log, (next result).result⟩

/-- The result of a run that goes on is what becomes of the first result. -/
theorem result_bind {First Second : Type} (first : Run First) (next : First → Run Second) :
    (first.bind next).result = first.result.bind fun result => (next result).result := by
  unfold bind
  cases first.result with
  | error failure => rfl
  | ok result => rfl

/-- Two ways of going on are the same if they are so on the result that there is. -/
theorem bind_congr {First Second : Type} {first : Run First} {next other : First → Run Second}
    (same : ∀ result, first.result = .ok result → next result = other result) :
    first.bind next = first.bind other := by
  unfold bind
  split
  · rfl
  · rename_i result found
    rw [same result found]

/-- The run with its result changed, if it has one. -/
def map {First Second : Type} (change : First → Second) (run : Run First) : Run Second :=
  ⟨run.log, run.result.map change⟩

theorem result_map {First Second : Type} (change : First → Second) (run : Run First) :
    (run.map change).result = run.result.map change := rfl

/-- The run that fails with an error. -/
def error {Result : Type} (cause : EvalError) : Run Result :=
  ⟨[], .error (.error cause)⟩

/-- The run that ends in a violated contract. -/
def fault {Result : Type} (fault : Fault) : Run Result :=
  ⟨[], .error (.fault fault)⟩

/-- The run that has the given result and writes nothing. -/
def ofExcept {Result : Type} (result : Except (Failure EvalError) Result) : Run Result :=
  ⟨[], result⟩

/-- The run that fails in the given way. -/
def fail {Result : Type} : Failure EvalError → Run Result
  | .error cause => error cause
  | .fault fault => Run.fault fault

/-- The run that writes one more event, if it has a result to write about. -/
def noting {Result : Type} (event : Result → Event) (run : Run Result) : Run Result :=
  match run.result with
  | .error _ => run
  | .ok result => ⟨run.log ++ [event result], run.result⟩

/-- What is noted does not change the result. -/
theorem result_noting {Result : Type} (event : Result → Event) (run : Run Result) :
    (run.noting event).result = run.result := by
  unfold noting
  split <;> simp_all

/-! ### The log of a run -/

theorem log_bind_of_ok {First Second : Type} {first : Run First} {next : First → Run Second}
    {result : First} (found : first.result = .ok result) :
    (first.bind next).log = first.log ++ (next result).log := by
  unfold bind
  rw [found]

theorem log_bind_of_error {First Second : Type} {first : Run First} {next : First → Run Second}
    {failure : Failure EvalError} (failed : first.result = .error failure) :
    (first.bind next).log = first.log := by
  unfold bind
  rw [failed]

theorem log_noting_of_ok {Result : Type} (event : Result → Event) {run : Run Result}
    {result : Result} (found : run.result = .ok result) :
    (run.noting event).log = run.log ++ [event result] := by
  unfold noting
  rw [found]

theorem log_noting_of_error {Result : Type} (event : Result → Event) {run : Run Result}
    {failure : Failure EvalError} (failed : run.result = .error failure) :
    (run.noting event).log = run.log := by
  unfold noting
  rw [failed]

end Run

end PacketFilter
