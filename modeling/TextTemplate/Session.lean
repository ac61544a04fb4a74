import TextTemplate.Render.Stmt

/-! Sequences of operations on one context, with a report after each of them. -/

namespace TextTemplate

inductive Step where
  | define (name : String) (value : Value)
  | lookup (name : String)
  | contains (name : String)
  | remove (name : String)
  | enter (bindings : List (String × Value))
  | exit
  | eval (expr : Expr)
  | render (body : Template)
  | fail (message : String)
  | withScope (steps : List Step)

inductive Reply where
  | done
  | binding (found : Option Value)
  | contained (current globals : Bool)
  | entered (size : Nat)
  | value (v : Value)
  | text (t : String)
  | failed (e : EvalError)
  /-- The replies of the steps run with the contexts after them, and how many there were unless one
  failed or the scope was refused. -/
  | nested (reports : List (Reply × Context)) (result : Except EvalError Nat)

abbrev Report := Reply × Context

namespace Reply

instance : Inhabited Reply := ⟨done⟩

def ofResult {α : Type} (ok : α → Reply) : Except EvalError α → Reply
  | .ok a => ok a
  | .error e => failed e

def error? : Reply → Option EvalError
  | failed e => some e
  | nested _ (.error e) => some e
  | _ => none

end Reply

namespace Step

mutual

def run : Step → Context → Report
  | .define name v, c => (.done, c.define name v)
  | .lookup name, c => (.binding (c.lookup name), c)
  | .contains name, c => (.contained (c.current.contains name) (c.globals.contains name), c)
  | .remove name, c => (.binding (c.current.get? name), c.remove name)
  | .enter bindings, c =>
    match c.enter with
    | .error e => (.failed e, c)
    | .ok opened =>
      let filled := opened.modifyCurrent fun s => s.insertAll bindings
      (.entered filled.current.size, filled)
  | .exit, c => (.done, c.exit)
  | .eval e, c => (.ofResult .value (c.eval e), c)
  | .render body, c =>
    let (after, result) := body.renderText c
    (.ofResult .text result, after)
  | .fail message, c => (.failed (.custom message), c)
  | .withScope steps, c =>
    let (after, reports, result) := c.withScope (fun e => ([], .error e)) (runUntilFailure steps)
    (.nested reports result, after)
termination_by structural s => s

def runUntilFailure : List Step → Context → Context × List Report × Except EvalError Nat
  | [], c => (c, [], .ok 0)
  | s :: rest, c =>
    let report := run s c
    match report.1.error? with
    | some e => (report.2, [report], .error e)
    | none =>
      let (after, reports, result) := runUntilFailure rest report.2
      (after, report :: reports, result.map (· + 1))
termination_by structural ss => ss

end

def runAll : List Step → Context → List Report
  | [], _ => []
  | s :: rest, c =>
    let report := s.run c
    report :: runAll rest report.2

end Step
end TextTemplate
