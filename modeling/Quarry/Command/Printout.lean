import Quarry.Plan.Generate
import Quarry.Run.Execution
import Quarry.Table.Render

/-!
Printouts: what a script writes, table by table, and why it stopped if it failed.
-/

namespace Quarry

inductive ScriptFailure where
  | compilation (error : ScriptError)
  | run (error : RunError)

def ScriptFailure.message : ScriptFailure → String
  | compilation error => error.message
  | run error => error.message

structure Printout where
  written : Nat
  text : String
  failure : Option ScriptFailure

/-- Compiles and runs a script. Tables that were delivered before a failure are written. -/
def Printout.ofScript (s : Setting) (format : OutputFormat) (pretty : Bool) (source : String) :
    Printout :=
  match compile source with
  | .error e => ⟨0, "", some (.compilation e)⟩
  | .ok plan =>
    let report := Plan.run s plan
    { written := report.tables.size
      text := String.join (report.tables.toList.map (Table.render format pretty))
      failure := report.error.map .run }

end Quarry
