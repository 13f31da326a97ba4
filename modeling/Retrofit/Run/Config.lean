import Retrofit.Body.Layout

/-!
The settings of a run.
-/

namespace Retrofit

/-- What a run does beside applying rules. -/
structure Config where
  /-- Requests on an iterator or asynchronous method go to its state machine. -/
  intoStateMachines : Bool := true
  /-- How the forms of branches are chosen. -/
  policy : BranchPolicy := .fitting
  /-- Bodies are checked and their branches brought into form after each rule. -/
  finishBodies : Bool := true
  /-- Requests are taken from the members once they are served. -/
  dropServed : Bool := true
  /-- How many passes the fitting of branches may take. -/
  passLimit : Nat := 16

def Config.allLong : Config := { policy := .allLong }

end Retrofit
