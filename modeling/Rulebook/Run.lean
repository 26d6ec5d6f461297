import Rulebook.Log
import Rulebook.Network

/-!
Operations that act on a state, write to a log and ask for addresses. What they have done stays
done when they end in an error.
-/

namespace Rulebook

structure Run (σ : Type) where
  state : σ
  log : List LogLine := []
  requests : List Request := []

abbrev Running (σ ε : Type) := ExceptT ε (StateM (Run σ))

namespace Running

def note (severity : Severity) (message : String) : Running σ ε Unit :=
  modify fun run => { run with log := run.log ++ [⟨severity, message⟩] }

/-- Runs a step on the state alone. -/
def onState (step : σ → α × σ) : Running σ ε α :=
  modifyGet fun run =>
    let (result, state) := step run.state
    (result, { run with state })

/-- Downloads a text and notes what was asked for. -/
def download (network : Network) (timeout : Decimal.Amount) (url : String) :
    Running σ ε (Except Download.Failure String) :=
  modifyGet fun run =>
    let (result, request) := Download.run network timeout url
    (result, { run with requests := run.requests ++ request.toList })

/-- The result of an operation with its error as a value. -/
def outcome (operation : Running σ ε α) : Running σ δ (Except ε α) := ExceptT.lift operation.run

end Running

end Rulebook
