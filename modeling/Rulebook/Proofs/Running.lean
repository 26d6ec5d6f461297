import Rulebook.Run

/-!
What operations come to: the result, and the run that they leave. One equation for each way of
putting operations together lets a proof follow an operation without opening the monad.
-/

namespace Rulebook

variable {σ ε δ α β : Type}

theorem except_bind_eq_ok {result : Except ε α} {next : α → Except ε β} {value : β} :
    (result >>= next) = .ok value ↔ ∃ first, result = .ok first ∧ next first = .ok value := by
  cases result <;> simp [bind, Except.bind]

theorem except_map_eq_ok {result : Except ε α} {change : α → β} {value : β} :
    result.map change = .ok value ↔ ∃ first, result = .ok first ∧ change first = value := by
  cases result <;> simp [Except.map]

theorem except_map_eq_error {result : Except ε α} {change : α → β} {error : ε} :
    result.map change = .error error ↔ result = .error error := by
  cases result <;> simp [Except.map]

namespace Running

/-- The result of an operation that starts from a run, and the run that it leaves. -/
def on (operation : Running σ ε α) (run : Run σ) : Except ε α × Run σ := operation.run.run run

@[simp] theorem on_pure (value : α) (run : Run σ) :
    on (pure value : Running σ ε α) run = (.ok value, run) := rfl

@[simp] theorem on_throw (error : ε) (run : Run σ) :
    on (throw error : Running σ ε α) run = (.error error, run) := rfl

@[simp] theorem on_get (run : Run σ) : on (get : Running σ ε (Run σ)) run = (.ok run, run) := rfl

@[simp] theorem on_modify (change : Run σ → Run σ) (run : Run σ) :
    on (modify change : Running σ ε Unit) run = (.ok (), change run) := rfl

@[simp] theorem on_liftM (result : Except ε α) (run : Run σ) :
    on (liftM result : Running σ ε α) run = (result, run) := by
  cases result <;> rfl

theorem on_bind (operation : Running σ ε α) (next : α → Running σ ε β) (run : Run σ) :
    on (operation >>= next) run = match on operation run with
      | (.ok value, after) => on (next value) after
      | (.error error, after) => (.error error, after) := by
  change (ExceptT.run (operation >>= next)).run run = _
  rw [ExceptT.run_bind, StateT.run_bind]
  cases found : on operation run with
  | mk result after =>
      have ran : operation.run.run run = (result, after) := found
      cases result <;> simp only [ran] <;> rfl

@[simp] theorem on_note (severity : Severity) (message : String) (run : Run σ) :
    on (note severity message : Running σ ε Unit) run =
      (.ok (), { run with log := run.log ++ [⟨severity, message⟩] }) := rfl

@[simp] theorem on_onState (step : σ → α × σ) (run : Run σ) :
    on (onState step : Running σ ε α) run =
      (.ok (step run.state).1, { run with state := (step run.state).2 }) := rfl

@[simp] theorem on_download (network : Network) (timeout : Decimal.Amount) (url : String)
    (run : Run σ) :
    on (download network timeout url : Running σ ε _) run =
      (.ok (Download.run network timeout url).1,
        { run with requests := run.requests ++ (Download.run network timeout url).2.toList }) := rfl

@[simp] theorem on_outcome (operation : Running σ ε α) (run : Run σ) :
    on (outcome operation : Running σ δ (Except ε α)) run =
      (.ok (on operation run).1, (on operation run).2) := rfl

end Running

end Rulebook
