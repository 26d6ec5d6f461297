import Rulebook.Address
import Rulebook.Decimal.Amount
import Rulebook.Text.Utf8

/-!
Downloads. A network tells for each address how asking for it ends.
-/

namespace Rulebook

/-- How asking for an address ends. -/
inductive Reply where
  | response (status : Int) (body : List UInt8)
  /-- A failure of a known kind, with a message that may be empty. -/
  | failure (kind message : String)
  /-- An error that no caller expects. -/
  | crash (message : String)

abbrev Network := String → Reply

structure Request where
  address : String
  agent : String
  timeout : Decimal.Amount

/-- A download that failed. -/
structure FetchError where
  url : String
  detail : String
  deriving DecidableEq, Repr

def FetchError.text (error : FetchError) : String :=
  s!"Failed to fetch rules ({error.detail}): {error.url}"

/-- How a download ends without a text. -/
inductive Download.Failure where
  | failed (error : FetchError)
  | crashed (message : String)
  deriving DecidableEq, Repr

namespace Download

/-- How this program calls itself. -/
def agent : String := "rulekit"

/-- The text that a reply brings. -/
def textOf (url : String) : Reply → Except Failure String
  | .crash message => .error (.crashed message)
  | .failure kind message =>
      .error (.failed ⟨url, if message = "" then kind else message⟩)
  | .response status body =>
      if status < 200 ∨ 300 ≤ status then .error (.failed ⟨url, s!"HTTP {status}"⟩)
      else match Text.utf8Decode body with
        | .ok chars => .ok (String.ofList chars)
        | .error error => .error (.failed ⟨url, error.message⟩)

/-- Downloads a text: what comes of it, and what was asked for. Nothing is asked for when the text
given is no address. -/
def run (network : Network) (timeout : Decimal.Amount) (url : String) :
    Except Failure String × Option Request :=
  match Address.request? url with
  | .error problem => (.error (.failed ⟨url, problem.message⟩), none)
  | .ok address => (textOf url (network address), some ⟨address, agent, timeout⟩)

end Download

end Rulebook
