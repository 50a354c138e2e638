import LiquidityClient.Collaborators

/-!
# Reports to the provider

A report is a sealed text with a category and a level.
-/

namespace LiquidityClient

/-- Sends a report. -/
def sendReport (terms : Terms) (category : String) (level : Wire.ReportLevel) (message : String) :
    Action RouteError Unit := do
  let providerKey ← parsePublicKey terms.providerKey
  let envelope ← sealFresh (α := Wire.ReportRequest) providerKey ⟨category, level.number, message⟩
  let _ ← Action.provider (.reportMessage envelope)

end LiquidityClient
