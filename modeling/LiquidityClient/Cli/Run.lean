import LiquidityClient.Cli.Command
import LiquidityClient.Cli.RefundFile
import LiquidityClient.Machine

/-!
# Running a command

`run` is the whole program on a machine : from the command line to what is shown and to the exit
code. The configuration file is read and the connections are made before a command starts, except
that `init` needs neither.
-/

namespace LiquidityClient.Cli

/-- What a command shows, and why it failed, if it did. -/
structure Report where
  output : String := ""
  /-- What is shown beside the output. -/
  notes : String := ""
  failure : Option String := none
  deriving DecidableEq, Repr

namespace Report

/-- The report of a failure. -/
def failed (message : String) : Report :=
  { failure := some message }

/-- The report with these lines as output. -/
def ofLines (lines : List String) : Report :=
  { output := String.join (lines.map (· ++ "\n")) }

end Report

/-- What the program leaves behind. -/
structure Exit where
  code : UInt8
  output : String := ""
  errors : String := ""
  deriving DecidableEq, Repr

/-- The version of the program. -/
def programVersion : String := "lspc 0.1.0"

/-- How the program is called. -/
def synopsis : String :=
  "Usage: lspc [-c CONFIG] [--log-level LEVEL] COMMAND\n\n"
    ++ "Commands: init, info, ping, fee, receive-max, register, pay, swap, rebalance, user-info,\n"
    ++ "report, open-channel, integrity\n"

/-- How the program ends without running a command. -/
def Stop.exit : Stop → Exit
  | .help => { code := 0, output := synopsis }
  | .version => { code := 0, output := programVersion ++ "\n" }
  | .usage reason => { code := 2, errors := "error: " ++ reason ++ "\n\n" ++ synopsis }

/-- How the program ends after a command. -/
def Report.exit (report : Report) : Exit :=
  match report.failure with
  | none => { code := 0, output := report.output, errors := report.notes }
  | some message =>
    { code := 1, output := report.output, errors := report.notes ++ "Error: " ++ message ++ "\n" }

/-! ## Commands of a client -/

/-- The bytes of an argument in hexadecimal, given to a command that needs them. -/
def withHex (what text : String) (next : Bytes → Operation Report) : Operation Report :=
  match Hex.decode text with
  | .ok bytes => next bytes
  | .error _ => pure (.failed (what ++ " is not hex"))

/-- A JSON document with its members, as output. -/
def showDocument (members : List (String × JsonValue)) : Report :=
  .ofLines [(JsonValue.ofMembers members).renderPretty]

/-- The handshake and the provider's terms. -/
def showTerms : Operation Report := do
  let _ ← Client.ping 0
  return .ofLines
    ["LSP Channel Terms", "=================", "Version:        " ++ (← Client.version),
      "Hub node:       " ++ (← Client.hubNode),
      "Fee (permyriad): " ++ Decimal.ofInt (← Client.feePermyriad).toInt]

/-- The fee for receiving an amount, and what is left. -/
def showFee (amountSat : Int64) : Operation Report := do
  let _ ← Client.ping 0
  let feeSat ← Client.paymentFee amountSat
  return .ofLines
    ["Amount:  " ++ Decimal.ofInt amountSat.toInt ++ " sat",
      "Fee:     " ++ Decimal.ofInt feeSat.toInt ++ " sat",
      "Receive: " ++ Decimal.ofInt (amountSat - feeSat).toInt ++ " sat"]

/-- The invoice of a registered payment; the fee is noted if terms were there before. -/
def showRegistration (amountSat : Int64) (memo : String) : Operation Report := do
  let terms := (← get).terms
  let invoice ← Client.registerPayment amountSat memo
  let notes :=
    match terms with
    | some terms => "LSP fee: " ++ Decimal.ofInt (terms.serviceFeeSat amountSat).toInt ++ " sat\n"
    | none => ""
  return { Report.ofLines [invoice] with notes }

/-- How a payment ended. -/
def showPayment (outcome : PaymentOutcome) : Report :=
  let lines :=
    ["Payment hash: " ++ outcome.paymentHash, "Status:       " ++ outcome.status.word,
      "Attempts:     " ++ Decimal.ofNat outcome.attempts]
  if outcome.isSuccess then .ofLines lines
  else
    { Report.ofLines (lines ++ ["Reason:       " ++ outcome.failureReason.word]) with
      failure := some "payment did not succeed" }

/-- Fresh swap secrets. -/
def showKeys (keys : SwapKeys) : Report :=
  showDocument
    [("payment_hash", .ofText (Hex.encode keys.paymentHash)),
      ("preimage", .ofText (Hex.encode keys.preimage)),
      ("refund_privkey", .ofText (Hex.encode keys.refundKey)),
      ("refund_pubkey", .ofText (Hex.encode keys.refundPublicKey))]

/-- A registered swap. -/
def showSwap (swap : RegisteredSwap) : Report :=
  showDocument
    [("address", .ofText swap.scriptAddress), ("height", .integer swap.height.toNat),
      ("htlc_pubkey", .ofText (Hex.encode swap.htlcKey)),
      ("script", .ofText (Hex.encode swap.script))]

/-- What a rebalance did. -/
def showRebalance (report : RebalanceReport) : Report :=
  .ofLines
    ["Payments attempted: " ++ Decimal.ofNat report.attempted,
      "Payments succeeded: " ++ Decimal.ofNat report.succeeded,
      "Channels closed:    " ++ Decimal.ofNat report.closed]

/-- What a command does with a client; `inputs` are the swap outputs that a refund sweeps. -/
def operate (client : Client) (inputs : List RefundInput) : Command → Operation Report
  | .init _ => return {}
  | .info => showTerms
  | .ping nonce => return .ofLines ["pong " ++ Decimal.ofInt (← Client.ping nonce).toInt]
  | .fee amountSat => showFee amountSat
  | .receiveMax => return .ofLines [Decimal.ofInt (← Client.receiveMax).toInt]
  | .register amountSat memo => showRegistration amountSat memo
  | .pay invoice feeLimitSat amountSat =>
    return showPayment (← Client.payInvoice invoice feeLimitSat amountSat)
  | .createSwapKeys => return showKeys (← Client.createSwapKeys)
  | .registerSwap paymentHash refundKey =>
    withHex "payment hash" paymentHash fun paymentHash =>
      withHex "refund pubkey" refundKey fun refundKey =>
        return showSwap (← client.registerSwap paymentHash refundKey)
  | .receiveSwap paymentHash invoice =>
    withHex "payment hash" paymentHash fun paymentHash => do
      Client.receiveSwap paymentHash invoice
      return .ofLines ["Swap payment accepted by the LSP"]
  | .refundSwaps _ address label => return .ofLines [← client.refundSwaps inputs address label]
  | .watchSwapAgain script =>
    withHex "script" script fun script => return .ofLines [← Client.watchSwapAgain script]
  | .refundBlocks => return .ofLines [Decimal.ofNat client.refundBlocks.toNat]
  | .rebalance => return showRebalance (← client.rebalance)
  | .registerMail address => do
    Client.registerMail address
    return .ofLines ["Registered " ++ address]
  | .report category level message => do
    Client.report category level message
    return .ofLines ["Report sent"]
  | .requestChannel => do
    Client.requestChannel
    return .ofLines ["Channel open requested from " ++ (← Client.hubNode)]
  | .attestationNonce device => return .ofLines [← Client.attestationNonce device]
  | .verifyAttestation device token =>
    return .ofLines [(← Client.verifyAttestation device token).word]

/-! ## The program -/

/-- Writes a default configuration file, over one that is there only if forced. -/
def writeDefault (path : String) (force : Bool) : Program Files Report := do
  if (← Files.probe path) && !force then
    return .failed (path ++ " already exists (use --force to overwrite)")
  else
    match ← Configuration.save {} path with
    | .error cause => return .failed cause.message
    | .ok () => return .ofLines ["Wrote default configuration to " ++ path]

/-- What a command needs from files beside the configuration. -/
def inputsOf : Command → Program Files (Except String (List RefundInput))
  | .refundSwaps path _ _ => readRefundInputs path
  | _ => return .ok []

/-- A client's configuration with its connections. -/
def connect (path : String) : Program Files (Except Fault (Configuration × Connections)) := do
  match ← Configuration.load path with
  | .error cause => return .error cause
  | .ok configuration =>
    match ← Connections.make configuration with
    | .error cause => return .error cause
    | .ok connections => return .ok (configuration, connections)

/-- Runs a command of a client. -/
def runClient (path : String) (command : Command) : Program Machine Report := do
  match ← Machine.onFiles (connect path) with
  | .error cause => return .failed cause.message
  | .ok (configuration, connections) =>
    match ← Machine.onFiles (inputsOf command) with
    | .error message => return .failed message
    | .ok inputs =>
      match ← connections.perform (operate ⟨configuration, false⟩ inputs command) with
      | .ok report => return report
      | .error e => return .failed e.message

/-- Runs a command. -/
def Invocation.run (invocation : Invocation) : Program Machine Report :=
  match invocation.command with
  | .init force => Machine.onFiles (writeDefault invocation.configurationPath force)
  | command => runClient invocation.configurationPath command

/-- The program : a command line, what it does, and how it ends. -/
def run (line : List String) : Program Machine Exit := do
  match Invocation.parse line with
  | .error stop => return stop.exit
  | .ok invocation => return (← invocation.run).exit

end LiquidityClient.Cli
