import LiquidityClient.Cli.Arguments
import LiquidityClient.Wire.Messages

/-!
# Commands

The commands of the program, the grammar by which they are given on a command line, and
`Invocation.parse`, which reads one.
-/

namespace LiquidityClient.Cli

/-- What the program can be told to do. -/
inductive Command where
  /-- Writes a default configuration file. -/
  | init (force : Bool)
  /-- Shows the provider's terms. -/
  | info
  | ping (nonce : Int32)
  /-- Quotes the fee for receiving an amount over a new channel. -/
  | fee (amountSat : Int64)
  | receiveMax
  | register (amountSat : Int64) (memo : String)
  | pay (invoice : String) (feeLimitSat amountSat : Int64)
  | createSwapKeys
  | registerSwap (paymentHash refundKey : String)
  | receiveSwap (paymentHash invoice : String)
  /-- Sweeps the swap outputs that a file lists. -/
  | refundSwaps (inputs address label : String)
  | watchSwapAgain (script : String)
  | refundBlocks
  | rebalance
  | registerMail (address : String)
  | report (category : String) (level : Wire.ReportLevel) (message : String)
  | requestChannel
  | attestationNonce (device : String)
  | verifyAttestation (device token : String)
  deriving DecidableEq, Repr

/-- A command with the options that all commands have. -/
structure Invocation where
  /-- The path of the configuration file. -/
  configurationPath : String
  /-- A level of logging other than the configured one. -/
  logLevel : Option String
  command : Command
  deriving DecidableEq, Repr

/-! ## The grammar -/

/-- The options of all commands. -/
def sharedOptions : List OptionRule :=
  [{ name := "config", letter := some 'c', value := some .path }, { name := "log-level" }]

/-- The words for the levels of a report. -/
def levelWords : List (String × Wire.ReportLevel) :=
  [("normal", .normal), ("notify", .notify), ("critical", .critical)]

/-- The commands of swaps. -/
def swapRules : List (String × CommandRule) :=
  [("create-keys", .command [] []),
    ("register", .command
      [{ name := "payment-hash", required := true },
        { name := "refund-pubkey", required := true }] []),
    ("receive", .command
      [{ name := "payment-hash", required := true }, { name := "invoice", required := true }] []),
    ("repay", .command
      [{ name := "inputs", value := some .path, required := true },
        { name := "address", required := true }, { name := "label" }] []),
    ("reregister", .command [] [.text]),
    ("refund-block", .command [] [])]

/-- All commands. -/
def rules : CommandRule :=
  .group
    [("init", .command [{ name := "force", value := none }] []),
      ("info", .command [] []),
      ("ping", .command [{ name := "nonce", value := some .int32 }] []),
      ("fee", .command [] [.int64]),
      ("receive-max", .command [] []),
      ("register", .command [{ name := "memo" }] [.int64]),
      ("pay", .command
        [{ name := "fee-limit-sat", value := some .int64 },
          { name := "amount-sat", value := some .int64 }] [.text]),
      ("swap", .group swapRules),
      ("rebalance", .command [] []),
      ("user-info", .command [] [.text]),
      ("report", .command
        [{ name := "category", required := true },
          { name := "level", value := some (.word (levelWords.map Prod.fst)) }] [.text]),
      ("open-channel", .command [] []),
      ("integrity", .group
        [("nonce", .command [] [.text]), ("verify", .command [] [.text, .text])])]

/-! ## Reading -/

/-- A 64-bit number in a text that is one. -/
def int64 (text : String) : Int64 :=
  (Decimal.readInt64 text).toOption.getD 0

/-- A 32-bit number in a text that is one. -/
def int32 (text : String) : Int32 :=
  (Decimal.readInt32 text).toOption.getD 0

/-- The command that the arguments of a swap command name. -/
def swapCommand? (name : String) (a : Arguments) : Option Command :=
  match name with
  | "create-keys" => some .createSwapKeys
  | "register" => some (.registerSwap (a.option "payment-hash" "") (a.option "refund-pubkey" ""))
  | "receive" => some (.receiveSwap (a.option "payment-hash" "") (a.option "invoice" ""))
  | "repay" =>
    some (.refundSwaps (a.option "inputs" "") (a.option "address" "") (a.option "label" ""))
  | "reregister" => some (.watchSwapAgain (a.value 0))
  | "refund-block" => some .refundBlocks
  | _ => none

/-- The command that arguments name. -/
def command? (a : Arguments) : Option Command :=
  match a.commands with
  | ["init"] => some (.init (a.has "force"))
  | ["info"] => some .info
  | ["ping"] => some (.ping (int32 (a.option "nonce" "1")))
  | ["fee"] => some (.fee (int64 (a.value 0)))
  | ["receive-max"] => some .receiveMax
  | ["register"] => some (.register (int64 (a.value 0)) (a.option "memo" ""))
  | ["pay"] =>
    some (.pay (a.value 0) (int64 (a.option "fee-limit-sat" "100"))
      (int64 (a.option "amount-sat" "0")))
  | ["swap", name] => swapCommand? name a
  | ["rebalance"] => some .rebalance
  | ["user-info"] => some (.registerMail (a.value 0))
  | ["report"] =>
    some (.report (a.option "category" "")
      ((levelWords.lookup (a.option "level" "normal")).getD .normal) (a.value 0))
  | ["open-channel"] => some .requestChannel
  | ["integrity", "nonce"] => some (.attestationNonce (a.value 0))
  | ["integrity", "verify"] => some (.verifyAttestation (a.value 0) (a.value 1))
  | _ => none

/-- The name of the configuration file, if none is given. -/
def defaultConfigurationPath : String := "lspc.toml"

/-- Reads a command line. -/
def Invocation.parse (line : List String) : Except Stop Invocation := do
  let a ← rules.read sharedOptions line
  match command? a with
  | some command =>
    return {
      configurationPath := a.option "config" defaultConfigurationPath
      logLevel := a.options.lookup "log-level"
      command }
  | none => throw (.usage "unrecognized subcommand")

end LiquidityClient.Cli
