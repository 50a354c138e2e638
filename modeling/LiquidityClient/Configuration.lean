import LiquidityClient.Text.Native
import LiquidityClient.Toml.Document
import LiquidityClient.Toml.Printer
import LiquidityClient.Word

/-!
# Configuration

Where the provider and the node are reached, and the numbers that govern swaps and rebalancing. A
document sets what it names; a field that is left out has its standard value, and so have all the
fields of a section that is left out. Names that mean nothing are skipped, and a value of the wrong
type or range makes the whole document unusable. A section may also be given as an array, whose
items are its fields in order. A document is a text, so that a configuration with a path that is
none cannot be written.
-/

namespace LiquidityClient

/-! ## Standard values -/

namespace Standard

def providerAddress : String := "https://127.0.0.1:9736"

def nodeAddress : String := "https://127.0.0.1:8080"

def connectTimeoutSecs : UInt64 := 10

def callTimeoutSecs : UInt64 := 60

def csvHeight : UInt32 := 144

def feeRateSatPerKw : UInt64 := 300

def settleDelayMs : UInt64 := 3000

def closeRetryDelayMs : UInt64 := 5000

def closeSatPerVbyte : UInt64 := 1

def logLevel : String := "info"

def logFormat : String := "text"

end Standard

/-! ## Settings -/

/-- How the provider is reached. -/
structure ProviderSettings where
  /-- The address of the service. -/
  address : String := Standard.providerAddress
  /-- The token sent with every call; none if empty. -/
  token : String := ""
  /-- A certificate to be trusted instead of the system's. -/
  certificatePath : Option NativeText := none
  connectTimeoutSecs : UInt64 := Standard.connectTimeoutSecs
  callTimeoutSecs : UInt64 := Standard.callTimeoutSecs
  deriving DecidableEq, Repr

/-- How the local node is reached. -/
structure NodeSettings where
  /-- The address of the node's service. -/
  restAddress : String := Standard.nodeAddress
  certificatePath : Option NativeText := none
  /-- The file with the credential that is sent with every request. -/
  macaroonPath : Option NativeText := none
  connectTimeoutSecs : UInt64 := Standard.connectTimeoutSecs
  callTimeoutSecs : UInt64 := Standard.callTimeoutSecs
  deriving DecidableEq, Repr

/-- The numbers of swaps. -/
structure SwapSettings where
  /-- The lock of the refund branch, in blocks. -/
  csvHeight : UInt32 := Standard.csvHeight
  /-- The fee rate of refunds, for 1000 units of weight. -/
  feeRateSatPerKw : UInt64 := Standard.feeRateSatPerKw
  deriving DecidableEq, Repr

/-- The numbers of a rebalance. -/
structure RebalanceSettings where
  /-- The pause before the channels are listed again. -/
  settleDelayMs : UInt64 := Standard.settleDelayMs
  /-- The pause between two attempts to close a channel. -/
  closeRetryDelayMs : UInt64 := Standard.closeRetryDelayMs
  closeSatPerVbyte : UInt64 := Standard.closeSatPerVbyte
  deriving DecidableEq, Repr

/-- What is logged, and how. -/
structure LogSettings where
  level : String := Standard.logLevel
  format : String := Standard.logFormat
  deriving DecidableEq, Repr

/-- The configuration of a client. -/
structure Configuration where
  provider : ProviderSettings := {}
  node : NodeSettings := {}
  swap : SwapSettings := {}
  rebalance : RebalanceSettings := {}
  logging : LogSettings := {}
  deriving DecidableEq, Repr

/-- Seconds in milliseconds. -/
def secondsToMs (secs : UInt64) : Nat :=
  secs.toNat * 1000

/-- The pauses and time limits in milliseconds : connecting to and calling the provider and the
node, and the two pauses of a rebalance. -/
def Configuration.durationsMs (c : Configuration) : List Nat :=
  [secondsToMs c.provider.connectTimeoutSecs, secondsToMs c.provider.callTimeoutSecs,
    secondsToMs c.node.connectTimeoutSecs, secondsToMs c.node.callTimeoutSecs,
    c.rebalance.settleDelayMs.toNat, c.rebalance.closeRetryDelayMs.toNat]

/-! ## Reading -/

/-- A section of a document. -/
inductive Section where
  | named (entries : Toml.Table)
  | listed (items : List Toml.Value)

namespace Section

/-- The section that a value stands for. A date-time counts as a table without fields. -/
def ofValue? : Toml.Value → Option Section
  | .table entries => some (.named entries)
  | .array items => some (.listed items)
  | .dateTime _ => some (.named [])
  | _ => none

/-- The settings in the section of this name; the standard ones if it is left out. -/
def settings? {α : Type} (name : String) (standard : α) (ofSection? : Section → Option α)
    (document : Toml.Table) : Option α :=
  match document.lookup name with
  | none => some standard
  | some value => (ofValue? value).bind ofSection?

/-- The value of a field, by name in a table and by position in an array. -/
def get? (position : Nat) (name : String) : Section → Option Toml.Value
  | .named entries => entries.lookup name
  | .listed items => items[position]?

/-- A text field. -/
def text? (position : Nat) (name default : String) (s : Section) : Option String :=
  match s.get? position name with
  | none => some default
  | some (.string text) => some text
  | some _ => none

/-- A field with a path, which may be left out. -/
def path? (position : Nat) (name : String) (s : Section) : Option (Option NativeText) :=
  match s.get? position name with
  | none => some none
  | some (.string text) => some (some (.ofString text))
  | some _ => none

/-- A field with a natural number of at most `bound`. -/
def natural? (position : Nat) (name : String) (bound default : Nat) (s : Section) : Option Nat :=
  match s.get? position name with
  | none => some default
  | some (.integer n) => if 0 ≤ n.toInt ∧ n.toInt ≤ bound then some n.toInt.toNat else none
  | some _ => none

/-- A field with an unsigned 64-bit number. -/
def word64? (position : Nat) (name : String) (default : UInt64) (s : Section) : Option UInt64 :=
  (s.natural? position name (UInt64.size - 1) default.toNat).map UInt64.ofNat

/-- A field with an unsigned 32-bit number. -/
def word32? (position : Nat) (name : String) (default : UInt32) (s : Section) : Option UInt32 :=
  (s.natural? position name (UInt32.size - 1) default.toNat).map UInt32.ofNat

end Section

/-- The settings in a section. -/
def ProviderSettings.ofSection? (s : Section) : Option ProviderSettings := do
  return {
    address := ← s.text? 0 "address" Standard.providerAddress
    token := ← s.text? 1 "token" ""
    certificatePath := ← s.path? 2 "cert_path"
    connectTimeoutSecs := ← s.word64? 3 "connect_timeout_secs" Standard.connectTimeoutSecs
    callTimeoutSecs := ← s.word64? 4 "call_timeout_secs" Standard.callTimeoutSecs }

/-- The settings in a section. -/
def NodeSettings.ofSection? (s : Section) : Option NodeSettings := do
  return {
    restAddress := ← s.text? 0 "rest_address" Standard.nodeAddress
    certificatePath := ← s.path? 1 "cert_path"
    macaroonPath := ← s.path? 2 "macaroon_path"
    connectTimeoutSecs := ← s.word64? 3 "connect_timeout_secs" Standard.connectTimeoutSecs
    callTimeoutSecs := ← s.word64? 4 "call_timeout_secs" Standard.callTimeoutSecs }

/-- The settings in a section. -/
def SwapSettings.ofSection? (s : Section) : Option SwapSettings := do
  return {
    csvHeight := ← s.word32? 0 "csv_height" Standard.csvHeight
    feeRateSatPerKw := ← s.word64? 1 "fee_rate_sat_per_kw" Standard.feeRateSatPerKw }

/-- The settings in a section. -/
def RebalanceSettings.ofSection? (s : Section) : Option RebalanceSettings := do
  return {
    settleDelayMs := ← s.word64? 0 "settle_delay_ms" Standard.settleDelayMs
    closeRetryDelayMs := ← s.word64? 1 "close_retry_delay_ms" Standard.closeRetryDelayMs
    closeSatPerVbyte := ← s.word64? 2 "close_sat_per_vbyte" Standard.closeSatPerVbyte }

/-- The settings in a section. -/
def LogSettings.ofSection? (s : Section) : Option LogSettings := do
  return {
    level := ← s.text? 0 "level" Standard.logLevel
    format := ← s.text? 1 "format" Standard.logFormat }

namespace Configuration

/-- The configuration in a document. -/
def ofTable? (document : Toml.Table) : Option Configuration := do
  return {
    provider := ← Section.settings? "lsp" {} ProviderSettings.ofSection? document
    node := ← Section.settings? "lnd" {} NodeSettings.ofSection? document
    swap := ← Section.settings? "swap" {} SwapSettings.ofSection? document
    rebalance := ← Section.settings? "rebalance" {} RebalanceSettings.ofSection? document
    logging := ← Section.settings? "logging" {} LogSettings.ofSection? document }

/-- The configuration that a text spells. -/
def parse? (text : String) : Option Configuration :=
  (Toml.parse? text).bind ofTable?

/-! ## Writing -/

/-- Why a configuration cannot be written. -/
inductive WriteError where
  /-- A path is no text. -/
  | path
  /-- A number is too large for a signed word. -/
  | number
  deriving DecidableEq, Repr

/-- The text of the error. -/
def WriteError.message : WriteError → String
  | .path => "path contains invalid UTF-8 characters"
  | .number => "out-of-range value for u64 type"

/-- A natural number as an atom. -/
def atom (n : Nat) : Except WriteError Toml.Atom :=
  if n < Word.half64 then .ok (.integer (Int64.ofNat n)) else .error .number

/-- The entry of a path that may be absent. -/
def pathEntry (name : String) : Option NativeText → Except WriteError (List (String × Toml.Atom))
  | none => .ok []
  | some path =>
    match path.text? with
    | some text => .ok [(name, .text text)]
    | none => .error .path

/-- The tables in which a configuration is written. The first field in their order that cannot be
written is the error. -/
def toTables (c : Configuration) :
    Except WriteError (List (String × List (String × Toml.Atom))) := do
  return [
    ("lsp",
      [("address", .text c.provider.address), ("token", .text c.provider.token)]
        ++ (← pathEntry "cert_path" c.provider.certificatePath)
        ++ [("connect_timeout_secs", ← atom c.provider.connectTimeoutSecs.toNat),
          ("call_timeout_secs", ← atom c.provider.callTimeoutSecs.toNat)]),
    ("lnd",
      [("rest_address", .text c.node.restAddress)]
        ++ (← pathEntry "cert_path" c.node.certificatePath)
        ++ (← pathEntry "macaroon_path" c.node.macaroonPath)
        ++ [("connect_timeout_secs", ← atom c.node.connectTimeoutSecs.toNat),
          ("call_timeout_secs", ← atom c.node.callTimeoutSecs.toNat)]),
    ("swap",
      [("csv_height", ← atom c.swap.csvHeight.toNat),
        ("fee_rate_sat_per_kw", ← atom c.swap.feeRateSatPerKw.toNat)]),
    ("rebalance",
      [("settle_delay_ms", ← atom c.rebalance.settleDelayMs.toNat),
        ("close_retry_delay_ms", ← atom c.rebalance.closeRetryDelayMs.toNat),
        ("close_sat_per_vbyte", ← atom c.rebalance.closeSatPerVbyte.toNat)]),
    ("logging", [("level", .text c.logging.level), ("format", .text c.logging.format)])]

/-- The text of a configuration. -/
def render (c : Configuration) : Except WriteError String :=
  c.toTables.map Toml.render

end Configuration

end LiquidityClient
