import LiquidityClient.Bitcoin.Base58
import LiquidityClient.Bitcoin.Bech32
import LiquidityClient.Bitcoin.Network

/-!
# Addresses

An address names an output script on a network. `Address.parse` reads segregated-witness and legacy
addresses and refuses those of another network; `payToScriptHash` writes the address of a witness
script.
-/

namespace LiquidityClient

/-- The output scripts that have an address. -/
inductive Address where
  /-- A witness program, with the human-readable part of its network. -/
  | witness (label : String) (version : Nat) (program : Bytes)
  /-- The hash of a public key. -/
  | keyHash (test : Bool) (hash : Bytes)
  /-- The hash of a script. -/
  | scriptHash (test : Bool) (hash : Bytes)
  deriving DecidableEq, Repr

namespace Address

/-- The address that a text spells, on any network. -/
def read? (text : String) : Option Address :=
  match Bech32.decodeProgram? text with
  | some (label, version, program) =>
    if label = "bc" ∨ label = "tb" ∨ label = "bcrt" then some (.witness label version program)
    else none
  | none =>
    if 50 < text.utf8ByteSize then none
    else
      match Base58.decodeChecked? text with
      | some (form :: hash) =>
        if hash.length ≠ 20 then none
        else if form = 0 then some (.keyHash false hash)
        else if form = 5 then some (.scriptHash false hash)
        else if form = 111 then some (.keyHash true hash)
        else if form = 196 then some (.scriptHash true hash)
        else none
      | _ => none

/-- Does the address belong to the network? -/
def isFor (network : Network) : Address → Bool
  | .witness label _ _ => label = network.segwitLabel
  | .keyHash test _ => test = network.isTest
  | .scriptHash test _ => test = network.isTest

/-- The output script of an address. -/
def script : Address → Bytes
  | .witness _ version program =>
    (if version = 0 then 0 else UInt8.ofNat (0x50 + version))
      :: UInt8.ofNat program.length :: program
  | .keyHash _ hash => [0x76, 0xa9, 20] ++ hash ++ [0x88, 0xac]
  | .scriptHash _ hash => [0xa9, 20] ++ hash ++ [0x87]

/-- The address of a network that a text spells. -/
def parse (network : Network) (text : String) : Except SwapError Address :=
  match read? text with
  | none => .error (.invalidAddress (text ++ ": not an address"))
  | some address =>
    if address.isFor network then .ok address
    else .error (.invalidAddress (text ++ ": not an address of network " ++ network.name))

/-- The address of the outputs that a witness script of this byte string can spend. -/
def payToScriptHash (network : Network) (script : Bytes) : String :=
  Bech32.encodeProgram network.segwitLabel 0 (Sha256.hash script)

end Address

end LiquidityClient
