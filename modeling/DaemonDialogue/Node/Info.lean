import DaemonDialogue.Json.Decode
import DaemonDialogue.Node.Chain

/-!
# Nodes

What a node says about itself, and how it is written as JSON.
-/

namespace DaemonDialogue.Node

open Json (Decoded Reading)

def version : String := "0.4.2"

/-- The name that nodes go by: what they are, their version and what they run on. -/
def clientName : String := s!"Testnode/v{version}/linux-x86_64"

/-- The address to which nothing belongs. -/
def zeroAddress : String := "0x0000000000000000000000000000000000000000"

structure Info where
  name : String := clientName
  chain : String
  networkId : Nat
  chainId : Nat
  genesisHash : String
  etherbase : String := zeroAddress
  datadir : String
  deriving DecidableEq, Repr, Inhabited

namespace Info

def toJson (info : Info) : Json :=
  .object [("name", .string info.name), ("chain", .string info.chain),
    ("network_id", .integer info.networkId), ("chain_id", .integer info.chainId),
    ("genesis_hash", .string info.genesisHash), ("etherbase", .string info.etherbase),
    ("datadir", .string info.datadir)]

def path : Json.Draft → Decoded String := Json.textNamed "path string"

def fields : List Json.Field :=
  [⟨"name", Json.judged Json.text, none⟩, ⟨"chain", Json.judged Json.text, none⟩,
    ⟨"network_id", Json.judged Json.u64, none⟩, ⟨"chain_id", Json.judged Json.u64, none⟩,
    ⟨"genesis_hash", Json.judged Json.text, none⟩, ⟨"etherbase", Json.judged Json.text, none⟩,
    ⟨"datadir", Json.judged path, none⟩]

def ofJson (how : Reading) (v : Json.Draft) : Decoded Info := do
  match ← Json.record how "struct NodeInfo" fields v with
  | [name, chain, networkId, chainId, genesisHash, etherbase, datadir] =>
    return {
      name := ← Json.text name
      chain := ← Json.text chain
      networkId := ← Json.u64 networkId
      chainId := ← Json.u64 chainId
      genesisHash := ← Json.text genesisHash
      etherbase := ← Json.text etherbase
      datadir := ← path datadir }
  | _ => .error .malformed

end Info
end DaemonDialogue.Node
