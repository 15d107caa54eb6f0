import DaemonDialogue.File.Tree
import DaemonDialogue.Node.Fault
import DaemonDialogue.Node.Journal

/-!
# Genesis records

The first run of a node on a directory writes down which chain it runs, and every
later run stays on it. A run that names a chain has to name that one; the first run
may leave the choice to the node.
-/

namespace DaemonDialogue.Node

/-- What a run writes down about its chain. -/
structure GenesisRecord where
  chain : String
  genesisHash : String
  deriving DecidableEq, Repr, Inhabited

namespace GenesisRecord

def ofChain (chain : Chain) : GenesisRecord := ⟨chain.name, chain.genesisHash⟩

def toJson (r : GenesisRecord) : Json :=
  .object [("chain", .string r.chain), ("genesis_hash", .string r.genesisHash)]

def fields : List Json.Field :=
  [⟨"chain", Json.judged Json.text, none⟩, ⟨"genesis_hash", Json.judged Json.text, none⟩]

def ofJson (v : Json.Draft) : Json.Decoded GenesisRecord := do
  match ← Json.record .direct "struct StoredGenesis" fields v with
  | [chain, genesisHash] => return ⟨← Json.text chain, ← Json.text genesisHash⟩
  | _ => .error .malformed

def content (r : GenesisRecord) : List UInt8 :=
  Utf8.encode r.toJson.pretty

def path (datadir : String) : String :=
  Path.join (Path.join (Path.join datadir "testnode") "chaindata") "GENESIS"

def ofText (path text : String) : Except Fault GenesisRecord :=
  match Json.decode ofJson text with
  | .ok record => .ok record
  | .error mismatch => .error (.corruptRecord path mismatch)

def load (t : File.Tree) (path : String) : Except Fault (Option GenesisRecord) :=
  match t.read path with
  | .error .notFound => .ok none
  | .error cause => .error (.unreadableRecord path cause)
  | .ok content =>
    match Utf8.strictDecode content with
    | .error _ => .error (.unreadableRecord path .notText)
    | .ok text => (ofText path text).map some

/-- Writes the record of a chain, and makes the directories above it. Directories stay even
where the record cannot be written. -/
def store (t : File.Tree) (path : String) (chain : Chain) : File.Tree × Except Fault Unit :=
  let directory := (Path.parent? path).getD ""
  match t.createDirectories directory with
  | (t, .error cause) => (t, .error (.noDirectory directory cause))
  | (t, .ok ()) =>
    match t.write path (ofChain chain).content with
    | .error cause => (t, .error (.unwritableRecord path cause))
    | .ok t => (t, .ok ())

end GenesisRecord

/-- The longest hash that is shown whole, in bytes. -/
def wholeHash : Nat := 14

/-- A hash as it is shown: a long one by its first eight and its last six bytes. There is no
such form where they would cut a character. -/
def shortHash? (hash : String) : Option String :=
  let bytes := Utf8.encode hash
  if bytes.length ≤ wholeHash then some hash
  else
    match Utf8.strictDecode (bytes.take 8), Utf8.strictDecode (bytes.drop (bytes.length - 6)) with
    | .ok first, .ok last => some (first ++ "…" ++ last)
    | _, _ => none

/-- How an attempt ends: with a value, with a fault, or without a result at all. -/
inductive Outcome (α : Type)
  | done (value : α)
  | failed (fault : Fault)
  | crashed
  deriving Repr

/-- What a node changes: the files, and its journal. -/
structure Premises where
  files : File.Tree
  journal : Journal := {}

namespace Premises

/-- Writes a line about the chain. -/
def note (p : Premises) (level : Log.Level) (message : String) : Premises :=
  { p with journal := p.journal.note .chain level message }

/-- Writes a line about a hash; the hash is only shortened for a line that is seen. -/
def noteHash (p : Premises) (before hash : String) : Option Premises :=
  if p.journal.visible .chain .info then
    (shortHash? hash).map fun short => p.note .info (before ++ short)
  else some p

def record (p : Premises) (path : String) (chain : Chain) : Premises × Outcome Chain :=
  match GenesisRecord.store p.files path chain with
  | (files, .ok ()) => ({ p with files }, .done chain)
  | (files, .error fault) => ({ p with files }, .failed fault)

def found (p : Premises) (stored : GenesisRecord) (chain : Chain) : Premises × Outcome Chain :=
  match p.noteHash s!"Found stored genesis block chain={stored.chain} hash=" stored.genesisHash with
  | some p => (p, .done chain)
  | none => (p, .crashed)

def refuse (stored : GenesisRecord) (chosen : Chain) : Outcome Chain :=
  match shortHash? stored.genesisHash, shortHash? chosen.genesisHash with
  | some storedHash, some chosenHash =>
    .failed (.incompatible stored.chain storedHash chosen.name chosenHash)
  | _, _ => .crashed

/-- The chain of a run, given the chain it names and the record that is there. -/
def decide (p : Premises) (path : String) :
    Option Chain → Option GenesisRecord → Premises × Outcome Chain
  | some chosen, none =>
    match p.noteHash s!"Writing genesis block chain={chosen.name} hash=" chosen.genesisHash with
    | some p => p.record path chosen
    | none => (p, .crashed)
  | some chosen, some stored =>
    if stored = .ofChain chosen then p.found stored chosen else (p, refuse stored chosen)
  | none, some stored =>
    match Chain.named? stored.chain with
    | some chain => p.found stored chain
    | none => (p, .failed (.unknownChain stored.chain))
  | none, none =>
    let p := p.note .warn
      "Not specifying a chain flag is deprecated and will be removed in the future, please use --mainnet."
    (p.note .info "Writing default main-net genesis block").record path .mainnet

def resolve (p : Premises) (datadir : String) (flag : Option Chain) : Premises × Outcome Chain :=
  let path := GenesisRecord.path datadir
  match GenesisRecord.load p.files path with
  | .error fault => (p, .failed fault)
  | .ok stored => p.decide path flag stored

end Premises
end DaemonDialogue.Node
