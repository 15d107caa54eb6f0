/-!
# Chains

The chains that a node knows, by name. One of them has a second name.
-/

namespace DaemonDialogue.Node

/-- A chain with its network and the hash of its first block. -/
structure Chain where
  name : String
  networkId : Nat
  chainId : Nat
  genesisHash : String
  deriving DecidableEq, Repr, Inhabited

namespace Chain

def mainnet : Chain :=
  ⟨"mainnet", 1, 1, "0xd4e56740f876aef8c010b86a40d5f56745a118d0906a34e69aec8c0db1cb8fa3"⟩

def classic : Chain :=
  ⟨"classic", 1, 61, "0xd4e56740f876aef8c010b86a40d5f56745a118d0906a34e69aec8c0db1cb8fa3"⟩

def ropsten : Chain :=
  ⟨"ropsten", 3, 3, "0x41941023680923e0fe4d74a34bdac8141f2540e3ae90623718e47d66d1ca4a2d"⟩

def rinkeby : Chain :=
  ⟨"rinkeby", 4, 4, "0x6341fd3daf94b748c72ced5a5b26028f2474f5f00d824504e4fa37a75767e177"⟩

def goerli : Chain :=
  ⟨"goerli", 5, 5, "0xbf7e331f7f7c1dd2e05159666b3bf8bc7a8a3a9eb1d518969eab529dd9b88c1a"⟩

def kotti : Chain :=
  ⟨"kotti", 6, 6, "0x14c2283285a88fe5fce9bf5c573ab03d6616695d717b12a127188bcacfc743c4"⟩

def mordor : Chain :=
  ⟨"mordor", 7, 63, "0xa68ebde7932eccb177d38d55dcc6461a019dd795a681e59b5a3e4f3a7259a3f1"⟩

def yolov2 : Chain :=
  ⟨"yolov2", 133519467574834, 133519467574834,
    "0x498a7239036dd2cd09e2bb8a80922b78632017958c332b42044c250d603a8a3e"⟩

def all : List Chain := [mainnet, classic, ropsten, rinkeby, goerli, kotti, mordor, yolov2]

/-- The chain of a name; `testnet` is another name of `ropsten`. -/
def named? (name : String) : Option Chain :=
  let name := if name = "testnet" then ropsten.name else name
  all.find? fun chain => chain.name == name

end Chain
end DaemonDialogue.Node
