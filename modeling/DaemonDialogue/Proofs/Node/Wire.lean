import DaemonDialogue.Node.Genesis
import DaemonDialogue.Node.Wire
import DaemonDialogue.Proofs.Json.Record
import DaemonDialogue.Proofs.Json.Value
import DaemonDialogue.Proofs.Json.Layout
import DaemonDialogue.Proofs.Text.Blank
import DaemonDialogue.Proofs.Text.Decode

/-!
# Requests, responses and records as text

A request or response is one line without controls, and is read back from it. So is the record of
a chain from its file, where it takes several lines.
-/

namespace DaemonDialogue.Node

open Json (Reading)

theorem Request.readable (r : Request) : r.toJson.Readable Json.maxDepth := by
  cases r <;> simp [Request.toJson, Json.Readable, Json.ReadableMembers, Json.maxDepth]

theorem Request.decode_line (r : Request) : Json.decode Request.ofJson r.line = .ok r := by
  refine Json.decode_compact r.readable ?_
  cases r <;> rfl

/-- Are the numbers of a node of 64 bits? -/
structure Info.Fits (node : Info) : Prop where
  networkId : node.networkId ≤ Numeral.maxU64
  chainId : node.chainId ≤ Numeral.maxU64

theorem Info.ofJson_draft {node : Info} (h : node.Fits) (how : Reading) :
    Info.ofJson how node.toJson.draft = .ok node := by
  have hnetwork : Json.u64 _ = _ := Json.unsigned_integer h.networkId
  have hchain : Json.u64 _ = _ := Json.unsigned_integer h.chainId
  have hsuits : List.Forall₂ Json.Suits Info.fields
      [("name", .string node.name), ("chain", .string node.chain),
        ("network_id", .integer node.networkId), ("chain_id", .integer node.chainId),
        ("genesis_hash", .string node.genesisHash), ("etherbase", .string node.etherbase),
        ("datadir", .string node.datadir)] := by
    simp [Info.fields, Json.Suits, Json.judged, hnetwork, hchain, Json.text, Json.textNamed,
      Info.path, Except.map]
  have hrecord : Json.record how "struct NodeInfo" Info.fields node.toJson.draft =
      .ok [.string node.name, .string node.chain, .integer node.networkId,
        .integer node.chainId, .string node.genesisHash, .string node.etherbase,
        .string node.datadir] :=
    Json.record_members how "struct NodeInfo" (by decide) _ hsuits
  rw [Info.ofJson, hrecord]
  simp only [bind, Except.bind, hnetwork, hchain]
  rfl

theorem Info.readable {node : Info} (h : node.Fits) {room : Nat} (hroom : 0 < room) :
    node.toJson.Readable room := by
  obtain ⟨hnetwork, hchain⟩ := h
  rw [Numeral.maxU64] at hnetwork hchain
  simp only [Info.toJson, Json.Readable, Json.ReadableMembers, Json.Exact, true_and, and_true]
  omega

theorem Transport.ofJson_draft (transport : Transport) (how : Reading) :
    Transport.ofJson how (.string transport.name) = .ok transport := by
  cases transport <;> rfl

theorem RemoteInfo.ofJson_draft {remote : RemoteInfo} (h : remote.node.Fits) (how : Reading) :
    RemoteInfo.ofJson how remote.toJson.draft = .ok remote := by
  have hnode := Info.ofJson_draft h how
  have htransport := Transport.ofJson_draft remote.transport how
  have hsuits : List.Forall₂ Json.Suits (RemoteInfo.fields how)
      [("node", remote.node.toJson.draft), ("modules", .string remote.modules),
        ("transport", .string remote.transport.name)] := by
    simp [RemoteInfo.fields, Json.Suits, Json.judged, hnode, htransport, Json.text, Json.textNamed,
      Except.map]
  have hrecord : Json.record how "struct RemoteInfo" (RemoteInfo.fields how) remote.toJson.draft =
      .ok [remote.node.toJson.draft, .string remote.modules, .string remote.transport.name] :=
    Json.record_members how "struct RemoteInfo" (by simp [RemoteInfo.fields]) _ hsuits
  rw [RemoteInfo.ofJson, hrecord]
  simp only [bind, Except.bind, hnode, htransport]
  rfl

/-- Can a response be read back? Numbers are of 64 bits, and a value is as a mapping is. -/
def Response.Fits : Response → Prop
  | .info remote => remote.node.Fits
  | .result value => value.Readable (Json.maxDepth - 1) ∧ value.canonical = value
  | .error _ => True

theorem Response.readable {r : Response} (h : r.Fits) : r.toJson.Readable Json.maxDepth := by
  cases r with
  | info remote =>
    have hnode : remote.node.toJson.Readable 125 := Info.readable h (by decide)
    simpa [Response.toJson, RemoteInfo.toJson, Json.Readable, Json.ReadableMembers,
      Json.maxDepth] using hnode
  | result value =>
    have hvalue : value.Readable 126 := h.1
    simpa [Response.toJson, Json.Readable, Json.ReadableMembers, Json.maxDepth] using hvalue
  | error message =>
    simp [Response.toJson, Json.Readable, Json.ReadableMembers, Json.maxDepth]

theorem Response.decode_line {r : Response} (h : r.Fits) :
    Json.decode Response.ofJson r.line = .ok r := by
  refine Json.decode_compact (Response.readable h) ?_
  cases r with
  | info remote =>
    have hremote := RemoteInfo.ofJson_draft h .direct
    change (do
      let result ← (do return Response.info (← RemoteInfo.ofJson .direct remote.toJson.draft))
      Json.Tagged.finish result []) = _
    rw [hremote]
    rfl
  | result value =>
    change (do
      let result ← (do return Response.result (← Json.meant value.draft).canonical)
      Json.Tagged.finish result []) = _
    rw [Json.meant, Json.value?_draft]
    change Except.ok (Response.result value.canonical) = _
    rw [h.2]
  | error message => rfl

/-! ## Answers -/

theorem valueOf?_fits {node : Info} (h : node.Fits) {expression : String} {value : Json}
    (hvalue : Console.valueOf? node expression = some value) : (Response.result value).Fits := by
  obtain ⟨hnetwork, hchain⟩ := h
  rw [Numeral.maxU64] at hnetwork hchain
  have hinteger : ∀ n : Nat, n ≤ 0xFFFFFFFFFFFFFFFF → (Response.result (.integer n)).Fits :=
    fun n hn => ⟨⟨by omega, by omega⟩, rfl⟩
  have hstring : ∀ s : String, (Response.result (.string s)).Fits := fun s => ⟨trivial, rfl⟩
  unfold Console.valueOf? at hvalue
  split at hvalue
  all_goals cases hvalue
  · exact hinteger _ hnetwork
  · exact hstring _
  · exact hinteger _ hchain
  · exact hinteger _ hchain
  · exact hstring _
  · exact hstring _
  · exact hstring _
  · exact hstring _
  · exact hstring _
  · exact hinteger 0 (by decide)
  · exact ⟨trivial, rfl⟩

theorem respond_fits {node : Info} (h : node.Fits) (transport : Transport) (request : Request) :
    (respond node transport request).Fits := by
  cases request with
  | info => exact h
  | eval expression =>
    rw [respond, Console.evaluate]
    cases hvalue : Console.valueOf? node (Console.bare expression) with
    | none => trivial
    | some value => exact valueOf?_fits h hvalue

theorem Request.visible_line (r : Request) : Visible r.line.toList :=
  Json.visible_compact r.toJson

theorem Response.visible_line (r : Response) : Visible r.line.toList :=
  Json.visible_compact r.toJson

theorem Request.trim_line (r : Request) : trim r.line = r.line := by
  have hmembers : ∃ members, r.toJson = .object members := by cases r <;> exact ⟨_, rfl⟩
  obtain ⟨members, hmembers⟩ := hmembers
  have hfirst : ∀ c ∈ (Json.object members).chars.head?, isBlank c = false := by
    simp [Json.chars, isBlank]
  have hlast : (Json.object members).chars.getLast? = some '\x7d' := by
    rw [← Json.Layout.text_compact 0, Json.Layout.getLast?_object]
  rw [trim, Request.line, Json.compact, String.toList_ofList, hmembers,
    Blank.trimChars_eq_self hfirst (by simp [hlast, isBlank])]

/-! ## Records -/

theorem GenesisRecord.decode_pretty (r : GenesisRecord) :
    Json.decode GenesisRecord.ofJson r.toJson.pretty = .ok r := by
  refine Json.decode_pretty ?_ rfl
  simp [GenesisRecord.toJson, Json.Readable, Json.ReadableMembers, Json.maxDepth]

theorem GenesisRecord.strictDecode_content (r : GenesisRecord) :
    Utf8.strictDecode r.content = .ok r.toJson.pretty :=
  Utf8.strictDecode_eq_ok_iff.2 rfl

/-! ## Nothing is lost -/

/-- Is a text without the ends of lines? -/
def OneLine (text : String) : Prop := '\n' ∉ text.toList ∧ '\r' ∉ text.toList

theorem oneLine_of_visible {text : String} (h : Visible text.toList) : OneLine text :=
  ⟨fun hmem => absurd (h _ hmem) (by decide), fun hmem => absurd (h _ hmem) (by decide)⟩

/-- Every request and every response is a line that stands for it alone, and every record is what
its file says. -/
theorem written_reads_back :
    (∀ request : Request, OneLine request.line ∧
      Json.decode Request.ofJson request.line = .ok request) ∧
    (∀ response : Response, OneLine response.line) ∧
    (∀ remote : RemoteInfo, remote.node.Fits →
      Json.decode Response.ofJson (Response.info remote).line = .ok (.info remote)) ∧
    (∀ value : Json, value.Readable 126 → value.Ordered →
      Json.decode Response.ofJson (Response.result value).line = .ok (.result value)) ∧
    (∀ message : String,
      Json.decode Response.ofJson (Response.error message).line = .ok (.error message)) ∧
    (∀ record : GenesisRecord, Utf8.strictDecode record.content = .ok record.toJson.pretty ∧
      Json.decode GenesisRecord.ofJson record.toJson.pretty = .ok record) := by
  refine ⟨fun request => ⟨oneLine_of_visible request.visible_line, request.decode_line⟩,
    fun response => oneLine_of_visible response.visible_line, fun remote h => ?_,
    fun value hreadable hordered => ?_, fun message => ?_,
    fun record => ⟨record.strictDecode_content, record.decode_pretty⟩⟩
  · exact Response.decode_line h
  · exact Response.decode_line ⟨hreadable, Json.canonical_of_ordered value hordered⟩
  · exact Response.decode_line (r := .error message) trivial

/-- Values of arrays and objects, the value that is nothing, and the identity of a node with
the greatest numbers. -/
theorem written_reads_back_values :
    Json.decode Response.ofJson (Response.result .null).line = .ok (.result .null) ∧
    Json.decode Response.ofJson
        (Response.result (.object [("a", .array [.null, .integer (-0x8000000000000000)]),
          ("b", .string "\"\n")])).line =
      .ok (.result (.object [("a", .array [.null, .integer (-0x8000000000000000)]),
        ("b", .string "\"\n")])) ∧
    Json.decode Response.ofJson (Response.info ⟨⟨clientName, "mainnet", Numeral.maxU64,
        Numeral.maxU64, "0x0", zeroAddress, "a b"⟩, "eth:1.0", .ws⟩).line =
      .ok (.info ⟨⟨clientName, "mainnet", Numeral.maxU64, Numeral.maxU64, "0x0", zeroAddress,
        "a b"⟩, "eth:1.0", .ws⟩) :=
  ⟨written_reads_back.2.2.2.1 .null trivial trivial,
    written_reads_back.2.2.2.1 _
      (by simp [Json.Readable, Json.ReadableMembers, Json.ReadableItems, Json.Exact])
      ⟨by decide, ⟨trivial, trivial, trivial⟩, trivial, trivial⟩,
    written_reads_back.2.2.1 _ ⟨le_rfl, le_rfl⟩⟩

end DaemonDialogue.Node
