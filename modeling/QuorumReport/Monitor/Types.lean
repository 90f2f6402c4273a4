import QuorumReport.Hex

/-!
# The values the token monitor reads

The token monitor reads the reporting tool's own `types` package, which is not among the
repository's files. Its `Address`, `Hash` and `HexData` hold the lower-case hex text of
byte strings; here they hold the bytes, the text being `Hex.encodeToString` of them, so a
value's text is well formed by construction. `NewAddress(hex.EncodeToString(b))` is then
the address of the bytes `b`, and an address `IsEmpty` when it has no bytes (the empty
text). A contract ABI is the selectors of its functions and the topic hashes of its
events, of which `Signature()` is the hex text.

The node is the answers it gives: `Client` holds `client.GetCode` and `client.CallEIP165`
as functions, and a result proved for every `Client` holds whatever the node answers. A
Go panic is a `Fault.panic`, set apart from the errors the methods return.
-/

namespace QuorumReport.Monitor

/-- `types.Address`, by the bytes its hex text spells. -/
structure Address where
  /-- The address's bytes. -/
  bytes : List UInt8
deriving DecidableEq, Repr

/-- `Address.IsEmpty()`: the empty address. -/
def Address.isEmpty (a : Address) : Bool := a.bytes.isEmpty

/-- `types.Hash`, by its bytes. -/
structure Hash where
  /-- The hash's bytes. -/
  bytes : List UInt8
deriving DecidableEq, Repr

/-- `types.HexData`, by the bytes its hex text spells. -/
structure HexData where
  /-- `AsBytes()`: the bytes `hex.DecodeString` reads from the text. Since Go 1.22 this slice's
  capacity is its length. -/
  bytes : List UInt8
deriving DecidableEq, Repr

/-- `HexData.String()`: the hex text behind `0x`. -/
def HexData.string (d : HexData) : String := "0x" ++ Hex.encodeToString d.bytes

/-- `types.NewHexData("")`: no bytes. -/
def HexData.empty : HexData := ⟨[]⟩

/-- `ContractExtensionTopic`, `types.NewHash("0x67a9…e71e")`: the topic of the event that
announces a contract extension. -/
def contractExtensionTopic : Hash :=
  ⟨(Hex.decodeString "67a92539f3cbd7c5a9b36c23c0e2beceb27d2e1b3cd8eda02c623689267ae71e").1⟩

/-- `types.AllScope`. The scope constants of `types` are compared for equality only. -/
def allScope : String := "all"

/-- `types.ExternalScope`: contracts created by a transaction itself. -/
def externalScope : String := "external"

/-- `types.InternalScope`: contracts created by an internal call. -/
def internalScope : String := "internal"

/-- A function of a contract ABI, by its four-byte selector. -/
structure ABIFunction where
  /-- The selector's bytes. -/
  selector : List UInt8
  /-- A selector has four bytes. -/
  selector_length : selector.length = 4
deriving DecidableEq

/-- An event of a contract ABI, by its thirty-two-byte topic hash. -/
structure ABIEvent where
  /-- The topic hash's bytes. -/
  topic : List UInt8
  /-- A topic hash has thirty-two bytes. -/
  topic_length : topic.length = 32
deriving DecidableEq

/-- `Signature()` of a function: the hex text of its selector. -/
def ABIFunction.signature (f : ABIFunction) : String := Hex.encodeToString f.selector

/-- `Signature()` of an event: the hex text of its topic hash. -/
def ABIEvent.signature (e : ABIEvent) : String := Hex.encodeToString e.topic

/-- `types.ContractABI`: the functions and events an ABI declares. -/
structure ContractABI where
  /-- The declared functions. -/
  functions : List ABIFunction
  /-- The declared events. -/
  events : List ABIEvent
deriving DecidableEq

/-- An event of a transaction (`types.Event`), with the fields the monitor reads. -/
structure Event where
  /-- The event's topics. -/
  topics : List Hash
  /-- The event's data. -/
  data : HexData
deriving DecidableEq

/-- An internal call of a transaction (`types.InternalCall`). -/
structure InternalCall where
  /-- `Type`: `"CALL"`, `"CREATE"`, `"CREATE2"`, …. -/
  callType : String
  /-- `From`: the caller. -/
  fromAddress : Address
  /-- `To`: the callee, the new contract for a creation. -/
  toAddress : Address
deriving DecidableEq

/-- A transaction (`types.Transaction`), with the fields the monitor reads. -/
structure Transaction where
  /-- The block the transaction is in. -/
  blockNumber : UInt64
  /-- `From`: the sender. -/
  fromAddress : Address
  /-- The contract the transaction created; empty if none. -/
  createdContract : Address
  /-- The events the transaction emitted, in order. -/
  events : List Event
  /-- The internal calls the transaction made, in order. -/
  internalCalls : List InternalCall
deriving DecidableEq

/-- `TokenRule`: which contracts a rule applies to, and how it detects a token. -/
structure TokenRule where
  /-- The scope the rule applies to, or `allScope`. -/
  scope : String
  /-- The deployer the rule applies to; empty for any deployer. -/
  deployer : Address
  /-- The token type the rule detects. -/
  templateName : String
  /-- The EIP-165 interface id, in hex; empty to skip the EIP-165 check. -/
  eip165 : String
  /-- The ABI whose signatures the bytecode must hold; `none` for a `nil` pointer. -/
  abi : Option ContractABI
deriving DecidableEq

/-- `AddressWithMeta`: a contract to inspect, with its scope and deployer. -/
structure AddressWithMeta where
  /-- The contract's address. -/
  address : Address
  /-- `externalScope` or `internalScope`. -/
  scope : String
  /-- Who deployed it. -/
  deployer : Address
deriving DecidableEq

/-- The calls the monitor makes to the node. -/
structure Client where
  /-- `client.GetCode(c, address, blockNum)`: the code of a contract at a block. -/
  getCode : Address → UInt64 → Except Error HexData
  /-- `client.CallEIP165(c, address, interfaceId, blockNum)`: whether `supportsInterface`
  answers `true` for the interface id. -/
  callEIP165 : Address → List UInt8 → UInt64 → Except Error Bool

/-- How a monitor method stops without a result: an error it returns, or a Go panic. -/
inductive Fault
  /-- An error returned to the caller. -/
  | error (err : Error)
  /-- A Go runtime panic. -/
  | panic (msg : String)
deriving DecidableEq, Repr

/-- `DefaultTokenMonitor`: the node it asks and the rules it applies, in order. -/
structure DefaultTokenMonitor where
  /-- The node. -/
  quorumClient : Client
  /-- The token rules, in the order they are tried. -/
  rules : List TokenRule

end QuorumReport.Monitor
