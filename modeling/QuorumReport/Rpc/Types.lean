import QuorumReport.Basic

/-!
# The values the RPC methods read

`core/rpc/apis.go` reads go-ethereum's `common.Address` and `common.Hash`, the stored
transactions and events of the reporting tool's `types` package, and a
`database.Database`. The store is the answers it gives: every behaviour of the store is a
value of `Database`, so a result proved for every `Database` holds whatever the store does.
-/

namespace QuorumReport.Rpc

/-- go-ethereum's `common.Address`: twenty bytes. -/
abbrev Address := BitVec 160

/-- `common.Address{0}`: the zero address. -/
def zeroAddress : Address := 0

/-- go-ethereum's `common.Hash`: thirty-two bytes. -/
abbrev Hash := BitVec 256

/-- An allocated `map[common.Hash]string`: the raw storage words of a contract at a block. -/
abbrev StorageMap := AList (fun _ : Hash => String)

/-- A raw storage answer of the store: `none` is a `nil` map, `some m` an allocated one,
which may hold no entry. -/
abbrev RawStorage := Option StorageMap

/-- A stored event (`types.Event`): its emitter and the topics and data its decoding reads. -/
structure Event where
  /-- The contract that emitted the event. -/
  address : Address
  /-- The event's topics. -/
  topics : List Hash
  /-- The event's data. -/
  data : List UInt8
deriving DecidableEq

/-- A stored transaction (`types.Transaction`), with the fields `GetTransaction` reads. -/
structure Transaction where
  /-- The transaction's hash. -/
  hash : Hash
  /-- `To`: the recipient, the zero address for a contract creation. -/
  toAddress : Address
  /-- The contract the transaction created, if any. -/
  createdContract : Address
  /-- The call data, which `ParseTransaction` decodes. -/
  data : List UInt8
  /-- The events the transaction emitted, in order. -/
  events : List Event
deriving DecidableEq

/-- The calls of `database.Database` that the modelled RPC methods make. -/
structure Database where
  /-- `GetStorage(address, blockNumber)`. -/
  getStorage : Address → UInt64 → Except Error RawStorage
  /-- `ReadTransaction(hash)`. -/
  readTransaction : Hash → Except Error Transaction
  /-- `GetContractABI(address)`: the registered ABI, `""` when there is none. -/
  getContractABI : Address → Except Error String

end QuorumReport.Rpc
