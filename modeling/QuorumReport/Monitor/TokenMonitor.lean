import QuorumReport.Monitor.AbiMatch

/-!
# `DefaultTokenMonitor.InspectTransaction`

`InspectTransaction` collects the contracts a transaction brings into being, then asks,
for each in turn, which token rule detects a token there.

The candidates are, in order: the contract the transaction created; for the first event
whose only topic is `ContractExtensionTopic`, the contract it announces in bytes `12` to `32`
of its data, if that contract had no code at the previous block; and the contract of each
internal `CREATE` or `CREATE2` call. For a candidate, the rules are tried in order; a rule
whose scope and deployer fit is asked by EIP-165 and then by bytecode, and the first name
either gives is recorded for the candidate's address, overwriting an earlier one.

The extension address is the slice `AsBytes()[12:32]`, which the code takes without
checking the data's length. `AsBytes()`, of the `types` package that is not among the
repository's files, decodes the data's hex text with `hex.DecodeString`, and Go checks the
bound `32` against the capacity of the slice it returns. The model follows Go 1.22 and later,
where `hex.DecodeString` returns a slice of `make([]byte, DecodedLen(len(s)))`, whose
capacity is the length of well-formed data: on data of `N < 32` bytes the code panics with
`slice bounds out of range [:32] with capacity N`. Up to Go 1.21 the slice shares the buffer
of `[]byte(s)`, whose capacity is at least the text's length, and the code reads past data
of `13` to `31` bytes instead; the model does not cover those versions.

## Main results

* `extensionCandidates_panic_iff`: the extension-event loop panics exactly on a first
  extension event with fewer than `32` bytes of data, with Go's message;
* `candidateAddresses_eq`, `detectToken_eq`, `collectTokens_eq`: the three loops compute the
  transaction's new contracts, the first detecting rule and the map `tokenNames`;
* `inspectTransaction_eq_tokenNames`: whenever `InspectTransaction` succeeds, its result is
  `tokenNames`, and every key is the address of one of the transaction's new contracts.
-/

namespace QuorumReport.Monitor

/-- The message of Go's runtime panic for a slice expression `s[:high]` past the slice's
capacity `cap`. -/
def sliceBoundsMessage (high cap : Nat) : String :=
  "runtime error: slice bounds out of range [:" ++ toString high ++ "] with capacity " ++
    toString cap

/-- Go's slice expression `s[low:high]` on a slice whose capacity is its length: the window,
or the message of the runtime's panic, which checks `high` against the capacity and then
`low` against `high`. -/
def goSlice (s : List UInt8) (low high : Nat) : Except String (List UInt8) :=
  if s.length < high then .error (sliceBoundsMessage high s.length)
  else if high < low then
    .error ("runtime error: slice bounds out of range [" ++ toString low ++ ":" ++
      toString high ++ "]")
  else .ok ((s.drop low).take (high - low))

/-- `eip165Sig`: `hex.DecodeString("01ffc9a70")`, its `ErrLength` discarded. -/
def eip165Sig : List UInt8 := (Hex.decodeString "01ffc9a70").1

/-- `eip165Check`: `hex.DecodeString("ffffffff")`. -/
def eip165Check : List UInt8 := (Hex.decodeString "ffffffff").1

/-- A node answer, or a decoding error, as a monitor result. -/
def liftError {α : Type} (x : Except Error α) : Except Fault α := x.mapError Fault.error

/-- A success lifts to itself. -/
@[simp]
theorem liftError_ok {α : Type} (a : α) : liftError (.ok a) = .ok a := rfl

/-- A lifted result succeeds exactly when the original does. -/
@[simp]
theorem liftError_eq_ok {α : Type} {x : Except Error α} {a : α} :
    liftError x = .ok a ↔ x = .ok a := by
  cases x <;> simp [liftError, Except.mapError]

/-- A lifted result fails exactly with the node's error. -/
theorem liftError_eq_error {α : Type} {x : Except Error α} {f : Fault} :
    liftError x = .error f ↔ ∃ err, x = .error err ∧ f = .error err := by
  cases x <;> simp [liftError, Except.mapError, eq_comm]

/-- The result map of `InspectTransaction`: a token type per contract address. -/
abbrev TokenContracts := AList (fun _ : Address => String)

namespace DefaultTokenMonitor

variable (tm : DefaultTokenMonitor)

/-- `checkRuleMeta`: the rule applies to every contract, or to the candidate's scope and, if
it names one, to the candidate's deployer. -/
def checkRuleMeta (rule : TokenRule) (meta : AddressWithMeta) : Bool :=
  if rule.scope ≠ allScope then
    if rule.scope ≠ meta.scope then false
    else if !rule.deployer.isEmpty && rule.deployer ≠ meta.deployer then false
    else true
  else true

/-- `checkEIP165`: for a rule with an interface id, the contract supports EIP-165
(`supportsInterface(0x01ffc9a7)` is `true` and `supportsInterface(0xffffffff)` is `false`)
and the rule's interface; the rule's token type then, `""` otherwise. -/
def checkEIP165 (rule : TokenRule) (address : Address) (blockNum : UInt64) :
    Except Error String :=
  if rule.eip165 ≠ "" then
    match tm.quorumClient.callEIP165 address eip165Sig blockNum with
    | .error err => .error err
    | .ok false => .ok ""
    | .ok true =>
      match tm.quorumClient.callEIP165 address eip165Check blockNum with
      | .error err => .error err
      | .ok true => .ok ""
      | .ok false =>
        match Hex.decodeString rule.eip165 with
        | (_, some err) => .error err
        | (funcSig, none) =>
          match tm.quorumClient.callEIP165 address funcSig blockNum with
          | .error err => .error err
          | .ok detected => .ok (if detected then rule.templateName else "")
  else .ok ""

/-- Whether an event announces a contract extension: its only topic is
`ContractExtensionTopic`. -/
def isExtensionEvent (event : Event) : Bool :=
  match event.topics with
  | [topic] => topic == contractExtensionTopic
  | _ => false

/-- The contract an extension event announces: `NewAddress` of the hex of
`event.Data.AsBytes()[12:32]`. -/
def extensionAddress (event : Event) : Except Fault Address :=
  match goSlice event.data.bytes 12 32 with
  | .ok addressBytes => .ok ⟨addressBytes⟩
  | .error msg => .error (.panic msg)

/-- The extension-event loop over `events`: at the first extension event, the announced
contract, kept as a candidate if it had no code at the previous block; then the loop
breaks. -/
def extensionCandidates (tx : Transaction) : List Event → Except Fault (List AddressWithMeta)
  | [] => .ok []
  | event :: events =>
    if isExtensionEvent event then do
      let address ← extensionAddress event
      let code ← liftError (tm.quorumClient.getCode address (tx.blockNumber - 1))
      if code = HexData.empty then pure [⟨address, externalScope, tx.fromAddress⟩] else pure []
    else extensionCandidates tx events

/-- The internal-call loop: the contract of each `CREATE` or `CREATE2` call, in order. -/
def internalCandidates : List InternalCall → List AddressWithMeta
  | [] => []
  | ic :: ics =>
    if ic.callType = "CREATE" ∨ ic.callType = "CREATE2" then
      ⟨ic.toAddress, internalScope, ic.fromAddress⟩ :: internalCandidates ics
    else internalCandidates ics

/-- The candidates `InspectTransaction` inspects, in order. -/
def candidateAddresses (tx : Transaction) : Except Fault (List AddressWithMeta) := do
  let extended ← extensionCandidates tm tx tx.events
  pure ((if !tx.createdContract.isEmpty then [⟨tx.createdContract, externalScope, tx.fromAddress⟩]
    else []) ++ extended ++ internalCandidates tx.internalCalls)

/-- The rule loop for one candidate: the name given by the first rule that fits the candidate
and detects a token, by EIP-165 and then by bytecode; `none` when no rule does. -/
def detectToken (tx : Transaction) (meta : AddressWithMeta) :
    List TokenRule → Except Fault (Option String)
  | [] => .ok none
  | rule :: rules =>
    if !checkRuleMeta rule meta then detectToken tx meta rules
    else do
      let contractType ← liftError (tm.checkEIP165 rule meta.address tx.blockNumber)
      if contractType ≠ "" then pure (some contractType)
      else
        let contractBytecode ← liftError (tm.quorumClient.getCode meta.address tx.blockNumber)
        let contractType ← checkBytecodeForTokens rule contractBytecode
        if contractType ≠ "" then pure (some contractType) else detectToken tx meta rules

/-- The candidate loop: record the name each candidate's rule loop gives. -/
def collectTokens (tx : Transaction) :
    TokenContracts → List AddressWithMeta → Except Fault TokenContracts
  | tokenContracts, [] => .ok tokenContracts
  | tokenContracts, meta :: metas => do
    let detected ← detectToken tm tx meta tm.rules
    collectTokens tx (match detected with
      | some contractType => tokenContracts.insert meta.address contractType
      | none => tokenContracts) metas

/-- `InspectTransaction(tx)`. -/
def inspectTransaction (tx : Transaction) : Except Fault TokenContracts := do
  let addresses ← candidateAddresses tm tx
  collectTokens tm tx ∅ addresses

/-- An event announces an extension exactly when its topics are `[ContractExtensionTopic]`. -/
theorem isExtensionEvent_iff {event : Event} :
    isExtensionEvent event = true ↔ event.topics = [contractExtensionTopic] := by
  unfold isExtensionEvent
  split <;> simp_all

/-- `isExtensionEvent` is the test `len(event.Topics) == 1 && event.Topics[0] ==
ContractExtensionTopic` spelled as a comparison of the topics. -/
theorem isExtensionEvent_eq :
    isExtensionEvent = fun event => decide (event.topics = [contractExtensionTopic]) :=
  funext fun _ => Bool.eq_iff_iff.2 (by rw [isExtensionEvent_iff, decide_eq_true_iff])

/-- The window `[12, 32)` of an event's data is taken exactly when the data has at least `32`
bytes. -/
theorem extensionAddress_eq_ok_iff {event : Event} {address : Address} :
    extensionAddress event = .ok address ↔
      32 ≤ event.data.bytes.length ∧ address = ⟨(event.data.bytes.drop 12).take 20⟩ := by
  unfold extensionAddress goSlice
  by_cases h : event.data.bytes.length < 32
  · simp [h]
  · simp [h, Nat.le_of_not_lt h, eq_comm]

/-- The window `[12, 32)` of an event's data fails exactly on data shorter than `32` bytes,
with Go's panic naming the data's length as the capacity. -/
theorem extensionAddress_eq_error {event : Event} {f : Fault} :
    extensionAddress event = .error f ↔ event.data.bytes.length < 32 ∧
      f = .panic (sliceBoundsMessage 32 event.data.bytes.length) := by
  unfold extensionAddress goSlice
  by_cases h : event.data.bytes.length < 32 <;> simp [h, eq_comm]

/-- The extension-event loop panics exactly when the first event whose only topic is
`ContractExtensionTopic` has fewer than `32` bytes of data, with Go's slice-bounds message for
that length; it slices no other event's data. -/
theorem extensionCandidates_panic_iff (tx : Transaction) (events : List Event) (msg : String) :
    extensionCandidates tm tx events = .error (.panic msg) ↔
      ∃ event, events.find? isExtensionEvent = some event ∧ event.data.bytes.length < 32 ∧
        msg = sliceBoundsMessage 32 event.data.bytes.length := by
  induction events with
  | nil => simp [extensionCandidates]
  | cons event events ih =>
    by_cases he : isExtensionEvent event
    · simp only [extensionCandidates, he, if_true, List.find?_cons_of_pos _ he, Option.some.injEq,
        exists_eq_left', except_bind_eq_error, extensionAddress_eq_error, Fault.panic.injEq]
      refine or_iff_left_of_imp fun ⟨_, _, h⟩ => ?_
      rcases h with h | ⟨code, -, h⟩
      · obtain ⟨err, -, hf⟩ := liftError_eq_error.1 h
        cases hf
      · split at h <;> cases h
    · simp only [extensionCandidates, he, Bool.false_eq_true, if_false]
      rw [List.find?_cons_of_neg _ (by simpa using he)]
      exact ih

/-! ### The result over the transaction's new contracts -/

/-- The contract an extension event announces: bytes `12` to `32` of its data. -/
def announcedAddress (event : Event) : Address := ⟨(event.data.bytes.drop 12).take 20⟩

/-- The node reports empty code for a contract at the block before the transaction's. -/
def hadEmptyCode (tx : Transaction) (address : Address) : Bool :=
  match tm.quorumClient.getCode address (tx.blockNumber - 1) with
  | .ok code => code == HexData.empty
  | .error _ => false

/-- The contracts a transaction brings into being, in order, each with its scope and deployer:
the contract it created, if any; for the first event whose topics are
`[ContractExtensionTopic]`, the contract it announces, if that contract had empty code at block
`tx.BlockNumber - 1`; and the contract of each `CREATE` or `CREATE2` internal call. -/
def newContracts (tx : Transaction) : List AddressWithMeta :=
  (if tx.createdContract.isEmpty then [] else [⟨tx.createdContract, externalScope, tx.fromAddress⟩]) ++
  (match tx.events.find? (fun event => event.topics = [contractExtensionTopic]) with
    | some event =>
      if hadEmptyCode tm tx (announcedAddress event)
      then [⟨announcedAddress event, externalScope, tx.fromAddress⟩] else []
    | none => []) ++
  (tx.internalCalls.filter fun ic => ic.callType = "CREATE" ∨ ic.callType = "CREATE2").map
    fun ic => ⟨ic.toAddress, internalScope, ic.fromAddress⟩

/-- The non-empty name a check gives, if it gives one. -/
def givesName {ε : Type} : Except ε String → Option String
  | .ok name => if name = "" then none else some name
  | .error _ => none

/-- The name rule `rule` gives the candidate `meta`: its scope and deployer fit, and the
EIP-165 check, or else the bytecode check of the candidate's code at the transaction's block,
gives a non-empty name. -/
def ruleName (tx : Transaction) (meta : AddressWithMeta) (rule : TokenRule) : Option String :=
  if checkRuleMeta rule meta then
    (givesName (tm.checkEIP165 rule meta.address tx.blockNumber)).orElse fun _ =>
      givesName (liftError (tm.quorumClient.getCode meta.address tx.blockNumber) >>=
        checkBytecodeForTokens rule)
  else none

/-- Record the name of the first rule that gives a contract one, overwriting an earlier entry
for its address. -/
def recordTokenName (tx : Transaction) (tokenContracts : TokenContracts) (meta : AddressWithMeta) :
    TokenContracts :=
  match tm.rules.findSome? (ruleName tm tx meta) with
  | some name => tokenContracts.insert meta.address name
  | none => tokenContracts

/-- The token names of the transaction's new contracts: over them in order, the name of the
first rule that gives one, later contracts overwriting earlier entries for the same address. -/
def tokenNames (tx : Transaction) : TokenContracts :=
  (newContracts tm tx).foldl (recordTokenName tm tx) ∅

/-! ### The loops compute `tokenNames` -/

/-- The internal-call loop keeps the `CREATE` and `CREATE2` calls, in order. -/
theorem internalCandidates_eq (ics : List InternalCall) :
    internalCandidates ics =
      (ics.filter fun ic => ic.callType = "CREATE" ∨ ic.callType = "CREATE2").map
        fun ic => ⟨ic.toAddress, internalScope, ic.fromAddress⟩ := by
  induction ics with
  | nil => rfl
  | cons ic ics ih => by_cases h : ic.callType = "CREATE" ∨ ic.callType = "CREATE2" <;> simp [internalCandidates, h, ih]

/-- When the extension-event loop succeeds, it keeps the first extension event's announced
contract exactly when that contract had empty code at the previous block. -/
theorem extensionCandidates_eq {tx : Transaction} {events : List Event}
    {extended : List AddressWithMeta} (h : extensionCandidates tm tx events = .ok extended) :
    extended = match events.find? isExtensionEvent with
      | some event =>
        if hadEmptyCode tm tx (announcedAddress event)
        then [⟨announcedAddress event, externalScope, tx.fromAddress⟩] else []
      | none => [] := by
  induction events with
  | nil => simpa [extensionCandidates] using h.symm
  | cons event events ih =>
    by_cases he : isExtensionEvent event
    · simp only [extensionCandidates, he, if_true] at h
      obtain ⟨address, ha, h⟩ := except_bind_eq_ok.1 h
      obtain ⟨-, rfl⟩ := extensionAddress_eq_ok_iff.1 ha
      obtain ⟨code, hc, h⟩ := except_bind_eq_ok.1 h
      rw [liftError_eq_ok] at hc
      rw [List.find?_cons_of_pos _ he]
      simp only [hadEmptyCode, announcedAddress, hc]
      split at h <;> cases h <;> simp [*]
    · simp only [extensionCandidates, he] at h
      rw [List.find?_cons_of_neg _ (by simpa using he)]
      exact ih h

/-- When `InspectTransaction` gets its candidates, they are the transaction's new contracts. -/
theorem candidateAddresses_eq {tx : Transaction} {addresses : List AddressWithMeta}
    (h : candidateAddresses tm tx = .ok addresses) : addresses = newContracts tm tx := by
  obtain ⟨extended, he, h⟩ := except_bind_eq_ok.1 h
  cases h
  rw [extensionCandidates_eq tm he, internalCandidates_eq, newContracts, isExtensionEvent_eq]
  cases tx.createdContract.isEmpty <;> rfl

/-- When the rule loop succeeds, it gives the name of the first rule that gives the candidate
one. -/
theorem detectToken_eq {tx : Transaction} {meta : AddressWithMeta} {rules : List TokenRule}
    {detected : Option String} (h : detectToken tm tx meta rules = .ok detected) :
    detected = rules.findSome? (ruleName tm tx meta) := by
  induction rules with
  | nil => exact (Except.ok.inj h).symm
  | cons rule rules ih =>
    by_cases hm : checkRuleMeta rule meta
    · simp only [detectToken, hm, Bool.not_true] at h
      obtain ⟨contractType, hct, h⟩ := except_bind_eq_ok.1 h
      rw [liftError_eq_ok] at hct
      rw [List.findSome?_cons]
      by_cases hc : contractType = ""
      · obtain ⟨code, hcode, h⟩ := except_bind_eq_ok.1 (by simpa [hc] using h)
        obtain ⟨bytecodeType, hbt, h⟩ := except_bind_eq_ok.1 h
        rw [liftError_eq_ok] at hcode
        have hname : ruleName tm tx meta rule = givesName (.ok bytecodeType : Except Fault String) := by
          simp [ruleName, hm, hct, hc, givesName, hcode, hbt]
        rw [hname]
        by_cases hb : bytecodeType = ""
        · simpa [hb, givesName] using ih (by simpa [hb] using h)
        · simp only [hb, if_false] at h
          cases h
          simp [givesName, hb]
      · simp only [hc, ne_eq, not_false_eq_true, if_true] at h
        cases h
        simp [ruleName, hm, hct, givesName, hc]
    · simp only [detectToken, hm, Bool.not_false, if_true] at h
      simp [List.findSome?_cons, ruleName, hm, ih h]

/-- When the candidate loop succeeds, it records what `recordTokenName` records. -/
theorem collectTokens_eq {tx : Transaction} {tokenContracts result : TokenContracts}
    {metas : List AddressWithMeta} (h : collectTokens tm tx tokenContracts metas = .ok result) :
    result = metas.foldl (recordTokenName tm tx) tokenContracts := by
  induction metas generalizing tokenContracts with
  | nil => exact (Except.ok.inj h).symm
  | cons meta metas ih =>
    obtain ⟨detected, hd, h⟩ := except_bind_eq_ok.1 h
    rw [ih h, List.foldl_cons, recordTokenName, ← detectToken_eq tm hd]

/-- Every key after the records was a key before, or is the address of a recorded contract. -/
theorem mem_foldl_recordTokenName {tx : Transaction} {a : Address} (metas : List AddressWithMeta)
    (tokenContracts : TokenContracts) (h : a ∈ metas.foldl (recordTokenName tm tx) tokenContracts) :
    a ∈ tokenContracts ∨ ∃ meta ∈ metas, meta.address = a := by
  induction metas generalizing tokenContracts with
  | nil => exact .inl h
  | cons meta metas ih =>
    rcases ih _ h with h | ⟨m, hm, rfl⟩
    · unfold recordTokenName at h
      split at h
      · rcases (AList.mem_insert _).1 h with rfl | h
        · exact .inr ⟨meta, List.mem_cons_self _ _, rfl⟩
        · exact .inl h
      · exact .inl h
    · exact .inr ⟨m, List.mem_cons_of_mem _ hm, rfl⟩

/-- Whenever `InspectTransaction` succeeds, its result is `tokenNames`: over the transaction's
new contracts in order, the name of the first rule that gives the contract one is recorded for
its address, later contracts overwriting earlier ones. Every key is the address of one of the
new contracts. -/
theorem inspectTransaction_eq_tokenNames {tx : Transaction} {tokenContracts : TokenContracts}
    (h : tm.inspectTransaction tx = .ok tokenContracts) :
    tokenContracts = tokenNames tm tx ∧
      ∀ a ∈ tokenContracts, ∃ meta ∈ newContracts tm tx, meta.address = a := by
  obtain ⟨addresses, ha, h⟩ := except_bind_eq_ok.1 h
  rw [candidateAddresses_eq tm ha] at h
  have hres := collectTokens_eq tm h
  refine ⟨hres, fun a hmem => ?_⟩
  rw [hres] at hmem
  exact (mem_foldl_recordTokenName tm _ ∅ hmem).resolve_left (AList.not_mem_empty a)

end DefaultTokenMonitor

/-- A node at which every contract has the code `a9 05 9c bb` at block `5` and no code before,
and supports EIP-165 and every other interface. -/
def transferClient : Client where
  getCode _ blockNum := .ok (if blockNum = 5 then ⟨[0xa9, 0x05, 0x9c, 0xbb]⟩ else HexData.empty)
  callEIP165 _ interfaceId _ := .ok (interfaceId ≠ eip165Check)

/-- A monitor with two rules: ERC-20 by the `transfer` selector in the code, for the contracts a
transaction creates itself, and ERC-721 by EIP-165, for the contracts internal calls create. -/
def twoRuleMonitor : DefaultTokenMonitor :=
  ⟨transferClient, [⟨externalScope, ⟨[]⟩, "ERC20", "", some transferABI⟩,
    ⟨internalScope, ⟨[]⟩, "ERC721", "80ac58cd", none⟩]⟩

/-- A transaction in block `5` from `01` that creates the contract `02`, announces an extension
of the contract `00…03` in bytes `12` to `32` of its one event's data, and creates `02` again
by an internal `CREATE` call. -/
def extensionTx : Transaction :=
  ⟨5, ⟨[1]⟩, ⟨[2]⟩, [⟨[contractExtensionTopic], ⟨List.replicate 31 0 ++ [3]⟩⟩],
    [⟨"CREATE", ⟨[1]⟩, ⟨[2]⟩⟩]⟩

/-- The records of `extensionTx`, in order: `02` as ERC-20, the announced `00…03` as ERC-20,
then `02` again, now as ERC-721. -/
def extensionTokens : TokenContracts :=
  (((∅ : TokenContracts).insert ⟨[2]⟩ "ERC20").insert ⟨List.replicate 19 0 ++ [3]⟩ "ERC20").insert
    ⟨[2]⟩ "ERC721"

/-- On `extensionTx` the monitor inspects the created contract, the announced one and the
internal creation in this order, and the internal creation's ERC-721 overwrites the ERC-20 entry
of `02`. -/
theorem inspectTransaction_extension :
    twoRuleMonitor.inspectTransaction extensionTx = .ok extensionTokens ∧
      extensionTokens.lookup ⟨[2]⟩ = some "ERC721" ∧
      extensionTokens = twoRuleMonitor.tokenNames extensionTx ∧
      ∀ a ∈ extensionTokens, ∃ meta ∈ twoRuleMonitor.newContracts extensionTx, meta.address = a :=
  ⟨rfl, rfl, DefaultTokenMonitor.inspectTransaction_eq_tokenNames twoRuleMonitor rfl⟩

/-- A transaction whose only event announces an extension and carries no data. -/
def emptyExtensionTx : Transaction :=
  ⟨1, ⟨[]⟩, ⟨[]⟩, [⟨[contractExtensionTopic], HexData.empty⟩], []⟩

/-- On an extension event with no data, every monitor panics taking `[12:32]` of the data,
before it asks the node anything. -/
theorem inspectTransaction_empty_extension_data (tm : DefaultTokenMonitor) :
    tm.inspectTransaction emptyExtensionTx =
      .error (.panic "runtime error: slice bounds out of range [:32] with capacity 0") := rfl

end QuorumReport.Monitor
