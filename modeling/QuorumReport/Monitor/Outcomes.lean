import QuorumReport.Monitor.TokenMonitor

/-!
# What `InspectTransaction` records, and how it fails

`InspectTransaction` records a token type for a contract only on evidence from the node: the
EIP-165 handshake of `checkEIP165` (the contract answers `true` to
`supportsInterface(0x01ffc9a7)`, `false` to `0xffffffff`, and `true` to the rule's interface
id), or the signatures of the rule's ABI in the contract's code (`checkBytecodeForTokens`). `Eip165Detects` and
`BytecodeDetects` state the two kinds of evidence from the node's answers alone, and
`Detects` is either.

Each check has a lemma saying what its non-empty answer and its failures mean, and the
candidate loop has lemmas for the lookups of the map it fills. Over them, the map that a
successful run returns holds exactly the candidates that some rule fitting them detects,
each under the template name of such a rule. A failed run failed for one of four reasons:
an error of the node, a rule's interface id that `hex.DecodeString` rejects, the `[12:32]`
slice of a short extension event, or the `nil` ABI of a fitting rule whose EIP-165 check names
nothing, which `checkAbiMatch` dereferences. The node is read only at the transaction's block, and at the block before for
the code of an announced extension.

## Main results

* `inspectTransaction_records`: every entry of the result is the template name of a rule
  that fits a candidate with that address and detects it, and every candidate that a rule
  with a name fits and detects has an entry;
* `inspectTransaction_fault`: the failures of `InspectTransaction`, by cause;
* `inspectTransaction_of_agreeAt`: the result depends on the chain only at the transaction's
  block and the block before.
-/

namespace QuorumReport.Monitor

namespace DefaultTokenMonitor

variable (tm : DefaultTokenMonitor)

section Evidence

variable (rule : TokenRule) (address : Address) (blockNum : UInt64)

/-- The EIP-165 handshake passes at block `blockNum`: the contract at `address` answers `true`
to `supportsInterface(0x01ffc9a7)`, `false` to `supportsInterface(0xffffffff)`, and `true` to
the interface whose id the rule holds in hex. -/
def Eip165Detects : Prop :=
  rule.eip165 ≠ "" ∧ tm.quorumClient.callEIP165 address eip165Sig blockNum = .ok true ∧
    tm.quorumClient.callEIP165 address eip165Check blockNum = .ok false ∧
    ∃ funcSig, Hex.decodeString rule.eip165 = (funcSig, none) ∧
      tm.quorumClient.callEIP165 address funcSig blockNum = .ok true

/-- The rule has an ABI, and the code of the contract at `address` at block `blockNum`
holds all its signatures. -/
def BytecodeDetects : Prop :=
  ∃ abi code, rule.abi = some abi ∧ tm.quorumClient.getCode address blockNum = .ok code ∧
    checkAbiMatch (some abi) code = .ok true

/-- The node's answers show the contract at `address` to be a token of the rule's type. -/
def Detects : Prop :=
  Eip165Detects tm rule address blockNum ∨ BytecodeDetects tm rule address blockNum

/-- `err` is an error the node returned for the contract at `address`: asked for its code at
block `blockNum` or at the block before, or asked an EIP-165 question at `blockNum`. -/
def NodeError (err : Error) : Prop :=
  tm.quorumClient.getCode address blockNum = .error err ∨
    tm.quorumClient.getCode address (blockNum - 1) = .error err ∨
    ∃ sig, tm.quorumClient.callEIP165 address sig blockNum = .error err

/-- The rule loop stops at `rule` for the candidate `meta` by dereferencing the rule's `nil`
ABI: the rule fits the candidate and has no ABI, its EIP-165 check names nothing, and the node
gives the candidate's code at block `blockNum`. -/
def NilAbiReached (meta : AddressWithMeta) : Prop :=
  checkRuleMeta rule meta = true ∧ rule.abi = none ∧
    tm.checkEIP165 rule meta.address blockNum = .ok "" ∧
    ∃ code, tm.quorumClient.getCode meta.address blockNum = .ok code

variable {rule address blockNum}

/-! ### The two checks -/

/-- A passed handshake gives the rule's template name. -/
theorem checkEIP165_of_eip165Detects (hd : Eip165Detects tm rule address blockNum) :
    tm.checkEIP165 rule address blockNum = .ok rule.templateName := by
  obtain ⟨he, h1, h2, funcSig, h3, h4⟩ := hd
  simp [checkEIP165, he, h1, h2, h3, h4]

/-- `checkEIP165` names a contract only after a passed handshake, and then gives the rule's
template name. -/
theorem eip165Detects_of_checkEIP165 {name : String}
    (h : tm.checkEIP165 rule address blockNum = .ok name) (hn : name ≠ "") :
    name = rule.templateName ∧ Eip165Detects tm rule address blockNum := by
  unfold checkEIP165 at h
  split_ifs at h with he
  · split at h <;> try cases h
    · exact absurd rfl hn
    · rename_i h1
      split at h <;> try cases h
      · exact absurd rfl hn
      · rename_i h2
        split at h <;> try cases h
        rename_i funcSig h3
        split at h <;> cases h
        rename_i detected h4
        cases detected
        · exact absurd rfl hn
        · exact ⟨rfl, he, h1, h2, funcSig, h3, h4⟩
  · cases h
    exact absurd rfl hn

/-- `checkEIP165` fails only with an error of an EIP-165 call, or with the error
`hex.DecodeString` gives for the rule's interface id. -/
theorem checkEIP165_eq_error {err : Error} (h : tm.checkEIP165 rule address blockNum = .error err) :
    (∃ sig, tm.quorumClient.callEIP165 address sig blockNum = .error err) ∨
      rule.eip165 ≠ "" ∧ (Hex.decodeString rule.eip165).2 = some err := by
  unfold checkEIP165 at h
  split_ifs at h with he
  · split at h <;> try cases h
    · exact .inl ⟨_, ‹_›⟩
    · split at h <;> try cases h
      · exact .inl ⟨_, ‹_›⟩
      · split at h <;> try cases h
        · rename_i h3
          exact .inr ⟨he, by rw [h3]⟩
        · split at h <;> cases h
          exact .inl ⟨_, ‹_›⟩

/-- A matching ABI gives the rule's template name. -/
theorem checkBytecodeForTokens_of_match {abi : ContractABI} {code : HexData}
    (ha : rule.abi = some abi) (hm : checkAbiMatch (some abi) code = .ok true) :
    checkBytecodeForTokens rule code = .ok rule.templateName := by
  simp [checkBytecodeForTokens, ha, hm, pure, Except.pure]

/-- `checkBytecodeForTokens` names a contract only when the rule has an ABI that the code
matches, and then gives the rule's template name. -/
theorem match_of_checkBytecodeForTokens {code : HexData} {name : String}
    (h : checkBytecodeForTokens rule code = .ok name) (hn : name ≠ "") :
    name = rule.templateName ∧ ∃ abi, rule.abi = some abi ∧ checkAbiMatch (some abi) code = .ok true := by
  unfold checkBytecodeForTokens at h
  obtain ⟨matched, hm, h⟩ := except_bind_eq_ok.1 h
  cases matched
  · exact absurd (Except.ok.inj h).symm hn
  · cases ha : rule.abi with
    | none => simp [ha, checkAbiMatch] at hm
    | some abi => exact ⟨(Except.ok.inj h).symm, abi, rfl, ha ▸ hm⟩

/-- `checkBytecodeForTokens` fails only by dereferencing a `nil` ABI. -/
theorem checkBytecodeForTokens_eq_error {code : HexData} {f : Fault}
    (h : checkBytecodeForTokens rule code = .error f) :
    rule.abi = none ∧ f = .panic "runtime error: invalid memory address or nil pointer dereference" := by
  unfold checkBytecodeForTokens checkAbiMatch at h
  cases ha : rule.abi with
  | none => simp only [ha, except_bind_error] at h; exact ⟨rfl, (Except.error.inj h).symm⟩
  | some abi =>
    simp only [ha, except_ok_bind] at h
    split at h <;> cases h

/-! ### The name a rule gives a candidate -/

/-- A check gives a name when it succeeds with a non-empty one. -/
theorem givesName_eq_some {ε : Type} {x : Except ε String} {name : String} :
    givesName x = some name ↔ x = .ok name ∧ name ≠ "" := by
  cases x with
  | error e => simp [givesName]
  | ok n =>
    by_cases hn : n = ""
    · subst hn
      simp [givesName, eq_comm]
    · simp only [givesName, if_neg hn, Option.some.injEq, Except.ok.injEq]
      exact ⟨fun h => ⟨h, h ▸ hn⟩, And.left⟩

/-- The EIP-165 check gives a name exactly for a passed handshake and a non-empty template
name. -/
theorem givesName_checkEIP165 {name : String} :
    givesName (tm.checkEIP165 rule address blockNum) = some name ↔
      name = rule.templateName ∧ name ≠ "" ∧ Eip165Detects tm rule address blockNum := by
  rw [givesName_eq_some]
  constructor
  · rintro ⟨hc, hn⟩
    obtain ⟨rfl, hd⟩ := eip165Detects_of_checkEIP165 tm hc hn
    exact ⟨rfl, hn, hd⟩
  · rintro ⟨rfl, hn, hd⟩
    exact ⟨checkEIP165_of_eip165Detects tm hd, hn⟩

/-- The bytecode check gives a name exactly when the code matches the rule's ABI and the
template name is not empty. -/
theorem givesName_bytecode {name : String} :
    givesName (liftError (tm.quorumClient.getCode address blockNum) >>=
        checkBytecodeForTokens rule) = some name ↔
      name = rule.templateName ∧ name ≠ "" ∧ BytecodeDetects tm rule address blockNum := by
  rw [givesName_eq_some]
  constructor
  · rintro ⟨hc, hn⟩
    obtain ⟨code, hcode, hb⟩ := except_bind_eq_ok.1 hc
    obtain ⟨rfl, abi, ha, hm⟩ := match_of_checkBytecodeForTokens hb hn
    exact ⟨rfl, hn, abi, code, ha, liftError_eq_ok.1 hcode, hm⟩
  · rintro ⟨rfl, hn, abi, code, ha, hcode, hm⟩
    exact ⟨by simp [hcode, checkBytecodeForTokens_of_match ha hm], hn⟩

/-- The name a rule gives a candidate is its template name, when the rule fits the
candidate, the name is not empty, and the node's answers show the candidate to be a token of
the rule's type. -/
theorem ruleName_eq_some_iff {tx : Transaction} {meta : AddressWithMeta} {name : String} :
    ruleName tm tx meta rule = some name ↔ checkRuleMeta rule meta = true ∧
      name = rule.templateName ∧ name ≠ "" ∧ Detects tm rule meta.address tx.blockNumber := by
  unfold ruleName Detects
  by_cases hm : checkRuleMeta rule meta
  · simp only [hm, if_true, true_and]
    cases he : givesName (tm.checkEIP165 rule meta.address tx.blockNumber) with
    | some n =>
      obtain ⟨rfl, hn, hd⟩ := (givesName_checkEIP165 tm).1 he
      simp only [Option.orElse, Option.some.injEq]
      constructor
      · rintro rfl
        exact ⟨rfl, hn, .inl hd⟩
      · rintro ⟨rfl, -, -⟩
        rfl
    | none =>
      simp only [Option.orElse, givesName_bytecode]
      constructor
      · rintro ⟨rfl, hn, hd⟩
        exact ⟨rfl, hn, .inr hd⟩
      · rintro ⟨rfl, hn, hd | hd⟩
        · rw [(givesName_checkEIP165 tm).2 ⟨rfl, hn, hd⟩] at he
          cases he
        · exact ⟨rfl, hn, hd⟩
  · simp [hm]

end Evidence

/-! ### The candidate loop's map -/

section Records

variable {tx : Transaction}

/-- A key the map has after the candidate loop keeps its value from before the loop, or
holds the name of the first rule that names a candidate with that address. -/
theorem lookup_foldl_recordTokenName {a : Address} {name : String} {metas : List AddressWithMeta}
    {tokenContracts : TokenContracts}
    (h : (metas.foldl (recordTokenName tm tx) tokenContracts).lookup a = some name) :
    tokenContracts.lookup a = some name ∨
      ∃ meta ∈ metas, meta.address = a ∧ tm.rules.findSome? (ruleName tm tx meta) = some name := by
  induction metas generalizing tokenContracts with
  | nil => exact .inl h
  | cons meta metas ih =>
    rcases ih h with h | ⟨m, hm, ha, hf⟩
    · unfold recordTokenName at h
      split at h
      · rename_i n hf
        by_cases ha : a = meta.address
        · subst ha
          rw [AList.lookup_insert] at h
          cases h
          exact .inr ⟨meta, List.mem_cons_self _ _, rfl, hf⟩
        · exact .inl (by rwa [AList.lookup_insert_ne ha] at h)
      · exact .inl h
    · exact .inr ⟨m, List.mem_cons_of_mem _ hm, ha, hf⟩

/-- The candidate loop removes no key. -/
theorem mem_foldl_recordTokenName_of_mem {a : Address} {metas : List AddressWithMeta}
    {tokenContracts : TokenContracts} (h : a ∈ tokenContracts) :
    a ∈ metas.foldl (recordTokenName tm tx) tokenContracts := by
  induction metas generalizing tokenContracts with
  | nil => exact h
  | cons meta metas ih =>
    refine ih ?_
    unfold recordTokenName
    split
    · exact (AList.mem_insert _).2 (.inr h)
    · exact h

/-- A candidate that some rule names has its address in the map after the loop. -/
theorem address_mem_foldl_recordTokenName {meta : AddressWithMeta} {metas : List AddressWithMeta}
    {tokenContracts : TokenContracts} (hmem : meta ∈ metas)
    (hs : (tm.rules.findSome? (ruleName tm tx meta)).isSome = true) :
    meta.address ∈ metas.foldl (recordTokenName tm tx) tokenContracts := by
  induction metas generalizing tokenContracts with
  | nil => cases hmem
  | cons m metas ih =>
    rcases List.mem_cons.1 hmem with rfl | hmem
    · rw [List.foldl_cons]
      refine mem_foldl_recordTokenName_of_mem tm ?_
      obtain ⟨name, hf⟩ := Option.isSome_iff_exists.1 hs
      simp only [recordTokenName, hf]
      exact (AList.mem_insert _).2 (.inl rfl)
    · exact ih hmem

/-- Whenever `InspectTransaction` succeeds, each entry of its map is the template name of a
rule that fits a candidate with that address and whose evidence the node gave: the EIP-165
handshake or the signatures of its ABI in the contract's code at the transaction's block.
Conversely every candidate that a rule with a non-empty template name fits and detects has
an entry. -/
theorem inspectTransaction_records {tokenContracts : TokenContracts}
    (h : tm.inspectTransaction tx = .ok tokenContracts) :
    ∃ metas, candidateAddresses tm tx = .ok metas ∧
      (∀ a name, tokenContracts.lookup a = some name →
        ∃ meta ∈ metas, meta.address = a ∧ ∃ rule ∈ tm.rules, checkRuleMeta rule meta = true ∧
          name = rule.templateName ∧ name ≠ "" ∧ Detects tm rule a tx.blockNumber) ∧
      ∀ meta ∈ metas, ∀ rule ∈ tm.rules, checkRuleMeta rule meta = true →
        rule.templateName ≠ "" → Detects tm rule meta.address tx.blockNumber →
        meta.address ∈ tokenContracts := by
  obtain ⟨metas, hc, h⟩ := except_bind_eq_ok.1 h
  have hm := collectTokens_eq tm h
  subst hm
  refine ⟨metas, hc, fun a name hl => ?_, fun meta hmeta rule hrule hfit hn hd => ?_⟩
  · rcases lookup_foldl_recordTokenName tm hl with h0 | ⟨meta, hmeta, rfl, hf⟩
    · simp at h0
    · obtain ⟨rule, hrule, hr⟩ := List.exists_of_findSome?_eq_some hf
      obtain ⟨hfit, rfl, hn, hd⟩ := (ruleName_eq_some_iff tm).1 hr
      exact ⟨meta, hmeta, rfl, rule, hrule, hfit, rfl, hn, hd⟩
  · refine address_mem_foldl_recordTokenName tm hmeta (List.findSome?_isSome_iff.2 ⟨rule, hrule, ?_⟩)
    rw [(ruleName_eq_some_iff tm).2 ⟨hfit, rfl, hn, hd⟩]
    rfl

end Records

end DefaultTokenMonitor

/-- A node where every contract supports EIP-165 and every other interface, and has no
code. -/
def erc165Client : Client where
  getCode _ _ := .ok HexData.empty
  callEIP165 _ interfaceId _ := .ok (interfaceId ≠ eip165Check)

/-- A monitor with one rule, detecting ERC-721 tokens (interface `80ac58cd`) by EIP-165. -/
def erc721Monitor : DefaultTokenMonitor :=
  ⟨erc165Client, [⟨allScope, ⟨[]⟩, "ERC721", "80ac58cd", none⟩]⟩

/-- A transaction from `01` creating the contract `02`. -/
def creationTx : Transaction := ⟨5, ⟨[1]⟩, ⟨[2]⟩, [], []⟩

/-- The contract `02` recorded as an ERC-721 token. -/
def creationTokens : TokenContracts := (∅ : TokenContracts).insert ⟨[2]⟩ "ERC721"

/-- The creation of an ERC-721 contract: the entry for `02` has the rule's name and the
handshake behind it, and the candidate the rule detects has an entry. -/
theorem inspectTransaction_records_creation :
    erc721Monitor.inspectTransaction creationTx = .ok creationTokens ∧
    ∃ metas, erc721Monitor.candidateAddresses creationTx = .ok metas ∧
      (∀ a name, creationTokens.lookup a = some name →
        ∃ meta ∈ metas, meta.address = a ∧ ∃ rule ∈ erc721Monitor.rules,
          DefaultTokenMonitor.checkRuleMeta rule meta = true ∧ name = rule.templateName ∧
          name ≠ "" ∧ erc721Monitor.Detects rule a creationTx.blockNumber) ∧
      ∀ meta ∈ metas, ∀ rule ∈ erc721Monitor.rules,
        DefaultTokenMonitor.checkRuleMeta rule meta = true → rule.templateName ≠ "" →
        erc721Monitor.Detects rule meta.address creationTx.blockNumber →
        meta.address ∈ creationTokens :=
  ⟨rfl, DefaultTokenMonitor.inspectTransaction_records erc721Monitor rfl⟩

namespace DefaultTokenMonitor

variable (tm : DefaultTokenMonitor)

/-! ### Failures -/

section Faults

variable {tx : Transaction} {f : Fault}

/-- The extension-event loop fails only with the node's error for the announced contract's
code at the block before, or with the slice-bounds panic at the first extension event. -/
theorem extensionCandidates_eq_error {events : List Event}
    (h : extensionCandidates tm tx events = .error f) :
    (∃ err, f = .error err ∧
      ∃ address, tm.quorumClient.getCode address (tx.blockNumber - 1) = .error err) ∨
    ∃ event, events.find? isExtensionEvent = some event ∧ event.data.bytes.length < 32 ∧
      f = .panic (sliceBoundsMessage 32 event.data.bytes.length) := by
  induction events with
  | nil => cases h
  | cons event events ih =>
    by_cases he : isExtensionEvent event
    · simp only [extensionCandidates, he, if_true] at h
      rw [List.find?_cons_of_pos _ he]
      rcases except_bind_eq_error.1 h with h | ⟨address, -, h⟩
      · obtain ⟨hl, rfl⟩ := extensionAddress_eq_error.1 h
        exact .inr ⟨event, rfl, hl, rfl⟩
      · rcases except_bind_eq_error.1 h with h | ⟨code, -, h⟩
        · obtain ⟨err, hg, rfl⟩ := liftError_eq_error.1 h
          exact .inl ⟨err, rfl, address, hg⟩
        · split at h <;> cases h
    · simp only [extensionCandidates, he] at h
      rw [List.find?_cons_of_neg _ (by simpa using he)]
      exact ih h

/-- One rule of the rule loop: a failure comes from the rest of the rules, or from this rule,
which fits the candidate and fails by an error of the node or by the error of its interface
id, or reaches its `nil` ABI. -/
theorem detectToken_cons_eq_error {meta : AddressWithMeta} {rule : TokenRule}
    {rules : List TokenRule} (h : detectToken tm tx meta (rule :: rules) = .error f) :
    detectToken tm tx meta rules = .error f ∨
      checkRuleMeta rule meta = true ∧ (∃ err, f = .error err ∧
        (NodeError tm meta.address tx.blockNumber err ∨
          rule.eip165 ≠ "" ∧ (Hex.decodeString rule.eip165).2 = some err)) ∨
      f = .panic "runtime error: invalid memory address or nil pointer dereference" ∧
        NilAbiReached tm rule tx.blockNumber meta := by
  by_cases hm : checkRuleMeta rule meta
  · simp only [detectToken, hm, Bool.not_true] at h
    rcases except_bind_eq_error.1 h with h | ⟨contractType, hct, h⟩
    · obtain ⟨err, he, rfl⟩ := liftError_eq_error.1 h
      rcases checkEIP165_eq_error tm he with ⟨sig, hs⟩ | hd
      · exact .inr (.inl ⟨hm, err, rfl, .inl (.inr (.inr ⟨sig, hs⟩))⟩)
      · exact .inr (.inl ⟨hm, err, rfl, .inr hd⟩)
    · split_ifs at h with hc
      · cases h
      rcases except_bind_eq_error.1 h with h | ⟨code, hcode, h⟩
      · obtain ⟨err, hg, rfl⟩ := liftError_eq_error.1 h
        exact .inr (.inl ⟨hm, err, rfl, .inl (.inl hg)⟩)
      · rcases except_bind_eq_error.1 h with h | ⟨bytecodeType, -, h⟩
        · obtain ⟨ha, rfl⟩ := checkBytecodeForTokens_eq_error h
          rw [not_not.1 hc, liftError_eq_ok] at hct
          exact .inr (.inr ⟨rfl, hm, ha, hct, code, liftError_eq_ok.1 hcode⟩)
        · split_ifs at h
          · cases h
          · exact .inl h
  · simp only [detectToken, hm, Bool.not_false, if_true] at h
    exact .inl h

/-- The rule loop for a candidate fails only with an error of the node about the
candidate, with the error `hex.DecodeString` gives for a rule's interface id, or by
dereferencing the `nil` ABI of a rule that fits the candidate and whose EIP-165 check names
nothing. -/
theorem detectToken_eq_error {meta : AddressWithMeta} {rules : List TokenRule}
    (h : detectToken tm tx meta rules = .error f) :
    (∃ err, f = .error err ∧ (NodeError tm meta.address tx.blockNumber err ∨
      ∃ rule ∈ rules, rule.eip165 ≠ "" ∧ (Hex.decodeString rule.eip165).2 = some err)) ∨
    f = .panic "runtime error: invalid memory address or nil pointer dereference" ∧
      ∃ rule ∈ rules, NilAbiReached tm rule tx.blockNumber meta := by
  induction rules with
  | nil => cases h
  | cons rule rules ih =>
    rcases detectToken_cons_eq_error tm h with h | ⟨-, err, rfl, hn | hd⟩ | ⟨rfl, hnil⟩
    · rcases ih h with ⟨err, rfl, hn | ⟨r, hr, hd⟩⟩ | ⟨rfl, r, hr, hnil⟩
      · exact .inl ⟨err, rfl, .inl hn⟩
      · exact .inl ⟨err, rfl, .inr ⟨r, List.mem_cons_of_mem _ hr, hd⟩⟩
      · exact .inr ⟨rfl, r, List.mem_cons_of_mem _ hr, hnil⟩
    · exact .inl ⟨err, rfl, .inl hn⟩
    · exact .inl ⟨err, rfl, .inr ⟨rule, List.mem_cons_self _ _, hd⟩⟩
    · exact .inr ⟨rfl, rule, List.mem_cons_self _ _, hnil⟩

/-- The candidate loop fails only where the rule loop of one of its candidates does. -/
theorem collectTokens_eq_error {tokenContracts : TokenContracts} {metas : List AddressWithMeta}
    (h : collectTokens tm tx tokenContracts metas = .error f) :
    ∃ meta ∈ metas, detectToken tm tx meta tm.rules = .error f := by
  induction metas generalizing tokenContracts with
  | nil => cases h
  | cons meta metas ih =>
    rcases except_bind_eq_error.1 h with h | ⟨detected, -, h⟩
    · exact ⟨meta, List.mem_cons_self _ _, h⟩
    · obtain ⟨m, hm, h⟩ := ih h
      exact ⟨m, List.mem_cons_of_mem _ hm, h⟩

/-- `InspectTransaction` fails for one of four reasons: an error the node returned, the error
`hex.DecodeString` gives for a rule's interface id, the slice-bounds panic at the first
extension event when its data is shorter than `32` bytes, or the `nil`-pointer panic of a
rule without an ABI that fits a candidate and whose EIP-165 check names nothing. -/
theorem inspectTransaction_fault (h : tm.inspectTransaction tx = .error f) :
    (∃ err, f = .error err ∧ ((∃ address, NodeError tm address tx.blockNumber err) ∨
      ∃ rule ∈ tm.rules, rule.eip165 ≠ "" ∧ (Hex.decodeString rule.eip165).2 = some err)) ∨
    (∃ event, tx.events.find? isExtensionEvent = some event ∧ event.data.bytes.length < 32 ∧
      f = .panic (sliceBoundsMessage 32 event.data.bytes.length)) ∨
    f = .panic "runtime error: invalid memory address or nil pointer dereference" ∧
      ∃ metas, candidateAddresses tm tx = .ok metas ∧
        ∃ meta ∈ metas, ∃ rule ∈ tm.rules, NilAbiReached tm rule tx.blockNumber meta := by
  rcases except_bind_eq_error.1 h with h | ⟨metas, hc, h⟩
  · rcases except_bind_eq_error.1 h with h | ⟨extended, -, h⟩
    · rcases extensionCandidates_eq_error tm h with ⟨err, rfl, address, hg⟩ | hp
      · exact .inl ⟨err, rfl, .inl ⟨address, .inr (.inl hg)⟩⟩
      · exact .inr (.inl hp)
    · cases h
  · obtain ⟨meta, hmeta, h⟩ := collectTokens_eq_error tm h
    rcases detectToken_eq_error tm h with ⟨err, rfl, hn | hd⟩ | ⟨rfl, hr⟩
    · exact .inl ⟨err, rfl, .inl ⟨_, hn⟩⟩
    · exact .inl ⟨err, rfl, .inr hd⟩
    · exact .inr (.inr ⟨rfl, metas, hc, meta, hmeta, hr⟩)

end Faults

end DefaultTokenMonitor

/-- A node where no contract supports EIP-165 and no contract has code. -/
def plainClient : Client where
  getCode _ _ := .ok HexData.empty
  callEIP165 _ _ _ := .ok false

/-- The ERC-721 rule of `erc721Monitor`, which has an interface id and no ABI, over
`plainClient`. -/
def plainErc721Monitor : DefaultTokenMonitor := ⟨plainClient, erc721Monitor.rules⟩

/-- A rule with an interface id and no ABI, on a contract that does not support EIP-165: the
EIP-165 check names nothing, and `checkAbiMatch` dereferences the `nil` ABI. -/
theorem inspectTransaction_fault_nil_abi :
    plainErc721Monitor.inspectTransaction creationTx =
        .error (.panic "runtime error: invalid memory address or nil pointer dereference") ∧
      ((∃ err, Fault.panic "runtime error: invalid memory address or nil pointer dereference" =
          .error err ∧ ((∃ address, plainErc721Monitor.NodeError address creationTx.blockNumber err) ∨
          ∃ rule ∈ plainErc721Monitor.rules, rule.eip165 ≠ "" ∧
            (Hex.decodeString rule.eip165).2 = some err)) ∨
        (∃ event, creationTx.events.find? DefaultTokenMonitor.isExtensionEvent = some event ∧
          event.data.bytes.length < 32 ∧
          Fault.panic "runtime error: invalid memory address or nil pointer dereference" =
            .panic (sliceBoundsMessage 32 event.data.bytes.length)) ∨
        Fault.panic "runtime error: invalid memory address or nil pointer dereference" =
            .panic "runtime error: invalid memory address or nil pointer dereference" ∧
          ∃ metas, plainErc721Monitor.candidateAddresses creationTx = .ok metas ∧
            ∃ meta ∈ metas, ∃ rule ∈ plainErc721Monitor.rules,
              plainErc721Monitor.NilAbiReached rule creationTx.blockNumber meta) :=
  ⟨rfl, DefaultTokenMonitor.inspectTransaction_fault plainErc721Monitor rfl⟩

namespace DefaultTokenMonitor

/-! ### The blocks the monitor reads -/

section Frame

/-- Two monitors with the same rules, whose nodes answer alike at block `blockNum` and at the
block before: every code read and every EIP-165 call at `blockNum`. -/
structure AgreeAt (tm tm' : DefaultTokenMonitor) (blockNum : UInt64) : Prop where
  rules : tm'.rules = tm.rules
  code : ∀ address, tm'.quorumClient.getCode address blockNum =
    tm.quorumClient.getCode address blockNum
  codeBefore : ∀ address, tm'.quorumClient.getCode address (blockNum - 1) =
    tm.quorumClient.getCode address (blockNum - 1)
  eip165 : ∀ address sig, tm'.quorumClient.callEIP165 address sig blockNum =
    tm.quorumClient.callEIP165 address sig blockNum

variable {tm tm' : DefaultTokenMonitor} {tx : Transaction} (h : AgreeAt tm tm' tx.blockNumber)
include h

/-- The EIP-165 check reads the node only at the transaction's block. -/
theorem checkEIP165_congr (rule : TokenRule) (address : Address) :
    tm'.checkEIP165 rule address tx.blockNumber = tm.checkEIP165 rule address tx.blockNumber := by
  simp only [checkEIP165, h.eip165]

/-- The extension-event loop reads the node only at the block before the transaction's. -/
theorem extensionCandidates_congr (events : List Event) :
    tm'.extensionCandidates tx events = tm.extensionCandidates tx events := by
  induction events with
  | nil => rfl
  | cons event events ih => simp only [extensionCandidates, h.codeBefore, ih]

/-- The rule loop reads the node only at the transaction's block. -/
theorem detectToken_congr (meta : AddressWithMeta) (rules : List TokenRule) :
    tm'.detectToken tx meta rules = tm.detectToken tx meta rules := by
  induction rules with
  | nil => rfl
  | cons rule rules ih => simp only [detectToken, checkEIP165_congr h, h.code, ih]

/-- The candidate loop reads the node only at the transaction's block. -/
theorem collectTokens_congr (tokenContracts : TokenContracts) (metas : List AddressWithMeta) :
    tm'.collectTokens tx tokenContracts metas = tm.collectTokens tx tokenContracts metas := by
  induction metas generalizing tokenContracts with
  | nil => rfl
  | cons meta metas ih => simp only [collectTokens, h.rules, detectToken_congr h, ih]

/-- `InspectTransaction` reads the chain only at the transaction's block and the block before:
two monitors with the same rules whose nodes answer alike there return the same result, or
fail alike, whatever their nodes answer about other blocks. -/
theorem inspectTransaction_of_agreeAt :
    tm'.inspectTransaction tx = tm.inspectTransaction tx := by
  simp only [inspectTransaction, candidateAddresses, extensionCandidates_congr h,
    collectTokens_congr h]

end Frame

end DefaultTokenMonitor

/-- A node that answers like `erc165Client` at blocks `4` and `5`; at any other block it
reports code everywhere and denies every interface. -/
def laterClient : Client where
  getCode _ blockNum := if blockNum = 4 ∨ blockNum = 5 then .ok HexData.empty else .ok ⟨[0x60]⟩
  callEIP165 address interfaceId blockNum :=
    if blockNum = 5 then erc165Client.callEIP165 address interfaceId blockNum else .ok false

/-- The rules of `erc721Monitor` over `laterClient`. -/
def laterMonitor : DefaultTokenMonitor := ⟨laterClient, erc721Monitor.rules⟩

/-- `creationTx` is in block `5`, where `laterClient` answers like `erc165Client`, and so do
the monitors over the two nodes. -/
theorem inspectTransaction_of_agreeAt_later :
    DefaultTokenMonitor.AgreeAt erc721Monitor laterMonitor creationTx.blockNumber ∧
      laterMonitor.inspectTransaction creationTx = erc721Monitor.inspectTransaction creationTx :=
  have h : DefaultTokenMonitor.AgreeAt erc721Monitor laterMonitor creationTx.blockNumber :=
    ⟨rfl, fun _ => rfl, fun _ => rfl, fun _ _ => rfl⟩
  ⟨h, DefaultTokenMonitor.inspectTransaction_of_agreeAt h⟩

end QuorumReport.Monitor
