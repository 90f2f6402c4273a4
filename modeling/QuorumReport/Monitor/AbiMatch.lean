import QuorumReport.Monitor.Types

/-!
# Bytecode signature matching

`checkBytecodeForTokens` names a rule's token type when `checkAbiMatch` finds every
function selector and every event topic of the rule's ABI in the contract's bytecode. The
search is `strings.Contains` on hex text: the signature's digits are looked for in the
digits of the code, behind its `0x`. A byte string found at a byte boundary is also found
in the text (`checkAbiMatch_of_infix`), but the text search also accepts digits that start
in the middle of a byte (`checkAbiMatch_iff`), as `a9059cbb` in the bytes
`0a 90 59 cb b0`.

## Main results

* `checkAbiMatch_iff`: the check holds exactly when the hex digits of every signature occur
  in the hex digits of the code, at any digit offset;
* `checkAbiMatch_of_infix`: signatures present as bytes are always found.
-/

namespace QuorumReport.Monitor

open Hex

/-- `strings.Contains(s, substr)`. -/
def stringsContains (s substr : String) : Bool := decide (substr.toList <:+: s.toList)

namespace DefaultTokenMonitor

/-- `checkAbiMatch`: every function's and every event's `Signature()` occurs in the code's
text. A `nil` ABI is dereferenced, which panics. -/
def checkAbiMatch (abiToCheck : Option ContractABI) (data : HexData) : Except Fault Bool :=
  match abiToCheck with
  | none => .error (.panic "runtime error: invalid memory address or nil pointer dereference")
  | some abi =>
    .ok ((abi.functions.all fun b => stringsContains data.string b.signature) &&
      abi.events.all fun event => stringsContains data.string event.signature)

/-- `checkBytecodeForTokens`: the rule's token type when its ABI matches the code, `""`
otherwise. -/
def checkBytecodeForTokens (rule : TokenRule) (data : HexData) : Except Fault String := do
  if ← checkAbiMatch rule.abi data then pure rule.templateName else pure ""

end DefaultTokenMonitor

/-- No hex digit is the `x` of the `0x` prefix. -/
theorem hexDigit_ne_x (n : Nat) : hexDigit n ≠ 'x' := by
  have small : ∀ n < 16, hexDigit n ≠ 'x' := by decide
  rcases Nat.lt_or_ge n 16 with h | h
  · exact small n h
  · rw [hexDigit, List.getD_eq_getElem?_getD, List.getElem?_eq_none (by exact h)]
    decide

/-- The text of a `HexData` is its digits behind `0x`. -/
theorem toList_string (d : HexData) :
    d.string.toList = '0' :: 'x' :: d.bytes.flatMap byteDigits := rfl

/-- The digits of a non-empty byte string occur behind `0x` exactly when they occur in the
digits that follow it: a match cannot use the `x`. -/
theorem infix_zero_x_iff {s : List UInt8} (hs : s ≠ []) (l : List Char) :
    s.flatMap byteDigits <:+: '0' :: 'x' :: l ↔ s.flatMap byteDigits <:+: l := by
  obtain ⟨b, s, rfl⟩ := List.exists_cons_of_ne_nil hs
  simp only [List.flatMap_cons, byteDigits, List.cons_append, List.nil_append, List.infix_cons_iff,
    List.cons_prefix_cons]
  constructor
  · rintro (⟨-, h, -⟩ | ⟨h, -⟩ | h)
    · exact absurd h (hexDigit_ne_x _)
    · exact absurd h (hexDigit_ne_x _)
    · exact h
  · exact fun h => .inr (.inr h)

/-- `strings.Contains` of a signature in a code's text is the occurrence of the signature's
digits among the code's digits. -/
theorem stringsContains_string {s : List UInt8} (hs : s ≠ []) (d : HexData) :
    stringsContains d.string (encodeToString s) = true ↔
      s.flatMap byteDigits <:+: d.bytes.flatMap byteDigits := by
  rw [stringsContains, decide_eq_true_iff, toList_string]
  exact infix_zero_x_iff hs _

/-- `checkAbiMatch` holds exactly when the hex digits of every selector and every topic hash
occur in the hex digits of the code, at any digit offset. -/
theorem checkAbiMatch_iff (abi : ContractABI) (data : HexData) :
    DefaultTokenMonitor.checkAbiMatch (some abi) data = .ok true ↔
      (∀ f ∈ abi.functions, f.selector.flatMap byteDigits <:+: data.bytes.flatMap byteDigits) ∧
        ∀ e ∈ abi.events, e.topic.flatMap byteDigits <:+: data.bytes.flatMap byteDigits := by
  have hf : ∀ f : ABIFunction, f.selector ≠ [] := fun f h => by
    simpa [h] using f.selector_length
  have he : ∀ e : ABIEvent, e.topic ≠ [] := fun e h => by simpa [h] using e.topic_length
  simp only [DefaultTokenMonitor.checkAbiMatch, Except.ok.injEq, Bool.and_eq_true,
    List.all_eq_true, ABIFunction.signature, ABIEvent.signature]
  exact and_congr (forall₂_congr fun f _ => stringsContains_string (hf f) data)
    (forall₂_congr fun e _ => stringsContains_string (he e) data)

/-- A byte string inside another has its digits inside the other's. -/
theorem flatMap_byteDigits_infix {s t : List UInt8} (h : s <:+: t) :
    s.flatMap byteDigits <:+: t.flatMap byteDigits := by
  obtain ⟨a, b, rfl⟩ := h
  exact ⟨a.flatMap byteDigits, b.flatMap byteDigits, by simp [List.flatMap_append]⟩

/-- Signatures present in the code as bytes are always found: `checkAbiMatch` has no false
negative. -/
theorem checkAbiMatch_of_infix (abi : ContractABI) (data : HexData)
    (hf : ∀ f ∈ abi.functions, f.selector <:+: data.bytes)
    (he : ∀ e ∈ abi.events, e.topic <:+: data.bytes) :
    DefaultTokenMonitor.checkAbiMatch (some abi) data = .ok true :=
  (checkAbiMatch_iff abi data).2
    ⟨fun f hm => flatMap_byteDigits_infix (hf f hm), fun e hm => flatMap_byteDigits_infix (he e hm)⟩

/-- The ABI declaring one function, with the selector `a9059cbb` of
`transfer(address,uint256)`. -/
def transferABI : ContractABI := ⟨[⟨[0xa9, 0x05, 0x9c, 0xbb], rfl⟩], []⟩

/-- Code holding the bytes `a9 05 9c bb` matches `transferABI`. -/
theorem checkAbiMatch_transfer :
    (∀ f ∈ transferABI.functions, f.selector <:+: [0x60, 0xa9, 0x05, 0x9c, 0xbb, 0x00]) ∧
      (∀ e ∈ transferABI.events, e.topic <:+: [0x60, 0xa9, 0x05, 0x9c, 0xbb, 0x00]) ∧
      DefaultTokenMonitor.checkAbiMatch (some transferABI) ⟨[0x60, 0xa9, 0x05, 0x9c, 0xbb, 0x00]⟩ =
        .ok true :=
  have hf : ∀ f ∈ transferABI.functions, f.selector <:+: [0x60, 0xa9, 0x05, 0x9c, 0xbb, 0x00] := by
    decide
  have he : ∀ e ∈ transferABI.events, e.topic <:+: [0x60, 0xa9, 0x05, 0x9c, 0xbb, 0x00] := by
    decide
  ⟨hf, he, checkAbiMatch_of_infix transferABI _ hf he⟩

/-- In the bytes `0a 90 59 cb b0` the selector `a9059cbb` only occurs across byte boundaries,
yet the check finds it, and the bytecode check names the rule's token type. -/
theorem checkAbiMatch_odd_nibble :
    DefaultTokenMonitor.checkAbiMatch (some transferABI) ⟨[0x0a, 0x90, 0x59, 0xcb, 0xb0]⟩ =
        .ok true ∧
      ¬ ([0xa9, 0x05, 0x9c, 0xbb] : List UInt8) <:+: [0x0a, 0x90, 0x59, 0xcb, 0xb0] ∧
      DefaultTokenMonitor.checkBytecodeForTokens ⟨allScope, ⟨[]⟩, "ERC20", "", some transferABI⟩
        ⟨[0x0a, 0x90, 0x59, 0xcb, 0xb0]⟩ = .ok "ERC20" :=
  ⟨rfl, by decide, rfl⟩

end QuorumReport.Monitor
