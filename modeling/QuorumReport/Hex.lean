import QuorumReport.Basic

/-!
# `encoding/hex`

The token monitor reads byte strings through Go's `encoding/hex`: `hex.EncodeToString`
renders bytecode as text, and `hex.DecodeString` reads the EIP-165 selectors, the extension
topic and the interface ids of the token rules. `decodeString` is Go's `DecodeString`:
`Decode` runs over `[]byte(s)`, the UTF-8 bytes of the text, reads digits in pairs of either
case, and returns the bytes read before the first problem together with that problem. So the
odd-length `"01ffc9a70"` that the monitor decodes gives the four bytes `01 ff c9 a7`, with
`ErrLength`, which the monitor discards. A byte that is no digit is reported by
`InvalidByteError`, whose text renders the byte's rune with `%#U`: `U+0067 'g'`, but `U+000A`
for a newline, which `strconv.IsPrint` does not count as printable.

## Main results

* `decodeString_encodeToString`: decoding the text `encodeToString` writes gives the bytes
  back, with no error;
* `encodeToString_of_decodeString`: text that decodes with no error is the encoding of what it
  decodes to, up to the case of its letters; in particular it is ASCII.
-/

namespace QuorumReport.Hex

/-- The sixteen digits of `hextable`, lower case. -/
def hextable : List Char :=
  ['0', '1', '2', '3', '4', '5', '6', '7', '8', '9', 'a', 'b', 'c', 'd', 'e', 'f']

/-- The digit `hextable[n]` for a value below sixteen. -/
def hexDigit (n : Nat) : Char := hextable.getD n '0'

/-- The two digits a byte is written as: `hextable[v >> 4]`, then `hextable[v & 0x0f]`. -/
def byteDigits (b : UInt8) : List Char := [hexDigit (b.toNat / 16), hexDigit (b.toNat % 16)]

/-- `hex.EncodeToString`: the lower-case hex text of a byte string, with no prefix. -/
def encodeToString (src : List UInt8) : String := ⟨src.flatMap byteDigits⟩

/-- `fromHexChar(c byte)`: the value of a hex digit of either case. -/
def fromHexChar (c : UInt8) : Option Nat :=
  if '0'.toNat ≤ c.toNat ∧ c.toNat ≤ '9'.toNat then some (c.toNat - '0'.toNat)
  else if 'a'.toNat ≤ c.toNat ∧ c.toNat ≤ 'f'.toNat then some (c.toNat - 'a'.toNat + 10)
  else if 'A'.toNat ≤ c.toNat ∧ c.toNat ≤ 'F'.toNat then some (c.toNat - 'A'.toNat + 10)
  else none

/-- `hex.ErrLength`. -/
def errLength : Error := "encoding/hex: odd length hex string"

/-- `strconv.IsPrint` of the rune of a byte, the only runes `InvalidByteError` formats: the
ASCII runes from the space to `~`, and the Latin-1 runes from `¡` on, but for the soft hyphen
`U+00AD`. -/
def isPrint (b : UInt8) : Bool :=
  (0x20 ≤ b.toNat && b.toNat ≤ 0x7e) || (0xa1 ≤ b.toNat && b.toNat != 0xad)

/-- Go's `%#U` of the rune of a byte: `U+` and four upper-case hex digits, then, when the rune
is printable, a space and the rune in single quotes. -/
def formatU (b : UInt8) : String :=
  let digits := (Nat.toDigits 16 b.toNat).map Char.toUpper
  let quote := Char.ofNat 39
  "U+" ++ ⟨List.replicate (4 - digits.length) '0' ++ digits⟩ ++
    if isPrint b then " " ++ ⟨[quote, Char.ofNat b.toNat, quote]⟩ else ""

/-- `hex.InvalidByteError` of a byte. -/
def invalidByteError (b : UInt8) : Error := "encoding/hex: invalid byte: " ++ formatU b

/-- `hex.Decode`: the bytes `a << 4 | b` of the digit pairs read before the first problem, and
that problem. A bad digit in a pair is reported before an odd length. -/
def decode : List UInt8 → List UInt8 × Option Error
  | [] => ([], none)
  | [c] => ([], some (if (fromHexChar c).isSome then errLength else invalidByteError c))
  | p :: q :: rest =>
    match fromHexChar p, fromHexChar q with
    | some a, some b =>
      let r := decode rest
      (UInt8.ofNat (a * 16 + b) :: r.1, r.2)
    | none, _ => ([], some (invalidByteError p))
    | some _, none => ([], some (invalidByteError q))

/-- `hex.DecodeString`: `Decode` over `[]byte(s)`, the UTF-8 bytes of the text. -/
def decodeString (s : String) : List UInt8 × Option Error := decode s.toUTF8.data.toList

/-! ### The bytes of a text -/

/-- The bytes of a text are the UTF-8 encodings of its characters. -/
theorem toUTF8_toList (s : String) :
    s.toUTF8.data.toList = s.data.flatMap String.utf8EncodeChar := rfl

/-- An ASCII character is encoded as the one byte of its value. -/
theorem utf8EncodeChar_of_lt {c : Char} (h : c.toNat < 0x80) :
    String.utf8EncodeChar c = [c.toUInt8] := by
  simp [String.utf8EncodeChar, show c.val ≤ 127 from (show c.toNat ≤ 127 by omega)]
  rfl

/-- ASCII characters are encoded as the bytes of their values. -/
theorem flatMap_utf8EncodeChar_of_ascii {cs : List Char} (h : ∀ c ∈ cs, c.toNat < 0x80) :
    cs.flatMap String.utf8EncodeChar = cs.map Char.toUInt8 := by
  induction cs with
  | nil => rfl
  | cons c cs ih =>
    rw [List.flatMap_cons, utf8EncodeChar_of_lt (h c (List.mem_cons_self _ _)), List.map_cons,
      ih fun d hd => h d (List.mem_cons_of_mem _ hd)]
    rfl

/-- Setting bits of a byte does not lower it. -/
theorem uint8_toNat_le_or (x y : UInt8) : y.toNat ≤ (x ||| y).toNat := by
  show y.toNat ≤ (x.toBitVec ||| y.toBitVec).toNat
  rw [BitVec.toNat_or]
  exact Nat.le_of_testBit fun i h => by simpa [Nat.testBit_or] using Or.inr h

/-- A character past ASCII is encoded as bytes of which the first is past ASCII. -/
theorem utf8EncodeChar_of_le {c : Char} (h : 0x80 ≤ c.toNat) :
    ∃ b bs, String.utf8EncodeChar c = b :: bs ∧ 0x80 ≤ b.toNat := by
  have hc : ¬ c.val ≤ 127 := fun h' => absurd (show c.toNat ≤ 127 from h') (by omega)
  simp only [String.utf8EncodeChar, if_neg hc]
  split_ifs
  all_goals exact ⟨_, _, rfl, le_trans (by decide) (uint8_toNat_le_or _ _)⟩

/-! ### Encoding, then decoding -/

/-- The sixteen digits, and the digit written for any other value, are ASCII. -/
theorem hexDigit_lt (n : Nat) : (hexDigit n).toNat < 0x80 := by
  rcases Nat.lt_or_ge n 16 with h | h
  · have all : ∀ n < 16, (hexDigit n).toNat < 0x80 := by decide
    exact all n h
  · rw [hexDigit, List.getD_eq_getElem?_getD, List.getElem?_eq_none (by simp [hextable]; omega)]
    decide

/-- The bytes of the text `encodeToString` writes are the values of its digits. -/
theorem toUTF8_encodeToString (bs : List UInt8) :
    (encodeToString bs).toUTF8.data.toList = (bs.flatMap byteDigits).map Char.toUInt8 :=
  flatMap_utf8EncodeChar_of_ascii fun c hc => by
    obtain ⟨b, -, hc⟩ := List.mem_flatMap.1 hc
    rcases List.mem_pair.1 hc with rfl | rfl <;> exact hexDigit_lt _

/-- Each of the sixteen digits reads back as its own value. -/
theorem fromHexChar_hexDigit {n : Nat} (h : n < 16) : fromHexChar (hexDigit n).toUInt8 = some n := by
  have all : ∀ n < 16, fromHexChar (hexDigit n).toUInt8 = some n := by decide
  exact all n h

/-- The high half of a byte is a digit. -/
theorem toNat_div_sixteen_lt (b : UInt8) : b.toNat / 16 < 16 := by
  have : b.toNat < 256 := b.toBitVec.isLt
  omega

/-- A byte is its high digit times sixteen plus its low digit. -/
theorem ofNat_byte_halves (b : UInt8) : UInt8.ofNat (b.toNat / 16 * 16 + b.toNat % 16) = b := by
  rw [show b.toNat / 16 * 16 + b.toNat % 16 = b.toNat by omega]
  exact UInt8.toNat.inj (UInt8.toNat_ofNat_of_lt b.toBitVec.isLt)

/-- Decoding the two digits of a byte reads the byte, then goes on with the rest. -/
theorem decode_byteDigits_append (b : UInt8) (rest : List UInt8) :
    decode ((byteDigits b).map Char.toUInt8 ++ rest) = (b :: (decode rest).1, (decode rest).2) := by
  have hi := fromHexChar_hexDigit (toNat_div_sixteen_lt b)
  have lo := fromHexChar_hexDigit (n := b.toNat % 16) (Nat.mod_lt _ (by omega))
  show decode ((hexDigit _).toUInt8 :: (hexDigit _).toUInt8 :: rest) = _
  simp only [decode, hi, lo, ofNat_byte_halves]

/-- Decoding the digits of a byte string reads the bytes back, with no error. -/
@[simp]
theorem decode_flatMap_byteDigits (bs : List UInt8) :
    decode ((bs.flatMap byteDigits).map Char.toUInt8) = (bs, none) := by
  induction bs with
  | nil => rfl
  | cons b bs ih => rw [List.flatMap_cons, List.map_append, decode_byteDigits_append, ih]

/-- Decoding the text `encodeToString` writes gives the bytes back, with no error. -/
theorem decodeString_encodeToString (bs : List UInt8) :
    decodeString (encodeToString bs) = (bs, none) := by
  rw [decodeString, toUTF8_encodeToString, decode_flatMap_byteDigits]

/-! ### Decoding, then encoding -/

/-- No byte past ASCII is a hex digit. -/
theorem fromHexChar_of_le {b : UInt8} (h : 0x80 ≤ b.toNat) : fromHexChar b = none := by
  have h9 : '9'.toNat = 57 := rfl
  have hf : 'f'.toNat = 102 := rfl
  have hF : 'F'.toNat = 70 := rfl
  simp only [fromHexChar, h9, hf, hF]
  split_ifs <;> first | rfl | omega

/-- Every byte of a text that decodes with no error is a hex digit. -/
theorem fromHexChar_isSome_of_decode :
    ∀ {bytes bs : List UInt8}, decode bytes = (bs, none) → ∀ b ∈ bytes, (fromHexChar b).isSome
  | [], _, _, b, hb => absurd hb (List.not_mem_nil b)
  | [_], _, h, _, _ => by simp [decode] at h
  | p :: q :: rest, bs, h, b, hb => by
    unfold decode at h
    cases hp : fromHexChar p with
    | none => simp [hp] at h
    | some x =>
      cases hq : fromHexChar q with
      | none => simp [hp, hq] at h
      | some y =>
        simp only [hp, hq, Prod.mk.injEq] at h
        rcases List.mem_cons.1 hb with rfl | hb
        · simp [hp]
        rcases List.mem_cons.1 hb with rfl | hb
        · simp [hq]
        exact fromHexChar_isSome_of_decode (Prod.ext rfl h.2) b hb

/-- A text that decodes with no error is ASCII. -/
theorem ascii_of_decode {cs : List Char} {bs : List UInt8}
    (h : decode (cs.flatMap String.utf8EncodeChar) = (bs, none)) : ∀ c ∈ cs, c.toNat < 0x80 := by
  intro c hc
  by_contra hn
  obtain ⟨b, rest, he, hb⟩ := utf8EncodeChar_of_le (Nat.le_of_not_lt hn)
  have hdigit := fromHexChar_isSome_of_decode h b
    (List.mem_flatMap.2 ⟨c, hc, he ▸ List.mem_cons_self _ _⟩)
  rw [fromHexChar_of_le hb] at hdigit
  cases hdigit

/-- Over the ASCII characters, a digit `fromHexChar` reads is below sixteen, and `hextable`
writes it back as the character in lower case. -/
theorem fromHexChar_ascii : ∀ k < 128, (fromHexChar (Char.ofNat k).toUInt8).all
    (fun n => decide (n < 16) && hexDigit n == (Char.ofNat k).toLower) = true := by
  decide

/-- A digit `fromHexChar` reads from an ASCII character is below sixteen, and is written back
as the character in lower case. -/
theorem hexDigit_of_fromHexChar {c : Char} {n : Nat} (hc : c.toNat < 0x80)
    (h : fromHexChar c.toUInt8 = some n) : n < 16 ∧ hexDigit n = c.toLower := by
  have := fromHexChar_ascii c.toNat hc
  rw [Char.ofNat_toNat, h] at this
  simpa using this

/-- The digits of the byte `a << 4 | b` are `a` and `b`. -/
theorem byteDigits_ofNat {a b : Nat} (ha : a < 16) (hb : b < 16) :
    byteDigits (UInt8.ofNat (a * 16 + b)) = [hexDigit a, hexDigit b] := by
  have h : (UInt8.ofNat (a * 16 + b)).toNat = a * 16 + b :=
    UInt8.toNat_ofNat_of_lt (by rw [show UInt8.size = 256 from rfl]; omega)
  simp only [byteDigits, h, List.cons.injEq, and_true]
  constructor <;> congr 1 <;> omega

/-- ASCII text that decodes with no error is the encoding of the bytes it decodes to, up to
the case of its letters. -/
theorem digits_eq_of_decode :
    ∀ {cs : List Char} {bs : List UInt8}, (∀ c ∈ cs, c.toNat < 0x80) →
      decode (cs.map Char.toUInt8) = (bs, none) → cs.map Char.toLower = bs.flatMap byteDigits
  | [], _, _, h => by cases h; rfl
  | [_], _, _, h => by simp [decode] at h
  | p :: q :: rest, bs, hascii, h => by
    simp only [List.map_cons] at h
    unfold decode at h
    cases hp : fromHexChar p.toUInt8 with
    | none => simp [hp] at h
    | some a =>
      cases hq : fromHexChar q.toUInt8 with
      | none => simp [hp, hq] at h
      | some b =>
        simp only [hp, hq, Prod.mk.injEq] at h
        obtain ⟨rfl, hrest⟩ := h
        obtain ⟨ha, hpa⟩ := hexDigit_of_fromHexChar (hascii p (by simp)) hp
        obtain ⟨hb, hqb⟩ := hexDigit_of_fromHexChar (hascii q (by simp)) hq
        rw [List.flatMap_cons, byteDigits_ofNat ha hb, hpa, hqb,
          ← digits_eq_of_decode (fun c hc => hascii c (by simp [hc])) (Prod.ext rfl hrest)]
        rfl

/-- `hex.DecodeString` accepts only the text `hex.EncodeToString` writes for what it decodes
to, up to the case of its letters. -/
theorem encodeToString_of_decodeString {s : String} {bs : List UInt8}
    (h : decodeString s = (bs, none)) : s.toList.map Char.toLower = (encodeToString bs).toList := by
  rw [decodeString, toUTF8_toList] at h
  have hascii := ascii_of_decode h
  rw [flatMap_utf8EncodeChar_of_ascii hascii] at h
  exact digits_eq_of_decode hascii h

/-- The upper-case text `01FF` decodes to `01 ff`, whose encoding is `01ff`. -/
theorem encodeToString_of_decodeString_upper :
    decodeString "01FF" = ([0x01, 0xff], none) ∧
      "01FF".toList.map Char.toLower = (encodeToString [0x01, 0xff]).toList :=
  ⟨by decide, encodeToString_of_decodeString (by decide)⟩

end QuorumReport.Hex
