import Mathlib.Data.BitVec

/-!
# Values: machine words, the JSValue encoding, and the data formats of a register

The DFG keeps a value in one of several formats (`DataFormat`): an unboxed int32 in a GPR, a double in an FPR, or a boxed
JSValue in a GPR. This module fixes what a word means in each format (`denote`), so that "the same JS value in another
format" is a statement about words.

The 64-bit encoding of JSValue.h is used by the sources but is not part of them: a word at or above `TagTypeNumber` is an
int32 in its low half, a word with some other of its top sixteen bits set is a double biased by `DoubleEncodeOffset`, and any
other word is a cell pointer or an immediate (boolean, undefined, null). The conversions between int32 and double are the x86
instructions the macro assembler emits (`cvtsi2sd`, `cvttsd2si`, `ucomisd`), given on IEEE-754 bit patterns.
-/

namespace JavaScriptCore

/-- A 64-bit machine word: a GPR, the bits of an FPR, a frame slot. -/
abbrev Word := BitVec 64

/-! ## The encoding -/

/-- Modelled from the spec: `TagTypeNumber` of JSValue.h, the integer tag bits ("bitwise-or with the integer tag bits");
the DFG keeps it in `tagTypeNumberRegister`. -/
def TagTypeNumber : Word := 0xFFFF000000000000#64

/-- Modelled from the spec: `DoubleEncodeOffset`, the double bias ("raw_bits - tag_bias"): adding it is subtracting
`TagTypeNumber` modulo 2^64. -/
def DoubleEncodeOffset : Word := 0x0001000000000000#64

/-- Modelled from the spec: `TagBitTypeOther`, the bit every immediate that is not a number carries. -/
def TagBitTypeOther : Word := 0x2#64

/-- Modelled from the spec: `TagMask`, the constant of the reserved `tagMaskRegister`. -/
def TagMask : Word := TagTypeNumber ||| TagBitTypeOther

/-- Modelled from the spec: `ValueFalse`, the encoding of `false`. -/
def ValueFalse : Word := 0x6#64

/-- Modelled from the spec: `ValueUndefined`, the encoding of `undefined`. -/
def ValueUndefined : Word := 0xa#64

/-- The low half of a word, zero-extended: what a 32-bit operation leaves in a register. -/
def low32 (w : Word) : Word := (w.setWidth 32).setWidth 64

/-! ## Doubles on their bit patterns -/

/-- The position of the highest set bit of `m` among the `k` lowest. -/
def highestBit : Nat → Nat → Nat
  | 0, _ => 0
  | k + 1, m => if 2 ^ k ≤ m then k else highestBit k m

/-- `cvtsi2sd`: the bits of the double equal to an int32 (exact: every int32 is a double). -/
def int32ToDouble (i : BitVec 32) : Word :=
  let m := i.toInt.natAbs
  if m = 0 then 0#64 else
  let e := highestBit 32 m
  BitVec.ofNat 64 ((if i.msb then 2 ^ 63 else 0) + (1023 + e) * 2 ^ 52 + (m - 2 ^ e) * 2 ^ (52 - e))

/-- `cvttsd2si`: a double truncated toward zero to an int32; out of range and NaN give the integer indefinite value
`0x80000000`. -/
def cvttsd2si (d : Word) : BitVec 32 :=
  let e := d.toNat / 2 ^ 52 % 2048
  if e < 1023 then 0#32
  else if 1054 ≤ e then 0x80000000#32
  else
    let m := BitVec.ofNat 32 ((2 ^ 52 + d.toNat % 2 ^ 52) / 2 ^ (1075 - e))
    if d.msb then -m else m

/-- A NaN: the exponent all ones and a nonzero fraction. -/
def isNaN (d : Word) : Bool := d.toNat / 2 ^ 52 % 2048 == 2047 && d.toNat % 2 ^ 52 != 0

/-- `ucomisd` followed by `jp`/`jne` not taken: the two doubles compare equal (NaN is unordered, `+0 = -0`). -/
def doubleEqual (a b : Word) : Bool :=
  !isNaN a && !isNaN b && (a == b || (a.toNat % 2 ^ 63 == 0 && b.toNat % 2 ^ 63 == 0))

/-! ## Values -/

/-- A JavaScript value as the encoding tells it apart: an int32, a double (its bits), or any other value (a cell, a boolean,
undefined, null), which the encoding carries as the word itself. -/
inductive JSValue where
  | int32 (i : BitVec 32)
  | double (bits : Word)
  | other (w : Word)
  deriving DecidableEq, Repr

namespace JSValue

/-- `JSValue::decode`: the number tag marks an int32, the other tagged words are biased doubles. -/
def decode (w : Word) : JSValue :=
  if TagTypeNumber ≤ w then .int32 (w.setWidth 32)
  else if DoubleEncodeOffset ≤ w then .double (w - DoubleEncodeOffset)
  else .other w

/-- `JSValue::encode`. -/
def encode : JSValue → Word
  | .int32 i => i.setWidth 64 ||| TagTypeNumber
  | .double b => b + DoubleEncodeOffset
  | .other w => w

/-- The value a number stands for, as a double: int32 and double are one number type, so `5` and `5.0` are the same
value, and `-0.0` is not `0`. Two values are the same JS value when their canonical forms agree. -/
def canonical : JSValue → JSValue
  | .int32 i => .double (int32ToDouble i)
  | v => v

end JSValue

/-! ## Data formats -/

/-- `DataFormat`: how a register holds its node's value. -/
inductive DataFormat where
  | none | integer | double | boolean | cell | js | jsInteger | jsDouble | jsCell | jsBoolean
  deriving DecidableEq, Repr

/-- Modelled from the spec: `needDataFormatConversion` of the DFG headers ("if `src_tag == dst_tag`, emit nothing"; the boxed
formats share one encoding, and only the unboxed `Integer` and `Double` differ from it and from each other). -/
def needDataFormatConversion : DataFormat → DataFormat → Bool
  | .integer, t => t != .integer
  | .double, t => t != .double
  | _, t => t == .integer || t == .double

/-- The values a format can hold: the int formats hold int32s, the double formats numbers, the cell and boolean formats
values that are not numbers, and `JS` anything. -/
def JSValue.fits : JSValue → DataFormat → Bool
  | .int32 _, .integer | .int32 _, .jsInteger => true
  | .int32 _, .double | .double _, .double | .int32 _, .jsDouble | .double _, .jsDouble => true
  | .other _, .cell | .other _, .jsCell | .other _, .jsBoolean => true
  | _, .js => true
  | _, _ => false

/-- The value a word holds in a format, if any: an `Integer` GPR holds an int32 zero-extended ("no tag bits"), a `Double` FPR
the bits of a double the encoding can box, and a boxed GPR an encoded value of its format's kind. -/
def denote : DataFormat → Word → Option JSValue
  | .integer, w => if w.toNat < 2 ^ 32 then some (.int32 (w.setWidth 32)) else none
  | .double, w => if w.toNat < 0xFFFE000000000000 then some (.double w) else none
  | f, w => if (JSValue.decode w).fits f then some (JSValue.decode w) else none

/-- A word holds a value in a format: it denotes a value that is the same JS value. -/
def Holds (f : DataFormat) (w : Word) (v : JSValue) : Prop := (denote f w).map JSValue.canonical = some v.canonical

instance (f : DataFormat) (w : Word) (v : JSValue) : Decidable (Holds f w v) := inferInstanceAs (Decidable (_ = _))

end JavaScriptCore
