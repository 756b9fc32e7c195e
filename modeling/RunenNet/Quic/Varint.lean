import RunenNet.Foundation.Bytes
import RunenNet.Foundation.Exact
import Mathlib.Data.Nat.Bitwise

/-!
# QUIC variable-length integers

`encodeVarint` writes a value below 2^62 in one, two, four or eight bytes, the shortest that
fits; `decodeVarint` reads it back from the front of any input and refuses longer forms.
-/

namespace RunenNet

open Foundation

def maxVarint : Nat := (1 <<< 62) - 1

inductive VarIntEncodeError where
  | outOfRange
  deriving DecidableEq, Repr

inductive VarIntDecodeError where
  | incomplete (needed available : Nat)
  | nonMinimal
  deriving DecidableEq, Repr

def varintLen (value : Nat) : Option Nat :=
  if value < 1 <<< 6 then some 1
  else if value < 1 <<< 14 then some 2
  else if value < 1 <<< 30 then some 4
  else if value ≤ maxVarint then some 8
  else none

def encodeVarint (value : Nat) : Except VarIntEncodeError (List UInt8) :=
  match varintLen value with
  | none => .error .outOfRange
  | some 1 => .ok [UInt8.ofNat value]
  | some 2 => .ok (bigEndian 2 (value ||| 0x4000))
  | some 4 => .ok (bigEndian 4 (value ||| 0x80000000))
  -- the remaining length is 8
  | some _ => .ok (bigEndian 8 (value ||| 0xc000000000000000))

def encodedLenFromFirst (first : UInt8) : Nat := 1 <<< (first.toNat >>> 6)

/-- The value and the number of bytes it took. -/
def decodeVarint (input : List UInt8) : Except VarIntDecodeError (Nat × Nat) :=
  match input with
  | [] => .error (.incomplete 1 0)
  | first :: _ =>
    let len := encodedLenFromFirst first
    if input.length < len then .error (.incomplete len input.length)
    else
      let value := ((input.take len).drop 1).foldl (fun value byte => value <<< 8 ||| byte.toNat)
        (first.toNat &&& 0x3f)
      if varintLen value ≠ some len then .error .nonMinimal else .ok (value, len)

/-! ### The forms of a value -/

/-- The bits of a form that hold the value. -/
def payloadBits (tag : Nat) : Nat := 8 * 2 ^ tag - 2

/-- `tag` is the one that `value` is written with. -/
def FormOf (value tag : Nat) : Prop :=
  tag < 4 ∧ value < 2 ^ payloadBits tag ∧ ∀ shorter < tag, 2 ^ payloadBits shorter ≤ value

theorem maxVarint_eq : maxVarint = 2 ^ 62 - 1 := rfl

theorem varintLen_eq (value : Nat) : varintLen value =
    if value < 2 ^ 6 then some 1 else if value < 2 ^ 14 then some 2
    else if value < 2 ^ 30 then some 4 else if value ≤ 2 ^ 62 - 1 then some 8 else none := rfl

theorem exists_form {value : Nat} (h : value ≤ maxVarint) : ∃ tag, FormOf value tag := by
  rw [maxVarint_eq] at h
  by_cases h0 : value < 2 ^ 6
  · exact ⟨0, by omega, h0, by omega⟩
  by_cases h1 : value < 2 ^ 14
  · refine ⟨1, by omega, h1, fun s hs => ?_⟩
    obtain rfl : s = 0 := by omega
    exact not_lt.mp h0
  by_cases h2 : value < 2 ^ 30
  · refine ⟨2, by omega, h2, fun s hs => ?_⟩
    obtain rfl | rfl : s = 0 ∨ s = 1 := by omega
    · exact not_lt.mp h0
    · exact not_lt.mp h1
  refine ⟨3, by omega, show value < 2 ^ 62 by omega, fun s hs => ?_⟩
  obtain rfl | rfl | rfl : s = 0 ∨ s = 1 ∨ s = 2 := by omega
  · exact not_lt.mp h0
  · exact not_lt.mp h1
  · exact not_lt.mp h2

theorem varintLen_of_form {value tag : Nat} (h : FormOf value tag) :
    varintLen value = some (2 ^ tag) := by
  obtain ⟨ht, hlt, hshorter⟩ := h
  rw [varintLen_eq]
  obtain rfl | rfl | rfl | rfl : tag = 0 ∨ tag = 1 ∨ tag = 2 ∨ tag = 3 := by omega
  · exact if_pos hlt
  · have h0 : 2 ^ 6 ≤ value := hshorter 0 (by omega)
    rw [if_neg (by omega)]
    exact if_pos hlt
  · have h1 : 2 ^ 14 ≤ value := hshorter 1 (by omega)
    rw [if_neg (by omega), if_neg (by omega)]
    exact if_pos hlt
  · have h2 : 2 ^ 30 ≤ value := hshorter 2 (by omega)
    have h3 : value < 2 ^ 62 := hlt
    rw [if_neg (by omega), if_neg (by omega), if_neg (by omega)]
    exact if_pos (by omega)

theorem form_of_varintLen {value len : Nat} (h : varintLen value = some len) :
    value ≤ maxVarint ∧ ∃ tag, FormOf value tag ∧ len = 2 ^ tag := by
  have hle : value ≤ maxVarint := by
    rw [varintLen_eq] at h
    rw [maxVarint_eq]
    by_contra hlt
    rw [if_neg (by omega), if_neg (by omega), if_neg (by omega), if_neg hlt] at h
    cases h
  obtain ⟨tag, hform⟩ := exists_form hle
  rw [varintLen_of_form hform] at h
  exact ⟨hle, tag, hform, (Option.some.inj h).symm⟩

/-- The tag in front of the value. -/
theorem lor_tag {value bits : Nat} (h : value < 2 ^ bits) (tag : Nat) :
    value ||| 2 ^ bits * tag = 2 ^ bits * tag + value := by
  rw [Nat.or_comm, Nat.two_pow_add_eq_or_of_lt h]

theorem encodeVarint_of_form {value tag : Nat} (h : FormOf value tag) :
    encodeVarint value = .ok (bigEndian (2 ^ tag) (2 ^ payloadBits tag * tag + value)) := by
  rw [encodeVarint, varintLen_of_form h]
  obtain ⟨ht, hlt, -⟩ := h
  obtain rfl | rfl | rfl | rfl : tag = 0 ∨ tag = 1 ∨ tag = 2 ∨ tag = 3 := by omega
  · have hv : 2 ^ payloadBits 0 * 0 + value = value := by omega
    rw [hv]
    show Except.ok [UInt8.ofNat value] = Except.ok [UInt8.ofNat (value / 1)]
    rw [Nat.div_one]
  · exact congrArg (fun v => Except.ok (bigEndian 2 v)) (lor_tag hlt 1)
  · exact congrArg (fun v => Except.ok (bigEndian 4 v)) (lor_tag hlt 2)
  · exact congrArg (fun v => Except.ok (bigEndian 8 v)) (lor_tag hlt 3)

/-- Every value up to `maxVarint` has an encoding, of at most eight bytes. -/
theorem encodeVarint_ok {value : Nat} (h : value ≤ maxVarint) :
    ∃ bs, encodeVarint value = .ok bs ∧ 0 < bs.length ∧ bs.length ≤ 8 := by
  obtain ⟨tag, hform⟩ := exists_form h
  refine ⟨_, encodeVarint_of_form hform, ?_, ?_⟩
  · rw [bigEndian_length]
    positivity
  · have htag : tag ≤ 3 := by have := hform.1; omega
    rw [bigEndian_length]
    exact Nat.pow_le_pow_right (by omega) htag

theorem le_maxVarint_of_encode {value : Nat} {bs : List UInt8} (h : encodeVarint value = .ok bs) :
    value ≤ maxVarint := by
  cases hlen : varintLen value with
  | none =>
    rw [encodeVarint, hlen] at h
    cases h
  | some len => exact (form_of_varintLen hlen).1

/-! ### Reading back -/

theorem two_pow_payloadBits (tag : Nat) :
    2 ^ payloadBits tag = 64 * 256 ^ (2 ^ tag - 1) := by
  have hpos : 0 < 2 ^ tag := by positivity
  have hbits : payloadBits tag = 6 + 8 * (2 ^ tag - 1) := by
    unfold payloadBits
    omega
  rw [hbits, pow_add, pow_mul]
  norm_num

theorem foldl_bytes (acc : Nat) (bs : List UInt8) :
    bs.foldl (fun value byte => value <<< 8 ||| byte.toNat) acc = ofBigEndian acc bs := by
  induction bs generalizing acc with
  | nil => rfl
  | cons b bs ih =>
    have hstep : acc <<< 8 ||| b.toNat = acc * 256 + b.toNat := by
      rw [← Nat.shiftLeft_add_eq_or_of_lt b.toNat_lt, Nat.shiftLeft_eq]
    rw [List.foldl_cons, hstep, ih, ofBigEndian]

/-- The two top bits of the first byte give the length, the others the top of the value. -/
theorem encodedLenFromFirst_eq (first : UInt8) :
    encodedLenFromFirst first = 2 ^ (first.toNat / 64) := by
  rw [encodedLenFromFirst, Nat.shiftRight_eq_div_pow, Nat.shiftLeft_eq, Nat.one_mul]

/-- What `decodeVarint` does with a first byte and enough bytes behind it. -/
theorem decodeVarint_cons {first : UInt8} {tail rest : List UInt8}
    (hlen : tail.length + 1 = 2 ^ (first.toNat / 64)) :
    decodeVarint (first :: tail ++ rest) =
      let value := ofBigEndian (first.toNat % 64) tail
      if varintLen value ≠ some (2 ^ (first.toNat / 64)) then .error .nonMinimal
      else .ok (value, 2 ^ (first.toNat / 64)) := by
  have hmod : first.toNat &&& 0x3f = first.toNat % 64 := Nat.and_two_pow_sub_one_eq_mod _ 6
  have htake : ((first :: (tail ++ rest)).take (2 ^ (first.toNat / 64))).drop 1 = tail := by
    rw [← hlen, List.take_succ_cons, List.take_left, List.drop_one, List.tail_cons]
  have hlong : ¬ (first :: (tail ++ rest)).length < 2 ^ (first.toNat / 64) := by
    rw [List.length_cons, List.length_append]
    omega
  simp only [List.cons_append, decodeVarint, encodedLenFromFirst_eq, if_neg hlong, htake, hmod,
    foldl_bytes]

theorem decodeVarint_short {first : UInt8} {rest : List UInt8}
    (h : rest.length + 1 < 2 ^ (first.toNat / 64)) : decodeVarint (first :: rest)
      = .error (.incomplete (2 ^ (first.toNat / 64)) (rest.length + 1)) := by
  simp only [decodeVarint, encodedLenFromFirst_eq, List.length_cons, if_pos h]

/-- The first byte of a form and the bytes after it. -/
theorem encodeVarint_cons {value tag : Nat} (h : FormOf value tag) :
    ∃ first tail, encodeVarint value = .ok (first :: tail) ∧ first.toNat / 64 = tag ∧
      tail.length + 1 = 2 ^ tag ∧ ofBigEndian (first.toNat % 64) tail = value := by
  have hpos : 0 < 2 ^ tag := by positivity
  obtain ⟨m, hm⟩ : ∃ m, 2 ^ tag = m + 1 := ⟨2 ^ tag - 1, by omega⟩
  have hbits : 2 ^ payloadBits tag = 64 * 256 ^ m := by
    rw [two_pow_payloadBits, hm, Nat.add_sub_cancel]
  obtain ⟨ht, hlt, -⟩ := id h
  have hpow : 0 < 256 ^ m := by positivity
  have hw : 2 ^ payloadBits tag * tag + value = 256 ^ m * (64 * tag) + value := by
    rw [hbits]
    ring
  have hq : value / 256 ^ m < 64 := by
    rw [Nat.div_lt_iff_lt_mul hpow]
    omega
  have hbyte : ∀ q < 64, (UInt8.ofNat (64 * tag + q)).toNat = 64 * tag + q := fun q hq => by
    rw [UInt8.toNat_ofNat']
    omega
  have hfirst : (UInt8.ofNat ((256 ^ m * (64 * tag) + value) / 256 ^ m)).toNat
      = 64 * tag + value / 256 ^ m := by
    rw [Nat.mul_add_div hpow, hbyte _ hq]
  refine ⟨_, _, by rw [encodeVarint_of_form h, hw, hm, bigEndian], ?_, ?_, ?_⟩
  · rw [hfirst, Nat.mul_add_div (by omega), Nat.div_eq_of_lt hq, Nat.add_zero]
  · rw [bigEndian_length, hm]
  · have hmod : (64 * tag + value / 256 ^ m) % 64 = value / 256 ^ m := by
      rw [Nat.mul_add_mod, Nat.mod_eq_of_lt hq]
    rw [hfirst, hmod, ofBigEndian_bigEndian, Nat.mul_add_mod, Nat.mul_comm]
    exact Nat.div_add_mod value (256 ^ m)

/-- An encoding is read back from the front of any input. -/
theorem decodeVarint_encode {value : Nat} {bs : List UInt8} (h : encodeVarint value = .ok bs)
    (rest : List UInt8) : decodeVarint (bs ++ rest) = .ok (value, bs.length) := by
  obtain ⟨tag, hform⟩ := exists_form (le_maxVarint_of_encode h)
  obtain ⟨first, tail, he, htag, hlen, hvalue⟩ := encodeVarint_cons hform
  rw [h] at he
  cases he
  rw [decodeVarint_cons (by rw [htag, hlen]), htag, hvalue]
  simp only [varintLen_of_form hform, ne_eq, not_true_eq_false, if_false, List.length_cons, hlen]

/-- Only encodings are accepted. -/
theorem encodeVarint_decode {input : List UInt8} {value len : Nat}
    (h : decodeVarint input = .ok (value, len)) :
    len ≤ input.length ∧ encodeVarint value = .ok (input.take len) := by
  cases input with
  | nil => cases h
  | cons first rest =>
    rcases lt_or_ge (rest.length + 1) (2 ^ (first.toNat / 64)) with hshort | hlong
    · rw [decodeVarint_short hshort] at h
      cases h
    · have hpos : 0 < 2 ^ (first.toNat / 64) := by positivity
      obtain ⟨m, hm⟩ : ∃ m, 2 ^ (first.toNat / 64) = m + 1 := ⟨2 ^ (first.toNat / 64) - 1, by omega⟩
      have hmlen : m ≤ rest.length := by omega
      have htail : (rest.take m).length = m := by
        rw [List.length_take]
        omega
      have hsplit : first :: rest = first :: rest.take m ++ rest.drop m := by
        rw [List.cons_append, List.take_append_drop]
      rw [hsplit, decodeVarint_cons (by rw [htail, hm])] at h
      simp only [ne_eq, ite_not] at h
      split at h
      · rename_i hvar
        cases h
        obtain ⟨-, tag, hform, htag⟩ := form_of_varintLen hvar
        have htag' : tag = first.toNat / 64 := Nat.pow_right_injective (by omega) htag.symm
        refine ⟨by rw [List.length_cons]; omega, ?_⟩
        rw [hm, List.take_succ_cons, encodeVarint_of_form hform, htag', two_pow_payloadBits, hm,
          Nat.add_sub_cancel]
        have hbytes := bigEndian_ofBigEndian 0 (first :: rest.take m)
        rw [List.length_cons, htail, ofBigEndian, ofBigEndian_eq, htail] at hbytes
        rw [ofBigEndian_eq, htail, ← hbytes]
        congr 2
        have hfirst := Nat.div_add_mod first.toNat 64
        calc 64 * 256 ^ m * (first.toNat / 64)
              + (first.toNat % 64 * 256 ^ m + ofBigEndian 0 (rest.take m))
            = (64 * (first.toNat / 64) + first.toNat % 64) * 256 ^ m
              + ofBigEndian 0 (rest.take m) := by ring
          _ = (0 * 256 + first.toNat) * 256 ^ m + ofBigEndian 0 (rest.take m) := by
              rw [hfirst, Nat.zero_mul, Nat.zero_add]
      · cases h

/-! ### The bytes of a value -/

/-- The encoding of a value that has one. -/
def varintBytes (value : Nat) : List UInt8 := (encodeVarint value).toOption.getD []

theorem encodeVarint_eq {value : Nat} (h : value ≤ maxVarint) :
    encodeVarint value = .ok (varintBytes value) := by
  obtain ⟨bs, hbs, -⟩ := encodeVarint_ok h
  rw [varintBytes, hbs]
  rfl

/-- The first byte of an encoding tells its length. -/
theorem varintBytes_cons {value : Nat} (h : value ≤ maxVarint) : ∃ first tail,
    varintBytes value = first :: tail ∧ tail.length + 1 = encodedLenFromFirst first := by
  obtain ⟨tag, hform⟩ := exists_form h
  obtain ⟨first, tail, hencode, htag, hlen, -⟩ := encodeVarint_cons hform
  rw [encodeVarint_eq h, Except.ok.injEq] at hencode
  exact ⟨first, tail, hencode, by rw [encodedLenFromFirst_eq, htag, hlen]⟩

theorem varintBytes_length_le (value : Nat) : (varintBytes value).length ≤ 8 := by
  rcases le_or_gt value maxVarint with h | h
  · obtain ⟨bs, hbs, -, hlen⟩ := encodeVarint_ok h
    rw [encodeVarint_eq h] at hbs
    cases hbs
    exact hlen
  · cases he : encodeVarint value with
    | error e =>
      rw [varintBytes, he]
      exact Nat.zero_le _
    | ok bs => exact absurd (le_maxVarint_of_encode he) (not_le.mpr h)

/-- A value is read from the front of an input exactly if its encoding stands there. -/
theorem decodeVarint_eq_ok {input : List UInt8} {value len : Nat} :
    decodeVarint input = .ok (value, len) ↔
      value ≤ maxVarint ∧ len = (varintBytes value).length ∧
        input = varintBytes value ++ input.drop len := by
  constructor
  · intro h
    obtain ⟨hlen, henc⟩ := encodeVarint_decode h
    have hle := le_maxVarint_of_encode henc
    rw [encodeVarint_eq hle, Except.ok.injEq] at henc
    refine ⟨hle, ?_, ?_⟩
    · rw [henc, List.length_take, Nat.min_eq_left hlen]
    · rw [henc, List.take_append_drop]
  · rintro ⟨hle, rfl, hinput⟩
    rw [hinput]
    exact decodeVarint_encode (encodeVarint_eq hle) _

/-- A reader of one varint, whatever its errors stand for. -/
def varintReader {ε : Type} (g : VarIntDecodeError → ε) : Reader ε Nat := fun input =>
  match decodeVarint input with
  | .error e => .error (g e)
  | .ok (value, consumed) => .ok (value, input.drop consumed)

theorem varintReader_exact {ε : Type} (g : VarIntDecodeError → ε) :
    Reader.Exact (varintReader g) (· ≤ maxVarint) varintBytes := fun input value rest => by
  unfold varintReader
  cases h : decodeVarint input with
  | error e =>
    simp only [reduceCtorEq, false_iff]
    rintro ⟨hle, rfl⟩
    rw [decodeVarint_encode (encodeVarint_eq hle)] at h
    cases h
  | ok r =>
    obtain ⟨v, len⟩ := r
    obtain ⟨hle, rfl, hinput⟩ := decodeVarint_eq_ok.mp h
    simp only [Except.ok.injEq, Prod.mk.injEq]
    constructor
    · rintro ⟨rfl, rfl⟩
      exact ⟨hle, hinput⟩
    · rintro ⟨hle', rfl⟩
      rw [decodeVarint_encode (encodeVarint_eq hle')] at h
      cases h
      exact ⟨rfl, List.drop_left⟩

end RunenNet
