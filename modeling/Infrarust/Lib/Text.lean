import Mathlib.Algebra.GroupWithZero.Nat
import Mathlib.Data.List.Basic

/-!
# `Infrarust.Lib.Text`: string functions over characters

The string functions of the Rust standard library that the development uses, written over
lists of characters. White space is the Unicode property `White_Space`. Offsets count UTF-8
bytes.
-/

set_option autoImplicit false

namespace Text

open List

variable (c : Char) (s : String)

/-- `char::is_whitespace`. -/
def isWhitespace : Bool :=
  let n := c.toNat
  (0x9 ≤ n && n ≤ 0xD) || (0x2000 ≤ n && n ≤ 0x200A)
    || [0x20, 0x85, 0xA0, 0x1680, 0x2028, 0x2029, 0x202F, 0x205F, 0x3000].contains n

/-- `str::trim_start`. -/
def trimStart : String := String.ofList (s.toList.dropWhile isWhitespace)

/-- `str::trim`. -/
def trim : String :=
  String.ofList ((s.toList.dropWhile isWhitespace).reverse.dropWhile isWhitespace).reverse

/-- `str::trim_start_matches` with a character. -/
def trimStartMatches : String := String.ofList (s.toList.dropWhile (· = c))

/-- `str::trim_end_matches` with a character. -/
def trimEndMatches : String := String.ofList (s.toList.reverse.dropWhile (· = c)).reverse

/-- Lower-case hexadecimal digits, filled up with zeros to `width`. -/
def hex (width n : Nat) : String :=
  let digits := Nat.toDigits 16 n
  String.ofList (List.replicate (width - digits.length) '0' ++ digits)

/-- `str::starts_with` with a string. -/
def startsWith (s start : String) : Bool := start.toList.isPrefixOf s.toList

/-- `str::split_whitespace`. -/
def splitWhitespace : List String :=
  ((s.toList.splitOnP isWhitespace).filter (· ≠ [])).map String.ofList

/-- `str::split_once` with a character. -/
def splitOnce : Option (String × String) :=
  match s.toList.dropWhile (· ≠ c) with
  | [] => none
  | _ :: rest => some (String.ofList (s.toList.takeWhile (· ≠ c)), String.ofList rest)

/-- `str::rsplit_once` with a character. -/
def rsplitOnce : Option (String × String) :=
  match s.toList.reverse.dropWhile (· ≠ c) with
  | [] => none
  | _ :: front =>
    some (String.ofList front.reverse, String.ofList (s.toList.reverse.takeWhile (· ≠ c)).reverse)

/-- `str::split_once` with a string. -/
def splitOnceStr (separator : List Char) : List Char → Option (List Char × List Char)
  | [] => if separator = [] then some ([], []) else none
  | c :: cs =>
    if separator.isPrefixOf (c :: cs) then some ([], (c :: cs).drop separator.length)
    else (splitOnceStr separator cs).map fun (before, after) => (c :: before, after)

/-- A number in decimal digits, of which there is one or more. -/
def parseDigits (digits : List Char) : Option Nat :=
  if digits ≠ [] ∧ digits.all Char.isDigit then
    some (digits.foldl (fun n c => n * 10 + (c.toNat - '0'.toNat)) 0)
  else none

/-- `str::parse` to an `i32`. -/
def parseI32 : Option Int :=
  match s.toList with
  | '-' :: digits => (parseDigits digits).bind fun n => if n ≤ 2 ^ 31 then some (-n) else none
  | '+' :: digits => (parseDigits digits).bind fun n => if n < 2 ^ 31 then some n else none
  | digits => (parseDigits digits).bind fun n => if n < 2 ^ 31 then some n else none

/-- `str::parse` to a `u16`. -/
def parseU16 : Option UInt16 :=
  let digits := match s.toList with
    | '+' :: digits => digits
    | digits => digits
  (parseDigits digits).bind fun n => if n < 2 ^ 16 then some (.ofNat n) else none

/-- The characters of UTF-16 code units. A surrogate without its partner is an error. -/
def decodeUtf16 : List Nat → Option (List Char)
  | [] => some []
  | unit :: units =>
    if unit < 0xD800 ∨ 0xDFFF < unit then (Char.ofNat unit :: ·) <$> decodeUtf16 units
    else
      match units with
      | [] => none
      | low :: units =>
        if unit ≤ 0xDBFF ∧ 0xDC00 ≤ low ∧ low ≤ 0xDFFF then
          (Char.ofNat (0x10000 + (unit - 0xD800) * 0x400 + (low - 0xDC00)) :: ·)
            <$> decodeUtf16 units
        else none

/-- `String::from_utf16`. -/
def fromUtf16 (units : List Nat) : Option String := String.ofList <$> decodeUtf16 units

variable (cs : List Char)

/-- `str::len`: the number of UTF-8 bytes. -/
def byteLen : Nat := (cs.map Char.utf8Size).sum

/-- `str::rfind` with a character: the byte offset of its last occurrence. -/
def rfind : Option Nat :=
  if c ∈ s.toList then
    some (byteLen (s.toList.reverse.dropWhile (· ≠ c)).tail)
  else none

/-- The number of UTF-16 code units of a character. -/
def utf16Size : Nat := if c.toNat ≤ 0xFFFF then 1 else 2

/-- The number of UTF-16 code units of a text. -/
def utf16Len : Nat := (cs.map utf16Size).sum

/-- The bytes of a text beyond its UTF-16 code units. -/
def extraBytes : Nat := (cs.map fun c => c.utf8Size - utf16Size c).sum

/-! ### Lengths -/

theorem byteLen_append (front back) : byteLen (front ++ back) = byteLen front + byteLen back := by
  rw [byteLen, map_append, sum_append]
  rfl

theorem utf16Len_append (front back) :
    utf16Len (front ++ back) = utf16Len front + utf16Len back := by
  rw [utf16Len, map_append, sum_append]
  rfl

/-- Just the ASCII characters have as many bytes as UTF-16 units. -/
theorem utf16Size_cases (c : Char) :
    c.toNat < 128 ∧ c.utf8Size = utf16Size c ∨ 128 ≤ c.toNat ∧ utf16Size c < c.utf8Size := by
  simp only [Char.utf8Size, utf16Size, UInt32.le_iff_toNat_le, Char.toNat]
  split_ifs <;> simp_all <;> omega

theorem byteLen_eq : byteLen cs = utf16Len cs + extraBytes cs := by
  induction cs with
  | nil => rfl
  | cons c cs ih =>
    have hsize := utf16Size_cases c
    simp only [byteLen, utf16Len, extraBytes, map_cons, sum_cons] at ih ⊢
    omega

theorem extraBytes_eq_zero_iff : extraBytes cs = 0 ↔ ∀ c ∈ cs, c.toNat < 128 := by
  induction cs with
  | nil => simp [extraBytes]
  | cons c cs ih =>
    have hsize := utf16Size_cases c
    rw [forall_mem_cons, ← ih]
    simp only [extraBytes, map_cons, sum_cons]
    omega

/-! ### Texts that are read back -/

theorem rsplitOnce_of_toList {c} {s : String} {front back}
    (h : s.toList = front ++ c :: back) (hback : c ∉ back) :
    rsplitOnce c s = some (String.ofList front, String.ofList back) := by
  have hreverse : s.toList.reverse = back.reverse ++ c :: front.reverse := by
    rw [h, reverse_append, reverse_cons, append_assoc, singleton_append]
  have hall : ∀ d ∈ back.reverse, decide (d ≠ c) = true := by
    intro d hd
    exact decide_eq_true fun hdc => hback (hdc ▸ mem_reverse.mp hd)
  rw [rsplitOnce, hreverse, dropWhile_append_of_pos hall, takeWhile_append_of_pos hall]
  simp

theorem parseDigits_toDigits (n) : parseDigits (Nat.toDigits 10 n) = some n := by
  have hdigits : (Nat.toDigits 10 n).all Char.isDigit = true :=
    all_eq_true.mpr fun c hc => Nat.isDigit_of_mem_toDigits (by decide) (by decide) hc
  have hval := Nat.ofDigitChars_ten_toDigits (n := n)
  simp only [Nat.ofDigitChars, Nat.mul_comm 10] at hval
  rw [parseDigits, if_pos ⟨Nat.toDigits_ne_nil, hdigits⟩]
  exact congrArg some hval

theorem parseU16_toString (n) : parseU16 (toString n) = some n := by
  have htext : (toString n).toList = Nat.toDigits 10 n.toNat := Nat.toList_repr
  have hplus : ∀ digits, Nat.toDigits 10 n.toNat ≠ '+' :: digits := by
    intro digits h
    have hdigit : '+'.isDigit = true :=
      Nat.isDigit_of_mem_toDigits (by decide : 0 < 10) (by decide) (h ▸ mem_cons_self)
    cases hdigit
  rw [parseU16, htext]
  split
  case h_1 digits h => exact absurd h (hplus digits)
  case h_2 =>
    rw [parseDigits_toDigits]
    show (if n.toNat < 2 ^ 16 then some (UInt16.ofNat n.toNat) else none) = some n
    rw [if_pos n.toNat_lt, UInt16.ofNat_toNat]

end Text
