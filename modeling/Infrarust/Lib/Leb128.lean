import Mathlib.Data.List.Basic
import Mathlib.Data.Nat.Log
import Mathlib.Tactic.Positivity

/-!
# `Infrarust.Lib.Leb128`: base-128 numbers, least significant group first

A natural number is written in groups of seven bits, one byte each. The top bit of a byte
says that another group follows. `encode` writes the shortest form, and `decode` reads at
most a given number of bytes.

The decoder's three outcomes are kept apart because a stream decoder treats them
differently: `short` may still become a number when input arrives, `done` and `long` never
change (`decode_append`). `decode_encode` is the round trip, and `length_encode` gives the
length of an encoding from the position of the top bit.
-/

set_option autoImplicit false

namespace Leb128

open List

/-- The shortest base-128 form of `n`. -/
def encode (n : Nat) : List UInt8 :=
  if n < 128 then [UInt8.ofNat n] else UInt8.ofNat (n % 128 + 128) :: encode (n / 128)
termination_by n
decreasing_by omega

/-- What reading a bounded number of bytes found. -/
inductive Outcome where
  /-- The value `v`, written in `used` bytes. -/
  | done (v used : Nat)
  /-- The input ended inside the number. -/
  | short
  /-- The bound was reached inside the number. -/
  | long
deriving DecidableEq

/-- Puts the group `g` in front of what was read after it. -/
def Outcome.shift (g : Nat) : Outcome → Outcome
  | .done v used => .done (g + 128 * v) (used + 1)
  | .short => .short
  | .long => .long

/-- Reads a number of at most `k` bytes from the front of the input. -/
def decode : Nat → List UInt8 → Outcome
  | 0, _ => .long
  | _ + 1, [] => .short
  | k + 1, b :: bs =>
    if b.toNat < 128 then .done b.toNat 1 else (decode k bs).shift (b.toNat % 128)

theorem encode_of_lt {n} (h : n < 128) : encode n = [UInt8.ofNat n] := by
  rw [encode, if_pos h]

theorem encode_of_le {n} (h : 128 ≤ n) :
    encode n = UInt8.ofNat (n % 128 + 128) :: encode (n / 128) := by
  rw [encode, if_neg (by omega)]

/-- Reading back what was written gives the number and the length of its encoding. -/
theorem decode_encode (k) : ∀ n < 128 ^ (k + 1), ∀ t : List UInt8,
    decode (k + 1) (encode n ++ t) = .done n (encode n).length := by
  induction k with
  | zero =>
    intro n hn t
    have hn : n < 128 := by simpa using hn
    have hb : (UInt8.ofNat n).toNat = n := by simp; omega
    simp [encode_of_lt hn, decode, hb, hn]
  | succ k ih =>
    intro n hn t
    by_cases h : n < 128
    · have hb : (UInt8.ofNat n).toNat = n := by simp; omega
      simp [encode_of_lt h, decode, hb, h]
    · have hb : (UInt8.ofNat (n % 128 + 128)).toNat = n % 128 + 128 := by simp; omega
      have hdiv : n / 128 < 128 ^ (k + 1) := by
        rw [Nat.div_lt_iff_lt_mul (by decide)]
        simpa [Nat.pow_succ] using hn
      rw [encode_of_le (by omega), cons_append, decode, hb, if_neg (by omega),
        ih (n / 128) hdiv t, Outcome.shift, length_cons]
      congr 1
      omega

/-- The bytes of an encoding of `k + 1` groups, given by their positions. -/
theorem encode_eq_map (k) : ∀ n, (k = 0 ∨ 128 ^ k ≤ n) → n < 128 ^ (k + 1) →
    encode n = (List.range (k + 1)).map fun i =>
      UInt8.ofNat (n / 128 ^ i % 128 + if i < k then 128 else 0) := by
  induction k with
  | zero =>
    intro n _ hn
    have hn : n < 128 := by simpa using hn
    simp [encode_of_lt hn, Nat.mod_eq_of_lt hn]
  | succ k ih =>
    intro n hlo hhi
    have hlo : 128 ^ k * 128 ≤ n := by simpa [Nat.pow_succ] using hlo
    have h128 : 128 ≤ n := le_trans (Nat.le_mul_of_pos_left 128 (by positivity)) hlo
    rw [encode_of_le h128, ih (n / 128) (.inr (by omega)) (by omega),
      range_succ_eq_map (n := k + 1)]
    simp only [map_cons, map_map, List.cons.injEq]
    refine ⟨by simp, ?_⟩
    apply map_congr_left
    intro i _
    simp [Nat.div_div_eq_div_mul, Nat.pow_succ, Nat.mul_comm]

theorem Outcome.shift_eq_short {g} {o : Outcome} : o.shift g = .short ↔ o = .short := by
  cases o <;> simp [Outcome.shift]

theorem Outcome.shift_eq_done {g v used} {o : Outcome} (h : o.shift g = .done v used) :
    ∃ v' used', o = .done v' used' ∧ v = g + 128 * v' ∧ used = used' + 1 := by
  cases o with
  | done v' used' =>
    cases h
    exact ⟨v', used', rfl, rfl, rfl⟩
  | short | long => cases h

/-- What was found is final unless the input ended inside the number. -/
theorem decode_append (t k bs) (h : decode k bs ≠ .short) : decode k (bs ++ t) = decode k bs := by
  fun_induction decode k bs with
  | case1 => rfl
  | case2 => exact absurd rfl h
  | case3 k b bs hb => rw [cons_append, decode, if_pos hb]
  | case4 k b bs hb ih =>
    -- the rest of the number did not end early either
    rw [cons_append, decode, if_neg hb, ih fun hrest => h (Outcome.shift_eq_short.mpr hrest)]

variable {v used : Nat}

/-- A number that was read takes at least one byte and no more than there are. -/
theorem used_le_of_decode (k bs) (h : decode k bs = .done v used) :
    0 < used ∧ used ≤ bs.length := by
  fun_induction decode k bs generalizing v used with
  | case1 | case2 => cases h
  | case3 =>
    cases h
    simp
  | case4 k b bs hb ih =>
    obtain ⟨v', used', hrest, -, rfl⟩ := Outcome.shift_eq_done h
    have hused := ih hrest
    simp only [length_cons]
    omega

/-- What was found depends only on the bytes it takes. -/
theorem decode_take (t k bs) (h : decode k bs = .done v used) :
    decode k (bs.take used ++ t) = .done v used := by
  fun_induction decode k bs generalizing v used with
  | case1 | case2 => cases h
  | case3 k b bs hb =>
    cases h
    simp [decode, hb]
  | case4 k b bs hb ih =>
    obtain ⟨v', used', hrest, rfl, rfl⟩ := Outcome.shift_eq_done h
    rw [take_succ_cons, cons_append, decode, if_neg hb, ih hrest, ← h, hrest]

/-- The length of an encoding is one byte for every seven bits up to the top bit. -/
theorem length_encode (n) : (encode n).length = n.log2 / 7 + 1 := by
  induction n using Nat.strongRecOn with
  | _ n ih =>
    by_cases h : n < 128
    · have hlog : n.log2 < 7 ∨ n = 0 := by
        by_cases h0 : n = 0
        · exact .inr h0
        · exact .inl ((Nat.log2_lt h0).2 h)
      rw [encode_of_lt h]
      rcases hlog with hlt | rfl
      · simp only [length_singleton]
        omega
      · simp
    · have hdiv : n / 128 ≠ 0 := by omega
      have hlog : n.log2 = (n / 128).log2 + 7 := by
        have hlo := Nat.log2_self_le hdiv
        have hhi := @Nat.lt_log2_self (n / 128)
        have hpow : 2 ^ ((n / 128).log2 + 7) = 128 * 2 ^ (n / 128).log2 := by
          rw [Nat.pow_add, Nat.mul_comm]
        rw [Nat.log2_eq_iff (by omega), Nat.pow_succ 2 (_ + 7), hpow]
        omega
      rw [encode_of_le (by omega), length_cons, ih (n / 128) (by omega), hlog]
      omega

end Leb128
