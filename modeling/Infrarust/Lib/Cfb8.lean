import Mathlib.Data.List.Basic

/-!
# `Infrarust.Lib.Cfb8`: a stream cipher that feeds its output back

In the byte-wise cipher-feedback mode each byte is combined with a key byte that depends on
a register, and the register then takes in the encrypted byte. Sender and receiver move
their registers in the same way, so a receiver that starts with the sender's register reads
the sender's bytes back (`decrypt_encrypt`), however they are cut (`encrypt_append`,
`decrypt_append`). The block cipher is a parameter: `keystream` gives the key byte for a
register.
-/

set_option autoImplicit false

namespace Cfb8

variable (keystream : List UInt8 → UInt8)

/-- The register after an encrypted byte. -/
def shift (reg : List UInt8) (c : UInt8) : List UInt8 := reg.tail ++ [c]

/-- The encrypted bytes and the register afterwards. -/
def encrypt : List UInt8 → List UInt8 → List UInt8 × List UInt8
  | reg, [] => ([], reg)
  | reg, b :: bs =>
    let c := b ^^^ keystream reg
    let r := encrypt (shift reg c) bs
    (c :: r.1, r.2)

/-- The decrypted bytes and the register afterwards. -/
def decrypt : List UInt8 → List UInt8 → List UInt8 × List UInt8
  | reg, [] => ([], reg)
  | reg, c :: cs =>
    let r := decrypt (shift reg c) cs
    ((c ^^^ keystream reg) :: r.1, r.2)

theorem encrypt_append (bs cs) : ∀ reg : List UInt8, encrypt keystream reg (bs ++ cs)
      = ((encrypt keystream reg bs).1 ++ (encrypt keystream (encrypt keystream reg bs).2 cs).1,
          (encrypt keystream (encrypt keystream reg bs).2 cs).2) := by
  induction bs with
  | nil => intro reg; rfl
  | cons b bs ih =>
    intro reg
    simp only [List.cons_append, encrypt, ih]

theorem decrypt_append (bs cs) : ∀ reg : List UInt8, decrypt keystream reg (bs ++ cs)
      = ((decrypt keystream reg bs).1 ++ (decrypt keystream (decrypt keystream reg bs).2 cs).1,
          (decrypt keystream (decrypt keystream reg bs).2 cs).2) := by
  induction bs with
  | nil => intro reg; rfl
  | cons b bs ih =>
    intro reg
    simp only [List.cons_append, decrypt, ih]

/-- The receiver reads the sender's bytes and ends with the sender's register. -/
theorem decrypt_encrypt (bs) : ∀ reg : List UInt8,
    decrypt keystream reg (encrypt keystream reg bs).1 = (bs, (encrypt keystream reg bs).2) := by
  induction bs with
  | nil => intro reg; rfl
  | cons b bs ih =>
    intro reg
    simp only [encrypt, decrypt, ih, UInt8.xor_assoc, UInt8.xor_self, UInt8.xor_zero]

/-- The beginning of a ciphertext decrypts to the beginning of the text. -/
theorem decrypt_take (cs : List UInt8) : ∀ (n : Nat) (reg : List UInt8),
    (decrypt keystream reg (cs.take n)).1 = (decrypt keystream reg cs).1.take n := by
  induction cs with
  | nil => intro n reg; simp [decrypt]
  | cons c cs ih =>
    intro n reg
    cases n with
    | zero => rfl
    | succ n => simp only [List.take_succ_cons, decrypt, ih]

theorem length_encrypt (bs) : ∀ reg : List UInt8,
    (encrypt keystream reg bs).1.length = bs.length := by
  induction bs with
  | nil => intro reg; rfl
  | cons b bs ih =>
    intro reg
    simp only [encrypt, List.length_cons, ih]

end Cfb8
