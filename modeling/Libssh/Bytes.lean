import Mathlib

/-!
The byte layer under both source files: `char` and `uint8_t` buffers as lists of
bytes, the C-string view of a buffer, the big-endian words the wire formats use,
the carry loop that increments a big-endian counter in place, and XOR of a text
with a keystream.

Everything above this file reads bytes through these definitions, so the few
facts proved here are the ones every round trip ends in: `be_nat_be_bytes`
(a word read back is the word written, modulo its width), `be_nat_be_inc` (the
carry loop adds one modulo the counter's width), and `xor_bytes_xor_bytes`
(XORing the same keystream twice gives the text back).

Big-endian values are handled through their little-endian reversal, where the
recursion runs from the least significant byte, as the carry loops in C do.
-/

set_option autoImplicit false

namespace Libssh

/-- A C byte buffer: `char *`, `uint8_t *` or the data of an `ssh_string`. -/
abbrev Bytes := List UInt8

/-- The bytes of an ASCII string constant of the source. -/
def ascii (s : String) : Bytes := s.toList.map fun c => c.toNat.toUInt8

/-- The C string a buffer holds: its bytes up to the first NUL. This is what
`strcmp`, `strncmp` and `strlen` see of a buffer that `ssh_buffer_unpack`'s
`"s"` format filled, whatever bytes followed an embedded NUL. -/
def cstr (b : Bytes) : Bytes := b.takeWhile (· != 0)

/-- `isspace` in the C locale: space, `\t`, `\n`, `\v`, `\f` and `\r`. -/
def isspace (c : UInt8) : Bool := c == 32 || (9 ≤ c && c ≤ 13)

/-! ## Words -/

/-- The value of little-endian bytes. -/
def le_nat : Bytes → Nat
  | [] => 0
  | b :: bs => b.toNat + 256 * le_nat bs

/-- The low `w` bytes of `n`, least significant first. -/
def le_bytes : Nat → Nat → Bytes
  | 0, _ => []
  | w + 1, n => n.toUInt8 :: le_bytes w (n / 256)

/-- The value of big-endian bytes (network byte order). -/
def be_nat (b : Bytes) : Nat := le_nat b.reverse

/-- The low `w` bytes of `n` in network byte order: `htonl` for `w = 4`,
`PUSH_BE_U64` for `w = 8`. -/
def be_bytes (w n : Nat) : Bytes := (le_bytes w n).reverse

/-- A `uint32_t` in network byte order, as `ssh_buffer_pack`'s `"d"` writes it. -/
def be32 (x : UInt32) : Bytes := be_bytes 4 x.toNat

@[simp] theorem toNat_toUInt8 (n : Nat) : n.toUInt8.toNat = n % 256 := by
  simp [Nat.toUInt8, UInt8.toNat, UInt8.ofNat]

@[simp] theorem toNat_toUInt32 (n : Nat) : n.toUInt32.toNat = n % 2 ^ 32 := by
  simp [Nat.toUInt32, UInt32.toNat, UInt32.ofNat]

@[simp] theorem length_le_bytes (w n : Nat) : (le_bytes w n).length = w := by
  induction w generalizing n with
  | zero => rfl
  | succ w ih => simp [le_bytes, ih]

@[simp] theorem length_be_bytes (w n : Nat) : (be_bytes w n).length = w := by
  simp [be_bytes]

@[simp] theorem length_be32 (x : UInt32) : (be32 x).length = 4 := by simp [be32]

theorem le_nat_lt (b : Bytes) : le_nat b < 256 ^ b.length := by
  induction b with
  | nil => simp [le_nat]
  | cons x xs ih =>
    have := x.toNat_lt
    simp only [le_nat, List.length_cons, pow_succ]
    omega

theorem be_nat_lt (b : Bytes) : be_nat b < 256 ^ b.length := by
  simpa [be_nat] using le_nat_lt b.reverse

theorem le_nat_le_bytes (w n : Nat) : le_nat (le_bytes w n) = n % 256 ^ w := by
  induction w generalizing n with
  | zero => simp [le_bytes, le_nat, Nat.mod_one]
  | succ w ih =>
    rw [le_bytes, le_nat, ih, toNat_toUInt8, pow_succ, Nat.mul_comm (256 ^ w), Nat.mod_mul]

/-- **Reading back a word.** The value of the `w` big-endian bytes of `n` is `n`
modulo `256 ^ w`. -/
theorem be_nat_be_bytes (w n : Nat) : be_nat (be_bytes w n) = n % 256 ^ w := by
  simp [be_nat, be_bytes, le_nat_le_bytes]

theorem le_bytes_le_nat (b : Bytes) : le_bytes b.length (le_nat b) = b := by
  induction b with
  | nil => rfl
  | cons x xs ih =>
    have hx := x.toNat_lt
    have hdiv : (x.toNat + 256 * le_nat xs) / 256 = le_nat xs := by omega
    simp only [le_bytes, le_nat, List.length_cons, hdiv, ih, List.cons.injEq, and_true]
    apply UInt8.ext
    simp only [toNat_toUInt8]
    omega

/-- Bytes are determined by their big-endian value and their count. -/
theorem be_bytes_be_nat (b : Bytes) : be_bytes b.length (be_nat b) = b := by
  simpa [be_bytes, be_nat] using congrArg List.reverse (le_bytes_le_nat b.reverse)

theorem be_bytes_injective {w m n : Nat} (hm : m < 256 ^ w) (hn : n < 256 ^ w)
    (h : be_bytes w m = be_bytes w n) : m = n := by
  have := congrArg be_nat h
  rwa [be_nat_be_bytes, be_nat_be_bytes, Nat.mod_eq_of_lt hm, Nat.mod_eq_of_lt hn] at this

theorem le_nat_append (a b : Bytes) : le_nat (a ++ b) = le_nat a + 256 ^ a.length * le_nat b := by
  induction a with
  | nil => simp [le_nat]
  | cons x xs ih => rw [List.cons_append, le_nat, le_nat, ih, List.length_cons, pow_succ]; ring

theorem be_nat_append (a b : Bytes) : be_nat (a ++ b) = be_nat a * 256 ^ b.length + be_nat b := by
  simp only [be_nat, List.reverse_append, le_nat_append, List.length_reverse]
  ring

/-- `ntohl` of the bytes `htonl` wrote. -/
theorem be32_inj {x y : UInt32} (h : be32 x = be32 y) : x = y := by
  exact UInt32.ext <| be_bytes_injective (x.toNat_lt.trans_eq (by norm_num)) (y.toNat_lt.trans_eq (by norm_num)) h

/-! ## The carry loop -/

/-- The loop of `uint64_inc` and of mbedTLS's counter-block increment, over the
counter's bytes from the least significant one: add one to the byte, and stop
unless it wrapped to zero. -/
def le_inc : Bytes → Bytes
  | [] => []
  | b :: bs => if b + 1 ≠ 0 then (b + 1) :: bs else 0 :: le_inc bs

/-- The carry loop over a big-endian counter, which C runs from the last byte. -/
def be_inc (b : Bytes) : Bytes := (le_inc b.reverse).reverse

@[simp] theorem length_le_inc (b : Bytes) : (le_inc b).length = b.length := by
  induction b with
  | nil => rfl
  | cons x xs ih => unfold le_inc; split <;> simp [ih]

@[simp] theorem length_be_inc (b : Bytes) : (be_inc b).length = b.length := by
  simp [be_inc]

theorem toNat_add_one (b : UInt8) (h : b + 1 ≠ 0) : (b + 1).toNat = b.toNat + 1 := by
  have h' : b.toNat ≠ 255 := fun h255 => h (UInt8.ext (by simp [UInt8.toNat_add, h255]))
  have := b.toNat_lt
  simp only [UInt8.toNat_add, UInt8.toNat_ofNat, UInt8.size]
  omega

theorem toNat_eq_255 (b : UInt8) (h : ¬b + 1 ≠ 0) : b.toNat = 255 := by
  have h0 : (b + 1).toNat = 0 := by rw [not_not.mp h]; rfl
  have := b.toNat_lt
  simp only [UInt8.toNat_add, UInt8.toNat_ofNat, UInt8.size] at h0
  omega

theorem le_nat_le_inc (b : Bytes) : le_nat (le_inc b) = (le_nat b + 1) % 256 ^ b.length := by
  induction b with
  | nil => simp [le_inc, le_nat]
  | cons x xs ih =>
    have hlt := le_nat_lt xs
    unfold le_inc
    split
    · next h =>
      have hx := toNat_add_one x h
      have hx' := (x + 1).toNat_lt
      simp only [le_nat, hx, List.length_cons, pow_succ]
      rw [Nat.mod_eq_of_lt (by omega)]
      omega
    · next h =>
      simp only [le_nat, ih, toNat_eq_255 x h, List.length_cons, pow_succ, UInt8.toNat_zero,
        Nat.zero_add]
      rw [show 255 + 256 * le_nat xs + 1 = 256 * (le_nat xs + 1) by ring,
        Nat.mul_comm (256 ^ xs.length), Nat.mul_mod_mul_left]

/-- **The carry loop adds one.** Read back in network byte order, the counter it
leaves is the old one plus one, modulo `256 ^ width`: the carry runs through
every byte of the counter and stops at its first one. -/
theorem be_nat_be_inc (b : Bytes) : be_nat (be_inc b) = (be_nat b + 1) % 256 ^ b.length := by
  simp [be_nat, be_inc, le_nat_le_inc]

/-- A word in network byte order depends only on its value modulo `256 ^ w`. -/
theorem be_bytes_mod (w n : Nat) : be_bytes w (n % 256 ^ w) = be_bytes w n := by
  have h := be_bytes_be_nat (be_bytes w n)
  rwa [length_be_bytes, be_nat_be_bytes] at h

/-- The carry loop over a word in network byte order is its successor. -/
theorem be_inc_be_bytes (w n : Nat) : be_inc (be_bytes w n) = be_bytes w (n + 1) := by
  have h := be_bytes_be_nat (be_inc (be_bytes w n))
  rw [length_be_inc, length_be_bytes, be_nat_be_inc, be_nat_be_bytes, length_be_bytes,
    Nat.add_mod, Nat.mod_mod, ← Nat.add_mod, be_bytes_mod] at h
  exact h.symm

/-! ## Keystreams -/

/-- A text XORed bytewise with a keystream, as far as the shorter one goes. -/
def xor_bytes (a k : Bytes) : Bytes := List.zipWith (· ^^^ ·) a k

theorem UInt8.xor_xor_cancel (a k : UInt8) : a ^^^ k ^^^ k = a := by
  obtain ⟨a⟩ := a; obtain ⟨k⟩ := k
  change UInt8.mk (a ^^^ k ^^^ k) = UInt8.mk a
  rw [BitVec.xor_assoc, BitVec.xor_self, BitVec.xor_zero]

theorem UInt8.zero_xor' (a : UInt8) : 0 ^^^ a = a := by
  obtain ⟨a⟩ := a
  change UInt8.mk (0#8 ^^^ a) = UInt8.mk a
  rw [BitVec.zero_xor]

@[simp] theorem length_xor_bytes (a k : Bytes) : (xor_bytes a k).length = min a.length k.length := by
  simp [xor_bytes]

/-- XORing the same keystream twice gives the text back, when the keystream is
at least as long as the text. -/
theorem xor_bytes_xor_bytes (a k : Bytes) (h : a.length ≤ k.length) :
    xor_bytes (xor_bytes a k) k = a := by
  induction a generalizing k with
  | nil => rfl
  | cons x xs ih =>
    cases k with
    | nil => simp at h
    | cons y ys =>
      simp only [xor_bytes, List.zipWith_cons_cons] at ih ⊢
      rw [UInt8.xor_xor_cancel, ih ys (by simpa using h)]

theorem xor_bytes_append (a b k : Bytes) (h : a.length ≤ k.length) :
    xor_bytes (a ++ b) k = xor_bytes a k ++ xor_bytes b (k.drop a.length) := by
  induction a generalizing k with
  | nil => rfl
  | cons x xs ih =>
    cases k with
    | nil => simp at h
    | cons y ys =>
      have := ih ys (by simpa using h)
      simp only [xor_bytes] at this ⊢
      simp [this]

/-- The keystream itself: XOR with zero bytes, as `chacha20_poly1305_packet_setup`
runs the main context over `zero_block` to obtain the Poly1305 key. -/
theorem xor_bytes_replicate_zero (n : Nat) (k : Bytes) (h : n ≤ k.length) :
    xor_bytes (List.replicate n 0) k = k.take n := by
  induction n generalizing k with
  | zero => rfl
  | succ n ih =>
    cases k with
    | nil => simp at h
    | cons y ys =>
      simp only [List.replicate_succ, xor_bytes, List.zipWith_cons_cons, List.take_succ_cons] at ih ⊢
      rw [ih ys (by simpa using h), UInt8.zero_xor']

end Libssh
