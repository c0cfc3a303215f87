import Libssh.Bytes

/-!
`ssh_buffer` as both source files use it, at its interface: a byte queue that is
read from the front and appended to at the back. A reader returns what it read
and the bytes left; a writer returns the grown buffer, or nothing when the
buffer would grow past `BUFFER_SIZE_MAX`, the largest allocation libssh's
`buffer.c` makes.

Two details of the readers matter above. `ssh_buffer_get_ssh_string` consumes its
length word even when the data then does not fit, and `ssh_pki_openssh_import`
goes on reading after such a failure, so the reader returns the buffer it leaves
in both cases. And `ssh_buffer_unpack`'s `"s"` format hands out the raw bytes of
the string with a NUL appended: everything the callers do with it afterwards is
a C-string operation, which sees `cstr` of those bytes.

The lemmas come in pairs: what a reader gives back on what a writer wrote
(`get_u32_be32`, `get_ssh_string_sshstr`), and what the bytes must have been when
a reader succeeded (`get_u32_eq_some`, `get_ssh_string_eq_some`). The container
round trips use the first kind, its soundness the second.
-/

set_option autoImplicit false

namespace Libssh

/-- The wire form of a string: a 32-bit length in network byte order, then the
bytes. What `ssh_buffer_add_ssh_string` and `ssh_buffer_pack`'s `"S"` write. -/
def sshstr (s : Bytes) : Bytes := be32 s.length.toUInt32 ++ s

/-! ## Readers -/

/-- `ssh_buffer_get_data`: the next `len` bytes, or nothing (and nothing
consumed) when fewer remain. -/
def ssh_buffer_get_data (buf : Bytes) (len : Nat) : Option (Bytes × Bytes) :=
  if len ≤ buf.length then some (buf.take len, buf.drop len) else none

/-- `ssh_buffer_get_u32` followed by `ntohl`, as every caller here does. -/
def ssh_buffer_get_u32 (buf : Bytes) : Option (UInt32 × Bytes) :=
  (ssh_buffer_get_data buf 4).map fun (w, rest) => ((be_nat w).toUInt32, rest)

/-- `ssh_buffer_get_ssh_string`: NULL with nothing consumed when no length word
is left, NULL after consuming the length word when the data does not fit. -/
def ssh_buffer_get_ssh_string (buf : Bytes) : Option Bytes × Bytes :=
  match ssh_buffer_get_u32 buf with
  | none => (none, buf)
  | some (len, rest) =>
    match ssh_buffer_get_data rest len.toNat with
    | none => (none, rest)
    | some (s, rest') => (some s, rest')

/-- `ssh_buffer_unpack`'s `"S"`: the string, or failure. -/
def unpack_S (buf : Bytes) : Option (Bytes × Bytes) :=
  match ssh_buffer_get_ssh_string buf with
  | (some s, rest) => some (s, rest)
  | (none, _) => none

/-! ## Writers -/

/-- `BUFFER_SIZE_MAX` of libssh's `buffer.c`, which is not in `src/`: a buffer's
allocation grows in powers of two and is never made larger than 256 MiB. -/
def BUFFER_SIZE_MAX : Nat := 0x10000000

/-- `ssh_buffer_add_data`: fails when the buffer would hold more than
`BUFFER_SIZE_MAX` bytes. The allocation itself is not modelled: the C code also
refuses an add that ends at exactly `BUFFER_SIZE_MAX` bytes when it has to
reallocate for it. -/
def ssh_buffer_add_data (buf data : Bytes) : Option Bytes :=
  if buf.length + data.length ≤ BUFFER_SIZE_MAX then some (buf ++ data) else none

/-! ## Lemmas -/

theorem ssh_buffer_get_data_eq_some {buf d r : Bytes} {n : Nat} :
    ssh_buffer_get_data buf n = some (d, r) ↔ buf = d ++ r ∧ d.length = n := by
  unfold ssh_buffer_get_data
  split
  · next h =>
    simp only [Option.some.injEq, Prod.mk.injEq]
    constructor
    · rintro ⟨rfl, rfl⟩; simp [h]
    · rintro ⟨rfl, rfl⟩; simp
  · next h =>
    simp only [reduceCtorEq, false_iff, not_and]
    rintro rfl rfl
    simp at h

@[simp] theorem ssh_buffer_get_data_append (d r : Bytes) :
    ssh_buffer_get_data (d ++ r) d.length = some (d, r) :=
  ssh_buffer_get_data_eq_some.mpr ⟨rfl, rfl⟩

theorem ssh_buffer_get_data_eq_none {buf : Bytes} {n : Nat} :
    ssh_buffer_get_data buf n = none ↔ buf.length < n := by
  unfold ssh_buffer_get_data
  split <;> simp <;> omega

theorem toUInt32_be_nat_be32 (x : UInt32) : (be_nat (be32 x)).toUInt32 = x := by
  apply UInt32.ext
  have hx : x.toNat < 2 ^ 32 := x.toNat_lt
  rw [be32, be_nat_be_bytes, toNat_toUInt32, Nat.mod_eq_of_lt (hx.trans_eq (by norm_num)),
    Nat.mod_eq_of_lt hx]

@[simp] theorem ssh_buffer_get_u32_be32 (x : UInt32) (r : Bytes) :
    ssh_buffer_get_u32 (be32 x ++ r) = some (x, r) := by
  have h := ssh_buffer_get_data_append (be32 x) r
  rw [length_be32] at h
  simp [ssh_buffer_get_u32, h, toUInt32_be_nat_be32]

theorem ssh_buffer_get_u32_eq_some {buf r : Bytes} {x : UInt32} :
    ssh_buffer_get_u32 buf = some (x, r) ↔ buf = be32 x ++ r := by
  constructor
  · intro h
    obtain ⟨⟨w, r'⟩, hw, he⟩ := Option.map_eq_some'.mp h
    obtain ⟨rfl, hl⟩ := ssh_buffer_get_data_eq_some.mp hw
    simp only [Prod.mk.injEq] at he
    obtain ⟨rfl, rfl⟩ := he
    have hv : (be_nat w).toUInt32.toNat = be_nat w := by
      rw [toNat_toUInt32, Nat.mod_eq_of_lt (by simpa [hl] using be_nat_lt w)]
    rw [be32, hv, ← hl, be_bytes_be_nat]
  · rintro rfl; simp

theorem toNat_toUInt32_length {s : Bytes} (h : s.length < 2 ^ 32) :
    s.length.toUInt32.toNat = s.length := by
  rw [toNat_toUInt32, Nat.mod_eq_of_lt h]

theorem ssh_buffer_get_ssh_string_sshstr (s r : Bytes) (h : s.length < 2 ^ 32) :
    ssh_buffer_get_ssh_string (sshstr s ++ r) = (some s, r) := by
  simp [ssh_buffer_get_ssh_string, sshstr, toNat_toUInt32_length h]

theorem unpack_S_sshstr (s r : Bytes) (h : s.length < 2 ^ 32) :
    unpack_S (sshstr s ++ r) = some (s, r) := by
  simp [unpack_S, ssh_buffer_get_ssh_string_sshstr s r h]

theorem ssh_buffer_get_ssh_string_eq_some {buf s r : Bytes} :
    ssh_buffer_get_ssh_string buf = (some s, r) ↔ buf = sshstr s ++ r ∧ s.length < 2 ^ 32 := by
  constructor
  · unfold ssh_buffer_get_ssh_string
    split
    · simp
    · next len rest hu =>
      split
      · simp
      · next s' rest' hd =>
        simp only [Prod.mk.injEq, Option.some.injEq]
        rintro ⟨rfl, rfl⟩
        obtain ⟨rfl, hl⟩ := ssh_buffer_get_data_eq_some.mp hd
        have hlt : _ < 2 ^ 32 := hl.trans_lt len.toNat_lt
        refine ⟨?_, hlt⟩
        rw [ssh_buffer_get_u32_eq_some.mp hu, sshstr, List.append_assoc]
        congr 2
        exact UInt32.ext (by rw [toNat_toUInt32_length hlt, hl])
  · rintro ⟨rfl, h⟩
    exact ssh_buffer_get_ssh_string_sshstr s r h

theorem unpack_S_eq_some {buf s r : Bytes} :
    unpack_S buf = some (s, r) ↔ buf = sshstr s ++ r ∧ s.length < 2 ^ 32 := by
  rw [← ssh_buffer_get_ssh_string_eq_some, unpack_S]
  split <;> simp_all

theorem length_sshstr (s : Bytes) : (sshstr s).length = s.length + 4 := by
  simp [sshstr, Nat.add_comm]

theorem ssh_buffer_add_data_nil {d : Bytes} (h : d.length ≤ BUFFER_SIZE_MAX) : ssh_buffer_add_data [] d = some d := by
  rw [ssh_buffer_add_data, if_pos (by simpa using h), List.nil_append]

/-- Every buffer a writer returns holds at most `BUFFER_SIZE_MAX` bytes. -/
theorem length_ssh_buffer_add_data {buf data out : Bytes} (h : ssh_buffer_add_data buf data = some out) :
    out.length ≤ BUFFER_SIZE_MAX := by
  unfold ssh_buffer_add_data at h
  split at h
  · cases h; simpa
  · cases h

/-- What a buffer holds fits a 32-bit length. -/
theorem BUFFER_SIZE_MAX_lt : BUFFER_SIZE_MAX < 2 ^ 32 := by decide

/-- The limit is a whole number of cipher blocks. -/
theorem BUFFER_SIZE_MAX_mod_sixteen : BUFFER_SIZE_MAX % 16 = 0 := by decide

end Libssh
