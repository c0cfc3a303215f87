import Libssh.Pki.Export
import Libssh.Pki.Soundness

/-!
The two padding loops of `pki_container_openssh.c`, side by side: the one
`ssh_pki_openssh_privkey_export` runs to bring the private section to a
multiple of 16 bytes, and the one `ssh_pki_openssh_import` runs over what is
left of the section after the comment.

* `export_padding_fuel`: from a buffer of length `L` the export loop appends
  the `n = (16 - L mod 16) mod 16` counters from its start and stops; it needs
  exactly `n` rounds, so any fuel above `n` gives that result and none below
  does. This holds for every buffer libssh can hold, so for every section the
  export builds (`length_ssh_buffer_add_data`): `BUFFER_SIZE_MAX` is a whole
  number of blocks, so the padded section fits as well.
* `check_padding_iterations_le` and `check_padding_iff`: the import loop runs
  at most one round per byte, and accepts exactly the bytes `1, …, k` with
  `k ≤ 255`, where its `uint8_t` byte can still equal its `int` counter.
-/

set_option autoImplicit false

namespace Libssh

/-! ## The export loop -/

/-- How many bytes the export loop appends to a buffer of length `L`. -/
def export_padding_len (L : Nat) : Nat := (16 - L % 16) % 16

theorem export_padding_len_le (L : Nat) : export_padding_len L ≤ 15 := by
  unfold export_padding_len; omega

/-- The padding of a buffer that fits still fits. -/
theorem export_padding_len_fit {L : Nat} (hL : L ≤ BUFFER_SIZE_MAX) :
    L + export_padding_len L ≤ BUFFER_SIZE_MAX := by
  have := BUFFER_SIZE_MAX_mod_sixteen
  unfold export_padding_len; omega

/-- **The export loop, with any fuel.** From counter `i`, the loop appends the
counters `i, …, i + n - 1` for `n = export_padding_len L` to a buffer that fits
and returns; with fuel `n` or less it runs out. -/
theorem export_padding_fuel (fuel : Nat) (buf : Bytes) (i : Nat) (hfit : buf.length ≤ BUFFER_SIZE_MAX) :
    export_padding fuel buf i.toUInt8 =
      if export_padding_len buf.length < fuel then
        some (buf ++ (List.range' i (export_padding_len buf.length)).map Nat.toUInt8)
      else none := by
  induction fuel generalizing buf i with
  | zero => rfl
  | succ fuel ih =>
    rw [export_padding]
    by_cases h16 : buf.length % 16 = 0
    · -- a whole number of blocks: nothing to append
      have hn : export_padding_len buf.length = 0 := by unfold export_padding_len; omega
      simp [h16, hn]
    · -- one counter byte, and the loop goes on with one block byte fewer to fill
      have hn : export_padding_len buf.length = export_padding_len (buf.length + 1) + 1 := by
        unfold export_padding_len; omega
      have hfit' : (buf ++ [i.toUInt8]).length ≤ BUFFER_SIZE_MAX := by
        have := export_padding_len_fit hfit
        rw [List.length_append, List.length_singleton]; omega
      have hadd : ssh_buffer_add_data buf [i.toUInt8] = some (buf ++ [i.toUInt8]) :=
        if_pos (by rwa [List.length_append] at hfit')
      rw [if_pos h16, hadd, Option.some_bind, toUInt8_add_one, ih _ _ hfit']
      simp only [List.length_append, List.length_singleton, hn, List.range'_succ, List.map_cons,
        List.append_assoc, List.singleton_append, Nat.add_lt_add_iff_right]

/-- The loop's bytes read back as the numbers `1, …, n`: for `n ≤ 255` the
`uint8_t` counter never wraps. -/
theorem pad_bytes_toNat {n : Nat} (hn : n ≤ 255) : (pad_bytes n).map UInt8.toNat = List.range' 1 n := by
  rw [pad_bytes, List.map_map]
  refine (List.map_congr_left fun k hk => ?_).trans (List.map_id _)
  have hk' := List.mem_range'_1.mp hk
  simp only [Function.comp_apply, toNat_toUInt8, id, Nat.mod_eq_of_lt (by omega : k < 256)]

/-! ## The import loop -/

/-- How many rounds the padding loop of `ssh_pki_openssh_import` runs from
counter `i` over the bytes left: one per byte it reads, the last being the
first byte that differs from its counter. -/
def check_padding_iterations : Nat → Bytes → Nat
  | _, [] => 0
  | i, padding :: rest => if padding.toNat = i then check_padding_iterations (i + 1) rest + 1 else 1

/-- The import loop reads each byte at most once. -/
theorem check_padding_iterations_le : ∀ (i : Nat) (t : Bytes), check_padding_iterations i t ≤ t.length
  | _, [] => le_rfl
  | i, padding :: rest => by
    have ih := check_padding_iterations_le (i + 1) rest
    simp only [check_padding_iterations, List.length_cons]
    split <;> omega

/-- **What the import loop accepts**: the bytes `1, …, k`, for `k ≤ 255`. -/
theorem check_padding_iff (t : Bytes) : check_padding 1 t = true ↔ t = pad_bytes t.length ∧ t.length ≤ 255 := by
  constructor
  · intro h
    obtain ⟨ht, hlen⟩ := check_padding_eq_true 1 t h
    refine ⟨ht, ?_⟩
    rcases hlen with rfl | hlen
    · simp
    · omega
  · rintro ⟨ht, hlen⟩
    rw [ht]
    exact check_padding_pad_bytes hlen

/-! ## The two loops agree -/

/-- **The two padding loops agree.** For every section of length `L` that a
buffer can hold, which is every section the export builds, the export loop
returns after exactly `n = (16 - L mod 16) mod 16` rounds (any fuel above `n`,
and none below), having appended the bytes `1, …, n`, which read back as those
numbers, and leaving a multiple of 16 bytes that the buffer still holds. For
every byte string left after the comment, the import loop runs at most one
round per byte and accepts it exactly when it is `1, …, k` with `k ≤ 255`. -/
theorem padding_loops_agree :
    (∀ buf : Bytes, buf.length ≤ BUFFER_SIZE_MAX →
      (∀ fuel, export_padding fuel buf 1 =
        if export_padding_len buf.length < fuel then some (buf ++ pad_bytes (export_padding_len buf.length))
        else none) ∧
      (pad_bytes (export_padding_len buf.length)).map UInt8.toNat = List.range' 1 (export_padding_len buf.length) ∧
      (buf ++ pad_bytes (export_padding_len buf.length)).length % 16 = 0 ∧
      (buf ++ pad_bytes (export_padding_len buf.length)).length ≤ BUFFER_SIZE_MAX) ∧
    (∀ t : Bytes, check_padding_iterations 1 t ≤ t.length ∧
      (check_padding 1 t = true ↔ t = pad_bytes t.length ∧ t.length ≤ 255)) := by
  refine ⟨fun buf hfit => ⟨fun fuel => export_padding_fuel fuel buf 1 hfit,
    pad_bytes_toNat (by have := export_padding_len_le buf.length; omega), ?_, ?_⟩,
    fun t => ⟨check_padding_iterations_le 1 t, check_padding_iff t⟩⟩
  · simp only [List.length_append, pad_bytes, List.length_map, List.length_range', export_padding_len]
    omega
  · simpa [pad_bytes] using export_padding_len_fit hfit

/-- Fifteen bytes get one byte of padding, with the fuel the export gives. -/
theorem padding_loops_agree_fifteen :
    export_padding 16 (List.replicate 15 0) 1 = some (List.replicate 15 0 ++ [1]) := by
  rw [(padding_loops_agree.1 (List.replicate 15 0) (by decide)).1 16]
  rfl

end Libssh
