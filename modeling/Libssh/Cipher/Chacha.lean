import Libssh.Cipher.Struct

/-!
The chacha20-poly1305@openssh.com hooks of `libmbedcrypto.c`:
`chacha20_poly1305_set_key`, `chacha20_poly1305_aead_encrypt`,
`chacha20_poly1305_aead_decrypt_length`, `chacha20_poly1305_aead_decrypt`, the
internal `chacha20_poly1305_set_iv` and `chacha20_poly1305_packet_setup`, and
`chacha20_poly1305_cleanup`.

The session key is two ChaCha20 keys: the first half keys `main_ctx`, which
makes the Poly1305 key (block 0) and encrypts the payload (from block 1), the
second keys `header_ctx`, which encrypts the 4-byte length field. Every hook
dereferences the key schedule, so a hook on a session without one is a
`Fault`.

Every ChaCha20 update the hooks make is logged in the schedule's `updates`, so
that which keystream blocks a run used is a property of the state it leaves.

Above the hooks stands `chacha_poly_seal`, the construction as the spec states
it; `chacha20_poly1305_aead_encrypt_keyed` shows that the encrypt hook computes
it. The main results are `chacha_link_agree` (a receiver decrypts every genuine
packet, whatever else it was handed before) and `chacha_encrypt_run_log` (the
exact updates a run of encryptions makes).
-/

set_option autoImplicit false

namespace Libssh

/-! ## Constants -/

/-- `CHACHA20_KEYLEN`, from a libssh header outside `src/`: each half of the
session key is a 32-byte ChaCha20 key. -/
def CHACHA20_KEYLEN : Nat := 32

/-- `CHACHA20_BLOCKSIZE`, from a libssh header outside `src/`: a ChaCha20
block is 64 bytes. -/
def CHACHA20_BLOCKSIZE : Nat := 64

/-- `POLY1305_TAGLEN`. Modelled from the spec: the Poly1305 tag is 16 bytes. -/
def POLY1305_TAGLEN : Nat := 16

/-- `zero_block`. -/
def zero_block : Bytes := List.replicate CHACHA20_BLOCKSIZE 0

/-! ## The key schedule -/

/-- `calloc (1, sizeof (struct chacha20_poly1305_keysched))`: all zero. -/
def chacha20_poly1305_keysched_calloc : chacha20_poly1305_keysched :=
  ⟨false, mbedtls_chacha20_init, mbedtls_chacha20_init, mbedtls_poly1305_init, []⟩

/-- One of the schedule's two ChaCha20 contexts. -/
def chacha20_poly1305_keysched.half (ctx : chacha20_poly1305_keysched) :
    ChachaHalf → mbedtls_chacha20_context
  | .main_ctx => ctx.main_ctx
  | .header_ctx => ctx.header_ctx

/-- The schedule with one of its ChaCha20 contexts replaced. -/
def chacha20_poly1305_keysched.set_half (ctx : chacha20_poly1305_keysched) :
    ChachaHalf → mbedtls_chacha20_context → chacha20_poly1305_keysched
  | .main_ctx, c => { ctx with main_ctx := c }
  | .header_ctx, c => { ctx with header_ctx := c }

/-- `mbedtls_chacha20_update` on one of the schedule's contexts, logged: the
schedule after and the bytes written. -/
def chacha20_poly1305_keysched.update (B : Backend) (ctx : chacha20_poly1305_keysched)
    (half : ChachaHalf) (input : Bytes) (sink : ChachaSink) : chacha20_poly1305_keysched × Bytes :=
  ({ ctx.set_half half (mbedtls_chacha20_update B (ctx.half half) input).1 with
      updates := ctx.updates ++ [⟨half, ctx.half half, input.length, sink⟩] },
    (mbedtls_chacha20_update B (ctx.half half) input).2)

/-! ## The hooks -/

/-- `chacha20_poly1305_cleanup`: the schedule is freed. -/
def chacha20_poly1305_cleanup (cipher : ssh_cipher_struct) : ssh_cipher_struct :=
  { cipher with chacha20_schedule := none }

/-- `chacha20_poly1305_set_key` (the IV is unused): the schedule, allocated if
there is none, keyed with the first 32 key bytes for `main_ctx` and the next 32
for `header_ctx`. A failed allocation returns `-1`; a failed `setkey` frees the
schedule. -/
def chacha20_poly1305_set_key (B : Backend) (cipher : ssh_cipher_struct) (key : Bytes) :
    Int × ssh_cipher_struct :=
  let sched := match cipher.chacha20_schedule with
    | none => if B.setup_fails .calloc then none else some chacha20_poly1305_keysched_calloc
    | some ctx => some ctx
  match sched with
  | none => (-1, cipher)
  | some ctx =>
    let ctx := if ctx.initialized then ctx
      else { ctx with main_ctx := mbedtls_chacha20_init, header_ctx := mbedtls_chacha20_init,
                      poly_ctx := mbedtls_poly1305_init, initialized := true }
    if B.setup_fails .mbedtls_chacha20_setkey_main then
      (SSH_ERROR, chacha20_poly1305_cleanup { cipher with chacha20_schedule := some ctx })
    else
      let ctx := { ctx with main_ctx := mbedtls_chacha20_setkey ctx.main_ctx key }
      if B.setup_fails .mbedtls_chacha20_setkey_header then
        (SSH_ERROR, chacha20_poly1305_cleanup { cipher with chacha20_schedule := some ctx })
      else
        let ctx := { ctx with header_ctx := mbedtls_chacha20_setkey ctx.header_ctx (key.drop CHACHA20_KEYLEN) }
        (SSH_OK, { cipher with chacha20_schedule := some ctx })

/-- `chacha20_poly1305_set_iv`: both contexts restart at block 0 under the nonce
`0x00000000 || BE64(seq)`. -/
def chacha20_poly1305_set_iv (ctx : chacha20_poly1305_keysched) (seq : UInt64) :
    chacha20_poly1305_keysched :=
  let seqbuf := List.replicate 4 0 ++ be_bytes 8 seq.toNat
  { ctx with header_ctx := mbedtls_chacha20_starts ctx.header_ctx seqbuf 0
             main_ctx := mbedtls_chacha20_starts ctx.main_ctx seqbuf 0 }

/-- `chacha20_poly1305_packet_setup`: (when encrypting, `set_iv` first) one
whole block of `main_ctx` keystream, whose first 32 bytes key Poly1305. -/
def chacha20_poly1305_packet_setup (B : Backend) (ctx : chacha20_poly1305_keysched) (seq : UInt64)
    (do_encrypt : Bool) : chacha20_poly1305_keysched :=
  let ctx := if do_encrypt then chacha20_poly1305_set_iv ctx seq else ctx
  let r := ctx.update B .main_ctx zero_block .poly_key
  { r.1 with poly_ctx := mbedtls_poly1305_starts r.2 }

/-- `chacha20_poly1305_aead_decrypt_length`: with at least 4 bytes, `set_iv`
and the length field decrypted with `header_ctx`. -/
def chacha20_poly1305_aead_decrypt_length (B : Backend) (cipher : ssh_cipher_struct) (input : Bytes)
    (len : Nat) (seq : UInt64) : Except Fault (Int × ssh_cipher_struct × Bytes) :=
  if len < 4 then .ok (SSH_ERROR, cipher, [])
  else match cipher.chacha20_schedule with
    | none => .error .null_schedule
    | some ctx =>
      let r := (chacha20_poly1305_set_iv ctx seq).update B .header_ctx (input.take 4) .length_field
      .ok (SSH_OK, { cipher with chacha20_schedule := some r.1 }, r.2)

/-- `chacha20_poly1305_aead_decrypt` on a complete packet: the Poly1305 key from
where `main_ctx` stands (no `set_iv`: the length was decrypted first), the tag
of the length field and ciphertext compared with the packet's, and only on a
match the payload decrypted. -/
def chacha20_poly1305_aead_decrypt (B : Backend) (cipher : ssh_cipher_struct) (complete_packet : Bytes)
    (encrypted_size : Nat) (seq : UInt64) : Except Fault (Int × ssh_cipher_struct × Option Bytes) :=
  match cipher.chacha20_schedule with
  | none => .error .null_schedule
  | some ctx =>
    let ctx := chacha20_poly1305_packet_setup B ctx seq false
    let ctx := { ctx with poly_ctx :=
      mbedtls_poly1305_update ctx.poly_ctx (complete_packet.take (encrypted_size + 4)) }
    let tag := (mbedtls_poly1305_finish B ctx.poly_ctx).take POLY1305_TAGLEN
    let mac := (complete_packet.drop (4 + encrypted_size)).take POLY1305_TAGLEN
    if tag ≠ mac then .ok (SSH_ERROR, { cipher with chacha20_schedule := some ctx }, none)
    else
      let r := ctx.update B .main_ctx ((complete_packet.drop 4).take encrypted_size) .payload
      .ok (SSH_OK, { cipher with chacha20_schedule := some r.1 }, some r.2)

/-- `chacha20_poly1305_aead_encrypt` on the `len` bytes at `in`: the session
after, the `len` bytes written at `out`, and the tag. -/
def chacha20_poly1305_aead_encrypt (B : Backend) (cipher : ssh_cipher_struct) (input : Bytes)
    (len : Nat) (seq : UInt64) : Except Fault (ssh_cipher_struct × Bytes × Bytes) :=
  match cipher.chacha20_schedule with
  | none => .error .null_schedule
  | some ctx =>
    let ctx := chacha20_poly1305_packet_setup B ctx seq true
    let r1 := ctx.update B .header_ctx (input.take 4) .length_field
    let r2 := r1.1.update B .main_ctx ((input.drop 4).take (len - 4)) .payload
    let out := r1.2 ++ r2.2
    let poly := mbedtls_poly1305_update r2.1.poly_ctx (out.take len)
    .ok ({ cipher with chacha20_schedule := some { r2.1 with poly_ctx := poly } }, out,
      (mbedtls_poly1305_finish B poly).take POLY1305_TAGLEN)

/-! ## Small lemmas -/

section Lemmas

variable {B : Backend}

@[simp] theorem length_chacha20_stream (ctx : mbedtls_chacha20_context) (pos len : Nat) :
    (chacha20_stream B ctx pos len).length = len := by
  simp [chacha20_stream]

/-- The keystream depends on a context only through its key, nonce and first
counter. -/
theorem chacha20_stream_congr {c c' : mbedtls_chacha20_context} (hk : c.key = c'.key)
    (hn : c.nonce = c'.nonce) (hc : c.counter = c'.counter) (pos len : Nat) :
    chacha20_stream B c pos len = chacha20_stream B c' pos len := by
  simp [chacha20_stream, chacha20_counter, hk, hn, hc]

@[simp] theorem keysched_update_main (ctx : chacha20_poly1305_keysched) (input : Bytes)
    (sink : ChachaSink) :
    ctx.update B .main_ctx input sink =
      ({ ctx with main_ctx := { ctx.main_ctx with pos := ctx.main_ctx.pos + input.length }
                  updates := ctx.updates ++ [⟨.main_ctx, ctx.main_ctx, input.length, sink⟩] },
        xor_bytes input (chacha20_stream B ctx.main_ctx ctx.main_ctx.pos input.length)) := rfl

@[simp] theorem keysched_update_header (ctx : chacha20_poly1305_keysched) (input : Bytes)
    (sink : ChachaSink) :
    ctx.update B .header_ctx input sink =
      ({ ctx with header_ctx := { ctx.header_ctx with pos := ctx.header_ctx.pos + input.length }
                  updates := ctx.updates ++ [⟨.header_ctx, ctx.header_ctx, input.length, sink⟩] },
        xor_bytes input (chacha20_stream B ctx.header_ctx ctx.header_ctx.pos input.length)) := rfl

end Lemmas

/-! ## The construction -/

/-- The nonce of sequence number `seq`: `0x00000000 || BE64(seq)`. -/
def chacha_nonce (seq : UInt64) : Bytes := List.replicate 4 0 ++ be_bytes 8 seq.toNat

/-- The chacha20-poly1305 construction as the spec states it, for a packet `p`
(length field, then payload) under main key `K1` and header key `K2`: the
length field encrypted with block 0 of `K2`, the payload with `K1` from block 1
on, and the Poly1305 tag of both under the first 32 bytes of block 0 of
`K1`. -/
def chacha_poly_seal (B : Backend) (K1 K2 : Bytes) (seq : UInt64) (p : Bytes) : Bytes × Bytes :=
  let out := xor_bytes (p.take 4) (chacha20_stream B ⟨K2, chacha_nonce seq, 0, 0⟩ 0 4) ++
    xor_bytes (p.drop 4) (chacha20_stream B ⟨K1, chacha_nonce seq, 0, 0⟩ 64 (p.length - 4))
  (out, (B.poly1305_mac ((chacha20_stream B ⟨K1, chacha_nonce seq, 0, 0⟩ 0 64).take 32) out).take
    POLY1305_TAGLEN)

/-- The updates one `chacha20_poly1305_aead_encrypt` of `len` bytes makes: a
whole block of `main_ctx` for the Poly1305 key, the 4 length bytes with
`header_ctx`, then the payload with `main_ctx` from byte 64, all under the
nonce of `seq` and from counter 0. -/
def chacha_packet_updates (K1 K2 : Bytes) (len : Nat) (seq : UInt64) : List ChachaUpdate :=
  [⟨.main_ctx, ⟨K1, chacha_nonce seq, 0, 0⟩, 64, .poly_key⟩,
   ⟨.header_ctx, ⟨K2, chacha_nonce seq, 0, 0⟩, 4, .length_field⟩,
   ⟨.main_ctx, ⟨K1, chacha_nonce seq, 0, 64⟩, len - 4, .payload⟩]

/-! ## Keyed sessions -/

/-- A session whose key schedule is keyed with `K1` (main) and `K2` (header). -/
def ChachaKeyed (K1 K2 : Bytes) (cipher : ssh_cipher_struct) : Prop :=
  ∃ ctx, cipher.chacha20_schedule = some ctx ∧ ctx.main_ctx.key = K1 ∧ ctx.header_ctx.key = K2

section Keyed

variable {B : Backend} {K1 K2 : Bytes}

/-- With every setup call succeeding, `chacha20_poly1305_set_key` returns
`SSH_OK` and keys the schedule with the two halves of the key. -/
theorem chacha20_poly1305_set_key_lawful (hS : B.SetupSucceeds) (cipher : ssh_cipher_struct) (key : Bytes) :
    (chacha20_poly1305_set_key B cipher key).1 = SSH_OK ∧
      ChachaKeyed (key.take 32) ((key.drop 32).take 32) (chacha20_poly1305_set_key B cipher key).2 := by
  unfold chacha20_poly1305_set_key
  cases h : cipher.chacha20_schedule with
  | none => simp [hS _, ChachaKeyed, mbedtls_chacha20_setkey, CHACHA20_KEYLEN]
  | some ctx =>
    simp only [hS _, Bool.false_eq_true, ↓reduceIte]
    split <;> simp [ChachaKeyed, mbedtls_chacha20_setkey, CHACHA20_KEYLEN]

theorem chacha20_poly1305_set_iv_main (ctx : chacha20_poly1305_keysched) (seq : UInt64) :
    (chacha20_poly1305_set_iv ctx seq).main_ctx = ⟨ctx.main_ctx.key, chacha_nonce seq, 0, 0⟩ := rfl

theorem chacha20_poly1305_set_iv_header (ctx : chacha20_poly1305_keysched) (seq : UInt64) :
    (chacha20_poly1305_set_iv ctx seq).header_ctx = ⟨ctx.header_ctx.key, chacha_nonce seq, 0, 0⟩ := rfl

/-- `chacha20_poly1305_packet_setup` without `set_iv`: one whole block of
`main_ctx` keystream from where it stands, whose first 32 bytes key Poly1305. -/
theorem chacha20_poly1305_packet_setup_false (ctx : chacha20_poly1305_keysched) (seq : UInt64) :
    chacha20_poly1305_packet_setup B ctx seq false =
      { ctx with main_ctx := { ctx.main_ctx with pos := ctx.main_ctx.pos + 64 }
                 poly_ctx := mbedtls_poly1305_starts (chacha20_stream B ctx.main_ctx ctx.main_ctx.pos 64)
                 updates := ctx.updates ++ [⟨.main_ctx, ctx.main_ctx, 64, .poly_key⟩] } := by
  simp only [chacha20_poly1305_packet_setup, Bool.false_eq_true, ↓reduceIte, keysched_update_main,
    zero_block]
  rw [xor_bytes_replicate_zero _ _ (by simp), List.take_of_length_le (by simp)]
  rfl

theorem chacha20_poly1305_packet_setup_true (ctx : chacha20_poly1305_keysched) (seq : UInt64) :
    chacha20_poly1305_packet_setup B ctx seq true =
      chacha20_poly1305_packet_setup B (chacha20_poly1305_set_iv ctx seq) seq false := rfl

/-- The keystream does not depend on the position a context has reached. -/
theorem chacha20_stream_at (K n : Bytes) (c : UInt32) (p : Nat) :
    chacha20_stream B ⟨K, n, c, p⟩ = chacha20_stream B ⟨K, n, c, 0⟩ := rfl

/-- **The encrypt hook computes the construction.** On a keyed session with at
least `len ≥ 4` bytes at `in`, `chacha20_poly1305_aead_encrypt` writes
`chacha_poly_seal` of those bytes, keeps the keys, and logs exactly
`chacha_packet_updates`. -/
theorem chacha20_poly1305_aead_encrypt_keyed {cipher : ssh_cipher_struct} {ctx : chacha20_poly1305_keysched}
    (hc : cipher.chacha20_schedule = some ctx) (h1 : ctx.main_ctx.key = K1) (h2 : ctx.header_ctx.key = K2)
    (input : Bytes) (len : Nat) (seq : UInt64) (h4 : 4 ≤ len) (hlen : len ≤ input.length) :
    ∃ ctx', chacha20_poly1305_aead_encrypt B cipher input len seq =
        .ok ({ cipher with chacha20_schedule := some ctx' }, chacha_poly_seal B K1 K2 seq (input.take len)) ∧
      ctx'.main_ctx.key = K1 ∧ ctx'.header_ctx.key = K2 ∧
      ctx'.updates = ctx.updates ++ chacha_packet_updates K1 K2 len seq := by
  have ht4 : (input.take 4).length = 4 := by rw [List.length_take]; omega
  have hpl : ((input.drop 4).take (len - 4)).length = len - 4 := by
    rw [List.length_take, List.length_drop]; omega
  have hp4 : (input.take len).take 4 = input.take 4 := by rw [List.take_take, Nat.min_eq_left h4]
  have hpd : (input.take len).drop 4 = (input.drop 4).take (len - 4) := List.drop_take len 4 input
  have hpl' : (input.take len).length - 4 = len - 4 := by rw [List.length_take]; omega
  simp only [chacha20_poly1305_aead_encrypt, hc, chacha20_poly1305_packet_setup_true,
    chacha20_poly1305_packet_setup_false, chacha20_poly1305_set_iv_main, chacha20_poly1305_set_iv_header,
    keysched_update_header, keysched_update_main, h1, h2, ht4, hpl, Nat.zero_add]
  refine ⟨_, congrArg Except.ok (Prod.ext rfl ?_), rfl, rfl, ?_⟩
  · have hout : (xor_bytes (input.take 4) (chacha20_stream B ⟨K2, chacha_nonce seq, 0, 0⟩ 0 4) ++
        xor_bytes ((input.drop 4).take (len - 4))
          (chacha20_stream B ⟨K1, chacha_nonce seq, 0, 64⟩ 64 (len - 4))).length = len := by
      simp only [List.length_append, length_xor_bytes, length_chacha20_stream, ht4, hpl]; omega
    rw [List.take_of_length_le hout.le, chacha_poly_seal, hp4, hpd, hpl', chacha20_stream_at K1 _ 0 64]
    rfl
  · simp [chacha20_poly1305_set_iv, chacha_packet_updates]

theorem keysched_update_keys (ctx : chacha20_poly1305_keysched) (half : ChachaHalf) (input : Bytes)
    (sink : ChachaSink) :
    (ctx.update B half input sink).1.main_ctx.key = ctx.main_ctx.key ∧
      (ctx.update B half input sink).1.header_ctx.key = ctx.header_ctx.key := by
  cases half <;> exact ⟨rfl, rfl⟩

/-- What `chacha20_poly1305_set_key` returns, for every outcome of its
allocation and its two `mbedtls_chacha20_setkey` calls. -/
theorem chacha20_poly1305_set_key_rc (cipher : ssh_cipher_struct) (key : Bytes) :
    (chacha20_poly1305_set_key B cipher key).1 =
      if B.calls_succeed (SetKeyHook.mbedtls_calls cipher .chacha20_poly1305_set_key) then SSH_OK
      else SSH_ERROR := by
  rcases Bool.eq_false_or_eq_true (B.setup_fails .calloc) with h1 | h1 <;>
    rcases Bool.eq_false_or_eq_true (B.setup_fails .mbedtls_chacha20_setkey_main) with h2 | h2 <;>
    rcases Bool.eq_false_or_eq_true (B.setup_fails .mbedtls_chacha20_setkey_header) with h3 | h3 <;>
    cases hs : cipher.chacha20_schedule <;>
    simp only [chacha20_poly1305_set_key, SetKeyHook.mbedtls_calls, Backend.calls_succeed, hs, h1, h2, h3,
      Option.isSome, List.all_cons, List.all_nil, List.cons_append, List.nil_append, ite_true, ite_false,
      Bool.false_eq_true, Bool.not_true, Bool.not_false, Bool.and_true, Bool.and_false, Bool.true_and,
      Bool.false_and] <;> rfl

/-- A successful `chacha20_poly1305_set_key` keys the schedule with the two
halves of the key. -/
theorem chacha20_poly1305_set_key_ok {cipher : ssh_cipher_struct} {key : Bytes}
    (h : (chacha20_poly1305_set_key B cipher key).1 = SSH_OK) :
    ChachaKeyed (key.take 32) ((key.drop 32).take 32) (chacha20_poly1305_set_key B cipher key).2 := by
  simp only [chacha20_poly1305_set_key] at h ⊢
  split at h
  · simp [SSH_OK] at h
  · split at h
    · simp [SSH_OK, SSH_ERROR] at h
    · split at h
      · simp [SSH_OK, SSH_ERROR] at h
      · next hm hh =>
        simp only [hm, hh, Bool.false_eq_true, ↓reduceIte]
        exact ⟨_, rfl, rfl, rfl⟩

/-- **`aead_decrypt_length` keeps the keys and never faults** on a keyed session. -/
theorem chacha20_poly1305_aead_decrypt_length_keyed {r : ssh_cipher_struct} (hr : ChachaKeyed K1 K2 r)
    (input : Bytes) (len : Nat) (seq : UInt64) :
    ∃ rc r' out, chacha20_poly1305_aead_decrypt_length B r input len seq = .ok (rc, r', out) ∧
      ChachaKeyed K1 K2 r' := by
  obtain ⟨ctx, hc, h1, h2⟩ := hr
  unfold chacha20_poly1305_aead_decrypt_length
  split
  · exact ⟨_, _, _, rfl, ctx, hc, h1, h2⟩
  · rw [hc]
    exact ⟨_, _, _, rfl, _, rfl, (keysched_update_keys _ _ _ _).1.trans h1,
      (keysched_update_keys _ _ _ _).2.trans h2⟩

/-- **`aead_decrypt` keeps the keys and never faults** on a keyed session,
whether the tag verifies or not. -/
theorem chacha20_poly1305_aead_decrypt_keyed {r : ssh_cipher_struct} (hr : ChachaKeyed K1 K2 r)
    (pkt : Bytes) (es : Nat) (seq : UInt64) :
    ∃ rc r' out, chacha20_poly1305_aead_decrypt B r pkt es seq = .ok (rc, r', out) ∧
      ChachaKeyed K1 K2 r' := by
  obtain ⟨ctx, hc, h1, h2⟩ := hr
  simp only [chacha20_poly1305_aead_decrypt, hc, chacha20_poly1305_packet_setup_false]
  split
  · exact ⟨_, _, _, rfl, _, rfl, h1, h2⟩
  · exact ⟨_, _, _, rfl, _, rfl, h1, h2⟩

end Keyed

/-! ## A sender and a receiver -/

/-- What reaches the receiver: the sender's next packet and its sequence
number, or a forged packet with the `len`, `encrypted_size` and sequence
numbers the two calls are made with. -/
inductive ChachaDelivery
  | genuine (p : Bytes) (seq : UInt64)
  | forged (pkt : Bytes) (len encrypted_size : Nat) (seq seq' : UInt64)
  deriving DecidableEq, Repr

/-- What the receiver makes of one packet: the return code and output of
`aead_decrypt_length`, and those of `aead_decrypt`. -/
structure ChachaReceipt where
  length_rc : Int
  length_field : Bytes
  rc : Int
  out : Option Bytes
  deriving DecidableEq, Repr

/-- The receiver on one packet: `aead_decrypt_length`, then `aead_decrypt`. -/
def chacha_receive (B : Backend) (r : ssh_cipher_struct) (pkt : Bytes) (len encrypted_size : Nat)
    (seq seq' : UInt64) : Except Fault (ssh_cipher_struct × ChachaReceipt) :=
  (chacha20_poly1305_aead_decrypt_length B r pkt len seq).bind fun l =>
    (chacha20_poly1305_aead_decrypt B l.2.1 pkt encrypted_size seq').map fun d =>
      (d.2.1, ⟨l.1, l.2.2, d.1, d.2.2⟩)

/-- One delivery. For a genuine one the sender encrypts its packet, and the
receiver is handed the output and the tag, with the length field's 4 bytes and
the size of the rest. -/
def chacha_link_step (B : Backend) (s r : ssh_cipher_struct) :
    ChachaDelivery → Except Fault (ssh_cipher_struct × ssh_cipher_struct × ChachaReceipt)
  | .genuine p seq => (chacha20_poly1305_aead_encrypt B s p p.length seq).bind fun e =>
      (chacha_receive B r (e.2.1 ++ e.2.2) 4 (p.length - 4) seq seq).map fun x => (e.1, x.1, x.2)
  | .forged pkt len es seq seq' => (chacha_receive B r pkt len es seq seq').map fun x => (s, x.1, x.2)

/-- A run of deliveries: after each, the two sessions and the receipt. -/
def chacha_link_run (B : Backend) :
    ssh_cipher_struct → ssh_cipher_struct → List ChachaDelivery →
      Except Fault (List (ssh_cipher_struct × ssh_cipher_struct × ChachaReceipt))
  | _, _, [] => .ok []
  | s, r, d :: ds => (chacha_link_step B s r d).bind fun x =>
      (chacha_link_run B x.1 x.2.1 ds).map (x :: ·)

section Link

variable {B : Backend} {K1 K2 : Bytes}

/-- A receiver keeps its keys over any packet. -/
theorem chacha_receive_keyed {r : ssh_cipher_struct} (hr : ChachaKeyed K1 K2 r) (pkt : Bytes)
    (len es : Nat) (seq seq' : UInt64) :
    ∃ r' x, chacha_receive B r pkt len es seq seq' = .ok (r', x) ∧ ChachaKeyed K1 K2 r' := by
  obtain ⟨rc, r1, out, hl, hr1⟩ := chacha20_poly1305_aead_decrypt_length_keyed (B := B) hr pkt len seq
  obtain ⟨rc', r2, out', hd, hr2⟩ := chacha20_poly1305_aead_decrypt_keyed (B := B) hr1 pkt es seq'
  exact ⟨r2, ⟨rc, out, rc', out'⟩, by simp only [chacha_receive, hl, Except.bind, hd, Except.map], hr2⟩

/-- **A receiver opens the construction**, whatever state its contexts are
in: `aead_decrypt_length` gives the length field back, and `aead_decrypt`
accepts the packet and gives the payload back. -/
theorem chacha_receive_seal {r : ssh_cipher_struct} (hr : ChachaKeyed K1 K2 r) (p : Bytes)
    (seq : UInt64) (h4 : 4 ≤ p.length) :
    ∃ r', chacha_receive B r ((chacha_poly_seal B K1 K2 seq p).1 ++ (chacha_poly_seal B K1 K2 seq p).2) 4
        (p.length - 4) seq seq = .ok (r', ⟨SSH_OK, p.take 4, SSH_OK, some (p.drop 4)⟩) ∧
      ChachaKeyed K1 K2 r' := by
  obtain ⟨ctx, hc, h1, h2⟩ := hr
  -- the two parts of the sealed packet, and their lengths
  set A := xor_bytes (p.take 4) (chacha20_stream B ⟨K2, chacha_nonce seq, 0, 0⟩ 0 4) with hA
  set C := xor_bytes (p.drop 4) (chacha20_stream B ⟨K1, chacha_nonce seq, 0, 0⟩ 64 (p.length - 4)) with hC
  set T := (chacha_poly_seal B K1 K2 seq p).2 with hT
  have hAl : A.length = 4 := by simp [hA]; omega
  have hCl : C.length = p.length - 4 := by simp [hC]
  have hTl : T.length ≤ POLY1305_TAGLEN := by simp [hT, chacha_poly_seal]
  have hseal : (chacha_poly_seal B K1 K2 seq p).1 = A ++ C := rfl
  have hlen : p.length - 4 + 4 = (A ++ C).length := by simp [hAl, hCl]; omega
  have hA' : xor_bytes A (chacha20_stream B ⟨K2, chacha_nonce seq, 0, 0⟩ 0 4) = p.take 4 :=
    xor_bytes_xor_bytes _ _ (by simp)
  have hC' : xor_bytes C (chacha20_stream B ⟨K1, chacha_nonce seq, 0, 64⟩ 64 (p.length - 4)) = p.drop 4 :=
    xor_bytes_xor_bytes _ _ (by simp)
  -- where `aead_decrypt` finds the authenticated bytes, the tag and the ciphertext
  have hmsg : (A ++ (C ++ T)).take (p.length - 4 + 4) = A ++ C := by
    rw [← List.append_assoc, List.take_left' hlen.symm]
  have hmac : ((A ++ (C ++ T)).drop (4 + (p.length - 4))).take POLY1305_TAGLEN = T := by
    rw [← List.append_assoc, List.drop_left' (by simp [hAl, hCl]), List.take_of_length_le hTl]
  have hpay : ((A ++ (C ++ T)).drop 4).take (p.length - 4) = C := by
    rw [List.drop_left' hAl, List.take_left' hCl]
  have htag : (mbedtls_poly1305_finish B (mbedtls_poly1305_update (mbedtls_poly1305_starts
      (chacha20_stream B ⟨K1, chacha_nonce seq, 0, 0⟩ 0 64)) (A ++ C))).take POLY1305_TAGLEN = T := rfl
  simp only [chacha_receive, chacha20_poly1305_aead_decrypt_length, show ¬(4 < 4) by omega, ↓reduceIte,
    hc, keysched_update_header, chacha20_poly1305_set_iv_header, chacha20_poly1305_set_iv_main, h1, h2,
    hseal, List.append_assoc, List.take_left' hAl, hAl, Except.bind, chacha20_poly1305_aead_decrypt,
    chacha20_poly1305_packet_setup_false, hmsg, hmac, hpay, htag, ne_eq, not_true_eq_false,
    keysched_update_main, Nat.zero_add, hCl, hA', hC', Except.map]
  exact ⟨_, rfl, _, rfl, rfl, rfl⟩

/-- **Agreement over any run.** With sender and receiver keyed alike, a run of
deliveries never faults, and every genuine packet of at least 4 bytes is
decrypted: its length field read back, accepted, and its payload written,
whatever forged packets came before it and however they fared. -/
theorem chacha_link_agree {s r : ssh_cipher_struct} (hs : ChachaKeyed K1 K2 s) (hr : ChachaKeyed K1 K2 r)
    (ds : List ChachaDelivery) (hlen : ∀ p seq, ChachaDelivery.genuine p seq ∈ ds → 4 ≤ p.length) :
    ∃ xs, chacha_link_run B s r ds = .ok xs ∧ xs.length = ds.length ∧
      ∀ p seq x, (ChachaDelivery.genuine p seq, x) ∈ ds.zip xs →
        x.2.2 = ⟨SSH_OK, p.take 4, SSH_OK, some (p.drop 4)⟩ := by
  induction ds generalizing s r with
  | nil => exact ⟨[], rfl, rfl, by simp⟩
  | cons d ds ih =>
    -- the first delivery does not fault, keeps both sessions keyed, and a genuine packet goes through
    obtain ⟨x, hx, hxs, hxr, hgen⟩ : ∃ x, chacha_link_step B s r d = .ok x ∧ ChachaKeyed K1 K2 x.1 ∧
        ChachaKeyed K1 K2 x.2.1 ∧
        ∀ p seq, d = .genuine p seq → x.2.2 = ⟨SSH_OK, p.take 4, SSH_OK, some (p.drop 4)⟩ := by
      cases d with
      | genuine p seq =>
        obtain ⟨cs, hcs, hs1, hs2⟩ := hs
        have h4 := hlen p seq (List.mem_cons_self _ _)
        obtain ⟨cs', he, hk1, hk2, -⟩ :=
          chacha20_poly1305_aead_encrypt_keyed (B := B) hcs hs1 hs2 p p.length seq h4 le_rfl
        rw [List.take_of_length_le le_rfl] at he
        obtain ⟨r', hrecv, hr'⟩ := chacha_receive_seal (B := B) hr p seq h4
        refine ⟨({ s with chacha20_schedule := some cs' }, r', ⟨SSH_OK, p.take 4, SSH_OK, some (p.drop 4)⟩),
          by simp only [chacha_link_step, he, Except.bind, hrecv, Except.map], ⟨cs', rfl, hk1, hk2⟩, hr', ?_⟩
        rintro q sq ⟨⟩
        rfl
      | forged pkt len es seq seq' =>
        obtain ⟨r', y, hrecv, hr'⟩ := chacha_receive_keyed (B := B) hr pkt len es seq seq'
        exact ⟨(s, r', y), by simp only [chacha_link_step, hrecv, Except.map], hs, hr',
          fun _ _ h => by cases h⟩
    obtain ⟨xs, hrun, hlen', hgood⟩ := ih hxs hxr fun p seq h => hlen p seq (List.mem_cons_of_mem _ h)
    refine ⟨x :: xs, by simp only [chacha_link_run, hx, Except.bind, hrun, Except.map],
      by simp [hlen'], ?_⟩
    intro p seq y hy
    simp only [List.zip_cons_cons, List.mem_cons, Prod.mk.injEq] at hy
    rcases hy with ⟨rfl, rfl⟩ | hy
    · exact hgen p seq rfl
    · exact hgood p seq y hy


/-- **chacha20-poly1305 sender and receiver agree over any run.** Sender and
receiver sessions keyed by a successful `chacha20_poly1305_set_key` with the
same key: over any run of deliveries, a run in which the receiver is also handed
forged packets with any lengths and sequence numbers, whether it accepts them or
not, nothing faults, and every genuine packet of at least 4 bytes, sent with
`chacha20_poly1305_aead_encrypt` and received with
`chacha20_poly1305_aead_decrypt_length` and `chacha20_poly1305_aead_decrypt`
under its sequence number, has its length field read back and is accepted with
its payload written. -/
theorem chacha20_poly1305_sessions_agree (B : Backend) (s r : ssh_cipher_struct) (key : Bytes)
    (hs : (chacha20_poly1305_set_key B s key).1 = SSH_OK)
    (hr : (chacha20_poly1305_set_key B r key).1 = SSH_OK) (ds : List ChachaDelivery)
    (hlen : ∀ p seq, ChachaDelivery.genuine p seq ∈ ds → 4 ≤ p.length) :
    ∃ xs, chacha_link_run B (chacha20_poly1305_set_key B s key).2 (chacha20_poly1305_set_key B r key).2 ds =
        .ok xs ∧ xs.length = ds.length ∧
      ∀ p seq x, (ChachaDelivery.genuine p seq, x) ∈ ds.zip xs →
        x.2.2 = ⟨SSH_OK, p.take 4, SSH_OK, some (p.drop 4)⟩ :=
  chacha_link_agree (chacha20_poly1305_set_key_ok hs) (chacha20_poly1305_set_key_ok hr) ds hlen

/-- A forged packet the receiver rejects, then a genuine one. -/
theorem chacha20_poly1305_sessions_agree_forged_first :
    ∃ xs, chacha_link_run (reversing_backend false)
        (chacha20_poly1305_set_key (reversing_backend false) { name := "chacha20-poly1305@openssh.com" }
          (List.replicate 64 7)).2
        (chacha20_poly1305_set_key (reversing_backend false) { name := "chacha20-poly1305@openssh.com" }
          (List.replicate 64 7)).2
        [.forged [1, 2, 3, 4, 5, 6, 7] 4 3 9 9, .genuine [0, 0, 0, 2, 9, 9] 1] = .ok xs ∧ xs.length = 2 ∧
      ∀ p seq x, (ChachaDelivery.genuine p seq, x) ∈
          [ChachaDelivery.forged [1, 2, 3, 4, 5, 6, 7] 4 3 9 9, .genuine [0, 0, 0, 2, 9, 9] 1].zip xs →
        x.2.2 = ⟨SSH_OK, p.take 4, SSH_OK, some (p.drop 4)⟩ :=
  chacha20_poly1305_sessions_agree _ _ _ _ (by decide) (by decide) _ (by simp)

end Link

/-! ## Runs of encryptions and the keystream blocks they use -/

/-- A run of `chacha20_poly1305_aead_encrypt` calls on one session, each on
the bytes at `in`, a length and a sequence number. -/
def chacha_encrypt_run (B : Backend) :
    ssh_cipher_struct → List (Bytes × Nat × UInt64) → Except Fault ssh_cipher_struct
  | s, [] => .ok s
  | s, c :: cs => (chacha20_poly1305_aead_encrypt B s c.1 c.2.1 c.2.2).bind fun e =>
      chacha_encrypt_run B e.1 cs

/-- The updates logged in a session's key schedule. -/
def chacha_log (s : ssh_cipher_struct) : List ChachaUpdate :=
  (s.chacha20_schedule.map (·.updates)).getD []

/-- The keystream blocks an update read, each named by its key half, its nonce
and its block counter. -/
def ChachaUpdate.blocks (u : ChachaUpdate) : List (ChachaHalf × Bytes × UInt32) :=
  (chacha20_blocks u.ctx u.len).map fun c => (u.half, u.ctx.nonce, c)

section Run

variable {B : Backend} {K1 K2 : Bytes}

/-- **The log of a run of encryptions**: from a keyed session, a run of
encryptions (each on at least 4 bytes, with as many bytes at `in`) never
faults, keeps the keys, and logs exactly the updates `chacha_packet_updates`
names, packet after packet. -/
theorem chacha_encrypt_run_log {s : ssh_cipher_struct} (hs : ChachaKeyed K1 K2 s)
    (calls : List (Bytes × Nat × UInt64)) (hcalls : ∀ c ∈ calls, 4 ≤ c.2.1 ∧ c.2.1 ≤ c.1.length) :
    ∃ s', chacha_encrypt_run B s calls = .ok s' ∧ ChachaKeyed K1 K2 s' ∧
      chacha_log s' = chacha_log s ++ calls.flatMap fun c => chacha_packet_updates K1 K2 c.2.1 c.2.2 := by
  induction calls generalizing s with
  | nil => exact ⟨s, rfl, hs, by simp⟩
  | cons c calls ih =>
    obtain ⟨ctx, hc, h1, h2⟩ := hs
    obtain ⟨h4, hl⟩ := hcalls c (List.mem_cons_self _ _)
    obtain ⟨ctx', he, hk1, hk2, hup⟩ :=
      chacha20_poly1305_aead_encrypt_keyed (B := B) hc h1 h2 c.1 c.2.1 c.2.2 h4 hl
    obtain ⟨s', hrun, hs', hlog⟩ := ih (s := { s with chacha20_schedule := some ctx' }) ⟨ctx', rfl, hk1, hk2⟩
      fun c' hc' => hcalls c' (List.mem_cons_of_mem _ hc')
    refine ⟨s', by simp only [chacha_encrypt_run, he, Except.bind, hrun], hs', ?_⟩
    rw [hlog]
    simp [chacha_log, hc, hup]

theorem chacha_nonce_injective {a b : UInt64} (h : chacha_nonce a = chacha_nonce b) : a = b := by
  have h' := be_bytes_injective (a.toNat_lt.trans_eq (by norm_num)) (b.toNat_lt.trans_eq (by norm_num))
    (List.append_cancel_left h)
  exact UInt64.ext h'

/-- The blocks of a payload update, from byte 64 on: block 1 onwards. -/
theorem chacha20_blocks_payload (K n : Bytes) (L : Nat) :
    chacha20_blocks ⟨K, n, 0, 64⟩ L = (List.range ((L + 63) / 64)).map fun i => (i + 1).toUInt32 := by
  unfold chacha20_blocks
  split
  · next h => rw [h]; rfl
  · next h =>
    rw [show (64 + L - 1) / 64 + 1 - 64 / 64 = (L + 63) / 64 by omega]
    simp [Nat.add_comm 1]

/-- For a payload shorter than `64 * (2 ^ 32 - 1)` bytes the payload's block
counters are the numbers they name: none wraps round. -/
theorem toNat_payload_counter {L i : Nat} (hpay : L < 64 * (2 ^ 32 - 1))
    (hi : i ∈ List.range ((L + 63) / 64)) : ((i + 1).toUInt32).toNat = i + 1 := by
  rw [List.mem_range] at hi
  rw [toNat_toUInt32, Nat.mod_eq_of_lt (by omega)]

/-- The blocks one encryption reads: block 0 of each half, then the payload's
blocks of `main_ctx`, from block 1 on. -/
theorem chacha_packet_updates_blocks (len : Nat) (seq : UInt64) :
    (chacha_packet_updates K1 K2 len seq).flatMap ChachaUpdate.blocks =
      (.main_ctx, chacha_nonce seq, 0) :: (.header_ctx, chacha_nonce seq, 0) ::
        (List.range ((len - 4 + 63) / 64)).map fun i => (.main_ctx, chacha_nonce seq, (i + 1).toUInt32) := by
  have hpay := chacha20_blocks_payload K1 (chacha_nonce seq) (len - 4)
  have hblock0 : ∀ (K : Bytes) (n : Nat), 0 < n → n ≤ 64 →
      chacha20_blocks ⟨K, chacha_nonce seq, 0, 0⟩ n = [0] := by
    intro K n h0 h64
    simp only [chacha20_blocks, Nat.pos_iff_ne_zero.mp h0, ↓reduceIte,
      show (0 + n - 1) / 64 + 1 - 0 / 64 = 1 by omega]
    rfl
  simp only [chacha_packet_updates, List.flatMap_cons, List.flatMap_nil, ChachaUpdate.blocks, hpay,
    hblock0 K1 64 (by norm_num) le_rfl, hblock0 K2 4 (by norm_num) (by norm_num), List.map_map,
    List.append_nil, List.map_cons, List.map_nil, List.singleton_append]
  rfl

/-- Every block one encryption reads is under the nonce of its sequence number. -/
theorem chacha_packet_updates_blocks_nonce {len : Nat} {seq : UInt64} {x : ChachaHalf × Bytes × UInt32}
    (hx : x ∈ (chacha_packet_updates K1 K2 len seq).flatMap ChachaUpdate.blocks) :
    x.2.1 = chacha_nonce seq := by
  rw [chacha_packet_updates_blocks] at hx
  simp only [List.mem_cons, List.mem_map] at hx
  rcases hx with rfl | rfl | ⟨i, -, rfl⟩ <;> rfl

/-- **No keystream block twice within one packet**, for a payload shorter than
`64 * (2 ^ 32 - 1)` bytes: the payload's block counters run from 1 and do not
wrap round to block 0. -/
theorem chacha_packet_updates_blocks_nodup (len : Nat) (seq : UInt64)
    (hpay : len - 4 < 64 * (2 ^ 32 - 1)) :
    ((chacha_packet_updates K1 K2 len seq).flatMap ChachaUpdate.blocks).Nodup := by
  rw [chacha_packet_updates_blocks]
  have hval := fun i (hi : i ∈ List.range ((len - 4 + 63) / 64)) => toNat_payload_counter hpay hi
  refine List.nodup_cons.mpr ⟨?_, List.nodup_cons.mpr ⟨?_, ?_⟩⟩
  · simp only [List.mem_cons, List.mem_map, Prod.mk.injEq, reduceCtorEq, false_and, false_or]
    rintro ⟨i, hi, -, -, h⟩
    have := congrArg UInt32.toNat h
    rw [hval i hi] at this
    exact absurd this (by simp)
  · simp [List.mem_map]
  · refine List.Nodup.map_on (fun i hi j hj h => ?_) (List.nodup_range _)
    have := congrArg UInt32.toNat (Prod.mk.inj (Prod.mk.inj h).2).2
    rw [hval i hi, hval j hj] at this
    omega

/-- **No keystream block twice in a run** of encryptions with pairwise distinct
sequence numbers and payloads shorter than `64 * (2 ^ 32 - 1)` bytes, within
and across packets. -/
theorem chacha_run_blocks_nodup (K1 K2 : Bytes) (calls : List (Bytes × Nat × UInt64))
    (hseq : (calls.map (·.2.2)).Nodup) (hpay : ∀ c ∈ calls, c.2.1 - 4 < 64 * (2 ^ 32 - 1)) :
    ((calls.flatMap fun c => chacha_packet_updates K1 K2 c.2.1 c.2.2).flatMap ChachaUpdate.blocks).Nodup := by
  rw [List.flatMap_assoc, List.nodup_flatMap]
  refine ⟨fun c hc => chacha_packet_updates_blocks_nodup _ _ (hpay c hc), ?_⟩
  -- packets with distinct sequence numbers read blocks under distinct nonces
  refine (List.pairwise_map.mp hseq).imp fun {a b} hab x hxa hxb => hab ?_
  exact chacha_nonce_injective
    ((chacha_packet_updates_blocks_nonce hxa).symm.trans (chacha_packet_updates_blocks_nonce hxb))

/-- Block 0 of `main_ctx` is read only by the update that makes the Poly1305
key. -/
theorem chacha_packet_updates_block_zero {len : Nat} {seq : UInt64} (hpay : len - 4 < 64 * (2 ^ 32 - 1))
    {u : ChachaUpdate} (hu : u ∈ chacha_packet_updates K1 K2 len seq) {n : Bytes}
    (h0 : (ChachaHalf.main_ctx, n, (0 : UInt32)) ∈ u.blocks) : u.sink = .poly_key := by
  simp only [chacha_packet_updates, List.mem_cons, List.mem_singleton, List.not_mem_nil, or_false] at hu
  rcases hu with rfl | rfl | rfl
  · rfl
  · simp [ChachaUpdate.blocks] at h0
  · simp only [ChachaUpdate.blocks, chacha20_blocks_payload, List.map_map, List.mem_map,
      Function.comp_apply, Prod.mk.injEq, true_and] at h0
    obtain ⟨i, hi, -, h⟩ := h0
    have := congrArg UInt32.toNat h
    rw [toNat_payload_counter hpay hi] at this
    exact absurd this (by simp)

/-- The payload is encrypted with `main_ctx` from block 1 on. -/
theorem chacha_packet_updates_payload {len : Nat} {seq : UInt64} {u : ChachaUpdate}
    (hu : u ∈ chacha_packet_updates K1 K2 len seq) (hp : u.sink = .payload) :
    u.half = .main_ctx ∧ chacha20_counter u.ctx u.ctx.pos = 1 := by
  simp only [chacha_packet_updates, List.mem_cons, List.mem_singleton, List.not_mem_nil, or_false] at hu
  rcases hu with rfl | rfl | rfl
  · cases hp
  · cases hp
  · exact ⟨rfl, by simp [chacha20_counter]⟩

/-- `header_ctx` is used only for the 4 length bytes. -/
theorem chacha_packet_updates_header {len : Nat} {seq : UInt64} {u : ChachaUpdate}
    (hu : u ∈ chacha_packet_updates K1 K2 len seq) (hh : u.half = .header_ctx) :
    u.len = 4 ∧ u.sink = .length_field := by
  simp only [chacha_packet_updates, List.mem_cons, List.mem_singleton, List.not_mem_nil, or_false] at hu
  rcases hu with rfl | rfl | rfl
  · cases hh
  · exact ⟨rfl, rfl⟩
  · cases hh

end Run

/-- **ChaCha20 keystream is never reused.** On a session keyed by a successful
`chacha20_poly1305_set_key`, a run of `chacha20_poly1305_aead_encrypt` calls
with pairwise distinct sequence numbers, each on at least 4 bytes (as many at
`in`) with a payload shorter than `64 * (2 ^ 32 - 1)` bytes, logs exactly the
updates of `chacha_packet_updates` under the two halves of the key. Among them:
no keystream block, named by key half, nonce and counter, is read twice; every
nonce is `0x00000000 || BE64(seq)`; block 0 of `main_ctx` is read only for the
Poly1305 key; the payload starts at block 1; and `header_ctx` is used only for
the 4 length bytes. -/
theorem chacha20_poly1305_keystream_once (B : Backend) (cipher : ssh_cipher_struct) (key : Bytes)
    (hset : (chacha20_poly1305_set_key B cipher key).1 = SSH_OK) (calls : List (Bytes × Nat × UInt64))
    (hcalls : ∀ c ∈ calls, 4 ≤ c.2.1 ∧ c.2.1 ≤ c.1.length ∧ c.2.1 - 4 < 64 * (2 ^ 32 - 1))
    (hseq : (calls.map (·.2.2)).Nodup) :
    let L := calls.flatMap fun c => chacha_packet_updates (key.take 32) ((key.drop 32).take 32) c.2.1 c.2.2
    (∃ s', chacha_encrypt_run B (chacha20_poly1305_set_key B cipher key).2 calls = .ok s' ∧
      chacha_log s' = chacha_log (chacha20_poly1305_set_key B cipher key).2 ++ L) ∧
    (L.flatMap ChachaUpdate.blocks).Nodup ∧
    (∀ c ∈ calls, ∀ u ∈ chacha_packet_updates (key.take 32) ((key.drop 32).take 32) c.2.1 c.2.2,
      u.ctx.nonce = List.replicate 4 0 ++ be_bytes 8 c.2.2.toNat) ∧
    (∀ u ∈ L, ∀ n, (ChachaHalf.main_ctx, n, (0 : UInt32)) ∈ u.blocks → u.sink = .poly_key) ∧
    (∀ u ∈ L, u.sink = .payload → u.half = .main_ctx ∧ chacha20_counter u.ctx u.ctx.pos = 1) ∧
    (∀ u ∈ L, u.half = .header_ctx → u.len = 4 ∧ u.sink = .length_field) := by
  intro L
  obtain ⟨s', hrun, -, hlog⟩ := chacha_encrypt_run_log (B := B) (chacha20_poly1305_set_key_ok hset) calls
    fun c hc => ⟨(hcalls c hc).1, (hcalls c hc).2.1⟩
  have hnodup := chacha_run_blocks_nodup (key.take 32) ((key.drop 32).take 32) calls hseq
    fun c hc => (hcalls c hc).2.2
  refine ⟨⟨s', hrun, hlog⟩, hnodup, fun c _ u hu => ?_, fun u hu n hn => ?_, fun u hu hp => ?_,
    fun u hu hh => ?_⟩
  · simp only [chacha_packet_updates, List.mem_cons, List.mem_singleton, List.not_mem_nil, or_false] at hu
    rcases hu with rfl | rfl | rfl <;> rfl
  · obtain ⟨c, hc, hu⟩ := List.mem_flatMap.mp hu
    exact chacha_packet_updates_block_zero (hcalls c hc).2.2 hu hn
  · obtain ⟨c, -, hu⟩ := List.mem_flatMap.mp hu
    exact chacha_packet_updates_payload hu hp
  · obtain ⟨c, -, hu⟩ := List.mem_flatMap.mp hu
    exact chacha_packet_updates_header hu hh

/-- Two packets, with sequence numbers 0 and 1, on a chacha20-poly1305
session. -/
theorem chacha20_poly1305_keystream_once_two_packets :
    let L := ([([0, 0, 0, 2, 9, 9], 6, 0), ([0, 0, 0, 1, 5], 5, 1)] : List (Bytes × Nat × UInt64)).flatMap fun c =>
      chacha_packet_updates ((List.replicate 64 7).take 32) (((List.replicate 64 7).drop 32).take 32) c.2.1 c.2.2
    (∃ s', chacha_encrypt_run (reversing_backend false)
        (chacha20_poly1305_set_key (reversing_backend false) { name := "chacha20-poly1305@openssh.com" }
          (List.replicate 64 7)).2 [([0, 0, 0, 2, 9, 9], 6, 0), ([0, 0, 0, 1, 5], 5, 1)] = .ok s' ∧
      chacha_log s' = chacha_log (chacha20_poly1305_set_key (reversing_backend false)
        { name := "chacha20-poly1305@openssh.com" } (List.replicate 64 7)).2 ++ L) ∧
    (L.flatMap ChachaUpdate.blocks).Nodup ∧
    (∀ c ∈ ([([0, 0, 0, 2, 9, 9], 6, 0), ([0, 0, 0, 1, 5], 5, 1)] : List (Bytes × Nat × UInt64)),
      ∀ u ∈ chacha_packet_updates ((List.replicate 64 7).take 32) (((List.replicate 64 7).drop 32).take 32)
        c.2.1 c.2.2, u.ctx.nonce = List.replicate 4 0 ++ be_bytes 8 c.2.2.toNat) ∧
    (∀ u ∈ L, ∀ n, (ChachaHalf.main_ctx, n, (0 : UInt32)) ∈ u.blocks → u.sink = .poly_key) ∧
    (∀ u ∈ L, u.sink = .payload → u.half = .main_ctx ∧ chacha20_counter u.ctx u.ctx.pos = 1) ∧
    (∀ u ∈ L, u.half = .header_ctx → u.len = 4 ∧ u.sink = .length_field) :=
  chacha20_poly1305_keystream_once _ _ _ (by decide) _ (by decide) (by decide)

end Libssh
