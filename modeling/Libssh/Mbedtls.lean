import Libssh.Buffer

/-!
The primitive provider, mbedTLS, as `libmbedcrypto.c` drives it. It is not part
of the repository; it is modelled at the level its callers see: the generic
cipher layer (`mbedtls_cipher_setup` … `mbedtls_cipher_reset`) with its state,
and the GCM, ChaCha20 and Poly1305 contexts.

What is abstract is only what `libmbedcrypto.c` reaches through an interface:
the block function of each algorithm (`block_encrypt`, `block_decrypt`), GCM's
encrypt-and-tag and its authenticated decryption, the ChaCha20 block function
and Poly1305. Those, the buffering behaviour of CBC decryption (which changed
between mbedTLS releases), and the outcomes of the setup calls are the fields of
`Backend`. `Backend.Lawful` states the contracts of the primitives;
`Backend.SetupSucceeds`, that no setup call fails, is kept apart from them,
since the code behaves differently when one does.

The modes themselves are written out, because the per-packet behaviour of the
ciphers lives in them: a CBC context caches incomplete blocks (and, in
one of the two behaviours, the last whole block when decrypting) until the next
`update` or `finish`, and a CTR context carries the counter block, the keystream
block and the offset into it across calls.
-/

set_option autoImplicit false

namespace Libssh

/-- `mbedtls_cipher_type_t`, the types `ssh_ciphertab` names. -/
inductive mbedtls_cipher_type_t
  | MBEDTLS_CIPHER_NONE
  | MBEDTLS_CIPHER_BLOWFISH_CBC
  | MBEDTLS_CIPHER_AES_128_CTR
  | MBEDTLS_CIPHER_AES_192_CTR
  | MBEDTLS_CIPHER_AES_256_CTR
  | MBEDTLS_CIPHER_AES_128_CBC
  | MBEDTLS_CIPHER_AES_192_CBC
  | MBEDTLS_CIPHER_AES_256_CBC
  | MBEDTLS_CIPHER_AES_128_GCM
  | MBEDTLS_CIPHER_AES_256_GCM
  | MBEDTLS_CIPHER_DES_EDE3_CBC
  deriving DecidableEq, Repr

/-- `mbedtls_cipher_mode_t`, for the modes the table uses. -/
inductive mbedtls_cipher_mode_t
  | MBEDTLS_MODE_CBC
  | MBEDTLS_MODE_CTR
  | MBEDTLS_MODE_GCM
  deriving DecidableEq, Repr

/-- `mbedtls_cipher_info_t`: what the generic layer reads of a cipher. -/
structure mbedtls_cipher_info_t where
  type : mbedtls_cipher_type_t
  mode : mbedtls_cipher_mode_t
  key_bitlen : Nat
  iv_size : Nat
  block_size : Nat
  deriving DecidableEq, Repr

/-- `mbedtls_cipher_info_from_type`: mbedTLS's table of cipher descriptions. -/
def mbedtls_cipher_info_from_type : mbedtls_cipher_type_t → Option mbedtls_cipher_info_t
  | .MBEDTLS_CIPHER_NONE => none
  | t@.MBEDTLS_CIPHER_BLOWFISH_CBC => some ⟨t, .MBEDTLS_MODE_CBC, 128, 8, 8⟩
  | t@.MBEDTLS_CIPHER_AES_128_CTR => some ⟨t, .MBEDTLS_MODE_CTR, 128, 16, 16⟩
  | t@.MBEDTLS_CIPHER_AES_192_CTR => some ⟨t, .MBEDTLS_MODE_CTR, 192, 16, 16⟩
  | t@.MBEDTLS_CIPHER_AES_256_CTR => some ⟨t, .MBEDTLS_MODE_CTR, 256, 16, 16⟩
  | t@.MBEDTLS_CIPHER_AES_128_CBC => some ⟨t, .MBEDTLS_MODE_CBC, 128, 16, 16⟩
  | t@.MBEDTLS_CIPHER_AES_192_CBC => some ⟨t, .MBEDTLS_MODE_CBC, 192, 16, 16⟩
  | t@.MBEDTLS_CIPHER_AES_256_CBC => some ⟨t, .MBEDTLS_MODE_CBC, 256, 16, 16⟩
  | t@.MBEDTLS_CIPHER_AES_128_GCM => some ⟨t, .MBEDTLS_MODE_GCM, 128, 12, 16⟩
  | t@.MBEDTLS_CIPHER_AES_256_GCM => some ⟨t, .MBEDTLS_MODE_GCM, 256, 12, 16⟩
  | t@.MBEDTLS_CIPHER_DES_EDE3_CBC => some ⟨t, .MBEDTLS_MODE_CBC, 192, 8, 8⟩

/-- `mbedtls_operation_t`. -/
inductive mbedtls_operation_t
  | MBEDTLS_DECRYPT
  | MBEDTLS_ENCRYPT
  deriving DecidableEq, Repr

/-- The mbedTLS calls a setup hook or `ssh_crypto_init` makes, each of which can
fail. -/
inductive MbedtlsCall
  | mbedtls_cipher_setup
  | mbedtls_cipher_setkey
  | mbedtls_cipher_set_iv
  | mbedtls_cipher_set_padding_mode
  | mbedtls_cipher_reset
  | mbedtls_gcm_setkey
  | mbedtls_chacha20_setkey_main
  | mbedtls_chacha20_setkey_header
  | calloc
  | mbedtls_ctr_drbg_seed
  deriving DecidableEq, Repr

/-- The primitive provider. -/
structure Backend where
  /-- The block function of a cipher type under a key. -/
  block_encrypt : mbedtls_cipher_type_t → Bytes → Bytes → Bytes
  /-- Its inverse. -/
  block_decrypt : mbedtls_cipher_type_t → Bytes → Bytes → Bytes
  /-- Whether CBC decryption holds the last whole block back until `finish`
  even without padding, as older releases do. -/
  cbc_decrypt_holds_last_block : Bool
  /-- Which setup calls fail. -/
  setup_fails : MbedtlsCall → Bool
  /-- `mbedtls_gcm_crypt_and_tag` (key, IV, AAD, tag length, input): output and
  tag, or an error. -/
  gcm_crypt_and_tag : Bytes → Bytes → Bytes → Nat → Bytes → Option (Bytes × Bytes)
  /-- `mbedtls_gcm_auth_decrypt` (key, IV, AAD, tag, input): the plaintext when
  the tag, of the length given, verifies. -/
  gcm_auth_decrypt : Bytes → Bytes → Bytes → Bytes → Bytes → Option Bytes
  /-- The ChaCha20 block function (key, 96-bit nonce, 32-bit block counter). -/
  chacha20_block : Bytes → Bytes → UInt32 → Bytes
  /-- Poly1305 (32-byte key, message): the 16-byte tag. -/
  poly1305_mac : Bytes → Bytes → Bytes

/-- The contracts of the primitives: block decryption undoes block encryption
on blocks; GCM is a function that writes as many bytes as it reads and a tag of
the length asked for, and its authenticated decryption gives the plaintext
exactly for the output and tag of that function; a ChaCha20 block is 64
bytes. -/
structure Backend.Lawful (B : Backend) : Prop where
  block_decrypt_encrypt : ∀ t info k b, mbedtls_cipher_info_from_type t = some info →
    b.length = info.block_size → B.block_decrypt t k (B.block_encrypt t k b) = b
  length_block_encrypt : ∀ t info k b, mbedtls_cipher_info_from_type t = some info →
    b.length = info.block_size → (B.block_encrypt t k b).length = info.block_size
  gcm_crypt_and_tag_spec : ∀ k iv aad n p, ∃ c t,
    B.gcm_crypt_and_tag k iv aad n p = some (c, t) ∧ c.length = p.length ∧ t.length = n
  gcm_auth_decrypt_iff : ∀ k iv aad tag ct pt,
    B.gcm_auth_decrypt k iv aad tag ct = some pt ↔
      B.gcm_crypt_and_tag k iv aad tag.length pt = some (ct, tag)
  length_chacha20_block : ∀ k n c, (B.chacha20_block k n c).length = 64

/-- A backend that meets every contract, with either CBC buffering behaviour:
every block function and GCM reverse their input, tags are zero, and the
ChaCha20 keystream is zero. It shows that the contracts can be met together,
and runs the model on concrete inputs. -/
def reversing_backend (holds : Bool) : Backend where
  block_encrypt _ _ b := b.reverse
  block_decrypt _ _ b := b.reverse
  cbc_decrypt_holds_last_block := holds
  setup_fails _ := false
  gcm_crypt_and_tag _ _ _ n p := some (p.reverse, List.replicate n 0)
  gcm_auth_decrypt _ _ _ tag ct := if tag = List.replicate tag.length 0 then some ct.reverse else none
  chacha20_block _ _ _ := List.replicate 64 0
  poly1305_mac _ _ := List.replicate 16 0

theorem reversing_backend_lawful (holds : Bool) : (reversing_backend holds).Lawful where
  block_decrypt_encrypt _ _ _ b _ _ := List.reverse_reverse b
  length_block_encrypt _ _ _ b _ h := (List.length_reverse b).trans h
  gcm_crypt_and_tag_spec _ _ _ n p := ⟨p.reverse, List.replicate n 0, rfl, List.length_reverse p,
    List.length_replicate n 0⟩
  gcm_auth_decrypt_iff _ _ _ tag ct pt := by
    simp only [reversing_backend, Option.ite_none_right_eq_some, Option.some.injEq, Prod.mk.injEq]
    constructor
    · rintro ⟨h, rfl⟩; exact ⟨List.reverse_reverse ct, h.symm⟩
    · rintro ⟨rfl, h⟩; exact ⟨h.symm, List.reverse_reverse pt⟩
  length_chacha20_block _ _ _ := List.length_replicate 64 0

/-- No setup call fails: `mbedtls_cipher_setup` … `mbedtls_cipher_reset`, the
GCM and ChaCha20 key setups, the allocation and the DRBG seeding. -/
def Backend.SetupSucceeds (B : Backend) : Prop := ∀ c, B.setup_fails c = false

theorem reversing_backend_setup_succeeds (holds : Bool) : (reversing_backend holds).SetupSucceeds :=
  fun _ => rfl

/-- Whether every one of the setup calls `cs` succeeds. -/
def Backend.calls_succeed (B : Backend) (cs : List MbedtlsCall) : Bool := cs.all fun c => !B.setup_fails c

theorem Backend.calls_succeed_iff (B : Backend) (cs : List MbedtlsCall) :
    B.calls_succeed cs = true ↔ ∀ c ∈ cs, B.setup_fails c = false := by
  simp [Backend.calls_succeed]

/-! ## The generic cipher layer -/

/-- `mbedtls_cipher_context_t`. In CBC mode `unprocessed_data` holds the cached
bytes; in CTR mode it is the keystream block and `unprocessed_len` the offset
into it, as mbedTLS passes them to its CTR function. -/
structure mbedtls_cipher_context_t where
  info : mbedtls_cipher_info_t
  key : Bytes
  operation : mbedtls_operation_t
  padding_none : Bool
  iv : Bytes
  unprocessed_data : Bytes
  unprocessed_len : Nat
  deriving DecidableEq, Repr

/-- `mbedtls_cipher_setup`: a context for the cipher, with the default padding. -/
def mbedtls_cipher_setup (B : Backend) (info : Option mbedtls_cipher_info_t) :
    Option mbedtls_cipher_context_t :=
  match info with
  | none => none
  | some info =>
    if B.setup_fails .mbedtls_cipher_setup then none
    else some ⟨info, [], .MBEDTLS_ENCRYPT, false, [], [], 0⟩

/-- `mbedtls_cipher_setkey`: the first `key_bitlen / 8` bytes at the pointer. -/
def mbedtls_cipher_setkey (B : Backend) (ctx : mbedtls_cipher_context_t) (key : Bytes)
    (key_bitlen : Nat) (operation : mbedtls_operation_t) : Option mbedtls_cipher_context_t :=
  if B.setup_fails .mbedtls_cipher_setkey then none
  else some { ctx with key := key.take (key_bitlen / 8), operation := operation }

/-- `mbedtls_cipher_set_iv`: the first `iv_len` bytes at the pointer. -/
def mbedtls_cipher_set_iv (B : Backend) (ctx : mbedtls_cipher_context_t) (iv : Bytes)
    (iv_len : Nat) : Option mbedtls_cipher_context_t :=
  if B.setup_fails .mbedtls_cipher_set_iv then none
  else some { ctx with iv := iv.take iv_len }

/-- `mbedtls_cipher_set_padding_mode (ctx, MBEDTLS_PADDING_NONE)`. -/
def mbedtls_cipher_set_padding_none (B : Backend) (ctx : mbedtls_cipher_context_t) :
    Option mbedtls_cipher_context_t :=
  if B.setup_fails .mbedtls_cipher_set_padding_mode then none
  else some { ctx with padding_none := true }

/-- `mbedtls_cipher_reset`: forgets cached data; the chaining value and the
counter block stay. -/
def mbedtls_cipher_reset (ctx : mbedtls_cipher_context_t) : mbedtls_cipher_context_t :=
  { ctx with unprocessed_len := 0 }

/-- `mbedtls_cipher_reset` as a setup hook calls it, with its possible failure. -/
def mbedtls_cipher_reset_setup (B : Backend) (ctx : mbedtls_cipher_context_t) :
    Option mbedtls_cipher_context_t :=
  if B.setup_fails .mbedtls_cipher_reset then none else some (mbedtls_cipher_reset ctx)

/-! ### CBC -/

/-- One CBC block in the context's direction: the output block and the new
chaining value. -/
def cbc_block (B : Backend) (ctx : mbedtls_cipher_context_t) (iv blk : Bytes) : Bytes × Bytes :=
  match ctx.operation with
  | .MBEDTLS_ENCRYPT =>
    let c := B.block_encrypt ctx.info.type ctx.key (xor_bytes blk iv)
    (c, c)
  | .MBEDTLS_DECRYPT => (xor_bytes (B.block_decrypt ctx.info.type ctx.key blk) iv, blk)

/-- mbedTLS's `cbc_func` over `n` whole blocks: the output and the chaining
value after. -/
def cbc_blocks (B : Backend) (ctx : mbedtls_cipher_context_t) :
    Nat → Bytes → Bytes → Bytes × Bytes
  | 0, iv, _ => ([], iv)
  | n + 1, iv, input =>
    let r := cbc_block B ctx iv (input.take ctx.info.block_size)
    let rs := cbc_blocks B ctx n r.2 (input.drop ctx.info.block_size)
    (r.1 ++ rs.1, rs.2)

/-- Whether `update` keeps a whole last block back: when decrypting with padding,
and, in the older behaviour, when decrypting at all. -/
def holds_last_block (B : Backend) (ctx : mbedtls_cipher_context_t) : Bool :=
  ctx.operation == .MBEDTLS_DECRYPT && (B.cbc_decrypt_holds_last_block || !ctx.padding_none)

/-- `mbedtls_cipher_update` in CBC mode: the context after and the bytes
written. An input that does not complete the cached block is only cached;
otherwise the cached bytes and the first input bytes make a block, the
incomplete last block (with `hold`, the last whole one) is cached, and the
blocks between are processed. -/
def cbc_update (B : Backend) (ctx : mbedtls_cipher_context_t) (input : Bytes) :
    mbedtls_cipher_context_t × Bytes :=
  let bs := ctx.info.block_size
  let cached := ctx.unprocessed_data.take ctx.unprocessed_len
  let hold := holds_last_block B ctx
  if (hold && input.length ≤ bs - cached.length) || (!hold && input.length < bs - cached.length) then
    ({ ctx with unprocessed_data := cached ++ input,
                unprocessed_len := cached.length + input.length }, [])
  else
    let first := if cached.length ≠ 0
      then cbc_block B ctx ctx.iv (cached ++ input.take (bs - cached.length)) else ([], ctx.iv)
    let rest := if cached.length ≠ 0 then input.drop (bs - cached.length) else input
    let copy_len :=
      if rest.length = 0 then 0 else if rest.length % bs = 0 && hold then bs else rest.length % bs
    let full := rest.take (rest.length - copy_len)
    let r := cbc_blocks B ctx (full.length / bs) first.2 full
    ({ ctx with iv := r.2, unprocessed_data := rest.drop (rest.length - copy_len),
                unprocessed_len := copy_len }, first.1 ++ r.1)

/-- `mbedtls_cipher_finish` in CBC mode without padding: a cached whole block is
decrypted, an empty cache gives nothing, anything else is an error. The cache
is not cleared. -/
def cbc_finish (B : Backend) (ctx : mbedtls_cipher_context_t) :
    Option (mbedtls_cipher_context_t × Bytes) :=
  let cached := ctx.unprocessed_data.take ctx.unprocessed_len
  match ctx.operation with
  | .MBEDTLS_ENCRYPT => if cached.length = 0 && ctx.padding_none then some (ctx, []) else none
  | .MBEDTLS_DECRYPT =>
    if cached.length = ctx.info.block_size && ctx.padding_none then
      let r := cbc_block B ctx ctx.iv cached
      some ({ ctx with iv := r.2 }, r.1)
    else if cached.length = 0 && ctx.padding_none then some (ctx, [])
    else none

/-! ### CTR -/

/-- `mbedtls_aes_crypt_ctr`'s byte loop, over the context's counter block
(`iv`), keystream block (`unprocessed_data`) and offset into it
(`unprocessed_len`). At offset zero the keystream block is the cipher of the
counter block, which is then incremented. CTR mode uses the encryption
direction of the block cipher both ways. -/
def ctr_update (B : Backend) : mbedtls_cipher_context_t → Bytes → mbedtls_cipher_context_t × Bytes
  | ctx, [] => (ctx, [])
  | ctx, c :: input =>
    let n := ctx.unprocessed_len
    let sb := if n = 0 then B.block_encrypt ctx.info.type ctx.key ctx.iv else ctx.unprocessed_data
    let nc := if n = 0 then be_inc ctx.iv else ctx.iv
    let r := ctr_update B { ctx with iv := nc, unprocessed_data := sb,
                                     unprocessed_len := (n + 1) % ctx.info.block_size } input
    (r.1, (c ^^^ sb.getD n 0) :: r.2)

/-! ### The generic entry points -/

/-- `mbedtls_cipher_update`: the context after and the bytes written, or an
error on a context that was never set up or was freed. -/
def mbedtls_cipher_update (B : Backend) (ctx : Option mbedtls_cipher_context_t) (input : Bytes) :
    Option (mbedtls_cipher_context_t × Bytes) :=
  ctx.bind fun ctx =>
    match ctx.info.mode with
    | .MBEDTLS_MODE_CBC => some (cbc_update B ctx input)
    | .MBEDTLS_MODE_CTR => some (ctr_update B ctx input)
    | .MBEDTLS_MODE_GCM => none

/-- `mbedtls_cipher_finish`. -/
def mbedtls_cipher_finish (B : Backend) (ctx : Option mbedtls_cipher_context_t) :
    Option (mbedtls_cipher_context_t × Bytes) :=
  ctx.bind fun ctx =>
    match ctx.info.mode with
    | .MBEDTLS_MODE_CBC => cbc_finish B ctx
    | .MBEDTLS_MODE_CTR => some (ctx, [])
    | .MBEDTLS_MODE_GCM => none

/-! ## ChaCha20 and Poly1305 -/

/-- `mbedtls_chacha20_context`, as the keystream of a key, a nonce and a first
block counter, with the byte position reached. -/
structure mbedtls_chacha20_context where
  key : Bytes
  nonce : Bytes
  counter : UInt32
  pos : Nat
  deriving DecidableEq, Repr

/-- The ChaCha20 block counter of keystream byte `j`. -/
def chacha20_counter (ctx : mbedtls_chacha20_context) (j : Nat) : UInt32 :=
  ctx.counter + (j / 64).toUInt32

/-- `len` keystream bytes from position `pos` on. -/
def chacha20_stream (B : Backend) (ctx : mbedtls_chacha20_context) (pos len : Nat) : Bytes :=
  (List.range len).map fun i =>
    (B.chacha20_block ctx.key ctx.nonce (chacha20_counter ctx (pos + i))).getD ((pos + i) % 64) 0

/-- The keystream blocks an update of `len` bytes reads, by block counter. -/
def chacha20_blocks (ctx : mbedtls_chacha20_context) (len : Nat) : List UInt32 :=
  if len = 0 then []
  else (List.range ((ctx.pos + len - 1) / 64 + 1 - ctx.pos / 64)).map fun i =>
    ctx.counter + (ctx.pos / 64 + i).toUInt32

/-- Every keystream byte of an update comes from one of the blocks
`chacha20_blocks` names. -/
theorem chacha20_counter_mem_blocks (ctx : mbedtls_chacha20_context) {len i : Nat} (hi : i < len) :
    chacha20_counter ctx (ctx.pos + i) ∈ chacha20_blocks ctx len := by
  have hle : (ctx.pos + i) / 64 ≤ (ctx.pos + len - 1) / 64 := Nat.div_le_div_right (by omega)
  have hge : ctx.pos / 64 ≤ (ctx.pos + i) / 64 := Nat.div_le_div_right (by omega)
  simp only [chacha20_blocks, show len ≠ 0 by omega, if_false, List.mem_map, List.mem_range,
    chacha20_counter]
  exact ⟨(ctx.pos + i) / 64 - ctx.pos / 64, by omega, by rw [Nat.add_sub_cancel' hge]⟩

/-- `mbedtls_chacha20_init`: a zeroed context. -/
def mbedtls_chacha20_init : mbedtls_chacha20_context := ⟨[], [], 0, 0⟩

/-- `mbedtls_chacha20_setkey`. -/
def mbedtls_chacha20_setkey (ctx : mbedtls_chacha20_context) (key : Bytes) :
    mbedtls_chacha20_context :=
  { ctx with key := key.take 32 }

/-- `mbedtls_chacha20_starts`: a nonce and a first counter, from the start of
that block. -/
def mbedtls_chacha20_starts (ctx : mbedtls_chacha20_context) (nonce : Bytes) (counter : UInt32) :
    mbedtls_chacha20_context :=
  { ctx with nonce := nonce, counter := counter, pos := 0 }

/-- `mbedtls_chacha20_update`: the input XORed with the keystream from the
position reached, which moves on by the input's length. -/
def mbedtls_chacha20_update (B : Backend) (ctx : mbedtls_chacha20_context) (input : Bytes) :
    mbedtls_chacha20_context × Bytes :=
  ({ ctx with pos := ctx.pos + input.length },
    xor_bytes input (chacha20_stream B ctx ctx.pos input.length))

/-- `mbedtls_poly1305_context`: the one-time key and the message so far. -/
structure mbedtls_poly1305_context where
  key : Bytes
  msg : Bytes
  deriving DecidableEq, Repr

/-- `mbedtls_poly1305_init`: a zeroed context. -/
def mbedtls_poly1305_init : mbedtls_poly1305_context := ⟨[], []⟩

/-- `mbedtls_poly1305_starts`: the first 32 bytes at the pointer are the key. -/
def mbedtls_poly1305_starts (key : Bytes) : mbedtls_poly1305_context := ⟨key.take 32, []⟩

/-- `mbedtls_poly1305_update`. -/
def mbedtls_poly1305_update (ctx : mbedtls_poly1305_context) (m : Bytes) : mbedtls_poly1305_context :=
  { ctx with msg := ctx.msg ++ m }

/-- `mbedtls_poly1305_finish`. -/
def mbedtls_poly1305_finish (B : Backend) (ctx : mbedtls_poly1305_context) : Bytes :=
  B.poly1305_mac ctx.key ctx.msg

end Libssh
