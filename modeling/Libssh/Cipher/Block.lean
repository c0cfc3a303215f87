import Libssh.Cipher.Struct

/-!
The block-mode hooks of `libmbedcrypto.c`: `cipher_init`, the four key-setup
functions, `cipher_encrypt` / `cipher_decrypt` (CTR entries) and
`cipher_encrypt_cbc` / `cipher_decrypt_cbc` (CBC entries).

`cipher_encrypt` and `cipher_decrypt` differ only in the context they use, so
they are one definition, `cipher_crypt`. The key setups differ in what they do
with a failing `mbedtls_cipher_reset`: the encrypt ones report it, the decrypt
ones compute it and test a stale `rc`, so each keeps its own body. The CBC
decrypt hook is the three-way branch that copes with a backend that holds the
last block back until `mbedtls_cipher_finish`.

An encrypt or decrypt hook returns the session after and the bytes it wrote,
from the start of `out` on; the caller lays them over what `out` held.

The main results are `cbc_session_roundtrip` and `ctr_session_roundtrip`: a
sender and a receiver keyed with the same key and IV act as one CBC (or CTR)
transformation of the whole stream, however the stream and the ciphertext are
cut into block-aligned chunks, under either CBC buffering behaviour of the
backend. `Cipher.Table` lifts them to the table's entries.
-/

set_option autoImplicit false

namespace Libssh

/-! ## Key setup -/

/-- `cipher_init`: a fresh generic context for the entry's type, keyed for
`operation` with the key and IV at the two pointers. `none` is its error
return, with the context freed. -/
def cipher_init (B : Backend) (cipher : ssh_cipher_struct) (operation : mbedtls_operation_t)
    (key IV : Bytes) : Option mbedtls_cipher_context_t :=
  (mbedtls_cipher_setup B (mbedtls_cipher_info_from_type cipher.type)).bind fun ctx =>
    (mbedtls_cipher_setkey B ctx key ctx.info.key_bitlen operation).bind fun ctx =>
      mbedtls_cipher_set_iv B ctx IV ctx.info.iv_size

/-- `cipher_set_encrypt_key` (CTR entries). -/
def cipher_set_encrypt_key (B : Backend) (cipher : ssh_cipher_struct) (key IV : Bytes) :
    Int × ssh_cipher_struct :=
  match cipher_init B cipher .MBEDTLS_ENCRYPT key IV with
  | none => (SSH_ERROR, { cipher with encrypt_ctx := none })
  | some ctx =>
    match mbedtls_cipher_reset_setup B ctx with
    | none => (SSH_ERROR, { cipher with encrypt_ctx := some ctx })
    | some ctx => (SSH_OK, { cipher with encrypt_ctx := some ctx })

/-- `cipher_set_encrypt_key_cbc`: also turns padding off; a failure after
`cipher_init` frees the context. -/
def cipher_set_encrypt_key_cbc (B : Backend) (cipher : ssh_cipher_struct) (key IV : Bytes) :
    Int × ssh_cipher_struct :=
  match (cipher_init B cipher .MBEDTLS_ENCRYPT key IV).bind (mbedtls_cipher_set_padding_none B)
    |>.bind (mbedtls_cipher_reset_setup B) with
  | none => (SSH_ERROR, { cipher with encrypt_ctx := none })
  | some ctx => (SSH_OK, { cipher with encrypt_ctx := some ctx })

/-- `cipher_set_decrypt_key` (CTR entries). The result of `mbedtls_cipher_reset`
is dropped and the stale `rc` of `cipher_init` tested instead, so a failing reset
still returns `SSH_OK`. -/
def cipher_set_decrypt_key (B : Backend) (cipher : ssh_cipher_struct) (key IV : Bytes) :
    Int × ssh_cipher_struct :=
  match cipher_init B cipher .MBEDTLS_DECRYPT key IV with
  | none => (SSH_ERROR, { cipher with decrypt_ctx := none })
  | some ctx => (SSH_OK, { cipher with decrypt_ctx := some ((mbedtls_cipher_reset_setup B ctx).getD ctx) })

/-- `cipher_set_decrypt_key_cbc`: as `cipher_set_decrypt_key`, with padding
turned off first (and that failure reported). -/
def cipher_set_decrypt_key_cbc (B : Backend) (cipher : ssh_cipher_struct) (key IV : Bytes) :
    Int × ssh_cipher_struct :=
  match (cipher_init B cipher .MBEDTLS_DECRYPT key IV).bind (mbedtls_cipher_set_padding_none B) with
  | none => (SSH_ERROR, { cipher with decrypt_ctx := none })
  | some ctx => (SSH_OK, { cipher with decrypt_ctx := some ((mbedtls_cipher_reset_setup B ctx).getD ctx) })

/-! ### What a key setup returns

Each lemma follows the setup's mbedTLS calls in order, over both outcomes of
each: a call that fails ends the setup. -/

section SetupRc

variable {B : Backend} {cipher : ssh_cipher_struct} {info : mbedtls_cipher_info_t}

theorem cipher_set_encrypt_key_rc (hinfo : mbedtls_cipher_info_from_type cipher.type = some info)
    (key IV : Bytes) :
    (cipher_set_encrypt_key B cipher key IV).1 =
      if B.calls_succeed (SetKeyHook.mbedtls_calls cipher .cipher_set_encrypt_key) then SSH_OK else SSH_ERROR := by
  simp only [cipher_set_encrypt_key, cipher_init, hinfo, mbedtls_cipher_setup, mbedtls_cipher_setkey,
    mbedtls_cipher_set_iv, mbedtls_cipher_reset_setup, SetKeyHook.mbedtls_calls, Backend.calls_succeed,
    List.all_cons, List.all_nil]
  rcases Bool.eq_false_or_eq_true (B.setup_fails .mbedtls_cipher_setup) with h | h <;> simp [h]
  rcases Bool.eq_false_or_eq_true (B.setup_fails .mbedtls_cipher_setkey) with h | h <;> simp [h]
  rcases Bool.eq_false_or_eq_true (B.setup_fails .mbedtls_cipher_set_iv) with h | h <;> simp [h]
  rcases Bool.eq_false_or_eq_true (B.setup_fails .mbedtls_cipher_reset) with h | h <;> simp [h]

theorem cipher_set_encrypt_key_cbc_rc (hinfo : mbedtls_cipher_info_from_type cipher.type = some info)
    (key IV : Bytes) :
    (cipher_set_encrypt_key_cbc B cipher key IV).1 =
      if B.calls_succeed (SetKeyHook.mbedtls_calls cipher .cipher_set_encrypt_key_cbc) then SSH_OK else SSH_ERROR := by
  simp only [cipher_set_encrypt_key_cbc, cipher_init, hinfo, mbedtls_cipher_setup, mbedtls_cipher_setkey,
    mbedtls_cipher_set_iv, mbedtls_cipher_set_padding_none, mbedtls_cipher_reset_setup, SetKeyHook.mbedtls_calls,
    Backend.calls_succeed, List.all_cons, List.all_nil]
  rcases Bool.eq_false_or_eq_true (B.setup_fails .mbedtls_cipher_setup) with h | h <;> simp [h]
  rcases Bool.eq_false_or_eq_true (B.setup_fails .mbedtls_cipher_setkey) with h | h <;> simp [h]
  rcases Bool.eq_false_or_eq_true (B.setup_fails .mbedtls_cipher_set_iv) with h | h <;> simp [h]
  rcases Bool.eq_false_or_eq_true (B.setup_fails .mbedtls_cipher_set_padding_mode) with h | h <;> simp [h]
  rcases Bool.eq_false_or_eq_true (B.setup_fails .mbedtls_cipher_reset) with h | h <;> simp [h]

/-- A CBC encrypt key setup one of whose calls fails leaves no encryption
context: `cipher_init` frees its own on failure, and the later failures go to
`error:`, which frees it. -/
theorem cipher_set_encrypt_key_cbc_failed
    (hfail : B.calls_succeed (SetKeyHook.mbedtls_calls cipher .cipher_set_encrypt_key_cbc) = false)
    (key IV : Bytes) :
    (cipher_set_encrypt_key_cbc B cipher key IV).2 = { cipher with encrypt_ctx := none } := by
  simp only [SetKeyHook.mbedtls_calls, Backend.calls_succeed, List.all_cons, List.all_nil, Bool.and_true,
    Bool.and_eq_false_iff, Bool.not_eq_false'] at hfail
  simp only [cipher_set_encrypt_key_cbc, cipher_init, mbedtls_cipher_setup, mbedtls_cipher_setkey,
    mbedtls_cipher_set_iv, mbedtls_cipher_set_padding_none, mbedtls_cipher_reset_setup]
  rcases mbedtls_cipher_info_from_type cipher.type with _ | info
  · rfl
  rcases hfail with h | h | h | h | h <;> simp [h]

/-- The decrypt setups report the calls before their final reset, and not the
reset. -/
theorem cipher_set_decrypt_key_rc (hinfo : mbedtls_cipher_info_from_type cipher.type = some info)
    (key IV : Bytes) :
    (cipher_set_decrypt_key B cipher key IV).1 =
      if B.calls_succeed [.mbedtls_cipher_setup, .mbedtls_cipher_setkey, .mbedtls_cipher_set_iv] then SSH_OK
      else SSH_ERROR := by
  simp only [cipher_set_decrypt_key, cipher_init, hinfo, mbedtls_cipher_setup, mbedtls_cipher_setkey,
    mbedtls_cipher_set_iv, Backend.calls_succeed, List.all_cons, List.all_nil]
  rcases Bool.eq_false_or_eq_true (B.setup_fails .mbedtls_cipher_setup) with h | h <;> simp [h]
  rcases Bool.eq_false_or_eq_true (B.setup_fails .mbedtls_cipher_setkey) with h | h <;> simp [h]
  rcases Bool.eq_false_or_eq_true (B.setup_fails .mbedtls_cipher_set_iv) with h | h <;> simp [h]

theorem cipher_set_decrypt_key_cbc_rc (hinfo : mbedtls_cipher_info_from_type cipher.type = some info)
    (key IV : Bytes) :
    (cipher_set_decrypt_key_cbc B cipher key IV).1 =
      if B.calls_succeed [.mbedtls_cipher_setup, .mbedtls_cipher_setkey, .mbedtls_cipher_set_iv,
        .mbedtls_cipher_set_padding_mode] then SSH_OK
      else SSH_ERROR := by
  simp only [cipher_set_decrypt_key_cbc, cipher_init, hinfo, mbedtls_cipher_setup, mbedtls_cipher_setkey,
    mbedtls_cipher_set_iv, mbedtls_cipher_set_padding_none, Backend.calls_succeed, List.all_cons, List.all_nil]
  rcases Bool.eq_false_or_eq_true (B.setup_fails .mbedtls_cipher_setup) with h | h <;> simp [h]
  rcases Bool.eq_false_or_eq_true (B.setup_fails .mbedtls_cipher_setkey) with h | h <;> simp [h]
  rcases Bool.eq_false_or_eq_true (B.setup_fails .mbedtls_cipher_set_iv) with h | h <;> simp [h]
  rcases Bool.eq_false_or_eq_true (B.setup_fails .mbedtls_cipher_set_padding_mode) with h | h <;> simp [h]

end SetupRc

/-! ## Encryption and decryption -/

/-- The generic context a block hook uses for an operation. -/
def ssh_cipher_struct.ctx (cipher : ssh_cipher_struct) : mbedtls_operation_t → Option mbedtls_cipher_context_t
  | .MBEDTLS_ENCRYPT => cipher.encrypt_ctx
  | .MBEDTLS_DECRYPT => cipher.decrypt_ctx

/-- The session with the context of an operation replaced. -/
def ssh_cipher_struct.with_ctx (cipher : ssh_cipher_struct) :
    mbedtls_operation_t → mbedtls_cipher_context_t → ssh_cipher_struct
  | .MBEDTLS_ENCRYPT, ctx => { cipher with encrypt_ctx := some ctx }
  | .MBEDTLS_DECRYPT, ctx => { cipher with decrypt_ctx := some ctx }

/-- `cipher_encrypt` and `cipher_decrypt`: one `update`, and a `finish` for
whatever it did not write. -/
def cipher_crypt (B : Backend) (operation : mbedtls_operation_t) (cipher : ssh_cipher_struct)
    (input : Bytes) : ssh_cipher_struct × Bytes :=
  match mbedtls_cipher_update B (cipher.ctx operation) input with
  | none => (cipher, [])
  | some (ctx, out) =>
    if out.length = input.length then (cipher.with_ctx operation ctx, out)
    else
      match mbedtls_cipher_finish B (some ctx) with
      | none => (cipher.with_ctx operation ctx, out)
      | some (ctx', out') => (cipher.with_ctx operation ctx', out ++ out')

/-- `cipher_encrypt`. -/
def cipher_encrypt (B : Backend) : ssh_cipher_struct → Bytes → ssh_cipher_struct × Bytes :=
  cipher_crypt B .MBEDTLS_ENCRYPT

/-- `cipher_decrypt`. -/
def cipher_decrypt (B : Backend) : ssh_cipher_struct → Bytes → ssh_cipher_struct × Bytes :=
  cipher_crypt B .MBEDTLS_DECRYPT

/-- `cipher_encrypt_cbc`: one `update`; a short output is only logged. -/
def cipher_encrypt_cbc (B : Backend) (cipher : ssh_cipher_struct) (input : Bytes) :
    ssh_cipher_struct × Bytes :=
  match mbedtls_cipher_update B cipher.encrypt_ctx input with
  | none => (cipher, [])
  | some (ctx, out) => ({ cipher with encrypt_ctx := some ctx }, out)

/-- `cipher_decrypt_cbc`: after the `update`, nothing written means the backend
held the block back (`finish` writes it at `out`), everything written means
done, and anything else means the last block is held (`finish` writes it after
the rest). Either way a `finish` is followed by a `reset`, since `finish` does
not clear the cache. -/
def cipher_decrypt_cbc (B : Backend) (cipher : ssh_cipher_struct) (input : Bytes) :
    ssh_cipher_struct × Bytes :=
  match mbedtls_cipher_update B cipher.decrypt_ctx input with
  | none => (cipher, [])
  | some (ctx, out) =>
    if out.length = input.length ∧ out.length ≠ 0 then ({ cipher with decrypt_ctx := some ctx }, out)
    else
      match mbedtls_cipher_finish B (some ctx) with
      | none => ({ cipher with decrypt_ctx := some ctx }, out)
      | some (ctx', out') =>
        ({ cipher with decrypt_ctx := some (mbedtls_cipher_reset ctx') }, out ++ out')

/-- `none_crypt`: a copy. -/
def none_crypt (cipher : ssh_cipher_struct) (input : Bytes) : ssh_cipher_struct × Bytes :=
  (cipher, input)

/-! ## CBC over block-aligned chunks -/

section Cbc

variable (B : Backend)

theorem cbc_block_congr {ctx ctx' : mbedtls_cipher_context_t} (hi : ctx.info = ctx'.info)
    (hk : ctx.key = ctx'.key) (ho : ctx.operation = ctx'.operation) :
    cbc_block B ctx = cbc_block B ctx' := by
  funext iv blk; simp [cbc_block, hi, hk, ho]

theorem cbc_blocks_congr {ctx ctx' : mbedtls_cipher_context_t} (hi : ctx.info = ctx'.info)
    (hk : ctx.key = ctx'.key) (ho : ctx.operation = ctx'.operation) :
    cbc_blocks B ctx = cbc_blocks B ctx' := by
  have hb := cbc_block_congr B hi hk ho
  funext n
  induction n with
  | zero => rfl
  | succ n ih => funext iv input; simp [cbc_blocks, hb, hi, ih]

/-- Processing `m + n` blocks is processing the first `m`, then the other `n`
from the chaining value the first left. -/
theorem cbc_blocks_append (ctx : mbedtls_cipher_context_t) (m n : Nat) (iv X Y : Bytes)
    (hX : X.length = m * ctx.info.block_size) :
    cbc_blocks B ctx (m + n) iv (X ++ Y) =
      ((cbc_blocks B ctx m iv X).1 ++ (cbc_blocks B ctx n (cbc_blocks B ctx m iv X).2 Y).1,
        (cbc_blocks B ctx n (cbc_blocks B ctx m iv X).2 Y).2) := by
  induction m generalizing iv X with
  | zero =>
    obtain rfl : X = [] := List.eq_nil_of_length_eq_zero (by simpa using hX)
    simp [cbc_blocks]
  | succ m ih =>
    have hle : ctx.info.block_size ≤ X.length := by rw [hX, Nat.succ_mul]; omega
    rw [Nat.succ_add]
    simp only [cbc_blocks, List.take_append_of_le_length hle, List.drop_append_of_le_length hle]
    rw [ih _ _ (by simp [hX, Nat.succ_mul])]
    simp

variable {B}

/-- CBC encryption of `n` whole blocks writes `n` blocks and leaves a chaining
value of one block. -/
theorem cbc_blocks_encrypt_length (hB : B.Lawful) (ctx : mbedtls_cipher_context_t)
    (hinfo : mbedtls_cipher_info_from_type ctx.info.type = some ctx.info)
    (hE : ctx.operation = .MBEDTLS_ENCRYPT) (n : Nat) (iv P : Bytes)
    (hiv : iv.length = ctx.info.block_size) (hP : P.length = n * ctx.info.block_size) :
    (cbc_blocks B ctx n iv P).1.length = n * ctx.info.block_size ∧
      (cbc_blocks B ctx n iv P).2.length = ctx.info.block_size := by
  induction n generalizing iv P with
  | zero => simp [cbc_blocks, hiv]
  | succ n ih =>
    have hle : ctx.info.block_size ≤ P.length := by rw [hP, Nat.succ_mul]; omega
    have hc := hB.length_block_encrypt _ _ ctx.key (xor_bytes (P.take ctx.info.block_size) iv)
      hinfo (by simp [hiv]; omega)
    obtain ⟨h1, h2⟩ := ih _ (P.drop ctx.info.block_size) hc (by simp [hP, Nat.succ_mul])
    simp only [cbc_blocks, cbc_block, hE]
    exact ⟨by rw [List.length_append, hc, h1]; ring, h2⟩

/-- **CBC decryption inverts CBC encryption**, block by block, and ends on the
same chaining value: the last ciphertext block. -/
theorem cbc_blocks_decrypt_encrypt (hB : B.Lawful) (ctxE ctxD : mbedtls_cipher_context_t)
    (hinfo : mbedtls_cipher_info_from_type ctxE.info.type = some ctxE.info)
    (hE : ctxE.operation = .MBEDTLS_ENCRYPT) (hD : ctxD.operation = .MBEDTLS_DECRYPT)
    (hi : ctxD.info = ctxE.info) (hk : ctxD.key = ctxE.key) (n : Nat) (iv P : Bytes)
    (hiv : iv.length = ctxE.info.block_size) (hP : P.length = n * ctxE.info.block_size) :
    cbc_blocks B ctxD n iv (cbc_blocks B ctxE n iv P).1 = (P, (cbc_blocks B ctxE n iv P).2) := by
  induction n generalizing iv P with
  | zero =>
    obtain rfl : P = [] := List.eq_nil_of_length_eq_zero (by simpa using hP)
    rfl
  | succ n ih =>
    have hle : ctxE.info.block_size ≤ P.length := by rw [hP, Nat.succ_mul]; omega
    have hx : (xor_bytes (P.take ctxE.info.block_size) iv).length = ctxE.info.block_size := by
      simp [hiv]; omega
    have hc := hB.length_block_encrypt _ _ ctxE.key _ hinfo hx
    have hrest := ih (B.block_encrypt ctxE.info.type ctxE.key
      (xor_bytes (P.take ctxE.info.block_size) iv)) (P.drop ctxE.info.block_size) hc
      (by simp [hP, Nat.succ_mul])
    simp only [cbc_blocks, cbc_block, hE, hD, hi, hk] at hrest ⊢
    rw [List.take_append_of_le_length (by omega), List.drop_append_of_le_length (by omega),
      List.take_of_length_le (by omega), List.drop_of_length_le (by omega), List.nil_append,
      hB.block_decrypt_encrypt _ _ _ _ hinfo hx, xor_bytes_xor_bytes _ _ (by simp [hiv]), hrest]
    simp [List.take_append_drop]

/-- Block decryption keeps the length of a block. The contract says only that it
undoes encryption; since encryption maps the finitely many blocks injectively
into themselves, every block is an encryption, and so decrypts to a block. -/
theorem length_block_decrypt (hB : B.Lawful) {t : mbedtls_cipher_type_t}
    {info : mbedtls_cipher_info_t} (hinfo : mbedtls_cipher_info_from_type t = some info)
    (k c : Bytes) (hc : c.length = info.block_size) :
    (B.block_decrypt t k c).length = info.block_size := by
  haveI : Finite UInt8 := Finite.of_injective (fun x : UInt8 => (⟨x.toNat, x.toNat_lt⟩ : Fin (2 ^ 8)))
    fun _ _ h => UInt8.ext (congrArg Fin.val h)
  let f : Mathlib.Vector UInt8 info.block_size → Mathlib.Vector UInt8 info.block_size :=
    fun v => ⟨B.block_encrypt t k v.1, hB.length_block_encrypt t info k v.1 hinfo v.2⟩
  have hinj : Function.Injective f := fun v w h => Subtype.ext <| by
    have := congrArg (fun u : Mathlib.Vector UInt8 info.block_size => B.block_decrypt t k u.1) h
    simpa [f, hB.block_decrypt_encrypt t info k _ hinfo v.2,
      hB.block_decrypt_encrypt t info k _ hinfo w.2] using this
  obtain ⟨v, hv⟩ := Finite.surjective_of_injective hinj ⟨c, hc⟩
  have hc' : B.block_encrypt t k v.1 = c := congrArg Subtype.val hv
  rw [← hc', hB.block_decrypt_encrypt t info k _ hinfo v.2]
  exact v.2

/-- CBC decryption of `n` whole blocks writes `n` blocks. -/
theorem cbc_blocks_decrypt_length (hB : B.Lawful) {ctx : mbedtls_cipher_context_t}
    (hinfo : mbedtls_cipher_info_from_type ctx.info.type = some ctx.info)
    (hD : ctx.operation = .MBEDTLS_DECRYPT) (n : Nat) (iv C : Bytes)
    (hiv : iv.length = ctx.info.block_size) (hC : C.length = n * ctx.info.block_size) :
    (cbc_blocks B ctx n iv C).1.length = n * ctx.info.block_size ∧
      (cbc_blocks B ctx n iv C).2.length = ctx.info.block_size := by
  induction n generalizing iv C with
  | zero => simp [cbc_blocks, hiv]
  | succ n ih =>
    have hle : ctx.info.block_size ≤ C.length := by rw [hC, Nat.succ_mul]; omega
    have ht : (C.take ctx.info.block_size).length = ctx.info.block_size := by simp; omega
    have hd := length_block_decrypt hB hinfo ctx.key _ ht
    obtain ⟨h1, h2⟩ := ih _ (C.drop ctx.info.block_size) ht (by simp [hC, Nat.succ_mul])
    simp only [cbc_blocks, cbc_block, hD]
    exact ⟨by rw [List.length_append, length_xor_bytes, hd, hiv, Nat.min_self, h1]; ring, h2⟩

/-- A block-mode context between two calls of a session: keyed like `ctx0`, at
chaining value (CBC) or counter block (CTR) `iv`, with nothing cached. -/
structure CtxAt (ctx0 : mbedtls_cipher_context_t) (iv : Bytes) (ctx : mbedtls_cipher_context_t) :
    Prop where
  info : ctx.info = ctx0.info
  key : ctx.key = ctx0.key
  operation : ctx.operation = ctx0.operation
  padding_none : ctx.padding_none = ctx0.padding_none
  iv : ctx.iv = iv
  unprocessed_len : ctx.unprocessed_len = 0

variable {ctx0 ctx : mbedtls_cipher_context_t} {iv X : Bytes} {k : Nat}

theorem CtxAt.blocks_eq (hat : CtxAt ctx0 iv ctx) : cbc_blocks B ctx = cbc_blocks B ctx0 :=
  cbc_blocks_congr B hat.info hat.key hat.operation

theorem CtxAt.holds_eq (hat : CtxAt ctx0 iv ctx) :
    holds_last_block B ctx = holds_last_block B ctx0 := by
  simp [holds_last_block, hat.operation, hat.padding_none]

/-- `update` on whole blocks with nothing cached, when the backend emits every
whole block: all of them are processed. -/
theorem cbc_update_emit (hat : CtxAt ctx0 iv ctx) (hhold : holds_last_block B ctx0 = false)
    (hbs : 0 < ctx0.info.block_size) (hX : X.length = k * ctx0.info.block_size) :
    cbc_update B ctx X =
      ({ ctx with iv := (cbc_blocks B ctx0 k iv X).2
                  unprocessed_data := []
                  unprocessed_len := 0 }, (cbc_blocks B ctx0 k iv X).1) := by
  unfold cbc_update
  simp only [hat.unprocessed_len, List.take_zero, List.length_nil, hat.holds_eq, hhold,
    hat.info, hat.blocks_eq, hat.iv]
  cases k with
  | zero =>
    obtain rfl : X = [] := List.eq_nil_of_length_eq_zero (by simpa using hX)
    simp [hbs, cbc_blocks, hat.iv.symm]
  | succ k =>
    have hmod : X.length % ctx0.info.block_size = 0 := by rw [hX]; exact Nat.mul_mod_left _ _
    have hdiv : X.length / ctx0.info.block_size = k + 1 := by rw [hX]; exact Nat.mul_div_cancel _ hbs
    have hlt : ¬X.length < ctx0.info.block_size := by rw [hX, Nat.succ_mul]; omega
    simp [hlt, hmod, hdiv]

/-- `update` on one or more whole blocks with nothing cached, when the backend
holds the last block back: all but the last are processed and the last is
cached. -/
theorem cbc_update_hold (hat : CtxAt ctx0 iv ctx) (hhold : holds_last_block B ctx0 = true)
    (hbs : 0 < ctx0.info.block_size) (hX : X.length = (k + 1) * ctx0.info.block_size) :
    cbc_update B ctx X =
      ({ ctx with iv := (cbc_blocks B ctx0 k iv (X.take (k * ctx0.info.block_size))).2
                  unprocessed_data := X.drop (k * ctx0.info.block_size)
                  unprocessed_len := ctx0.info.block_size },
        (cbc_blocks B ctx0 k iv (X.take (k * ctx0.info.block_size))).1) := by
  unfold cbc_update
  simp only [hat.unprocessed_len, List.take_zero, List.length_nil, hat.holds_eq, hhold,
    hat.info, hat.blocks_eq, hat.iv]
  cases k with
  | zero =>
    have hle : X.length ≤ ctx0.info.block_size := by omega
    simp [hle, cbc_blocks, hat.iv.symm, hX]
  | succ k =>
    have hmod : X.length % ctx0.info.block_size = 0 := by rw [hX]; exact Nat.mul_mod_left _ _
    have hle : ¬X.length ≤ ctx0.info.block_size := by rw [hX, Nat.succ_mul, Nat.succ_mul]; omega
    have hsub : X.length - ctx0.info.block_size = (k + 1) * ctx0.info.block_size := by
      rw [hX, Nat.succ_mul]; omega
    have hdiv : (k + 1) * ctx0.info.block_size / ctx0.info.block_size = k + 1 :=
      Nat.mul_div_cancel _ hbs
    have hne : X ≠ [] := fun h => hle (by simp [h])
    have hmin : (k + 1) * ctx0.info.block_size ⊓ X.length = (k + 1) * ctx0.info.block_size :=
      min_eq_left (by rw [hX]; exact Nat.mul_le_mul_right _ (by omega))
    simp [hle, hmod, hsub, hdiv, hne, hmin]

/-- `update` on no bytes with nothing cached, when the backend holds blocks back. -/
theorem cbc_update_hold_nil (hat : CtxAt ctx0 iv ctx) (hhold : holds_last_block B ctx0 = true) :
    cbc_update B ctx [] = ({ ctx with unprocessed_data := [], unprocessed_len := 0 }, []) := by
  unfold cbc_update
  simp [hat.unprocessed_len, hat.holds_eq, hhold]

/-- **`cipher_encrypt_cbc` on whole blocks**: CBC encryption from the chaining
value, all of it written, and the context ready for the next call. -/
theorem cipher_encrypt_cbc_aligned {cipher : ssh_cipher_struct} (hc : cipher.encrypt_ctx = some ctx)
    (hat : CtxAt ctx0 iv ctx) (hmode : ctx0.info.mode = .MBEDTLS_MODE_CBC)
    (hE : ctx0.operation = .MBEDTLS_ENCRYPT) (hbs : 0 < ctx0.info.block_size)
    (hX : X.length = k * ctx0.info.block_size) :
    ∃ ctx', cipher_encrypt_cbc B cipher X =
        ({ cipher with encrypt_ctx := some ctx' }, (cbc_blocks B ctx0 k iv X).1) ∧
      CtxAt ctx0 (cbc_blocks B ctx0 k iv X).2 ctx' := by
  have hhold : holds_last_block B ctx0 = false := by simp [holds_last_block, hE]
  refine ⟨{ ctx with iv := (cbc_blocks B ctx0 k iv X).2
                     unprocessed_data := []
                     unprocessed_len := 0 }, ?_,
    ⟨hat.info, hat.key, hat.operation, hat.padding_none, rfl, rfl⟩⟩
  simp only [cipher_encrypt_cbc, mbedtls_cipher_update, hc, Option.some_bind, hat.info, hmode,
    cbc_update_emit hat hhold hbs hX]

/-- `cipher_decrypt_cbc` after its `update`. -/
theorem cipher_decrypt_cbc_of_update {cipher : ssh_cipher_struct} {c : mbedtls_cipher_context_t}
    {o : Bytes} (hu : mbedtls_cipher_update B cipher.decrypt_ctx X = some (c, o)) :
    cipher_decrypt_cbc B cipher X =
      if o.length = X.length ∧ o.length ≠ 0 then ({ cipher with decrypt_ctx := some c }, o)
      else match mbedtls_cipher_finish B (some c) with
        | none => ({ cipher with decrypt_ctx := some c }, o)
        | some (c', o') => ({ cipher with decrypt_ctx := some (mbedtls_cipher_reset c') }, o ++ o') := by
  rw [cipher_decrypt_cbc, hu]

/-- `finish` of a CBC decryption context with nothing cached writes nothing. -/
theorem cbc_finish_empty {c : mbedtls_cipher_context_t} (hD : c.operation = .MBEDTLS_DECRYPT)
    (hpn : c.padding_none = true) (hbs : 0 < c.info.block_size) (hlen : c.unprocessed_len = 0) :
    cbc_finish B c = some (c, []) := by
  simp [cbc_finish, hD, hpn, hlen, hbs.ne]

/-- `finish` of a CBC decryption context holding a whole block decrypts it. -/
theorem cbc_finish_held {c : mbedtls_cipher_context_t} (hD : c.operation = .MBEDTLS_DECRYPT)
    (hpn : c.padding_none = true)
    (hlen : (c.unprocessed_data.take c.unprocessed_len).length = c.info.block_size) :
    cbc_finish B c = some ({ c with iv := (cbc_block B c c.iv (c.unprocessed_data.take c.unprocessed_len)).2 },
      (cbc_block B c c.iv (c.unprocessed_data.take c.unprocessed_len)).1) := by
  simp [cbc_finish, hD, hpn, hlen]

/-- **`cipher_decrypt_cbc` on whole blocks**, under either buffering behaviour of
the backend: CBC decryption from the chaining value, all of it written, and
the context ready for the next call. The three-way branch after the `update`
is what makes the two behaviours agree. -/
theorem cipher_decrypt_cbc_aligned (hB : B.Lawful)
    (hinfo : mbedtls_cipher_info_from_type ctx0.info.type = some ctx0.info)
    {cipher : ssh_cipher_struct} (hc : cipher.decrypt_ctx = some ctx)
    (hat : CtxAt ctx0 iv ctx) (hmode : ctx0.info.mode = .MBEDTLS_MODE_CBC)
    (hD : ctx0.operation = .MBEDTLS_DECRYPT) (hpn : ctx0.padding_none = true)
    (hbs : 0 < ctx0.info.block_size) (hiv : iv.length = ctx0.info.block_size)
    (hX : X.length = k * ctx0.info.block_size) :
    ∃ ctx', cipher_decrypt_cbc B cipher X =
        ({ cipher with decrypt_ctx := some ctx' }, (cbc_blocks B ctx0 k iv X).1) ∧
      CtxAt ctx0 (cbc_blocks B ctx0 k iv X).2 ctx' := by
  have hD' : ctx.operation = .MBEDTLS_DECRYPT := hat.operation.trans hD
  have hpn' : ctx.padding_none = true := hat.padding_none.trans hpn
  have hbs' : 0 < ctx.info.block_size := hat.info ▸ hbs
  have hupd : ∀ X, mbedtls_cipher_update B cipher.decrypt_ctx X = some (cbc_update B ctx X) := by
    intro X; simp [mbedtls_cipher_update, hc, hat.info, hmode]
  have hfin : ∀ c : mbedtls_cipher_context_t, c.info = ctx.info →
      mbedtls_cipher_finish B (some c) = cbc_finish B c := by
    intro c h; simp [mbedtls_cipher_finish, h, hat.info, hmode]
  cases k with
  | zero =>
    -- nothing to decrypt: both behaviours cache nothing, and `finish` writes nothing
    obtain rfl : X = [] := List.eq_nil_of_length_eq_zero (by simpa using hX)
    have hu : cbc_update B ctx [] = ({ ctx with unprocessed_data := [], unprocessed_len := 0 }, []) := by
      cases hhold : holds_last_block B ctx0
      · have h := cbc_update_emit hat hhold hbs (k := 0) (X := []) (by simp)
        rwa [show (cbc_blocks B ctx0 0 iv []).2 = ctx.iv from hat.iv.symm] at h
      · exact cbc_update_hold_nil hat hhold
    refine ⟨mbedtls_cipher_reset { ctx with unprocessed_data := [], unprocessed_len := 0 }, ?_,
      ⟨hat.info, hat.key, hat.operation, hat.padding_none, hat.iv, rfl⟩⟩
    rw [cipher_decrypt_cbc_of_update (by rw [hupd, hu]), if_neg (by simp),
      hfin { ctx with unprocessed_data := [], unprocessed_len := 0 } rfl,
      cbc_finish_empty (c := { ctx with unprocessed_data := [], unprocessed_len := 0 }) hD' hpn' hbs' rfl]
    rfl
  | succ k =>
    have hlen := (cbc_blocks_decrypt_length hB hinfo hD (k + 1) iv X hiv hX).1
    cases hhold : holds_last_block B ctx0 with
    | false =>
      -- every whole block is emitted by the `update`, and the hook returns at once
      refine ⟨{ ctx with iv := (cbc_blocks B ctx0 (k + 1) iv X).2
                         unprocessed_data := []
                         unprocessed_len := 0 }, ?_,
        ⟨hat.info, hat.key, hat.operation, hat.padding_none, rfl, rfl⟩⟩
      rw [cipher_decrypt_cbc_of_update (by rw [hupd, cbc_update_emit hat hhold hbs hX]),
        if_pos ⟨by rw [hlen, hX], by rw [hlen]; positivity⟩]
    | true =>
      -- the last block is held back, and `finish` decrypts it after the others
      set bs := ctx0.info.block_size
      set r := cbc_blocks B ctx0 k iv (X.take (k * bs))
      have htake : (X.take (k * bs)).length = k * bs := by
        rw [List.length_take, hX, Nat.succ_mul]; omega
      have hdrop : (X.drop (k * bs)).length = bs := by
        rw [List.length_drop, hX, Nat.succ_mul]; omega
      have hr1 : r.1.length = k * bs := (cbc_blocks_decrypt_length hB hinfo hD k iv _ hiv htake).1
      have hlt : ¬(r.1.length = X.length ∧ r.1.length ≠ 0) := by
        rw [hr1, hX, Nat.succ_mul]; omega
      have hsplit := cbc_blocks_append B ctx0 k 1 iv (X.take (k * bs)) (X.drop (k * bs)) htake
      rw [List.take_append_drop] at hsplit
      have hlast : (cbc_blocks B ctx0 1 r.2 (X.drop (k * bs))) =
          ((cbc_block B ctx0 r.2 (X.drop (k * bs))).1, (cbc_block B ctx0 r.2 (X.drop (k * bs))).2) := by
        simp [cbc_blocks, List.take_of_length_le hdrop.le]
      set c : mbedtls_cipher_context_t := { ctx with iv := r.2
                                                     unprocessed_data := X.drop (k * bs)
                                                     unprocessed_len := bs }
      have hcached : c.unprocessed_data.take c.unprocessed_len = X.drop (k * bs) :=
        List.take_of_length_le hdrop.le
      have hblk : cbc_block B c = cbc_block B ctx0 := cbc_block_congr B hat.info hat.key hat.operation
      refine ⟨mbedtls_cipher_reset { c with iv := (cbc_block B ctx0 r.2 (X.drop (k * bs))).2 }, ?_,
        ⟨hat.info, hat.key, hat.operation, hat.padding_none,
          by simp [hsplit, hlast, mbedtls_cipher_reset], rfl⟩⟩
      rw [cipher_decrypt_cbc_of_update (by rw [hupd, cbc_update_hold hat hhold hbs hX]),
        if_neg hlt, hfin c rfl,
        cbc_finish_held (c := c) hD' hpn' (by rw [hcached, hdrop, hat.info]), hcached, hblk, hsplit, hlast]

end Cbc

/-! ## CTR over block-aligned chunks -/

section Ctr

variable {B : Backend}

/-- The CTR keystream of `m` blocks from counter block `nc`. -/
def ctr_keystream (B : Backend) (ctx : mbedtls_cipher_context_t) : Nat → Bytes → Bytes
  | 0, _ => []
  | m + 1, nc => B.block_encrypt ctx.info.type ctx.key nc ++ ctr_keystream B ctx m (be_inc nc)

theorem length_ctr_update (ctx : mbedtls_cipher_context_t) (X : Bytes) :
    (ctr_update B ctx X).2.length = X.length := by
  induction X generalizing ctx with
  | nil => rfl
  | cons x xs ih => simp [ctr_update, ih]

/-- The bytes of a keystream block after the first are XORed in without a new
block, and the offset comes back to zero at the block's end. -/
theorem ctr_update_inner (ctx : mbedtls_cipher_context_t) (Z rest : Bytes)
    (h0 : 0 < ctx.unprocessed_len) (hlt : ctx.unprocessed_len < ctx.info.block_size)
    (hsb : ctx.unprocessed_data.length = ctx.info.block_size)
    (hZ : ctx.unprocessed_len + Z.length = ctx.info.block_size) :
    ctr_update B ctx (Z ++ rest) =
      ((ctr_update B { ctx with unprocessed_len := 0 } rest).1,
        xor_bytes Z (ctx.unprocessed_data.drop ctx.unprocessed_len) ++
          (ctr_update B { ctx with unprocessed_len := 0 } rest).2) := by
  induction Z generalizing ctx with
  | nil => simp at hZ; omega
  | cons z Z ih =>
    have hget : ctx.unprocessed_data.drop ctx.unprocessed_len =
        ctx.unprocessed_data.getD ctx.unprocessed_len 0 ::
          ctx.unprocessed_data.drop (ctx.unprocessed_len + 1) := by
      rw [List.getD_eq_getElem _ _ (by omega)]; exact List.drop_eq_getElem_cons (by omega)
    rw [List.cons_append, ctr_update]
    simp only [h0.ne', ↓reduceIte, hget, xor_bytes, List.zipWith_cons_cons, List.cons_append]
    by_cases hend : ctx.unprocessed_len + 1 = ctx.info.block_size
    · obtain rfl : Z = [] := List.eq_nil_of_length_eq_zero (by simp at hZ; omega)
      simp [hend]
    · have := ih { ctx with unprocessed_len := ctx.unprocessed_len + 1 } (by simp) (by simp; omega)
        hsb (by simp at hZ ⊢; omega)
      dsimp only at this
      rw [Nat.mod_eq_of_lt (by omega : ctx.unprocessed_len + 1 < _), this]
      rfl

/-- **One keystream block.** From offset zero, a block's worth of bytes is XORed
with the cipher of the counter block, and the counter block is incremented. -/
theorem ctr_update_block (ctx : mbedtls_cipher_context_t) (Y rest : Bytes)
    (h0 : ctx.unprocessed_len = 0) (hbs : 0 < ctx.info.block_size)
    (hsb : (B.block_encrypt ctx.info.type ctx.key ctx.iv).length = ctx.info.block_size)
    (hY : Y.length = ctx.info.block_size) :
    ctr_update B ctx (Y ++ rest) =
      let ctx1 := { ctx with iv := be_inc ctx.iv
                             unprocessed_data := B.block_encrypt ctx.info.type ctx.key ctx.iv
                             unprocessed_len := 0 }
      ((ctr_update B ctx1 rest).1,
        xor_bytes Y (B.block_encrypt ctx.info.type ctx.key ctx.iv) ++ (ctr_update B ctx1 rest).2) := by
  obtain ⟨y, Y, rfl⟩ : ∃ y Y', Y = y :: Y' := List.exists_cons_of_length_pos (by omega)
  obtain ⟨b, bs', hb⟩ : ∃ b bs', B.block_encrypt ctx.info.type ctx.key ctx.iv = b :: bs' :=
    List.exists_cons_of_length_pos (by omega)
  rw [List.cons_append, ctr_update]
  simp only [h0, ↓reduceIte, Nat.zero_add]
  by_cases h1 : ctx.info.block_size = 1
  · obtain rfl : Y = [] := List.eq_nil_of_length_eq_zero (by simp at hY; omega)
    simp [h1, hb, xor_bytes]
  · have := ctr_update_inner (B := B)
      { ctx with iv := be_inc ctx.iv
                 unprocessed_data := B.block_encrypt ctx.info.type ctx.key ctx.iv
                 unprocessed_len := 1 } Y rest (by simp) (by simp; omega) hsb (by simp at hY ⊢; omega)
    dsimp only at this
    rw [Nat.mod_eq_of_lt (by omega : 1 < _), this]
    simp [hb, xor_bytes]

@[simp] theorem ctr_keystream_zero (ctx : mbedtls_cipher_context_t) (nc : Bytes) :
    ctr_keystream B ctx 0 nc = [] := rfl

/-- The keystream of `m + n` blocks is that of `m` blocks, then that of `n`
blocks from the counter block `m` increments on. -/
theorem ctr_keystream_add (ctx : mbedtls_cipher_context_t) (m n : Nat) (nc : Bytes) :
    ctr_keystream B ctx (m + n) nc = ctr_keystream B ctx m nc ++ ctr_keystream B ctx n (be_inc^[m] nc) := by
  induction m generalizing nc with
  | zero => simp
  | succ m ih =>
    rw [Nat.succ_add, ctr_keystream, ctr_keystream, ih, Function.iterate_succ_apply, List.append_assoc]

theorem length_ctr_keystream (hB : B.Lawful) (ctx : mbedtls_cipher_context_t)
    (hinfo : mbedtls_cipher_info_from_type ctx.info.type = some ctx.info) (m : Nat) (nc : Bytes)
    (hnc : nc.length = ctx.info.block_size) :
    (ctr_keystream B ctx m nc).length = m * ctx.info.block_size := by
  induction m generalizing nc with
  | zero => simp
  | succ m ih =>
    rw [ctr_keystream, List.length_append, hB.length_block_encrypt _ _ _ _ hinfo hnc,
      ih _ (by rw [length_be_inc, hnc]), Nat.succ_mul, Nat.add_comm]

variable {ctx0 ctx : mbedtls_cipher_context_t} {iv X : Bytes} {k : Nat}

/-- **CTR over whole blocks**: the input XORed with the keystream from the
counter block, which ends incremented once per block, with the offset back at
zero. -/
theorem ctr_update_aligned (hB : B.Lawful)
    (hinfo : mbedtls_cipher_info_from_type ctx0.info.type = some ctx0.info)
    (hat : CtxAt ctx0 iv ctx) (hbs : 0 < ctx0.info.block_size) (hiv : iv.length = ctx0.info.block_size)
    (hX : X.length = k * ctx0.info.block_size) :
    ∃ ctx', ctr_update B ctx X = (ctx', xor_bytes X (ctr_keystream B ctx0 k iv)) ∧
      CtxAt ctx0 (be_inc^[k] iv) ctx' := by
  induction k generalizing ctx iv X with
  | zero =>
    obtain rfl : X = [] := List.eq_nil_of_length_eq_zero (by simpa using hX)
    exact ⟨ctx, rfl, hat⟩
  | succ k ih =>
    have hle : ctx0.info.block_size ≤ X.length := by rw [hX, Nat.succ_mul]; omega
    have hE := hB.length_block_encrypt _ _ ctx0.key _ hinfo hiv
    have hblk := ctr_update_block (B := B) ctx (X.take ctx0.info.block_size) (X.drop ctx0.info.block_size)
      hat.unprocessed_len (hat.info ▸ hbs) (by rw [hat.info, hat.key, hat.iv, hE])
      (by rw [hat.info]; simp; omega)
    have hE' : B.block_encrypt ctx.info.type ctx.key ctx.iv = B.block_encrypt ctx0.info.type ctx0.key iv := by
      rw [hat.info, hat.key, hat.iv]
    rw [List.take_append_drop] at hblk
    simp only [hE'] at hblk
    have hat1 : CtxAt ctx0 (be_inc iv)
        { ctx with iv := be_inc ctx.iv
                   unprocessed_data := B.block_encrypt ctx0.info.type ctx0.key iv
                   unprocessed_len := 0 } :=
      ⟨hat.info, hat.key, hat.operation, hat.padding_none, by rw [hat.iv], rfl⟩
    obtain ⟨ctx', hu, hat'⟩ := ih hat1 (by rw [length_be_inc, hiv]) (X := X.drop ctx0.info.block_size)
      (by simp [hX, Nat.succ_mul])
    refine ⟨ctx', ?_, by rwa [Function.iterate_succ_apply]⟩
    rw [hblk]
    rw [hu, ctr_keystream, ← List.take_append_drop ctx0.info.block_size X, xor_bytes, xor_bytes,
      xor_bytes, List.zipWith_append _ _ _ _ _ (by simp [hE]; omega), List.take_append_drop]

/-- **`cipher_encrypt` / `cipher_decrypt` on whole blocks**: CTR from the counter
block, all of it written by the `update`, so no `finish` runs. -/
theorem cipher_crypt_ctr_aligned (hB : B.Lawful)
    (hinfo : mbedtls_cipher_info_from_type ctx0.info.type = some ctx0.info)
    (operation : mbedtls_operation_t) {cipher : ssh_cipher_struct} (hc : cipher.ctx operation = some ctx)
    (hat : CtxAt ctx0 iv ctx) (hmode : ctx0.info.mode = .MBEDTLS_MODE_CTR)
    (hbs : 0 < ctx0.info.block_size) (hiv : iv.length = ctx0.info.block_size)
    (hX : X.length = k * ctx0.info.block_size) :
    ∃ ctx', cipher_crypt B operation cipher X =
        (cipher.with_ctx operation ctx', xor_bytes X (ctr_keystream B ctx0 k iv)) ∧
      CtxAt ctx0 (be_inc^[k] iv) ctx' := by
  obtain ⟨ctx', hu, hat'⟩ := ctr_update_aligned hB hinfo hat hbs hiv hX
  refine ⟨ctx', ?_, hat'⟩
  have hlen : (xor_bytes X (ctr_keystream B ctx0 k iv)).length = X.length := by
    rw [length_xor_bytes, length_ctr_keystream hB _ hinfo _ _ hiv, hX, Nat.min_self]
  simp [cipher_crypt, mbedtls_cipher_update, hc, hat.info, hmode, hu, hlen]

end Ctr

/-! ## Key setup with a lawful backend -/

section Setup

variable {B : Backend} {cipher : ssh_cipher_struct} {info : mbedtls_cipher_info_t}

/-- What mbedTLS's table gives for a type: a description of that type, a
nonzero block size, and, outside GCM, an IV of one block. -/
theorem mbedtls_cipher_info_from_type_spec {t : mbedtls_cipher_type_t}
    (h : mbedtls_cipher_info_from_type t = some info) :
    info.type = t ∧ 0 < info.block_size ∧ (info.mode ≠ .MBEDTLS_MODE_GCM → info.iv_size = info.block_size) := by
  cases t <;> simp only [mbedtls_cipher_info_from_type, reduceCtorEq, Option.some.injEq] at h <;>
    subst h <;> decide

/-- The context a key setup leaves when every mbedTLS call succeeds: the
cipher's description, the first `key_bitlen / 8` key bytes, the operation, the
padding setting, the first `iv_size` IV bytes, and nothing cached. -/
def keyed_context (info : mbedtls_cipher_info_t) (operation : mbedtls_operation_t)
    (padding_none : Bool) (key IV : Bytes) : mbedtls_cipher_context_t :=
  ⟨info, key.take (info.key_bitlen / 8), operation, padding_none, IV.take info.iv_size, [], 0⟩

@[simp] theorem keyed_context_info (info : mbedtls_cipher_info_t) (operation : mbedtls_operation_t)
    (padding_none : Bool) (key IV : Bytes) :
    (keyed_context info operation padding_none key IV).info = info := rfl

/-- A freshly keyed context is at its IV, keyed like itself. -/
theorem keyed_context_at (info : mbedtls_cipher_info_t) (operation : mbedtls_operation_t)
    (padding_none : Bool) (key IV : Bytes) :
    CtxAt (keyed_context info operation padding_none key IV) (IV.take info.iv_size)
      (keyed_context info operation padding_none key IV) :=
  ⟨rfl, rfl, rfl, rfl, rfl, rfl⟩

/-- With every setup call succeeding, `cipher_init` gives a context for the
entry's cipher, keyed for the operation and at the IV, with nothing cached. -/
theorem cipher_init_lawful (hS : B.SetupSucceeds) (hinfo : mbedtls_cipher_info_from_type cipher.type = some info)
    (operation : mbedtls_operation_t) (key IV : Bytes) :
    cipher_init B cipher operation key IV =
      some (keyed_context info operation false key IV) := by
  simp [cipher_init, hinfo, mbedtls_cipher_setup, mbedtls_cipher_setkey, mbedtls_cipher_set_iv,
    hS _, keyed_context]

theorem cipher_set_encrypt_key_lawful (hS : B.SetupSucceeds)
    (hinfo : mbedtls_cipher_info_from_type cipher.type = some info) (key IV : Bytes) :
    cipher_set_encrypt_key B cipher key IV =
      (SSH_OK, { cipher with encrypt_ctx := some (keyed_context info .MBEDTLS_ENCRYPT false key IV) }) := by
  simp [cipher_set_encrypt_key, cipher_init_lawful hS hinfo, mbedtls_cipher_reset_setup,
    mbedtls_cipher_reset, hS _, keyed_context]

theorem cipher_set_decrypt_key_lawful (hS : B.SetupSucceeds)
    (hinfo : mbedtls_cipher_info_from_type cipher.type = some info) (key IV : Bytes) :
    cipher_set_decrypt_key B cipher key IV =
      (SSH_OK, { cipher with decrypt_ctx := some (keyed_context info .MBEDTLS_DECRYPT false key IV) }) := by
  simp [cipher_set_decrypt_key, cipher_init_lawful hS hinfo, mbedtls_cipher_reset_setup,
    mbedtls_cipher_reset, hS _, keyed_context]

theorem cipher_set_encrypt_key_cbc_lawful (hS : B.SetupSucceeds)
    (hinfo : mbedtls_cipher_info_from_type cipher.type = some info) (key IV : Bytes) :
    cipher_set_encrypt_key_cbc B cipher key IV =
      (SSH_OK, { cipher with encrypt_ctx := some (keyed_context info .MBEDTLS_ENCRYPT true key IV) }) := by
  simp [cipher_set_encrypt_key_cbc, cipher_init_lawful hS hinfo, mbedtls_cipher_set_padding_none,
    mbedtls_cipher_reset_setup, mbedtls_cipher_reset, hS _, keyed_context]

theorem cipher_set_decrypt_key_cbc_lawful (hS : B.SetupSucceeds)
    (hinfo : mbedtls_cipher_info_from_type cipher.type = some info) (key IV : Bytes) :
    cipher_set_decrypt_key_cbc B cipher key IV =
      (SSH_OK, { cipher with decrypt_ctx := some (keyed_context info .MBEDTLS_DECRYPT true key IV) }) := by
  simp [cipher_set_decrypt_key_cbc, cipher_init_lawful hS hinfo, mbedtls_cipher_set_padding_none,
    mbedtls_cipher_reset_setup, mbedtls_cipher_reset, hS _, keyed_context]

end Setup

/-! ## Sessions -/

/-- A session's calls of one hook on successive chunks of a stream, as the
packet layer makes them: the session after, and what each call wrote. -/
def crypt_run (f : ssh_cipher_struct → Bytes → ssh_cipher_struct × Bytes) :
    ssh_cipher_struct → List Bytes → ssh_cipher_struct × List Bytes
  | s, [] => (s, [])
  | s, c :: cs => ((crypt_run f (f s c).1 cs).1, (f s c).2 :: (crypt_run f (f s c).1 cs).2)

section Run

variable {σ : Type} {f : ssh_cipher_struct → Bytes → ssh_cipher_struct × Bytes}
  {T : σ → Bytes → Bytes × σ} {I : σ → ssh_cipher_struct → Prop} {bs : Nat}

/-- **Run lemma.** Let each call on a block-aligned chunk write what a stream
transformation `T` writes from the abstract state `a` the session is at, as
many bytes as it reads, and leave the session at the state `T` leaves; and let
`T` over a concatenation be `T` over the parts in turn. Then the calls over any
block-aligned chunking write `T` of the whole stream, one chunk's length each. -/
theorem crypt_run_stream
    (hT0 : ∀ a, T a [] = ([], a))
    (hT : ∀ a s X Y, I a s → bs ∣ X.length →
      T a (X ++ Y) = ((T a X).1 ++ (T (T a X).2 Y).1, (T (T a X).2 Y).2))
    (hf : ∀ a s X, I a s → bs ∣ X.length →
      (f s X).2 = (T a X).1 ∧ (T a X).1.length = X.length ∧ I (T a X).2 (f s X).1)
    (a : σ) (s : ssh_cipher_struct) (cs : List Bytes) (hs : I a s) (hcs : ∀ c ∈ cs, bs ∣ c.length) :
    (crypt_run f s cs).2.flatten = (T a cs.flatten).1 ∧
      (crypt_run f s cs).2.map List.length = cs.map List.length ∧
      I (T a cs.flatten).2 (crypt_run f s cs).1 := by
  induction cs generalizing a s with
  | nil => simp [crypt_run, hT0, hs]
  | cons c cs ih =>
    have hc : bs ∣ c.length := hcs c (List.mem_cons_self c cs)
    obtain ⟨hout, hlen, hinv⟩ := hf a s c hs hc
    obtain ⟨h1, h2, h3⟩ := ih (T a c).2 (f s c).1 hinv fun d hd => hcs d (List.mem_cons_of_mem c hd)
    simp only [crypt_run, List.flatten_cons, List.map_cons, hT a s c _ hs hc, hout, hlen, h1, h2, h3,
      and_self]

end Run

theorem dvd_length_flatten {bs : Nat} {cs : List Bytes} (h : ∀ c ∈ cs, bs ∣ c.length) :
    bs ∣ cs.flatten.length := by
  rw [List.length_flatten]
  exact List.dvd_sum fun n hn => by
    obtain ⟨c, hc, rfl⟩ := List.mem_map.mp hn
    exact h c hc

/-! ## Block-mode sessions -/

section Session

variable {B : Backend} {ctx : mbedtls_cipher_context_t} {iv : Bytes}

@[simp] theorem ssh_cipher_struct.ctx_with_ctx (cipher : ssh_cipher_struct) (operation : mbedtls_operation_t)
    (c : mbedtls_cipher_context_t) : (cipher.with_ctx operation c).ctx operation = some c := by
  cases operation <;> rfl

@[simp] theorem length_iterate_be_inc (m : Nat) (nc : Bytes) : (be_inc^[m] nc).length = nc.length := by
  induction m generalizing nc with
  | zero => rfl
  | succ m ih => rw [Function.iterate_succ_apply, ih, length_be_inc]

theorem ctr_keystream_congr (ctx ctx' : mbedtls_cipher_context_t) (hi : ctx.info = ctx'.info)
    (hk : ctx.key = ctx'.key) : ctr_keystream B ctx = ctr_keystream B ctx' := by
  funext m
  induction m with
  | zero => rfl
  | succ m ih => funext nc; simp [ctr_keystream, hi, hk, ih]

/-- CBC over a concatenation of block-aligned streams, each taken whole. -/
theorem cbc_blocks_stream_append (ctx0 : mbedtls_cipher_context_t) (chain X Y : Bytes)
    (hX : ctx0.info.block_size ∣ X.length) :
    cbc_blocks B ctx0 ((X ++ Y).length / ctx0.info.block_size) chain (X ++ Y) =
      let r := cbc_blocks B ctx0 (X.length / ctx0.info.block_size) chain X
      (r.1 ++ (cbc_blocks B ctx0 (Y.length / ctx0.info.block_size) r.2 Y).1,
        (cbc_blocks B ctx0 (Y.length / ctx0.info.block_size) r.2 Y).2) := by
  rw [List.length_append, Nat.add_div_of_dvd_right hX]
  exact cbc_blocks_append B ctx0 _ _ chain X Y (Nat.div_mul_cancel hX).symm

/-- **A CBC sender over any block-aligned chunking** writes the CBC encryption
of the whole stream, one chunk's length per call. -/
theorem cipher_encrypt_cbc_run (ctx0 : mbedtls_cipher_context_t) (hB : B.Lawful)
    (hinfo : mbedtls_cipher_info_from_type ctx0.info.type = some ctx0.info)
    (hmode : ctx0.info.mode = .MBEDTLS_MODE_CBC) (hE : ctx0.operation = .MBEDTLS_ENCRYPT)
    {s : ssh_cipher_struct} (hc : s.encrypt_ctx = some ctx) (hat : CtxAt ctx0 iv ctx)
    (hiv : iv.length = ctx0.info.block_size) (cs : List Bytes)
    (hcs : ∀ c ∈ cs, ctx0.info.block_size ∣ c.length) :
    (crypt_run (cipher_encrypt_cbc B) s cs).2.flatten =
        (cbc_blocks B ctx0 (cs.flatten.length / ctx0.info.block_size) iv cs.flatten).1 ∧
      (crypt_run (cipher_encrypt_cbc B) s cs).2.map List.length = cs.map List.length := by
  have hbs := (mbedtls_cipher_info_from_type_spec hinfo).2.1
  obtain ⟨h1, h2, -⟩ := crypt_run_stream (f := cipher_encrypt_cbc B)
    (T := fun chain X => cbc_blocks B ctx0 (X.length / ctx0.info.block_size) chain X)
    (I := fun chain s => (∃ ctx, s.encrypt_ctx = some ctx ∧ CtxAt ctx0 chain ctx) ∧
      chain.length = ctx0.info.block_size)
    (fun _ => by simp [cbc_blocks]) (fun a _ X Y _ hX => cbc_blocks_stream_append ctx0 a X Y hX)
    (fun a s X ⟨⟨ctx, hc, hat⟩, ha⟩ hX => by
      have hX' := (Nat.div_mul_cancel hX).symm
      obtain ⟨ctx', he, hat'⟩ := cipher_encrypt_cbc_aligned hc hat hmode hE hbs hX'
      obtain ⟨hl1, hl2⟩ := cbc_blocks_encrypt_length hB _ hinfo hE _ a X ha hX'
      exact ⟨by rw [he], by rw [hl1, ← hX'], ⟨ctx', by rw [he], hat'⟩, hl2⟩)
    iv s cs ⟨⟨ctx, hc, hat⟩, hiv⟩ hcs
  exact ⟨h1, h2⟩

/-- **A CBC receiver over any block-aligned chunking**, under either buffering
behaviour, writes the CBC decryption of the whole stream, one chunk's length
per call. -/
theorem cipher_decrypt_cbc_run (ctx0 : mbedtls_cipher_context_t) (hB : B.Lawful)
    (hinfo : mbedtls_cipher_info_from_type ctx0.info.type = some ctx0.info)
    (hmode : ctx0.info.mode = .MBEDTLS_MODE_CBC) (hD : ctx0.operation = .MBEDTLS_DECRYPT)
    (hpn : ctx0.padding_none = true)
    {s : ssh_cipher_struct} (hc : s.decrypt_ctx = some ctx) (hat : CtxAt ctx0 iv ctx)
    (hiv : iv.length = ctx0.info.block_size) (cs : List Bytes)
    (hcs : ∀ c ∈ cs, ctx0.info.block_size ∣ c.length) :
    (crypt_run (cipher_decrypt_cbc B) s cs).2.flatten =
        (cbc_blocks B ctx0 (cs.flatten.length / ctx0.info.block_size) iv cs.flatten).1 ∧
      (crypt_run (cipher_decrypt_cbc B) s cs).2.map List.length = cs.map List.length := by
  have hbs := (mbedtls_cipher_info_from_type_spec hinfo).2.1
  obtain ⟨h1, h2, -⟩ := crypt_run_stream (f := cipher_decrypt_cbc B)
    (T := fun chain X => cbc_blocks B ctx0 (X.length / ctx0.info.block_size) chain X)
    (I := fun chain s => (∃ ctx, s.decrypt_ctx = some ctx ∧ CtxAt ctx0 chain ctx) ∧
      chain.length = ctx0.info.block_size)
    (fun _ => by simp [cbc_blocks]) (fun a _ X Y _ hX => cbc_blocks_stream_append ctx0 a X Y hX)
    (fun a s X ⟨⟨ctx, hc, hat⟩, ha⟩ hX => by
      have hX' := (Nat.div_mul_cancel hX).symm
      obtain ⟨ctx', he, hat'⟩ := cipher_decrypt_cbc_aligned hB hinfo hc hat hmode hD hpn hbs ha hX'
      obtain ⟨hl1, hl2⟩ := cbc_blocks_decrypt_length hB hinfo hD _ a X ha hX'
      exact ⟨by rw [he], by rw [hl1, ← hX'], ⟨ctx', by rw [he], hat'⟩, hl2⟩)
    iv s cs ⟨⟨ctx, hc, hat⟩, hiv⟩ hcs
  exact ⟨h1, h2⟩

/-- **A CTR session over any block-aligned chunking**, in either direction,
XORs the whole stream with the keystream from the counter block, one chunk's
length per call. -/
theorem cipher_crypt_ctr_run (ctx0 : mbedtls_cipher_context_t) (hB : B.Lawful)
    (hinfo : mbedtls_cipher_info_from_type ctx0.info.type = some ctx0.info)
    (hmode : ctx0.info.mode = .MBEDTLS_MODE_CTR) (operation : mbedtls_operation_t)
    {s : ssh_cipher_struct} (hc : s.ctx operation = some ctx) (hat : CtxAt ctx0 iv ctx)
    (hiv : iv.length = ctx0.info.block_size) (cs : List Bytes)
    (hcs : ∀ c ∈ cs, ctx0.info.block_size ∣ c.length) :
    (crypt_run (cipher_crypt B operation) s cs).2.flatten =
        xor_bytes cs.flatten (ctr_keystream B ctx0 (cs.flatten.length / ctx0.info.block_size) iv) ∧
      (crypt_run (cipher_crypt B operation) s cs).2.map List.length = cs.map List.length := by
  have hbs := (mbedtls_cipher_info_from_type_spec hinfo).2.1
  have hks : ∀ a X : Bytes, a.length = ctx0.info.block_size → ctx0.info.block_size ∣ X.length →
      (ctr_keystream B ctx0 (X.length / ctx0.info.block_size) a).length = X.length := fun a X ha hX => by
    rw [length_ctr_keystream hB _ hinfo _ _ ha, Nat.div_mul_cancel hX]
  obtain ⟨h1, h2, -⟩ := crypt_run_stream (f := cipher_crypt B operation)
    (T := fun nc X => (xor_bytes X (ctr_keystream B ctx0 (X.length / ctx0.info.block_size) nc),
      be_inc^[X.length / ctx0.info.block_size] nc))
    (I := fun nc s => (∃ ctx, s.ctx operation = some ctx ∧ CtxAt ctx0 nc ctx) ∧
      nc.length = ctx0.info.block_size)
    (fun _ => by simp [xor_bytes])
    (fun a _ X Y ⟨_, ha⟩ hX => by
      simp only [List.length_append, Nat.add_div_of_dvd_right hX, ctr_keystream_add, xor_bytes]
      rw [List.zipWith_append _ _ _ _ _ (hks a X ha hX).symm, Nat.add_comm, Function.iterate_add_apply])
    (fun a s X ⟨⟨ctx, hc, hat⟩, ha⟩ hX => by
      obtain ⟨ctx', he, hat'⟩ :=
        cipher_crypt_ctr_aligned hB hinfo operation hc hat hmode hbs ha (Nat.div_mul_cancel hX).symm
      refine ⟨by rw [he], by rw [length_xor_bytes, hks a X ha hX, Nat.min_self], ⟨ctx', ?_, hat'⟩, ?_⟩
      · rw [he, ssh_cipher_struct.ctx_with_ctx]
      · rw [length_iterate_be_inc, ha])
    iv s cs ⟨⟨ctx, hc, hat⟩, hiv⟩ hcs
  exact ⟨h1, h2⟩

end Session

section Roundtrip

variable {B : Backend} {cipher : ssh_cipher_struct} {info : mbedtls_cipher_info_t}

/-- A CBC sender alone writes, at every call on a block-aligned chunk, as many
bytes as it reads. -/
theorem cbc_session_encrypt_length (hB : B.Lawful) (hS : B.SetupSucceeds)
    (hinfo : mbedtls_cipher_info_from_type cipher.type = some info)
    (hmode : info.mode = .MBEDTLS_MODE_CBC) (key IV : Bytes) (hIV : info.iv_size ≤ IV.length)
    (cs : List Bytes) (hcs : ∀ c ∈ cs, info.block_size ∣ c.length) :
    (crypt_run (cipher_encrypt_cbc B) (cipher_set_encrypt_key_cbc B cipher key IV).2 cs).2.map
      List.length = cs.map List.length := by
  obtain ⟨hty, -, hivs⟩ := mbedtls_cipher_info_from_type_spec hinfo
  exact (cipher_encrypt_cbc_run (keyed_context info .MBEDTLS_ENCRYPT true key IV) hB
    (hty ▸ hinfo) hmode rfl (by rw [cipher_set_encrypt_key_cbc_lawful hS hinfo]) (keyed_context_at ..)
    (by rw [List.length_take, Nat.min_eq_left hIV, hivs (by rw [hmode]; decide)]; rfl) cs hcs).2

/-- A CTR sender alone writes, at every call on a block-aligned chunk, as many
bytes as it reads. -/
theorem ctr_session_encrypt_length (hB : B.Lawful) (hS : B.SetupSucceeds)
    (hinfo : mbedtls_cipher_info_from_type cipher.type = some info)
    (hmode : info.mode = .MBEDTLS_MODE_CTR) (key IV : Bytes) (hIV : info.iv_size ≤ IV.length)
    (cs : List Bytes) (hcs : ∀ c ∈ cs, info.block_size ∣ c.length) :
    (crypt_run (cipher_encrypt B) (cipher_set_encrypt_key B cipher key IV).2 cs).2.map
      List.length = cs.map List.length := by
  obtain ⟨hty, -, hivs⟩ := mbedtls_cipher_info_from_type_spec hinfo
  exact (cipher_crypt_ctr_run (keyed_context info .MBEDTLS_ENCRYPT false key IV) hB
    (hty ▸ hinfo) hmode .MBEDTLS_ENCRYPT (by rw [cipher_set_encrypt_key_lawful hS hinfo]; rfl)
    (keyed_context_at ..) (by rw [List.length_take, Nat.min_eq_left hIV, hivs (by rw [hmode]; decide)]; rfl)
    cs hcs).2

/-- **A CBC session round trip.** A sender and a receiver keyed with the same
key and IV: over any block-aligned chunking of the stream, and any
block-aligned cutting of the ciphertext for the receiver, under either
buffering behaviour of the backend, the receiver writes the stream back, and
every call writes as many bytes as it reads. -/
theorem cbc_session_roundtrip (hB : B.Lawful) (hS : B.SetupSucceeds)
    (hinfo : mbedtls_cipher_info_from_type cipher.type = some info)
    (hmode : info.mode = .MBEDTLS_MODE_CBC) (key IV : Bytes) (hIV : info.iv_size ≤ IV.length)
    (cs ds : List Bytes) (hcs : ∀ c ∈ cs, info.block_size ∣ c.length)
    (hds : ∀ d ∈ ds, info.block_size ∣ d.length)
    (hcut : ds.flatten =
      (crypt_run (cipher_encrypt_cbc B) (cipher_set_encrypt_key_cbc B cipher key IV).2 cs).2.flatten) :
    (crypt_run (cipher_decrypt_cbc B) (cipher_set_decrypt_key_cbc B cipher key IV).2 ds).2.flatten =
        cs.flatten ∧
      (crypt_run (cipher_encrypt_cbc B) (cipher_set_encrypt_key_cbc B cipher key IV).2 cs).2.map
        List.length = cs.map List.length ∧
      (crypt_run (cipher_decrypt_cbc B) (cipher_set_decrypt_key_cbc B cipher key IV).2 ds).2.map
        List.length = ds.map List.length := by
  obtain ⟨hty, hbs, hivs⟩ := mbedtls_cipher_info_from_type_spec hinfo
  have hinfo' : mbedtls_cipher_info_from_type info.type = some info := hty ▸ hinfo
  have hiv : (IV.take info.iv_size).length = info.block_size := by
    rw [List.length_take, Nat.min_eq_left hIV, hivs (by rw [hmode]; decide)]
  obtain ⟨hE1, hE2⟩ := cipher_encrypt_cbc_run (keyed_context info .MBEDTLS_ENCRYPT true key IV) hB
    (s := (cipher_set_encrypt_key_cbc B cipher key IV).2) hinfo' hmode rfl
    (by rw [cipher_set_encrypt_key_cbc_lawful hS hinfo]) (keyed_context_at ..) hiv cs hcs
  obtain ⟨hD1, hD2⟩ := cipher_decrypt_cbc_run (keyed_context info .MBEDTLS_DECRYPT true key IV) hB
    (s := (cipher_set_decrypt_key_cbc B cipher key IV).2) hinfo' hmode rfl rfl
    (by rw [cipher_set_decrypt_key_cbc_lawful hS hinfo]) (keyed_context_at ..) hiv ds hds
  refine ⟨?_, hE2, hD2⟩
  have hP := (Nat.div_mul_cancel (dvd_length_flatten hcs)).symm
  have hC := (cbc_blocks_encrypt_length hB (keyed_context info .MBEDTLS_ENCRYPT true key IV)
    hinfo' rfl _ _ _ hiv hP).1
  simp only [keyed_context_info] at hD1 hE1 hC
  rw [hD1, hcut, hE1, hC, Nat.mul_div_cancel _ hbs]
  exact congrArg Prod.fst (cbc_blocks_decrypt_encrypt hB (keyed_context info .MBEDTLS_ENCRYPT true key IV)
    (keyed_context info .MBEDTLS_DECRYPT true key IV) hinfo' rfl rfl rfl rfl _ _ _ hiv hP)

/-- **A CTR session round trip**, as `cbc_session_roundtrip` for the CTR
hooks: the receiver XORs the same keystream off again. -/
theorem ctr_session_roundtrip (hB : B.Lawful) (hS : B.SetupSucceeds)
    (hinfo : mbedtls_cipher_info_from_type cipher.type = some info)
    (hmode : info.mode = .MBEDTLS_MODE_CTR) (key IV : Bytes) (hIV : info.iv_size ≤ IV.length)
    (cs ds : List Bytes) (hcs : ∀ c ∈ cs, info.block_size ∣ c.length)
    (hds : ∀ d ∈ ds, info.block_size ∣ d.length)
    (hcut : ds.flatten =
      (crypt_run (cipher_encrypt B) (cipher_set_encrypt_key B cipher key IV).2 cs).2.flatten) :
    (crypt_run (cipher_decrypt B) (cipher_set_decrypt_key B cipher key IV).2 ds).2.flatten =
        cs.flatten ∧
      (crypt_run (cipher_encrypt B) (cipher_set_encrypt_key B cipher key IV).2 cs).2.map
        List.length = cs.map List.length ∧
      (crypt_run (cipher_decrypt B) (cipher_set_decrypt_key B cipher key IV).2 ds).2.map
        List.length = ds.map List.length := by
  obtain ⟨hty, hbs, hivs⟩ := mbedtls_cipher_info_from_type_spec hinfo
  have hinfo' : mbedtls_cipher_info_from_type info.type = some info := hty ▸ hinfo
  have hiv : (IV.take info.iv_size).length = info.block_size := by
    rw [List.length_take, Nat.min_eq_left hIV, hivs (by rw [hmode]; decide)]
  obtain ⟨hE1, hE2⟩ := cipher_crypt_ctr_run (keyed_context info .MBEDTLS_ENCRYPT false key IV) hB
    (s := (cipher_set_encrypt_key B cipher key IV).2) hinfo' hmode .MBEDTLS_ENCRYPT
    (by rw [cipher_set_encrypt_key_lawful hS hinfo]; rfl) (keyed_context_at ..) hiv cs hcs
  obtain ⟨hD1, hD2⟩ := cipher_crypt_ctr_run (keyed_context info .MBEDTLS_DECRYPT false key IV) hB
    (s := (cipher_set_decrypt_key B cipher key IV).2) hinfo' hmode .MBEDTLS_DECRYPT
    (by rw [cipher_set_decrypt_key_lawful hS hinfo]; rfl) (keyed_context_at ..) hiv ds hds
  refine ⟨?_, hE2, hD2⟩
  have hP := (Nat.div_mul_cancel (dvd_length_flatten hcs)).symm
  have hK := length_ctr_keystream hB (keyed_context info .MBEDTLS_ENCRYPT false key IV) hinfo'
    (cs.flatten.length / info.block_size) _ hiv
  simp only [keyed_context_info] at hD1 hE1 hK
  have hC : (xor_bytes cs.flatten (ctr_keystream B (keyed_context info .MBEDTLS_ENCRYPT false key IV)
      (cs.flatten.length / info.block_size) (IV.take info.iv_size))).length = cs.flatten.length := by
    rw [length_xor_bytes, hK, ← hP, Nat.min_self]
  simp only [cipher_encrypt, cipher_decrypt] at hcut ⊢
  rw [hD1, hcut, hE1, hC, ctr_keystream_congr (keyed_context info .MBEDTLS_DECRYPT false key IV)
    (keyed_context info .MBEDTLS_ENCRYPT false key IV) rfl rfl,
    xor_bytes_xor_bytes _ _ (by rw [hK, ← hP])]

end Roundtrip

end Libssh
