import Libssh.Cipher.Table

/-!
The block entries of `ssh_ciphertab` over chunks of any length. The packet
layer hands `encrypt` and `decrypt` whole blocks, and `Cipher.Table`'s
`block_session_roundtrip` asks it; here nothing is asked of the chunks.

A CBC context caches what its `mbedtls_cipher_update` cannot process yet.
`cbc_update_stream` gives what one `update` does from any cache shorter than a
block, under either buffering behaviour of the backend: it processes the
complete blocks of the cached bytes followed by the input, one fewer when the
backend holds the last block back. `cipher_decrypt_cbc_stream` shows that the
hook's three-way branch after the `update` makes the two behaviours agree on
every input, not only on whole blocks: both hooks compute `cbc_stream`, CBC over
the complete blocks with the rest cached, which composes over a concatenation
(`cbc_stream_append`); `cbc_stream_run` carries it over a run of calls.

A CTR context keeps its place in the keystream between calls (the counter
block, the keystream block and the offset into it): `ctr_update_append` says
that the byte loop over `X ++ Y` is the loop over `X` and then over `Y` from
where it stopped, `ctr_update_ctr_update` that running it twice from one
context gives the input back, and `ctr_update_congr` that it does not read the
operation the context was keyed for.

The sessions over the table: `cbc_session_any_chunking` (the receiver writes
back every complete block of the stream) and `ctr_session_any_chunking` (the
receiver writes back the whole stream), both ending with the two contexts at
the same place. `cipher_decrypt_cbc_behaviours_agree` says that no chunking of
the ciphertext tells the two buffering behaviours of the backend apart.
-/

set_option autoImplicit false

namespace Libssh

/-! ## 1. CBC `update` from any cache -/

section CbcUpdate

variable {B : Backend}

/-- `n` blocks read only the first `n` blocks of their input. -/
theorem cbc_blocks_take (ctx : mbedtls_cipher_context_t) (n : Nat) (iv X : Bytes) {m : Nat}
    (hm : n * ctx.info.block_size ≤ m) :
    cbc_blocks B ctx n iv (X.take m) = cbc_blocks B ctx n iv X := by
  induction n generalizing iv X m with
  | zero => rfl
  | succ n ih =>
    have hle : ctx.info.block_size ≤ m := by rw [Nat.succ_mul] at hm; omega
    simp only [cbc_blocks, List.take_take, Nat.min_eq_left hle, List.drop_take]
    rw [ih _ _ (by rw [Nat.succ_mul] at hm; omega)]

/-- The number of blocks `update` processes out of `len` bytes, cached and
given: every complete one, but with `hold` one fewer when they end on a block
boundary. -/
def cbc_update_count (hold : Bool) (bs len : Nat) : Nat :=
  if hold = true ∧ len ≠ 0 ∧ len % bs = 0 then len / bs - 1 else len / bs

/-- What `update` leaves uncached of the bytes after the first block, `len` of
them: all but the `copy_len` it caches, which is `cbc_update_count` blocks. -/
theorem cbc_update_count_mul (hold : Bool) {bs : Nat} (hbs : 0 < bs) (len : Nat) :
    len - (if len = 0 then 0 else if (decide (len % bs = 0) && hold) = true then bs else len % bs) =
      cbc_update_count hold bs len * bs := by
  have hdiv := Nat.div_add_mod len bs
  unfold cbc_update_count
  by_cases h0 : len = 0
  · simp [h0]
  cases hold <;> by_cases hm : len % bs = 0 <;> simp [h0, hm]
  · rw [Nat.mul_comm]; omega
  · rw [Nat.mul_comm]; omega
  · have h1 : bs ≤ bs * (len / bs) := Nat.le_mul_of_pos_right _
      (Nat.div_pos (Nat.le_of_dvd (Nat.pos_of_ne_zero h0) (Nat.dvd_of_mod_eq_zero hm)) hbs)
    rw [Nat.sub_mul, one_mul, Nat.mul_comm]; omega
  · rw [Nat.mul_comm]; omega

/-- A block more, processed first, is one more in the count, unless it is all
there is and `update` holds it back. -/
theorem cbc_update_count_add (hold : Bool) {bs : Nat} (hbs : 0 < bs) {len : Nat}
    (h : len ≠ 0 ∨ hold = false) :
    cbc_update_count hold bs (len + bs) = cbc_update_count hold bs len + 1 := by
  have hdiv := Nat.add_div_right len hbs
  have hmod : (len + bs) % bs = len % bs := Nat.add_mod_right len bs
  unfold cbc_update_count
  cases hold <;> by_cases hm : len % bs = 0 <;> simp_all
  have h1 : 1 ≤ len / bs := Nat.div_pos (Nat.le_of_dvd (Nat.pos_of_ne_zero h) (Nat.dvd_of_mod_eq_zero hm)) hbs
  omega

theorem cbc_update_count_mul_le (hold : Bool) {bs : Nat} (hbs : 0 < bs) (len : Nat) :
    cbc_update_count hold bs len * bs ≤ len := by
  rw [← cbc_update_count_mul hold hbs]; omega

/-- Bytes that `update` only caches count no block. -/
theorem cbc_update_count_eq_zero {hold : Bool} {bs len : Nat} (hbs : 0 < bs)
    (h : (hold && decide (len ≤ bs) || !hold && decide (len < bs)) = true) :
    cbc_update_count hold bs len = 0 := by
  unfold cbc_update_count
  cases hold <;> simp only [Bool.true_and, Bool.false_and, Bool.not_true, Bool.not_false, Bool.or_false,
    Bool.false_or, decide_eq_true_eq] at h
  · simp [Nat.div_eq_of_lt h]
  · rcases h.lt_or_eq with h | rfl
    · simp [Nat.div_eq_of_lt h]
    · simp [Nat.div_self hbs, hbs.ne']

/-- What `cbc_update_count` processes, read back as a count of whole blocks:
all of them unless `update` held the last one. -/
theorem cbc_update_count_of_not_held {hold : Bool} {bs len : Nat}
    (h : ¬(hold = true ∧ len ≠ 0 ∧ len % bs = 0)) : cbc_update_count hold bs len = len / bs := by
  simp [cbc_update_count, h]

/-- The blocks `update` processes after the first: those before the bytes it
caches. -/
theorem cbc_blocks_rest (ctx0 : mbedtls_cipher_context_t) (hold : Bool) (hbs : 0 < ctx0.info.block_size)
    (iv R : Bytes) :
    cbc_blocks B ctx0 ((R.take (R.length - (if R.length = 0 then 0
        else if (decide (R.length % ctx0.info.block_size = 0) && hold) = true then ctx0.info.block_size
        else R.length % ctx0.info.block_size))).length / ctx0.info.block_size) iv
        (R.take (R.length - (if R.length = 0 then 0
          else if (decide (R.length % ctx0.info.block_size = 0) && hold) = true then ctx0.info.block_size
          else R.length % ctx0.info.block_size))) =
      cbc_blocks B ctx0 (cbc_update_count hold ctx0.info.block_size R.length) iv R := by
  rw [cbc_update_count_mul hold hbs, List.length_take,
    Nat.min_eq_left (cbc_update_count_mul_le hold hbs _), Nat.mul_div_cancel _ hbs,
    cbc_blocks_take _ _ _ _ le_rfl]

/-- The bytes `update` caches after the blocks it processes. -/
theorem cbc_update_cached (hold : Bool) {bs : Nat} (hbs : 0 < bs) (R : Bytes) :
    (R.drop (R.length - (if R.length = 0 then 0
        else if (decide (R.length % bs = 0) && hold) = true then bs else R.length % bs))).take
      (if R.length = 0 then 0
        else if (decide (R.length % bs = 0) && hold) = true then bs else R.length % bs) =
      R.drop (cbc_update_count hold bs R.length * bs) := by
  have hm := cbc_update_count_mul hold hbs R.length
  rw [List.take_of_length_le (by rw [List.length_drop]; omega), hm]

/-- A CBC context between two calls of a session: keyed like `ctx0`, at
chaining value `iv`, with the bytes `cache` cached. -/
structure CbcAt (ctx0 : mbedtls_cipher_context_t) (iv cache : Bytes) (ctx : mbedtls_cipher_context_t) :
    Prop where
  info : ctx.info = ctx0.info
  key : ctx.key = ctx0.key
  operation : ctx.operation = ctx0.operation
  padding_none : ctx.padding_none = ctx0.padding_none
  iv : ctx.iv = iv
  cache : ctx.unprocessed_data.take ctx.unprocessed_len = cache

variable {ctx0 ctx : mbedtls_cipher_context_t} {iv cache : Bytes}

theorem CbcAt.holds_eq (hat : CbcAt ctx0 iv cache ctx) :
    holds_last_block B ctx = holds_last_block B ctx0 := by
  simp [holds_last_block, hat.operation, hat.padding_none]

theorem CbcAt.blocks_eq (hat : CbcAt ctx0 iv cache ctx) : cbc_blocks B ctx = cbc_blocks B ctx0 :=
  cbc_blocks_congr B hat.info hat.key hat.operation

theorem CbcAt.block_eq (hat : CbcAt ctx0 iv cache ctx) : cbc_block B ctx = cbc_block B ctx0 :=
  cbc_block_congr B hat.info hat.key hat.operation

theorem CbcAt.reset (hat : CbcAt ctx0 iv cache ctx) : CbcAt ctx0 iv [] (mbedtls_cipher_reset ctx) :=
  ⟨hat.info, hat.key, hat.operation, hat.padding_none, hat.iv, by simp [mbedtls_cipher_reset]⟩

/-- **`update` in CBC mode**, from any cache shorter than a block: the blocks
`cbc_update_count` says of the cached bytes followed by the input are
processed from the chaining value, and the rest is cached. -/
theorem cbc_update_stream (hat : CbcAt ctx0 iv cache ctx) (hbs : 0 < ctx0.info.block_size)
    (hcache : cache.length < ctx0.info.block_size) (X : Bytes) :
    ∃ ctx', cbc_update B ctx X =
        (ctx', (cbc_blocks B ctx0 (cbc_update_count (holds_last_block B ctx0) ctx0.info.block_size
          (cache ++ X).length) iv (cache ++ X)).1) ∧
      CbcAt ctx0 (cbc_blocks B ctx0 (cbc_update_count (holds_last_block B ctx0) ctx0.info.block_size
          (cache ++ X).length) iv (cache ++ X)).2
        ((cache ++ X).drop (cbc_update_count (holds_last_block B ctx0) ctx0.info.block_size
          (cache ++ X).length * ctx0.info.block_size)) ctx' := by
  unfold cbc_update
  simp only [hat.cache, hat.info, hat.holds_eq, hat.blocks_eq, hat.block_eq, hat.iv]
  split
  · -- the input does not complete what is cached: it is only cached
    next hA =>
    have h0 : cbc_update_count (holds_last_block B ctx0) ctx0.info.block_size (cache ++ X).length = 0 :=
      cbc_update_count_eq_zero hbs (by
        rw [List.length_append]
        generalize holds_last_block B ctx0 = hold at hA ⊢
        cases hold <;> simp at hA ⊢ <;> omega)
    rw [h0]
    exact ⟨_, rfl, rfl, hat.key, hat.operation, hat.padding_none, rfl, by simp⟩
  · -- the input completes a block
    next hA =>
    have hX : ctx0.info.block_size - cache.length ≤ X.length ∧
        (holds_last_block B ctx0 = true → ctx0.info.block_size - cache.length < X.length) := by
      generalize holds_last_block B ctx0 = hold at hA ⊢
      cases hold <;> simp at hA ⊢ <;> omega
    generalize holds_last_block B ctx0 = hold at hA hX ⊢
    by_cases hc : cache.length = 0
    · obtain rfl : cache = [] := List.eq_nil_of_length_eq_zero hc
      simp only [List.length_nil, ne_eq, not_true_eq_false, if_false, List.nil_append]
      rw [cbc_blocks_rest ctx0 hold hbs]
      exact ⟨_, rfl, rfl, hat.key, hat.operation, hat.padding_none, rfl, cbc_update_cached hold hbs X⟩
    · -- the cached bytes and the first input bytes make the first block
      simp only [ne_eq, hc, not_false_eq_true, if_true]
      rw [cbc_blocks_rest ctx0 hold hbs]
      set R := X.drop (ctx0.info.block_size - cache.length)
      have hR : R.length + ctx0.info.block_size = (cache ++ X).length := by
        simp only [R, List.length_drop, List.length_append]; omega
      have hcount : cbc_update_count hold ctx0.info.block_size (cache ++ X).length =
          cbc_update_count hold ctx0.info.block_size R.length + 1 := by
        rw [← hR]
        refine cbc_update_count_add hold hbs ?_
        cases hold
        · exact .inr rfl
        · exact .inl (by simp only [R, List.length_drop]; have := hX.2 rfl; omega)
      have htake : (cache ++ X).take ctx0.info.block_size =
          cache ++ X.take (ctx0.info.block_size - cache.length) := by
        rw [List.take_append_eq_append_take, List.take_of_length_le hcache.le]
      have hdrop : (cache ++ X).drop ctx0.info.block_size = R := by
        rw [List.drop_append_eq_append_drop, List.drop_of_length_le hcache.le, List.nil_append]
      rw [hcount, Nat.add_mul, Nat.one_mul, Nat.add_comm (_ * _) ctx0.info.block_size, ← List.drop_drop, hdrop]
      simp only [cbc_blocks, htake, hdrop]
      exact ⟨_, rfl, rfl, hat.key, hat.operation, hat.padding_none, rfl, cbc_update_cached hold hbs R⟩

end CbcUpdate

/-! ## 2. CBC over a stream -/

section CbcStream

variable {B : Backend} {ctx0 ctx : mbedtls_cipher_context_t} {iv cache : Bytes}

/-- CBC over a stream, as the two block hooks compute it from a context at
chaining value `iv` with `cache` cached: every complete block of the cached
bytes followed by the input is processed, and the rest cached. The bytes
written, the chaining value after and the cache after. -/
def cbc_stream (B : Backend) (ctx0 : mbedtls_cipher_context_t) (iv cache X : Bytes) : Bytes × Bytes × Bytes :=
  ((cbc_blocks B ctx0 ((cache ++ X).length / ctx0.info.block_size) iv (cache ++ X)).1,
    (cbc_blocks B ctx0 ((cache ++ X).length / ctx0.info.block_size) iv (cache ++ X)).2,
    (cache ++ X).drop ((cache ++ X).length / ctx0.info.block_size * ctx0.info.block_size))

/-- From a cache shorter than a block, no input writes nothing and moves
nothing. -/
theorem cbc_stream_nil (hcache : cache.length < ctx0.info.block_size) :
    cbc_stream B ctx0 iv cache [] = ([], iv, cache) := by
  simp [cbc_stream, Nat.div_eq_of_lt hcache, cbc_blocks]

/-- **CBC over a stream composes**: the stream over `X ++ Y` is the stream over
`X`, then over `Y` from the chaining value and the cache it left. -/
theorem cbc_stream_append (hbs : 0 < ctx0.info.block_size) (iv cache X Y : Bytes) :
    cbc_stream B ctx0 iv cache (X ++ Y) =
      ((cbc_stream B ctx0 iv cache X).1 ++
          (cbc_stream B ctx0 (cbc_stream B ctx0 iv cache X).2.1 (cbc_stream B ctx0 iv cache X).2.2 Y).1,
        (cbc_stream B ctx0 (cbc_stream B ctx0 iv cache X).2.1 (cbc_stream B ctx0 iv cache X).2.2 Y).2) := by
  set bs := ctx0.info.block_size
  set S := cache ++ X
  set n₁ := S.length / bs
  have hle : n₁ * bs ≤ S.length := Nat.div_mul_le_self _ _
  -- the cache after `X`, followed by `Y`, is what follows the first `n₁` blocks
  have hrest : S.drop (n₁ * bs) ++ Y = (S ++ Y).drop (n₁ * bs) := (List.drop_append_of_le_length hle).symm
  have hlen : (S ++ Y).length = n₁ * bs + (S.drop (n₁ * bs) ++ Y).length := by
    simp only [List.length_append, List.length_drop]; omega
  have hcount : (S ++ Y).length / bs = n₁ + (S.drop (n₁ * bs) ++ Y).length / bs := by
    rw [hlen, Nat.add_comm, Nat.add_mul_div_right _ _ hbs, Nat.add_comm]
  have hsplit := cbc_blocks_append B ctx0 n₁ ((S.drop (n₁ * bs) ++ Y).length / bs) iv
    ((S ++ Y).take (n₁ * bs)) ((S ++ Y).drop (n₁ * bs)) (by simp; omega)
  rw [List.take_append_drop, ← hrest, List.take_append_of_le_length hle,
    cbc_blocks_take _ _ _ _ le_rfl] at hsplit
  simp only [cbc_stream, List.append_assoc] at hsplit ⊢
  rw [← List.append_assoc cache X Y, hcount, hsplit, hrest, Nat.add_mul, ← List.drop_drop]

/-- The cache after the stream is less than a block. -/
theorem length_cbc_stream_cache (hbs : 0 < ctx0.info.block_size) (X : Bytes) :
    (cbc_stream B ctx0 iv cache X).2.2.length < ctx0.info.block_size := by
  simp only [cbc_stream, List.length_drop]
  rw [Nat.mul_comm, ← Nat.mod_def]
  exact Nat.mod_lt _ hbs

/-- The chaining value CBC leaves after the complete blocks of any input, from
a chaining value of one block, is one block. -/
theorem length_cbc_stream_iv (hB : B.Lawful) (hinfo : mbedtls_cipher_info_from_type ctx0.info.type = some ctx0.info)
    (hiv : iv.length = ctx0.info.block_size) (X : Bytes) :
    (cbc_stream B ctx0 iv cache X).2.1.length = ctx0.info.block_size := by
  have hle := Nat.div_mul_le_self (cache ++ X).length ctx0.info.block_size
  simp only [cbc_stream]
  rw [← cbc_blocks_take _ _ _ _ le_rfl]
  have htake : ((cache ++ X).take ((cache ++ X).length / ctx0.info.block_size * ctx0.info.block_size)).length =
      (cache ++ X).length / ctx0.info.block_size * ctx0.info.block_size := by
    rw [List.length_take]; exact Nat.min_eq_left hle
  cases hop : ctx0.operation
  · exact (cbc_blocks_decrypt_length hB hinfo hop _ iv _ hiv htake).2
  · exact (cbc_blocks_encrypt_length hB ctx0 hinfo hop _ iv _ hiv htake).2

/-- `finish` of a CBC decryption context caching less than a block: nothing
written when nothing is cached, an error otherwise. -/
theorem cbc_finish_of_lt {c : mbedtls_cipher_context_t} (hD : c.operation = .MBEDTLS_DECRYPT)
    (hpn : c.padding_none = true)
    (hlt : (c.unprocessed_data.take c.unprocessed_len).length < c.info.block_size) :
    cbc_finish B c =
      if (c.unprocessed_data.take c.unprocessed_len).length = 0 then some (c, []) else none := by
  simp only [cbc_finish, hD, hpn, Bool.and_true, decide_eq_true_eq, hlt.ne, if_false]

/-- **`cipher_encrypt_cbc` over any input**: CBC encryption of every complete
block of the cached bytes followed by the input, and the rest cached; an
encryption context never holds a block back. -/
theorem cipher_encrypt_cbc_stream {cipher : ssh_cipher_struct} (hcx : cipher.encrypt_ctx = some ctx)
    (hat : CbcAt ctx0 iv cache ctx) (hmode : ctx0.info.mode = .MBEDTLS_MODE_CBC)
    (hE : ctx0.operation = .MBEDTLS_ENCRYPT) (hbs : 0 < ctx0.info.block_size)
    (hcache : cache.length < ctx0.info.block_size) (X : Bytes) :
    ∃ ctx', cipher_encrypt_cbc B cipher X = ({ cipher with encrypt_ctx := some ctx' }, (cbc_stream B ctx0 iv cache X).1) ∧
      CbcAt ctx0 (cbc_stream B ctx0 iv cache X).2.1 (cbc_stream B ctx0 iv cache X).2.2 ctx' := by
  have hhold : holds_last_block B ctx0 = false := by simp [holds_last_block, hE]
  obtain ⟨c, hu, hc⟩ := cbc_update_stream (B := B) hat hbs hcache X
  rw [hhold, cbc_update_count_of_not_held (by simp)] at hu hc
  exact ⟨c, by simp [cipher_encrypt_cbc, mbedtls_cipher_update, hcx, hat.info, hmode, hu, cbc_stream], hc⟩

/-- **`cipher_decrypt_cbc` over any input**, under either buffering behaviour of
the backend: CBC decryption of every complete block of the cached bytes
followed by the input, and the rest cached. When the backend held the last
block back, the hook's `finish` decrypts it. -/
theorem cipher_decrypt_cbc_stream (hB : B.Lawful)
    (hinfo : mbedtls_cipher_info_from_type ctx0.info.type = some ctx0.info)
    {cipher : ssh_cipher_struct} (hcx : cipher.decrypt_ctx = some ctx) (hat : CbcAt ctx0 iv cache ctx)
    (hmode : ctx0.info.mode = .MBEDTLS_MODE_CBC) (hD : ctx0.operation = .MBEDTLS_DECRYPT)
    (hpn : ctx0.padding_none = true) (hbs : 0 < ctx0.info.block_size) (hiv : iv.length = ctx0.info.block_size)
    (hcache : cache.length < ctx0.info.block_size) (X : Bytes) :
    ∃ ctx', cipher_decrypt_cbc B cipher X = ({ cipher with decrypt_ctx := some ctx' }, (cbc_stream B ctx0 iv cache X).1) ∧
      CbcAt ctx0 (cbc_stream B ctx0 iv cache X).2.1 (cbc_stream B ctx0 iv cache X).2.2 ctx' := by
  unfold cbc_stream
  obtain ⟨c, hu, hc⟩ := cbc_update_stream (B := B) hat hbs hcache X
  set S := cache ++ X
  set bs := ctx0.info.block_size
  set k := cbc_update_count (holds_last_block B ctx0) bs S.length
  have hkS : k * bs ≤ S.length := cbc_update_count_mul_le _ hbs _
  rw [cipher_decrypt_cbc_of_update (c := c) (o := (cbc_blocks B ctx0 k iv S).1)
    (by simp [mbedtls_cipher_update, hcx, hat.info, hmode, hu])]
  have hfin : mbedtls_cipher_finish B (some c) = cbc_finish B c := by
    simp [mbedtls_cipher_finish, hc.info, hmode]
  -- the update wrote `k` blocks
  have hout : (cbc_blocks B ctx0 k iv S).1.length = k * bs := by
    rw [← cbc_blocks_take _ _ _ _ le_rfl]
    exact (cbc_blocks_decrypt_length hB hinfo hD k iv _ hiv (by simp [hkS])).1
  have hD' : c.operation = .MBEDTLS_DECRYPT := hc.operation.trans hD
  have hpn' : c.padding_none = true := hc.padding_none.trans hpn
  by_cases hheld : holds_last_block B ctx0 = true ∧ S.length ≠ 0 ∧ S.length % bs = 0
  · -- the backend held the last block back, and `finish` decrypts it after the others
    obtain ⟨hh, hS0, hSmod⟩ := hheld
    have hSlen : S.length = S.length / bs * bs := (Nat.div_mul_cancel (Nat.dvd_of_mod_eq_zero hSmod)).symm
    have hn : 1 ≤ S.length / bs :=
      Nat.div_pos (Nat.le_of_dvd (Nat.pos_of_ne_zero hS0) (Nat.dvd_of_mod_eq_zero hSmod)) hbs
    have hk : k = S.length / bs - 1 := by simp [k, cbc_update_count, hh, hS0, hSmod]
    rw [hk] at hc hout ⊢
    have hkbs : (S.length / bs - 1) * bs + bs = S.length := by
      rw [Nat.sub_one_mul]; have := Nat.le_mul_of_pos_left bs hn; omega
    have hXlen : S.length = cache.length + X.length := List.length_append _ _
    have hr : (S.drop ((S.length / bs - 1) * bs)).length = bs := by rw [List.length_drop]; omega
    rw [if_neg (by rw [hout]; omega), hfin, cbc_finish_held hD' hpn' (by rw [hc.cache, hc.info, hr]),
      hc.cache, hc.block_eq, hc.iv]
    have hsplit := cbc_blocks_append B ctx0 (S.length / bs - 1) 1 iv (S.take ((S.length / bs - 1) * bs))
      (S.drop ((S.length / bs - 1) * bs)) (by simp; omega)
    rw [List.take_append_drop, Nat.sub_add_cancel hn, cbc_blocks_take _ _ _ _ le_rfl] at hsplit
    rw [hsplit]
    simp only [cbc_blocks, List.take_of_length_le hr.le, List.append_nil]
    refine ⟨_, rfl, hc.info, hc.key, hc.operation, hc.padding_none, rfl, ?_⟩
    simp [mbedtls_cipher_reset, List.drop_of_length_le (le_of_eq hSlen)]
  · -- every complete block was written; `finish` writes nothing, or fails on a partial block
    have hk : k = S.length / bs := cbc_update_count_of_not_held hheld
    rw [hk] at hc hout ⊢
    have hlt : (S.drop (S.length / bs * bs)).length < bs := by
      rw [List.length_drop, Nat.mul_comm, ← Nat.mod_def]; exact Nat.mod_lt _ hbs
    have hcached : (c.unprocessed_data.take c.unprocessed_len).length < c.info.block_size := by
      rw [hc.cache, hc.info]; exact hlt
    by_cases hbranch : (cbc_blocks B ctx0 (S.length / bs) iv S).1.length = X.length ∧
        (cbc_blocks B ctx0 (S.length / bs) iv S).1.length ≠ 0
    · rw [if_pos hbranch]; exact ⟨c, rfl, hc⟩
    rw [if_neg hbranch, hfin, cbc_finish_of_lt hD' hpn' hcached, hc.cache]
    by_cases h0 : (S.drop (S.length / bs * bs)).length = 0
    · rw [if_pos h0]
      have hreset := hc.reset
      rw [← List.length_eq_zero.mp h0] at hreset
      exact ⟨_, by simp, hreset⟩
    · rw [if_neg h0]
      exact ⟨c, rfl, hc⟩

/-- **Run lemma.** Let one call of a hook on a session whose context is at
chaining value `iv` with `cache` cached write the stream's output and leave
the context where the stream leaves it. Then the calls over any chunking write
the stream over the whole input and leave the context where it leaves it. -/
theorem cbc_stream_run {operation : mbedtls_operation_t} {f : ssh_cipher_struct → Bytes → ssh_cipher_struct × Bytes}
    (hbs : 0 < ctx0.info.block_size)
    (hf : ∀ s ctx iv cache X, s.ctx operation = some ctx → CbcAt ctx0 iv cache ctx →
      cache.length < ctx0.info.block_size → iv.length = ctx0.info.block_size →
      ∃ ctx', f s X = (s.with_ctx operation ctx', (cbc_stream B ctx0 iv cache X).1) ∧
        CbcAt ctx0 (cbc_stream B ctx0 iv cache X).2.1 (cbc_stream B ctx0 iv cache X).2.2 ctx')
    (hiv : ∀ iv cache X, iv.length = ctx0.info.block_size →
      (cbc_stream B ctx0 iv cache X).2.1.length = ctx0.info.block_size)
    (cs : List Bytes) :
    ∀ s ctx iv cache, s.ctx operation = some ctx → CbcAt ctx0 iv cache ctx →
      cache.length < ctx0.info.block_size → iv.length = ctx0.info.block_size →
      (crypt_run f s cs).2.flatten = (cbc_stream B ctx0 iv cache cs.flatten).1 ∧
      ∃ ctx', (crypt_run f s cs).1.ctx operation = some ctx' ∧
        CbcAt ctx0 (cbc_stream B ctx0 iv cache cs.flatten).2.1 (cbc_stream B ctx0 iv cache cs.flatten).2.2 ctx' := by
  induction cs with
  | nil =>
    intro s ctx iv cache hs hat hcache _
    rw [List.flatten_nil, cbc_stream_nil hcache]
    exact ⟨rfl, ctx, hs, hat⟩
  | cons c cs ih =>
    intro s ctx iv cache hs hat hcache hivl
    obtain ⟨ctx₁, hf₁, hat₁⟩ := hf s ctx iv cache c hs hat hcache hivl
    obtain ⟨h₁, ctx', h₂, h₃⟩ := ih (s.with_ctx operation ctx₁) ctx₁ _ _ (ssh_cipher_struct.ctx_with_ctx ..) hat₁
      (length_cbc_stream_cache hbs c) (hiv iv cache c hivl)
    simp only [crypt_run, hf₁, List.flatten_cons, cbc_stream_append hbs, h₁]
    exact ⟨trivial, ctx', h₂, h₃⟩

end CbcStream

/-! ## 3. The CTR byte loop -/

section Ctr

variable {B : Backend}

/-- The loop over a concatenation is the loop over the first part, then over
the second from the context the first left. -/
theorem ctr_update_append (ctx : mbedtls_cipher_context_t) (X Y : Bytes) :
    ctr_update B ctx (X ++ Y) =
      ((ctr_update B (ctr_update B ctx X).1 Y).1,
        (ctr_update B ctx X).2 ++ (ctr_update B (ctr_update B ctx X).1 Y).2) := by
  induction X generalizing ctx with
  | nil => rfl
  | cons c X ih => rw [List.cons_append, ctr_update, ctr_update, ih]; rfl

/-- The loop is its own inverse from one context: XOR with one keystream. -/
theorem ctr_update_ctr_update (ctx : mbedtls_cipher_context_t) (X : Bytes) :
    ctr_update B ctx (ctr_update B ctx X).2 = ((ctr_update B ctx X).1, X) := by
  induction X generalizing ctx with
  | nil => rfl
  | cons c X ih => simp only [ctr_update, ih, UInt8.xor_xor_cancel]

/-- What the CTR loop reads of a context: the cipher, the key, the counter
block, the keystream block and the offset into it. The operation and the
padding setting are not among them. -/
def ctr_state (ctx : mbedtls_cipher_context_t) : mbedtls_cipher_info_t × Bytes × Bytes × Bytes × Nat :=
  (ctx.info, ctx.key, ctx.iv, ctx.unprocessed_data, ctx.unprocessed_len)

/-- Two contexts at the same CTR state write the same bytes and end at the same
state. -/
theorem ctr_update_congr {ctx ctx' : mbedtls_cipher_context_t} (h : ctr_state ctx = ctr_state ctx')
    (X : Bytes) :
    (ctr_update B ctx X).2 = (ctr_update B ctx' X).2 ∧
      ctr_state (ctr_update B ctx X).1 = ctr_state (ctr_update B ctx' X).1 := by
  induction X generalizing ctx ctx' with
  | nil => exact ⟨rfl, h⟩
  | cons c X ih =>
    simp only [ctr_state, Prod.mk.injEq] at h
    obtain ⟨h1, h2, h3, h4, h5⟩ := h
    simp only [ctr_update, h1, h2, h3, h4, h5, List.cons.injEq, true_and]
    exact ih rfl

theorem ctr_update_info (ctx : mbedtls_cipher_context_t) (X : Bytes) :
    (ctr_update B ctx X).1.info = ctx.info := by
  induction X generalizing ctx with
  | nil => rfl
  | cons c X ih => simp only [ctr_update, ih]

/-- On a CTR context, `cipher_encrypt` and `cipher_decrypt` are one call of the
loop: it writes as many bytes as it reads, so no `finish` follows. -/
theorem cipher_crypt_ctr {operation : mbedtls_operation_t} {s : ssh_cipher_struct}
    {ctx : mbedtls_cipher_context_t} (hc : s.ctx operation = some ctx)
    (hmode : ctx.info.mode = .MBEDTLS_MODE_CTR) (X : Bytes) :
    cipher_crypt B operation s X = (s.with_ctx operation (ctr_update B ctx X).1, (ctr_update B ctx X).2) := by
  simp [cipher_crypt, mbedtls_cipher_update, hc, hmode, length_ctr_update]

/-- **Run lemma.** Over chunks of any length, the calls write the loop over the
whole stream, one chunk's length each, and leave the context the loop over the
whole stream leaves. -/
theorem cipher_crypt_ctr_chunks (operation : mbedtls_operation_t) (cs : List Bytes) :
    ∀ {s : ssh_cipher_struct} {ctx : mbedtls_cipher_context_t}, s.ctx operation = some ctx →
      ctx.info.mode = .MBEDTLS_MODE_CTR →
      (crypt_run (cipher_crypt B operation) s cs).2.flatten = (ctr_update B ctx cs.flatten).2 ∧
      (crypt_run (cipher_crypt B operation) s cs).2.map List.length = cs.map List.length ∧
      (crypt_run (cipher_crypt B operation) s cs).1.ctx operation = some (ctr_update B ctx cs.flatten).1 := by
  induction cs with
  | nil => exact fun hc _ => ⟨rfl, rfl, hc⟩
  | cons c cs ih =>
    intro s ctx hc hmode
    obtain ⟨h1, h2, h3⟩ := ih (s := s.with_ctx operation (ctr_update B ctx c).1)
      (ssh_cipher_struct.ctx_with_ctx ..) (by rw [ctr_update_info, hmode])
    simp only [crypt_run, cipher_crypt_ctr hc hmode, List.flatten_cons, List.map_cons, ctr_update_append,
      h1, h2, h3, length_ctr_update, and_self]

end Ctr

/-! ## 4. Sessions over any chunking -/

section CbcSessions

variable {B : Backend}

/-- What a CBC entry of the table gives its two sessions: the mbedTLS cipher it
names, of block size the entry's and IV size one block, its four CBC hooks, and
from an IV of at least a block a first chaining value of one block. -/
theorem cbc_entry_info {cfg : BuildConfig} {e : ssh_cipher_struct} (he : e ∈ ssh_ciphertab cfg)
    {ek : SetKeyHook} (hek : e.set_encrypt_key = some ek) (henc : e.encrypt = some .cipher_encrypt_cbc)
    {IV : Bytes} (hIV : e.blocksize ≤ IV.length) :
    ∃ info, mbedtls_cipher_info_from_type e.type = some info ∧
      mbedtls_cipher_info_from_type info.type = some info ∧ info.block_size = e.blocksize ∧
      0 < info.block_size ∧ (IV.take info.iv_size).length = info.block_size ∧
      info.mode = .MBEDTLS_MODE_CBC ∧ ek = .cipher_set_encrypt_key_cbc ∧
      e.set_decrypt_key = some .cipher_set_decrypt_key_cbc ∧ e.decrypt = some .cipher_decrypt_cbc := by
  obtain ⟨-, info, hinfo, hbs, -, hmodes⟩ := block_entry_hooks he hek henc
  rcases hmodes with ⟨hmode, hek', -, hdk, hdec⟩ | ⟨-, -, hctr, -⟩
  · obtain ⟨hty, hbs0, hivs⟩ := mbedtls_cipher_info_from_type_spec hinfo
    have hiv0 : (IV.take info.iv_size).length = info.block_size := by
      rw [List.length_take, hivs (by rw [hmode]; decide), hbs]; exact Nat.min_eq_left hIV
    exact ⟨info, hinfo, hty ▸ hinfo, hbs, hbs0, hiv0, hmode, hek', hdk, hdec⟩
  · cases hctr

/-- A freshly keyed context is at its IV with nothing cached. -/
theorem keyed_context_cbc_at (info : mbedtls_cipher_info_t) (operation : mbedtls_operation_t)
    (padding_none : Bool) (key IV : Bytes) :
    CbcAt (keyed_context info operation padding_none key IV) (IV.take info.iv_size) []
      (keyed_context info operation padding_none key IV) :=
  ⟨rfl, rfl, rfl, rfl, rfl, by simp [keyed_context]⟩

section
variable {e : ssh_cipher_struct} {info : mbedtls_cipher_info_t} (key : Bytes) {IV : Bytes}
  (hB : B.Lawful) (hS : B.SetupSucceeds) (hinfo : mbedtls_cipher_info_from_type e.type = some info)
  (hinfo' : mbedtls_cipher_info_from_type info.type = some info) (hmode : info.mode = .MBEDTLS_MODE_CBC)
  (hbs0 : 0 < info.block_size) (hiv0 : (IV.take info.iv_size).length = info.block_size)
include hB hS hinfo hinfo' hmode hbs0 hiv0

/-- The sender keyed through `cipher_set_encrypt_key_cbc`, over any chunking:
the stream from the IV with nothing cached. -/
theorem cipher_encrypt_cbc_session (cs : List Bytes) :
    (crypt_run (cipher_encrypt_cbc B) (cipher_set_encrypt_key_cbc B e key IV).2 cs).2.flatten =
      (cbc_stream B (keyed_context info .MBEDTLS_ENCRYPT true key IV) (IV.take info.iv_size) [] cs.flatten).1 ∧
    ∃ ctx', (crypt_run (cipher_encrypt_cbc B) (cipher_set_encrypt_key_cbc B e key IV).2 cs).1.encrypt_ctx =
        some ctx' ∧
      CbcAt (keyed_context info .MBEDTLS_ENCRYPT true key IV)
        (cbc_stream B (keyed_context info .MBEDTLS_ENCRYPT true key IV) (IV.take info.iv_size) [] cs.flatten).2.1
        (cbc_stream B (keyed_context info .MBEDTLS_ENCRYPT true key IV) (IV.take info.iv_size) [] cs.flatten).2.2
        ctx' :=
  @cbc_stream_run B _ .MBEDTLS_ENCRYPT (cipher_encrypt_cbc B) hbs0
    (fun _ _ _ _ X hs hat hcache _ => cipher_encrypt_cbc_stream hs hat hmode rfl hbs0 hcache X)
    (fun _ _ X hiv => length_cbc_stream_iv hB hinfo' hiv X) cs _ _ _ _
    (by rw [cipher_set_encrypt_key_cbc_lawful hS hinfo]; rfl) (keyed_context_cbc_at ..) (by simpa using hbs0) hiv0

/-- The receiver keyed through `cipher_set_decrypt_key_cbc`, over any chunking:
the stream from the IV with nothing cached. -/
theorem cipher_decrypt_cbc_session (ds : List Bytes) :
    (crypt_run (cipher_decrypt_cbc B) (cipher_set_decrypt_key_cbc B e key IV).2 ds).2.flatten =
      (cbc_stream B (keyed_context info .MBEDTLS_DECRYPT true key IV) (IV.take info.iv_size) [] ds.flatten).1 ∧
    ∃ ctx', (crypt_run (cipher_decrypt_cbc B) (cipher_set_decrypt_key_cbc B e key IV).2 ds).1.decrypt_ctx =
        some ctx' ∧
      CbcAt (keyed_context info .MBEDTLS_DECRYPT true key IV)
        (cbc_stream B (keyed_context info .MBEDTLS_DECRYPT true key IV) (IV.take info.iv_size) [] ds.flatten).2.1
        (cbc_stream B (keyed_context info .MBEDTLS_DECRYPT true key IV) (IV.take info.iv_size) [] ds.flatten).2.2
        ctx' :=
  @cbc_stream_run B _ .MBEDTLS_DECRYPT (cipher_decrypt_cbc B) hbs0
    (fun _ _ _ _ X hs hat hcache hiv => cipher_decrypt_cbc_stream hB hinfo' hs hat hmode rfl rfl hbs0 hiv hcache X)
    (fun _ _ X hiv => length_cbc_stream_iv hB hinfo' hiv X) ds _ _ _ _
    (by rw [cipher_set_decrypt_key_cbc_lawful hS hinfo]; rfl) (keyed_context_cbc_at ..) (by simpa using hbs0) hiv0

end

end CbcSessions

/-- **CBC sessions over any chunking.** For a CBC entry of the table (one whose
`encrypt` hook is `cipher_encrypt_cbc`), a sender and a receiver keyed through
the entry's key setups with the same key and an IV of at least a block: over any
chunking of the stream for the sender and any cutting of what it wrote for the
receiver, under either CBC buffering behaviour of the backend, the sender writes
every complete block of the stream, encrypted, and caches the rest; the receiver
writes those blocks back, and the two contexts end at the same chaining value,
with nothing cached on the receiver's side. -/
theorem cbc_session_any_chunking (cfg : BuildConfig) (B : Backend) (hB : B.Lawful) (hS : B.SetupSucceeds)
    (e : ssh_cipher_struct) (he : e ∈ ssh_ciphertab cfg) (ek dk : SetKeyHook) (dec : CryptHook)
    (hek : e.set_encrypt_key = some ek) (hdk : e.set_decrypt_key = some dk)
    (henc : e.encrypt = some .cipher_encrypt_cbc) (hdec : e.decrypt = some dec) (key IV : Bytes)
    (hIV : e.blocksize ≤ IV.length) (cs ds : List Bytes)
    (hcut : ds.flatten =
      (crypt_run (CryptHook.cipher_encrypt_cbc.call B) (ek.call B e key IV).2 cs).2.flatten) :
    (crypt_run (dec.call B) (dk.call B e key IV).2 ds).2.flatten =
        cs.flatten.take (cs.flatten.length / e.blocksize * e.blocksize) ∧
      (crypt_run (CryptHook.cipher_encrypt_cbc.call B) (ek.call B e key IV).2 cs).2.flatten.length =
        cs.flatten.length / e.blocksize * e.blocksize ∧
      ∃ ctxE ctxD,
        (crypt_run (CryptHook.cipher_encrypt_cbc.call B) (ek.call B e key IV).2 cs).1.encrypt_ctx = some ctxE ∧
        (crypt_run (dec.call B) (dk.call B e key IV).2 ds).1.decrypt_ctx = some ctxD ∧
        ctxD.iv = ctxE.iv ∧ ctxD.unprocessed_data.take ctxD.unprocessed_len = [] ∧
        ctxE.unprocessed_data.take ctxE.unprocessed_len =
          cs.flatten.drop (cs.flatten.length / e.blocksize * e.blocksize) := by
  obtain ⟨info, hinfo, hinfo', hbs, hbs0, hiv0, hmode, rfl, hdk', hdec'⟩ := cbc_entry_info he hek henc hIV
  obtain rfl := Option.some.inj (hdk.symm.trans hdk')
  obtain rfl := Option.some.inj (hdec.symm.trans hdec')
  obtain ⟨hE1, ctxE', hE2, hE3⟩ := cipher_encrypt_cbc_session key hB hS hinfo hinfo' hmode hbs0 hiv0 cs
  obtain ⟨hD1, ctxD', hD2, hD3⟩ := cipher_decrypt_cbc_session key hB hS hinfo hinfo' hmode hbs0 hiv0 ds
  rw [← hbs]
  set ctxE := keyed_context info .MBEDTLS_ENCRYPT true key IV
  set P := cs.flatten
  set n := P.length / info.block_size
  -- the sender encrypts the first `n` blocks of the stream
  have hPt : (P.take (n * info.block_size)).length = n * info.block_size := by
    rw [List.length_take]; exact Nat.min_eq_left (Nat.div_mul_le_self _ _)
  have hsend : cbc_stream B ctxE (IV.take info.iv_size) [] P =
      ((cbc_blocks B ctxE n (IV.take info.iv_size) (P.take (n * info.block_size))).1,
        (cbc_blocks B ctxE n (IV.take info.iv_size) (P.take (n * info.block_size))).2,
        P.drop (n * info.block_size)) := by
    rw [cbc_blocks_take ctxE n _ P (m := n * info.block_size) le_rfl]; rfl
  have hsendlen : (cbc_blocks B ctxE n (IV.take info.iv_size) (P.take (n * info.block_size))).1.length =
      n * info.block_size := (cbc_blocks_encrypt_length hB ctxE hinfo' rfl n _ _ hiv0 hPt).1
  simp only [SetKeyHook.call, CryptHook.call] at hcut ⊢
  rw [hE1, hsend] at hcut
  rw [hsend] at hE3
  -- the receiver decrypts them back
  set ctxD := keyed_context info .MBEDTLS_DECRYPT true key IV
  have hDi : ctxD.info = info := rfl
  have hrt := cbc_blocks_decrypt_encrypt hB ctxE ctxD hinfo' rfl rfl rfl rfl n _ _ hiv0 hPt
  have hrecv : cbc_stream B ctxD (IV.take info.iv_size) [] ds.flatten =
      (P.take (n * info.block_size),
        (cbc_blocks B ctxE n (IV.take info.iv_size) (P.take (n * info.block_size))).2, []) := by
    simp only [cbc_stream, List.nil_append, hcut, hsendlen, hDi, Nat.mul_div_cancel _ hbs0, hrt,
      List.drop_eq_nil_of_le (le_of_eq hsendlen)]
  rw [hrecv] at hD1 hD3
  exact ⟨hD1, by rw [hE1, hsend, hsendlen], ctxE', ctxD', hE2, hD2, hD3.iv.trans hE3.iv.symm, hD3.cache,
    hE3.cache⟩

/-- The aes128-cbc entry over a backend that holds the last block back: twenty
bytes sent in two chunks of ten, so that one block is written and four bytes
stay cached, and the block received in chunks of five and eleven. -/
theorem cbc_session_any_chunking_aes128 :
    let B := reversing_backend true
    let e := cbc_entry "aes128-cbc" 16 128 .MBEDTLS_CIPHER_AES_128_CBC
    let cs : List Bytes := [[1, 2, 3, 4, 5, 6, 7, 8, 9, 10], [11, 12, 13, 14, 15, 16, 17, 18, 19, 20]]
    let ds : List Bytes := [[16, 15, 14, 13, 12], [11, 10, 9, 8, 7, 6, 5, 4, 3, 2, 1]]
    let sender := crypt_run (CryptHook.cipher_encrypt_cbc.call B)
      (SetKeyHook.cipher_set_encrypt_key_cbc.call B e (List.replicate 16 1) (List.replicate 16 0)).2 cs
    let receiver := crypt_run (CryptHook.cipher_decrypt_cbc.call B)
      (SetKeyHook.cipher_set_decrypt_key_cbc.call B e (List.replicate 16 1) (List.replicate 16 0)).2 ds
    ds.flatten = sender.2.flatten ∧
      receiver.2.flatten = cs.flatten.take 16 ∧ sender.2.flatten.length = 16 ∧
      ∃ ctxE ctxD, sender.1.encrypt_ctx = some ctxE ∧ receiver.1.decrypt_ctx = some ctxD ∧
        ctxD.iv = ctxE.iv ∧ ctxD.unprocessed_data.take ctxD.unprocessed_len = [] ∧
        ctxE.unprocessed_data.take ctxE.unprocessed_len = cs.flatten.drop 16 :=
  have hcut : ([[16, 15, 14, 13, 12], [11, 10, 9, 8, 7, 6, 5, 4, 3, 2, 1]] : List Bytes).flatten =
      (crypt_run (CryptHook.cipher_encrypt_cbc.call (reversing_backend true))
        (SetKeyHook.cipher_set_encrypt_key_cbc.call (reversing_backend true)
          (cbc_entry "aes128-cbc" 16 128 .MBEDTLS_CIPHER_AES_128_CBC) (List.replicate 16 1)
          (List.replicate 16 0)).2
        [[1, 2, 3, 4, 5, 6, 7, 8, 9, 10], [11, 12, 13, 14, 15, 16, 17, 18, 19, 20]]).2.flatten := by
    rfl
  ⟨hcut, cbc_session_any_chunking ⟨false, false, false, false, false⟩ _ (reversing_backend_lawful true)
    (reversing_backend_setup_succeeds true) _
    (by decide) _ _ _ rfl rfl rfl rfl _ _ (by decide) _ _ hcut⟩

/-- **CTR sessions over any chunking.** For a CTR entry of the table (one whose
`encrypt` hook is `cipher_encrypt`), a sender and a receiver keyed through the
entry's key setups with the same key and IV: over any chunking of the stream
for the sender and any cutting of what it wrote for the receiver, with chunks
of any length, the receiver writes the stream back, every call writes as many
bytes as it reads, and the two contexts end at the same place of the keystream,
so that the session can go on from there. -/
theorem ctr_session_any_chunking (cfg : BuildConfig) (B : Backend) (hS : B.SetupSucceeds) (e : ssh_cipher_struct)
    (he : e ∈ ssh_ciphertab cfg) (ek dk : SetKeyHook) (dec : CryptHook)
    (hek : e.set_encrypt_key = some ek) (hdk : e.set_decrypt_key = some dk)
    (henc : e.encrypt = some .cipher_encrypt) (hdec : e.decrypt = some dec) (key IV : Bytes)
    (cs ds : List Bytes)
    (hcut : ds.flatten = (crypt_run (CryptHook.cipher_encrypt.call B) (ek.call B e key IV).2 cs).2.flatten) :
    (crypt_run (dec.call B) (dk.call B e key IV).2 ds).2.flatten = cs.flatten ∧
      (crypt_run (CryptHook.cipher_encrypt.call B) (ek.call B e key IV).2 cs).2.map List.length =
        cs.map List.length ∧
      (crypt_run (dec.call B) (dk.call B e key IV).2 ds).2.map List.length = ds.map List.length ∧
      ∃ ctxE ctxD,
        (crypt_run (CryptHook.cipher_encrypt.call B) (ek.call B e key IV).2 cs).1.encrypt_ctx = some ctxE ∧
        (crypt_run (dec.call B) (dk.call B e key IV).2 ds).1.decrypt_ctx = some ctxD ∧
        ctr_state ctxD = ctr_state ctxE := by
  obtain ⟨-, info, hinfo, -, -, hmodes⟩ := block_entry_hooks he hek henc
  rcases hmodes with ⟨-, -, hcbc, -⟩ | ⟨hmode, rfl, -, hdk', hdec'⟩
  · cases hcbc
  obtain rfl := Option.some.inj (hdk.symm.trans hdk')
  obtain rfl := Option.some.inj (hdec.symm.trans hdec')
  obtain ⟨hE1, hE2, hE3⟩ := cipher_crypt_ctr_chunks (B := B) .MBEDTLS_ENCRYPT cs
    (s := (cipher_set_encrypt_key B e key IV).2) (by rw [cipher_set_encrypt_key_lawful hS hinfo]; rfl) hmode
  obtain ⟨hD1, hD2, hD3⟩ := cipher_crypt_ctr_chunks (B := B) .MBEDTLS_DECRYPT ds
    (s := (cipher_set_decrypt_key B e key IV).2) (by rw [cipher_set_decrypt_key_lawful hS hinfo]; rfl) hmode
  simp only [SetKeyHook.call, CryptHook.call, cipher_encrypt, cipher_decrypt] at hcut hE1 hE2 hE3 hD1 hD2 hD3 ⊢
  rw [hcut, hE1] at hD1 hD3
  -- the two keyed contexts differ only in their operation, which the loop does not read
  have hsame : ctr_state (keyed_context info .MBEDTLS_DECRYPT false key IV) =
      ctr_state (keyed_context info .MBEDTLS_ENCRYPT false key IV) := rfl
  obtain ⟨hout, hst⟩ := ctr_update_congr (B := B) hsame
    (ctr_update B (keyed_context info .MBEDTLS_ENCRYPT false key IV) cs.flatten).2
  rw [ctr_update_ctr_update] at hout hst
  exact ⟨hD1.trans hout, hE2, hD2, _, _, hE3, hD3, hst⟩

/-- The aes128-ctr entry: eight bytes sent in chunks of three and five,
received in chunks of two and six. -/
theorem ctr_session_any_chunking_aes128 :
    let B := reversing_backend false
    let e := ctr_entry "aes128-ctr" 128 .MBEDTLS_CIPHER_AES_128_CTR
    let sender := crypt_run (CryptHook.cipher_encrypt.call B)
      (SetKeyHook.cipher_set_encrypt_key.call B e (List.replicate 16 1) (List.replicate 16 0)).2
      [[1, 2, 3], [4, 5, 6, 7, 8]]
    let receiver := crypt_run (CryptHook.cipher_decrypt.call B)
      (SetKeyHook.cipher_set_decrypt_key.call B e (List.replicate 16 1) (List.replicate 16 0)).2
      [[1, 2], [3, 4, 5, 6, 7, 8]]
    [[1, 2], [3, 4, 5, 6, 7, 8]].flatten = sender.2.flatten ∧
      receiver.2.flatten = [[1, 2, 3], [4, 5, 6, 7, 8]].flatten ∧ sender.2.map List.length = [3, 5] ∧
      receiver.2.map List.length = [2, 6] ∧
      ∃ ctxE ctxD, sender.1.encrypt_ctx = some ctxE ∧ receiver.1.decrypt_ctx = some ctxD ∧
        ctr_state ctxD = ctr_state ctxE :=
  have hcut : ([[1, 2], [3, 4, 5, 6, 7, 8]] : List Bytes).flatten =
      (crypt_run (CryptHook.cipher_encrypt.call (reversing_backend false))
        (SetKeyHook.cipher_set_encrypt_key.call (reversing_backend false)
          (ctr_entry "aes128-ctr" 128 .MBEDTLS_CIPHER_AES_128_CTR) (List.replicate 16 1)
          (List.replicate 16 0)).2 [[1, 2, 3], [4, 5, 6, 7, 8]]).2.flatten := rfl
  ⟨hcut, ctr_session_any_chunking ⟨false, false, false, false, false⟩ _ (reversing_backend_setup_succeeds false) _
    (by decide) _ _ _ rfl rfl rfl rfl _ _ _ _ hcut⟩

/-! ## 5. The two CBC buffering behaviours -/

section Behaviours

variable {B : Backend} {ctx0 : mbedtls_cipher_context_t}

/-- The backend with the other CBC buffering behaviour, or the same one. -/
theorem cbc_blocks_holds (hold : Bool) :
    cbc_blocks { B with cbc_decrypt_holds_last_block := hold } = cbc_blocks B := by
  funext ctx n
  induction n with
  | zero => rfl
  | succ n ih => funext iv input; simp only [cbc_blocks, cbc_block, ih]

theorem cbc_stream_holds (hold : Bool) :
    cbc_stream { B with cbc_decrypt_holds_last_block := hold } = cbc_stream B := by
  funext ctx0 iv cache X
  simp only [cbc_stream, cbc_blocks_holds]

theorem Backend.Lawful.holds (hB : B.Lawful) (hold : Bool) :
    ({ B with cbc_decrypt_holds_last_block := hold } : Backend).Lawful :=
  ⟨hB.block_decrypt_encrypt, hB.length_block_encrypt, hB.gcm_crypt_and_tag_spec,
    hB.gcm_auth_decrypt_iff, hB.length_chacha20_block⟩

/-- **Run lemma.** Two decrypting sessions at the same chaining value and cache,
one over a backend with either buffering behaviour, write the same bytes call by
call over any chunking. -/
theorem cipher_decrypt_cbc_run_holds (hB : B.Lawful)
    (hinfo : mbedtls_cipher_info_from_type ctx0.info.type = some ctx0.info)
    (hmode : ctx0.info.mode = .MBEDTLS_MODE_CBC) (hD : ctx0.operation = .MBEDTLS_DECRYPT)
    (hpn : ctx0.padding_none = true) (hbs : 0 < ctx0.info.block_size) (hold : Bool) (ds : List Bytes) :
    ∀ {s₁ s₂ : ssh_cipher_struct} {ctx₁ ctx₂ : mbedtls_cipher_context_t} {iv cache : Bytes},
      s₁.decrypt_ctx = some ctx₁ → s₂.decrypt_ctx = some ctx₂ → CbcAt ctx0 iv cache ctx₁ →
      CbcAt ctx0 iv cache ctx₂ → cache.length < ctx0.info.block_size → iv.length = ctx0.info.block_size →
      (crypt_run (cipher_decrypt_cbc B) s₁ ds).2 =
        (crypt_run (cipher_decrypt_cbc { B with cbc_decrypt_holds_last_block := hold }) s₂ ds).2 := by
  induction ds with
  | nil => exact fun _ _ _ _ _ _ => rfl
  | cons d ds ih =>
    intro s₁ s₂ ctx₁ ctx₂ iv cache h₁ h₂ hat₁ hat₂ hcache hiv
    obtain ⟨c₁, e₁, hc₁⟩ := cipher_decrypt_cbc_stream hB hinfo h₁ hat₁ hmode hD hpn hbs hiv hcache d
    obtain ⟨c₂, e₂, hc₂⟩ := cipher_decrypt_cbc_stream (hB.holds hold) hinfo h₂ hat₂ hmode hD hpn hbs hiv hcache d
    rw [cbc_stream_holds] at e₂ hc₂
    simp only [crypt_run, e₁, e₂, List.cons.injEq, true_and]
    exact ih rfl rfl hc₁ hc₂ (length_cbc_stream_cache hbs d) (length_cbc_stream_iv hB hinfo hiv d)

end Behaviours

/-- **The two CBC buffering behaviours agree.** For a CBC entry of the table,
keyed through its decrypt key setup with any key and an IV of at least a block:
over any chunking of the ciphertext, every call of `cipher_decrypt_cbc` writes
the same bytes whether the backend holds the last whole block back until
`finish` (older mbedTLS) or not. -/
theorem cipher_decrypt_cbc_behaviours_agree (cfg : BuildConfig) (B : Backend) (hB : B.Lawful) (hS : B.SetupSucceeds)
    (e : ssh_cipher_struct) (he : e ∈ ssh_ciphertab cfg) (ek : SetKeyHook) (hek : e.set_encrypt_key = some ek)
    (henc : e.encrypt = some .cipher_encrypt_cbc) (key IV : Bytes) (hIV : e.blocksize ≤ IV.length)
    (hold : Bool) (ds : List Bytes) :
    (crypt_run (CryptHook.cipher_decrypt_cbc.call B)
        (SetKeyHook.cipher_set_decrypt_key_cbc.call B e key IV).2 ds).2 =
      (crypt_run (CryptHook.cipher_decrypt_cbc.call { B with cbc_decrypt_holds_last_block := hold })
        (SetKeyHook.cipher_set_decrypt_key_cbc.call { B with cbc_decrypt_holds_last_block := hold } e key IV).2
        ds).2 := by
  obtain ⟨info, hinfo, hinfo', -, hbs0, hiv0, hmode, -⟩ := cbc_entry_info he hek henc hIV
  simp only [SetKeyHook.call, CryptHook.call, cipher_set_decrypt_key_cbc_lawful hS hinfo,
    cipher_set_decrypt_key_cbc_lawful (B := { B with cbc_decrypt_holds_last_block := hold }) hS hinfo]
  exact cipher_decrypt_cbc_run_holds hB hinfo' hmode rfl rfl hbs0 hold ds rfl rfl (keyed_context_cbc_at ..)
    (keyed_context_cbc_at ..) (by simpa using hbs0) hiv0

/-- The aes128-cbc entry, with ciphertext received in chunks of five, eleven and
four bytes. -/
theorem cipher_decrypt_cbc_behaviours_agree_aes128 :
    (crypt_run (CryptHook.cipher_decrypt_cbc.call (reversing_backend false))
        (SetKeyHook.cipher_set_decrypt_key_cbc.call (reversing_backend false)
          (cbc_entry "aes128-cbc" 16 128 .MBEDTLS_CIPHER_AES_128_CBC) (List.replicate 16 1)
          (List.replicate 16 0)).2
        [[1, 2, 3, 4, 5], [6, 7, 8, 9, 10, 11, 12, 13, 14, 15, 16], [17, 18, 19, 20]]).2 =
      (crypt_run (CryptHook.cipher_decrypt_cbc.call { reversing_backend false with cbc_decrypt_holds_last_block := true })
        (SetKeyHook.cipher_set_decrypt_key_cbc.call
          { reversing_backend false with cbc_decrypt_holds_last_block := true }
          (cbc_entry "aes128-cbc" 16 128 .MBEDTLS_CIPHER_AES_128_CBC) (List.replicate 16 1)
          (List.replicate 16 0)).2
        [[1, 2, 3, 4, 5], [6, 7, 8, 9, 10, 11, 12, 13, 14, 15, 16], [17, 18, 19, 20]]).2 :=
  cipher_decrypt_cbc_behaviours_agree ⟨false, false, false, false, false⟩ _ (reversing_backend_lawful false)
    (reversing_backend_setup_succeeds false) _
    (by decide) _ rfl rfl _ _ (by decide) true _

end Libssh
