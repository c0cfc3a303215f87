import Libssh.Cipher.Block
import Libssh.Cipher.Gcm
import Libssh.Cipher.Chacha

/-!
`ssh_ciphertab`, the cipher table of `libmbedcrypto.c`, in every build
configuration, and the library state `ssh_crypto_init` and `ssh_crypto_finalize`
act on. A C hook is a function pointer; `SetKeyHook.call` and `CryptHook.call`
say which function of the other cipher modules each pointer names.

The table the rest of libssh sees changes once: in a build without mbedTLS's
ChaCha20 and Poly1305, `ssh_crypto_init` overwrites the chacha20-poly1305 entry
(which holds only a name) with the entry `ssh_get_chacha20poly1305_cipher`
returns, a function outside `src/` that is taken here as a parameter.
`ssh_crypto_run_table` shows that along any run of `ssh_crypto_init` and
`ssh_crypto_finalize` the table is one of those two, and that the entries before
the chacha20-poly1305 one never change: `ssh_cipher_lookup_head` finds each of
them by name in either table.

The results that need the table itself are here:

* `block_entry_hooks`: every entry with a key setup and a block `encrypt` hook
  is a CBC or a CTR entry, with the hooks of its mode and the block size of its
  mbedTLS type;
* `block_session_roundtrip`: for such an entry, sender and receiver sessions
  keyed alike act as one cipher over any block-aligned chunking;
* `gcm_sessions_lockstep`: the GCM entries' sessions stay in lockstep over any
  run with rejected forgeries.
-/

set_option autoImplicit false

namespace Libssh

/-! ## Calling through a hook -/

/-- `cipher->set_encrypt_key (cipher, key, IV)` or `cipher->set_decrypt_key`
through the pointer an entry holds. `chacha20_poly1305_set_key` ignores its
IV. -/
def SetKeyHook.call (B : Backend) : SetKeyHook → ssh_cipher_struct → Bytes → Bytes →
    Int × ssh_cipher_struct
  | .cipher_set_encrypt_key => Libssh.cipher_set_encrypt_key B
  | .cipher_set_encrypt_key_cbc => Libssh.cipher_set_encrypt_key_cbc B
  | .cipher_set_decrypt_key => Libssh.cipher_set_decrypt_key B
  | .cipher_set_decrypt_key_cbc => Libssh.cipher_set_decrypt_key_cbc B
  | .cipher_set_key_gcm => Libssh.cipher_set_key_gcm B
  | .chacha20_poly1305_set_key => fun cipher key _ => Libssh.chacha20_poly1305_set_key B cipher key

/-- `cipher->encrypt (cipher, in, out, len)` or `cipher->decrypt` through the
pointer an entry holds. -/
def CryptHook.call (B : Backend) : CryptHook → ssh_cipher_struct → Bytes →
    ssh_cipher_struct × Bytes
  | .cipher_encrypt => Libssh.cipher_encrypt B
  | .cipher_encrypt_cbc => Libssh.cipher_encrypt_cbc B
  | .cipher_decrypt => Libssh.cipher_decrypt B
  | .cipher_decrypt_cbc => Libssh.cipher_decrypt_cbc B
  | .none_crypt => Libssh.none_crypt

/-! ## The table -/

/-- The preprocessor symbols the table depends on. -/
structure BuildConfig where
  HAVE_BLOWFISH : Bool
  MBEDTLS_GCM_C : Bool
  MBEDTLS_CHACHA20_C : Bool
  MBEDTLS_POLY1305_C : Bool
  WITH_INSECURE_NONE : Bool
  deriving DecidableEq, Repr

/-- An entry of a CBC cipher: the CBC key setups and the CBC block hooks. -/
def cbc_entry (name : String) (blocksize keysize : Nat) (type : mbedtls_cipher_type_t) :
    ssh_cipher_struct :=
  { name, blocksize, keysize, type,
    set_encrypt_key := some .cipher_set_encrypt_key_cbc,
    set_decrypt_key := some .cipher_set_decrypt_key_cbc,
    encrypt := some .cipher_encrypt_cbc, decrypt := some .cipher_decrypt_cbc,
    cleanup := some .cipher_cleanup }

/-- An entry of an AES-CTR cipher: the generic key setups and block hooks. -/
def ctr_entry (name : String) (keysize : Nat) (type : mbedtls_cipher_type_t) : ssh_cipher_struct :=
  { name, blocksize := 16, keysize, type,
    set_encrypt_key := some .cipher_set_encrypt_key,
    set_decrypt_key := some .cipher_set_decrypt_key,
    encrypt := some .cipher_encrypt, decrypt := some .cipher_decrypt,
    cleanup := some .cipher_cleanup }

/-- An entry of an AES-GCM cipher: a 4-byte length field that is authenticated
but not encrypted, and only AEAD hooks. -/
def gcm_entry (name : String) (keysize : Nat) (type : mbedtls_cipher_type_t) : ssh_cipher_struct :=
  { name, blocksize := 16, lenfield_blocksize := 4, keysize, tag_size := AES_GCM_TAGLEN, type,
    set_encrypt_key := some .cipher_set_key_gcm, set_decrypt_key := some .cipher_set_key_gcm,
    aead_encrypt := some .cipher_encrypt_gcm,
    aead_decrypt_length := some .cipher_gcm_get_length,
    aead_decrypt := some .cipher_decrypt_gcm,
    cleanup := some .cipher_cleanup }

/-- The name libssh gives the ChaCha20-Poly1305 construction. -/
def chacha20_poly1305_name : String := "chacha20-poly1305@openssh.com"

/-- The chacha20-poly1305 entry: with mbedTLS's ChaCha20 and Poly1305 the hooks
of `Cipher.Chacha`, otherwise only the name, for `ssh_crypto_init` to find. -/
def chacha20_poly1305_entry (cfg : BuildConfig) : ssh_cipher_struct :=
  if cfg.MBEDTLS_CHACHA20_C && cfg.MBEDTLS_POLY1305_C then
    { name := chacha20_poly1305_name, blocksize := 8, lenfield_blocksize := 4,
      keysize := 2 * CHACHA20_KEYLEN * 8, tag_size := POLY1305_TAGLEN,
      set_encrypt_key := some .chacha20_poly1305_set_key,
      set_decrypt_key := some .chacha20_poly1305_set_key,
      aead_encrypt := some .chacha20_poly1305_aead_encrypt,
      aead_decrypt_length := some .chacha20_poly1305_aead_decrypt_length,
      aead_decrypt := some .chacha20_poly1305_aead_decrypt,
      cleanup := some .chacha20_poly1305_cleanup }
  else { name := chacha20_poly1305_name }

/-- The entries before the chacha20-poly1305 one. -/
def ssh_ciphertab_head (cfg : BuildConfig) : List ssh_cipher_struct :=
  (if cfg.HAVE_BLOWFISH then [cbc_entry "blowfish-cbc" 8 128 .MBEDTLS_CIPHER_BLOWFISH_CBC] else []) ++
  [ctr_entry "aes128-ctr" 128 .MBEDTLS_CIPHER_AES_128_CTR,
   ctr_entry "aes192-ctr" 192 .MBEDTLS_CIPHER_AES_192_CTR,
   ctr_entry "aes256-ctr" 256 .MBEDTLS_CIPHER_AES_256_CTR,
   cbc_entry "aes128-cbc" 16 128 .MBEDTLS_CIPHER_AES_128_CBC,
   cbc_entry "aes192-cbc" 16 192 .MBEDTLS_CIPHER_AES_192_CBC,
   cbc_entry "aes256-cbc" 16 256 .MBEDTLS_CIPHER_AES_256_CBC] ++
  (if cfg.MBEDTLS_GCM_C then
    [gcm_entry "aes128-gcm@openssh.com" 128 .MBEDTLS_CIPHER_AES_128_GCM,
     gcm_entry "aes256-gcm@openssh.com" 256 .MBEDTLS_CIPHER_AES_256_GCM] else []) ++
  [cbc_entry "3des-cbc" 8 192 .MBEDTLS_CIPHER_DES_EDE3_CBC]

/-- The entries after the chacha20-poly1305 one. -/
def ssh_ciphertab_tail (cfg : BuildConfig) : List ssh_cipher_struct :=
  if cfg.WITH_INSECURE_NONE then
    [{ name := "none", blocksize := 8, keysize := 0,
       encrypt := some .none_crypt, decrypt := some .none_crypt }]
  else []

/-- `ssh_ciphertab` as the build lays it out. The entry named `NULL` that ends
the C array is the end of the list. -/
def ssh_ciphertab (cfg : BuildConfig) : List ssh_cipher_struct :=
  ssh_ciphertab_head cfg ++ chacha20_poly1305_entry cfg :: ssh_ciphertab_tail cfg

/-! ## Initialisation -/

/-- The library state: `libmbedcrypto_initialized`, whether the global DRBG was
seeded, and the table `ssh_get_ciphertab` returns. -/
structure CryptoState where
  libmbedcrypto_initialized : Bool
  ctr_drbg_seeded : Bool
  ssh_ciphertab : List ssh_cipher_struct

/-- The state when the library is loaded. -/
def crypto_state_start (cfg : BuildConfig) : CryptoState := ⟨false, false, ssh_ciphertab cfg⟩

/-- The loop of `ssh_crypto_init`: the first entry named chacha20-poly1305 is
overwritten. -/
def replace_chacha20_poly1305 (fallback : ssh_cipher_struct) :
    List ssh_cipher_struct → List ssh_cipher_struct
  | [] => []
  | c :: cs => if c.name = chacha20_poly1305_name then fallback :: cs
    else c :: replace_chacha20_poly1305 fallback cs

/-- `ssh_crypto_init`, with `fallback` the entry `ssh_get_chacha20poly1305_cipher`
returns. A failing `mbedtls_ctr_drbg_seed` only frees the DRBG. -/
def ssh_crypto_init (cfg : BuildConfig) (B : Backend) (fallback : ssh_cipher_struct)
    (st : CryptoState) : Int × CryptoState :=
  if st.libmbedcrypto_initialized then (SSH_OK, st)
  else
    let seeded := !B.setup_fails .mbedtls_ctr_drbg_seed
    let tab := if cfg.MBEDTLS_CHACHA20_C && cfg.MBEDTLS_POLY1305_C then st.ssh_ciphertab
      else replace_chacha20_poly1305 fallback st.ssh_ciphertab
    (SSH_OK, ⟨true, seeded, tab⟩)

/-- `ssh_crypto_finalize`: the DRBG is freed; the table stays as it is. -/
def ssh_crypto_finalize (st : CryptoState) : CryptoState :=
  if st.libmbedcrypto_initialized then ⟨false, false, st.ssh_ciphertab⟩ else st

/-- The two library entry points that change the state. -/
inductive CryptoCall
  | ssh_crypto_init
  | ssh_crypto_finalize
  deriving DecidableEq, Repr

/-- A run of library calls from a state. -/
def crypto_run (cfg : BuildConfig) (B : Backend) (fallback : ssh_cipher_struct) :
    CryptoState → List CryptoCall → CryptoState
  | st, [] => st
  | st, .ssh_crypto_init :: calls => crypto_run cfg B fallback (ssh_crypto_init cfg B fallback st).2 calls
  | st, .ssh_crypto_finalize :: calls => crypto_run cfg B fallback (ssh_crypto_finalize st) calls

/-- A library call as a trace records it: `ssh_crypto_init` with the backend it
meets, so that whether `mbedtls_ctr_drbg_seed` succeeds may change from one
call to the next. -/
inductive CryptoEvent
  | ssh_crypto_init (B : Backend)
  | ssh_crypto_finalize

/-- One call of a trace. -/
def crypto_step (cfg : BuildConfig) (fallback : ssh_cipher_struct) (st : CryptoState) :
    CryptoEvent → CryptoState
  | .ssh_crypto_init B => (ssh_crypto_init cfg B fallback st).2
  | .ssh_crypto_finalize => ssh_crypto_finalize st

/-- A trace of library calls from a state. -/
def crypto_trace (cfg : BuildConfig) (fallback : ssh_cipher_struct) (st : CryptoState)
    (t : List CryptoEvent) : CryptoState :=
  t.foldl (crypto_step cfg fallback) st

/-- A call of a run with the backend `B`, as a trace records it. -/
def CryptoCall.event (B : Backend) : CryptoCall → CryptoEvent
  | .ssh_crypto_init => .ssh_crypto_init B
  | .ssh_crypto_finalize => .ssh_crypto_finalize

/-- A run with one backend is the trace in which every `ssh_crypto_init` meets
that backend. -/
theorem crypto_run_eq_trace (cfg : BuildConfig) (B : Backend) (fallback : ssh_cipher_struct)
    (calls : List CryptoCall) (st : CryptoState) :
    crypto_run cfg B fallback st calls = crypto_trace cfg fallback st (calls.map (CryptoCall.event B)) := by
  induction calls generalizing st with
  | nil => rfl
  | cons c calls ih => cases c <;> exact ih _

/-! ## The table along a run -/

section Run

variable {cfg : BuildConfig} {fallback : ssh_cipher_struct}

theorem chacha20_poly1305_entry_name (cfg : BuildConfig) :
    (chacha20_poly1305_entry cfg).name = chacha20_poly1305_name := by
  unfold chacha20_poly1305_entry; split <;> rfl

theorem ssh_ciphertab_head_names (cfg : BuildConfig) :
    ∀ c ∈ ssh_ciphertab_head cfg, c.name ≠ chacha20_poly1305_name := by
  unfold ssh_ciphertab_head; split <;> split <;> decide

theorem replace_chacha20_poly1305_eq_self {l : List ssh_cipher_struct}
    (h : ∀ c ∈ l, c.name ≠ chacha20_poly1305_name) : replace_chacha20_poly1305 fallback l = l := by
  induction l with
  | nil => rfl
  | cons d l ih =>
    simp only [List.mem_cons, forall_eq_or_imp] at h
    simp [replace_chacha20_poly1305, h.1, ih h.2]

theorem replace_chacha20_poly1305_of_names {pre : List ssh_cipher_struct}
    (h : ∀ c ∈ pre, c.name ≠ chacha20_poly1305_name) (c : ssh_cipher_struct)
    (hc : c.name = chacha20_poly1305_name) (post : List ssh_cipher_struct) :
    replace_chacha20_poly1305 fallback (pre ++ c :: post) = pre ++ fallback :: post := by
  induction pre with
  | nil => simp [replace_chacha20_poly1305, hc]
  | cons d pre ih =>
    simp only [List.mem_cons, forall_eq_or_imp] at h
    simp [replace_chacha20_poly1305, h.1, ih h.2]

theorem ssh_ciphertab_tail_names (cfg : BuildConfig) :
    ∀ c ∈ ssh_ciphertab_tail cfg, c.name ≠ chacha20_poly1305_name := by
  unfold ssh_ciphertab_tail; split <;> decide

/-- The tables a run can reach: the build's, or the build's with the
chacha20-poly1305 entry overwritten. -/
def TableReachable (cfg : BuildConfig) (fallback : ssh_cipher_struct)
    (tab : List ssh_cipher_struct) : Prop :=
  tab = ssh_ciphertab cfg ∨ tab = ssh_ciphertab_head cfg ++ fallback :: ssh_ciphertab_tail cfg

/-- One `ssh_crypto_init` keeps the table reachable: it overwrites the
chacha20-poly1305 entry of the build's table with the fallback, and finds
nothing to overwrite, or overwrites the fallback with itself, once that is done. -/
theorem ssh_crypto_init_reachable (B : Backend) {st : CryptoState}
    (h : TableReachable cfg fallback st.ssh_ciphertab) :
    TableReachable cfg fallback (ssh_crypto_init cfg B fallback st).2.ssh_ciphertab := by
  unfold ssh_crypto_init
  split
  · exact h
  · dsimp only
    split
    · exact h
    · right
      rcases h with h | h <;> rw [h]
      · exact replace_chacha20_poly1305_of_names (ssh_ciphertab_head_names cfg) _
          (chacha20_poly1305_entry_name cfg) _
      · by_cases hf : fallback.name = chacha20_poly1305_name
        · exact replace_chacha20_poly1305_of_names (ssh_ciphertab_head_names cfg) _ hf _
        · refine replace_chacha20_poly1305_eq_self fun c hc => ?_
          simp only [List.mem_append, List.mem_cons] at hc
          rcases hc with hc | rfl | hc
          · exact ssh_ciphertab_head_names cfg c hc
          · exact hf
          · exact ssh_ciphertab_tail_names cfg c hc

/-- `ssh_crypto_finalize` leaves the table as it is. -/
@[simp] theorem ssh_crypto_finalize_ssh_ciphertab (st : CryptoState) :
    (ssh_crypto_finalize st).ssh_ciphertab = st.ssh_ciphertab := by
  unfold ssh_crypto_finalize; split <;> rfl

/-- One call of a trace keeps the table reachable. -/
theorem crypto_step_reachable {st : CryptoState} (h : TableReachable cfg fallback st.ssh_ciphertab)
    (e : CryptoEvent) : TableReachable cfg fallback (crypto_step cfg fallback st e).ssh_ciphertab := by
  cases e with
  | ssh_crypto_init B => exact ssh_crypto_init_reachable B h
  | ssh_crypto_finalize => rwa [crypto_step, ssh_crypto_finalize_ssh_ciphertab]

theorem crypto_trace_reachable (t : List CryptoEvent) :
    ∀ {st : CryptoState}, TableReachable cfg fallback st.ssh_ciphertab →
      TableReachable cfg fallback (crypto_trace cfg fallback st t).ssh_ciphertab := by
  induction t with
  | nil => exact id
  | cons e t ih => exact fun h => ih (crypto_step_reachable h e)

/-- **The table along any run.** Whatever run of `ssh_crypto_init` and
`ssh_crypto_finalize` the library goes through, the table is the build's, or the
build's with its chacha20-poly1305 entry replaced by the fallback; the entries
before it never change. -/
theorem ssh_crypto_run_table (B : Backend) (calls : List CryptoCall) :
    TableReachable cfg fallback (crypto_run cfg B fallback (crypto_state_start cfg) calls).ssh_ciphertab := by
  rw [crypto_run_eq_trace]
  exact crypto_trace_reachable _ (.inl rfl)

end Run

/-! ## Looking an entry up by name -/

/-- The loop of `pki_private_key_decrypt` and `pki_private_key_encrypt`: the
first entry whose name `strcmp` finds equal to the C string `ciphername`. -/
def ssh_cipher_lookup (ciphers : List ssh_cipher_struct) (ciphername : Bytes) :
    Option ssh_cipher_struct :=
  ciphers.find? fun c => ascii c.name == ciphername

theorem ssh_ciphertab_head_find (cfg : BuildConfig) :
    ∀ e ∈ ssh_ciphertab_head cfg, ssh_cipher_lookup (ssh_ciphertab_head cfg) (ascii e.name) = some e := by
  unfold ssh_ciphertab_head; split <;> split <;> decide

/-- **Every entry before the chacha20-poly1305 one is found by its name** in
every table a run reaches, whatever the fallback entry is called. -/
theorem ssh_cipher_lookup_head {cfg : BuildConfig} {fallback : ssh_cipher_struct}
    {tab : List ssh_cipher_struct} (htab : TableReachable cfg fallback tab) {e : ssh_cipher_struct}
    (he : e ∈ ssh_ciphertab_head cfg) : ssh_cipher_lookup tab (ascii e.name) = some e := by
  obtain ⟨x, rfl⟩ : ∃ x, tab = ssh_ciphertab_head cfg ++ x :: ssh_ciphertab_tail cfg := by
    rcases htab with rfl | rfl
    exacts [⟨_, rfl⟩, ⟨_, rfl⟩]
  have h := ssh_ciphertab_head_find cfg e he
  unfold ssh_cipher_lookup at h ⊢
  rw [List.find?_append, h]
  rfl

/-! ## The block entries -/

@[simp] theorem chacha20_poly1305_entry_encrypt (cfg : BuildConfig) :
    (chacha20_poly1305_entry cfg).encrypt = none := by
  unfold chacha20_poly1305_entry; split <;> rfl

/-- **What an entry with block hooks is.** An entry of the table with an
encrypt key setup and a block `encrypt` hook comes before the chacha20-poly1305
entry, names an mbedTLS type whose block size and key length are the entry's,
and is either a CBC entry with the four CBC hooks or a CTR entry with the four
generic ones. -/
theorem block_entry_hooks {cfg : BuildConfig} {e : ssh_cipher_struct} (he : e ∈ ssh_ciphertab cfg)
    {ek : SetKeyHook} {enc : CryptHook} (hek : e.set_encrypt_key = some ek)
    (henc : e.encrypt = some enc) :
    e ∈ ssh_ciphertab_head cfg ∧
    ∃ info, mbedtls_cipher_info_from_type e.type = some info ∧ info.block_size = e.blocksize ∧
      info.key_bitlen = e.keysize ∧
      (info.mode = .MBEDTLS_MODE_CBC ∧ ek = .cipher_set_encrypt_key_cbc ∧ enc = .cipher_encrypt_cbc ∧
          e.set_decrypt_key = some .cipher_set_decrypt_key_cbc ∧ e.decrypt = some .cipher_decrypt_cbc ∨
        info.mode = .MBEDTLS_MODE_CTR ∧ ek = .cipher_set_encrypt_key ∧ enc = .cipher_encrypt ∧
          e.set_decrypt_key = some .cipher_set_decrypt_key ∧ e.decrypt = some .cipher_decrypt) := by
  have hhead : e ∈ ssh_ciphertab_head cfg := by
    simp only [ssh_ciphertab, List.mem_append, List.mem_cons] at he
    rcases he with he | rfl | he
    · exact he
    · simp at henc
    · simp only [ssh_ciphertab_tail] at he
      split at he <;> simp_all
  refine ⟨hhead, ?_⟩
  simp only [ssh_ciphertab_head, List.mem_append, List.mem_cons, List.mem_ite_nil_right, List.mem_singleton,
    List.not_mem_nil, or_false, or_assoc] at hhead
  rcases hhead with ⟨_, rfl⟩ | rfl | rfl | rfl | rfl | rfl | rfl | ⟨_, rfl | rfl⟩ | rfl
  all_goals
    simp only [cbc_entry, ctr_entry, gcm_entry, Option.some.injEq, reduceCtorEq] at hek henc ⊢ <;>
      subst hek henc <;> simp [mbedtls_cipher_info_from_type]

/-! ## Block sessions -/

section Block

variable {cfg : BuildConfig} {B : Backend} {e : ssh_cipher_struct}

/-- **Block-mode sessions act as one cipher.** For every entry of the table with
key setups and block hooks (the CBC and the CTR entries), a sender and a receiver
keyed through the entry's hooks with the same key and IV: over any block-aligned
chunking of the stream for the sender, and any block-aligned cutting of what it
wrote for the receiver, under either CBC buffering behaviour of the backend, the
receiver writes the stream back, and every call writes as many bytes as it
reads. -/
theorem block_session_roundtrip (cfg : BuildConfig) (B : Backend) (hB : B.Lawful) (hS : B.SetupSucceeds)
    (e : ssh_cipher_struct) (he : e ∈ ssh_ciphertab cfg) (ek dk : SetKeyHook) (enc dec : CryptHook)
    (hek : e.set_encrypt_key = some ek) (hdk : e.set_decrypt_key = some dk)
    (henc : e.encrypt = some enc) (hdec : e.decrypt = some dec) (key IV : Bytes)
    (hIV : e.blocksize ≤ IV.length) (cs ds : List Bytes) (hcs : ∀ c ∈ cs, e.blocksize ∣ c.length)
    (hds : ∀ d ∈ ds, e.blocksize ∣ d.length)
    (hcut : ds.flatten = (crypt_run (enc.call B) (ek.call B e key IV).2 cs).2.flatten) :
    (crypt_run (dec.call B) (dk.call B e key IV).2 ds).2.flatten = cs.flatten ∧
      (crypt_run (enc.call B) (ek.call B e key IV).2 cs).2.map List.length = cs.map List.length ∧
      (crypt_run (dec.call B) (dk.call B e key IV).2 ds).2.map List.length = ds.map List.length := by
  obtain ⟨-, info, hinfo, hbs, -, hmodes⟩ := block_entry_hooks he hek henc
  rw [← hbs] at hIV hcs hds
  -- CBC and CTR ciphers take an IV of one block
  have hiv (h : info.mode ≠ .MBEDTLS_MODE_GCM) : info.iv_size ≤ IV.length :=
    (mbedtls_cipher_info_from_type_spec hinfo).2.2 h ▸ hIV
  rcases hmodes with ⟨hmode, rfl, rfl, hdk', hdec'⟩ | ⟨hmode, rfl, rfl, hdk', hdec'⟩ <;>
    obtain rfl := Option.some.inj (hdk.symm.trans hdk') <;>
    obtain rfl := Option.some.inj (hdec.symm.trans hdec')
  · exact cbc_session_roundtrip hB hS hinfo hmode key IV (hiv (by rw [hmode]; decide)) cs ds hcs hds hcut
  · exact ctr_session_roundtrip hB hS hinfo hmode key IV (hiv (by rw [hmode]; decide)) cs ds hcs hds hcut

/-- **One buffer through an entry's block hooks.** For an entry with an encrypt
key setup and a block `encrypt` hook, a block-aligned buffer encrypted and then
decrypted through the entry's hooks, keyed with the same key and IV, comes back,
and the encryption writes as many bytes as it reads. -/
theorem block_entry_crypt_roundtrip (hB : B.Lawful) (hS : B.SetupSucceeds) (he : e ∈ ssh_ciphertab cfg)
    {ek : SetKeyHook} {enc : CryptHook} (hek : e.set_encrypt_key = some ek) (henc : e.encrypt = some enc) (key IV : Bytes)
    (hIV : e.blocksize ≤ IV.length) (x : Bytes) (hx : e.blocksize ∣ x.length) :
    ∃ dk dec, e.set_decrypt_key = some dk ∧ e.decrypt = some dec ∧
      (enc.call B (ek.call B e key IV).2 x).2.length = x.length ∧
      (dec.call B (dk.call B e key IV).2 (enc.call B (ek.call B e key IV).2 x).2).2 = x := by
  obtain ⟨-, info, hinfo, hbs, -, hmodes⟩ := block_entry_hooks he hek henc
  rw [← hbs] at hIV hx
  have hiv (h : info.mode ≠ .MBEDTLS_MODE_GCM) : info.iv_size ≤ IV.length :=
    (mbedtls_cipher_info_from_type_spec hinfo).2.2 h ▸ hIV
  have hxs : ∀ c ∈ [x], info.block_size ∣ c.length := by simpa using hx
  rcases hmodes with ⟨hmode, rfl, rfl, hdk, hdec⟩ | ⟨hmode, rfl, rfl, hdk, hdec⟩
  · have hlen := cbc_session_encrypt_length hB hS hinfo hmode key IV (hiv (by rw [hmode]; decide)) [x] hxs
    simp only [crypt_run, List.map_cons, List.map_nil, List.cons.injEq, and_true] at hlen
    refine ⟨_, _, hdk, hdec, hlen, ?_⟩
    simpa [crypt_run] using (cbc_session_roundtrip hB hS hinfo hmode key IV (hiv (by rw [hmode]; decide))
      [x] [_] hxs (by simpa [CryptHook.call, SetKeyHook.call, hlen] using hx)
      (by simp [crypt_run, CryptHook.call, SetKeyHook.call])).1
  · have hlen := ctr_session_encrypt_length hB hS hinfo hmode key IV (hiv (by rw [hmode]; decide)) [x] hxs
    simp only [crypt_run, List.map_cons, List.map_nil, List.cons.injEq, and_true] at hlen
    refine ⟨_, _, hdk, hdec, hlen, ?_⟩
    simpa [crypt_run] using (ctr_session_roundtrip hB hS hinfo hmode key IV (hiv (by rw [hmode]; decide))
      [x] [_] hxs (by simpa [CryptHook.call, SetKeyHook.call, hlen] using hx)
      (by simp [crypt_run, CryptHook.call, SetKeyHook.call])).1

/-- The aes128-cbc entry over a backend that holds the last block back: two
16-byte chunks sent, one 32-byte chunk received. -/
theorem block_session_roundtrip_aes128_cbc :
    (crypt_run (CryptHook.cipher_decrypt_cbc.call (reversing_backend true))
        (SetKeyHook.cipher_set_decrypt_key_cbc.call (reversing_backend true)
          (cbc_entry "aes128-cbc" 16 128 .MBEDTLS_CIPHER_AES_128_CBC) (List.replicate 16 1)
          (List.replicate 16 0)).2 [List.replicate 32 0]).2.flatten =
        [List.replicate 16 (0 : UInt8), List.replicate 16 0].flatten ∧
      (crypt_run (CryptHook.cipher_encrypt_cbc.call (reversing_backend true))
        (SetKeyHook.cipher_set_encrypt_key_cbc.call (reversing_backend true)
          (cbc_entry "aes128-cbc" 16 128 .MBEDTLS_CIPHER_AES_128_CBC) (List.replicate 16 1)
          (List.replicate 16 0)).2 [List.replicate 16 0, List.replicate 16 0]).2.map List.length =
        [16, 16] ∧
      (crypt_run (CryptHook.cipher_decrypt_cbc.call (reversing_backend true))
        (SetKeyHook.cipher_set_decrypt_key_cbc.call (reversing_backend true)
          (cbc_entry "aes128-cbc" 16 128 .MBEDTLS_CIPHER_AES_128_CBC) (List.replicate 16 1)
          (List.replicate 16 0)).2 [List.replicate 32 0]).2.map List.length = [32] :=
  block_session_roundtrip ⟨false, false, false, false, false⟩ _ (reversing_backend_lawful true)
    (reversing_backend_setup_succeeds true) _
    (by decide) _ _ _ _ rfl rfl rfl rfl _ _ (by decide) _ _ (by decide) (by decide) (by decide)

end Block

/-! ## GCM sessions -/

/-- **The GCM entries.** An entry whose key setup is `cipher_set_key_gcm` reads a
4-byte length field, and with every setup call succeeding its key setup returns
`0` and keys the GCM context. -/
theorem gcm_entry_set_key {cfg : BuildConfig} {B : Backend} (hS : B.SetupSucceeds) {e : ssh_cipher_struct}
    (he : e ∈ ssh_ciphertab cfg) (hgcm : e.set_encrypt_key = some .cipher_set_key_gcm) (key IV : Bytes) :
    e.lenfield_blocksize = 4 ∧ (cipher_set_key_gcm B e key IV).1 = 0 ∧
      (cipher_set_key_gcm B e key IV).2.gcm_ctx.isSome := by
  simp only [ssh_ciphertab, ssh_ciphertab_head, ssh_ciphertab_tail, List.mem_append, List.mem_cons,
    List.mem_ite_nil_right, List.mem_singleton, List.not_mem_nil, or_false, or_assoc] at he
  rcases he with ⟨_, rfl⟩ | rfl | rfl | rfl | rfl | rfl | rfl | ⟨_, rfl | rfl⟩ | rfl | rfl | ⟨_, rfl⟩
  all_goals first
    | simp [cbc_entry, ctr_entry] at hgcm
    | (unfold chacha20_poly1305_entry at hgcm; split at hgcm <;> simp at hgcm)
    | simp [cipher_set_key_gcm, gcm_entry, hS _, mbedtls_cipher_info_from_type]

/-- **AES-GCM sender and receiver stay in lockstep.** Take sender and receiver
sessions keyed by `cipher_set_key_gcm` from a GCM entry of the table with the
same key and IV. Over any run in which the receiver is handed, in order, what
the sender wrote for each of its packets (of at least 4 bytes) and tag,
interleaved with injected packets that `cipher_decrypt_gcm` rejects, every
genuine packet is accepted with `SSH_OK`, its length field read back by
`cipher_gcm_get_length` and the rest of it written, and after every delivery the
receiver's `last_iv` is the sender's. -/
theorem gcm_sessions_lockstep (cfg : BuildConfig) (B : Backend) (hB : B.Lawful) (hS : B.SetupSucceeds)
    (e : ssh_cipher_struct) (he : e ∈ ssh_ciphertab cfg) (hgcm : e.set_encrypt_key = some .cipher_set_key_gcm) (key IV : Bytes)
    (ds : List GcmDelivery) (hlen : ∀ p, GcmDelivery.genuine p ∈ ds → 4 ≤ p.length)
    (hrej : ∀ y ∈ ds.zip (gcm_link_run B (cipher_set_key_gcm B e key IV).2 (cipher_set_key_gcm B e key IV).2 ds),
      y.1.is_injected → y.2.2.2.rc = SSH_ERROR) :
    ∀ d x, (d, x) ∈ ds.zip (gcm_link_run B (cipher_set_key_gcm B e key IV).2
        (cipher_set_key_gcm B e key IV).2 ds) →
      x.2.1.last_iv = x.1.last_iv ∧ ∀ p, d = .genuine p → x.2.2 = ⟨p.take 4, SSH_OK, some (p.drop 4)⟩ := by
  obtain ⟨h4, -, hkeyed⟩ := gcm_entry_set_key hS he hgcm key IV
  have hs : (cipher_set_key_gcm B e key IV).2.lenfield_blocksize = 4 := by
    simp only [cipher_set_key_gcm]; split <;> exact h4
  intro d x hx
  obtain ⟨hsync, hgen⟩ := gcm_link_lockstep hB ⟨rfl, rfl, rfl, rfl, hkeyed⟩ ds
    (fun p hp => hs ▸ hlen p hp) hrej d x hx
  exact ⟨hsync.last_iv, fun p hp => hs ▸ hgen p hp⟩

/-- The aes128-gcm entry: a genuine packet, a forgery the receiver rejects, and
another genuine packet. -/
theorem gcm_sessions_lockstep_aes128 :
    let s := (cipher_set_key_gcm (reversing_backend false)
      (gcm_entry "aes128-gcm@openssh.com" 128 .MBEDTLS_CIPHER_AES_128_GCM) (List.replicate 16 0)
      (List.replicate 12 255)).2
    let ds := [GcmDelivery.genuine [0, 0, 0, 5, 1, 2, 3, 4, 5], .injected [0, 0, 0, 1, 9] 0,
      .genuine [0, 0, 0, 1, 7]]
    (∀ y ∈ ds.zip (gcm_link_run (reversing_backend false) s s ds),
      y.1.is_injected → y.2.2.2.rc = SSH_ERROR) ∧
    ∀ d x, (d, x) ∈ ds.zip (gcm_link_run (reversing_backend false) s s ds) →
      x.2.1.last_iv = x.1.last_iv ∧ ∀ p, d = .genuine p → x.2.2 = ⟨p.take 4, SSH_OK, some (p.drop 4)⟩ :=
  ⟨by decide, gcm_sessions_lockstep ⟨false, true, false, false, false⟩ _ (reversing_backend_lawful false)
    (reversing_backend_setup_succeeds false) _
    (by decide) rfl _ _ _ (by simp) (by decide)⟩

end Libssh
