import Libssh.Cipher.Table

/-!
What the key setups of `ssh_ciphertab` and `ssh_crypto_init` return, over
every outcome of the mbedTLS calls they make.

* `SetKeyHook.call_rc`: a key setup returns `SSH_OK` exactly when the calls it
  reports succeed, and its error code otherwise. The two decrypt setups do not
  report their final `mbedtls_cipher_reset` (its result is not assigned to
  `rc`), and `cipher_set_key_gcm`'s error code is `1`.
* `key_setup_fails_closed`: for every entry of the table, a key setup whose
  calls all succeed returns `SSH_OK`, and one with a failing call it reports
  returns something else, `SSH_ERROR` outside GCM. `ssh_crypto_init` returns
  `SSH_OK` and marks the library initialised whether or not
  `mbedtls_ctr_drbg_seed` succeeded; it records the DRBG as seeded only when it
  did.
* `crypto_trace_seeded`: over any trace of `ssh_crypto_init` and
  `ssh_crypto_finalize`, in which the outcome of `mbedtls_ctr_drbg_seed` may
  change from call to call, the DRBG is seeded exactly when the first
  `ssh_crypto_init` since the last `ssh_crypto_finalize` seeded it: later calls
  return at once.
-/

set_option autoImplicit false

namespace Libssh

/-! ## 1. What a key setup reports -/

/-- The setup calls whose outcome a key setup reports: all of them, except the
final `mbedtls_cipher_reset` of the two decrypt setups. -/
def SetKeyHook.reported_calls (cipher : ssh_cipher_struct) (h : SetKeyHook) : List MbedtlsCall :=
  match h with
  | .cipher_set_decrypt_key | .cipher_set_decrypt_key_cbc => (h.mbedtls_calls cipher).dropLast
  | _ => h.mbedtls_calls cipher

/-- What a key setup returns when a call it reports fails. -/
def SetKeyHook.error_rc : SetKeyHook → Int
  | .cipher_set_key_gcm => 1
  | _ => SSH_ERROR

theorem SetKeyHook.error_rc_ne_ok (h : SetKeyHook) : h.error_rc ≠ SSH_OK := by
  cases h <;> decide

theorem SetKeyHook.reported_calls_subset (cipher : ssh_cipher_struct) (h : SetKeyHook) :
    h.reported_calls cipher ⊆ h.mbedtls_calls cipher := by
  cases h <;> first | exact List.Subset.refl _ | exact List.dropLast_subset _

/-- A call a key setup makes is reported, unless it is the decrypt setups'
final reset. -/
theorem SetKeyHook.mem_reported_calls {cipher : ssh_cipher_struct} {h : SetKeyHook} {c : MbedtlsCall}
    (hc : c ∈ h.mbedtls_calls cipher)
    (hreset : c = .mbedtls_cipher_reset → h ≠ .cipher_set_decrypt_key ∧ h ≠ .cipher_set_decrypt_key_cbc) :
    c ∈ h.reported_calls cipher := by
  cases h <;> simp only [reported_calls] <;> try exact hc
  all_goals
    simp only [mbedtls_calls, List.mem_cons, List.not_mem_nil, or_false] at hc
    rcases hc with rfl | rfl | rfl | rfl | rfl <;> simp_all [mbedtls_calls]

/-- What a key setup needs of the mbedTLS type of the cipher it keys: the block
setups look its info up, and `cipher_set_key_gcm` keys AES with its key length,
which must be one AES has. -/
def SetKeyHook.type_ok (type : mbedtls_cipher_type_t) : SetKeyHook → Prop
  | .cipher_set_key_gcm => ((mbedtls_cipher_info_from_type type).map (·.key_bitlen)).getD 0 ∈ [128, 192, 256]
  | .chacha20_poly1305_set_key => True
  | _ => (mbedtls_cipher_info_from_type type).isSome

/-- **What a key setup returns**, for every outcome of the calls it makes. -/
theorem SetKeyHook.call_rc {B : Backend} {cipher : ssh_cipher_struct} {h : SetKeyHook}
    (hty : h.type_ok cipher.type) (key IV : Bytes) :
    (h.call B cipher key IV).1 = if B.calls_succeed (h.reported_calls cipher) then SSH_OK else h.error_rc := by
  cases h
  case cipher_set_key_gcm =>
    simp only [type_ok] at hty
    simp only [call, cipher_set_key_gcm_rc, hty, and_true, reported_calls, error_rc]
    rfl
  case chacha20_poly1305_set_key => exact chacha20_poly1305_set_key_rc cipher key
  all_goals obtain ⟨info, hinfo⟩ := Option.isSome_iff_exists.mp hty
  case cipher_set_encrypt_key => exact cipher_set_encrypt_key_rc hinfo key IV
  case cipher_set_encrypt_key_cbc => exact cipher_set_encrypt_key_cbc_rc hinfo key IV
  case cipher_set_decrypt_key => exact cipher_set_decrypt_key_rc hinfo key IV
  case cipher_set_decrypt_key_cbc => exact cipher_set_decrypt_key_cbc_rc hinfo key IV

/-- Every key setup of the table is called on a type it can key. -/
theorem ssh_ciphertab_type_ok {cfg : BuildConfig} {e : ssh_cipher_struct} (he : e ∈ ssh_ciphertab cfg)
    {h : SetKeyHook} (hh : e.set_encrypt_key = some h ∨ e.set_decrypt_key = some h) : h.type_ok e.type := by
  simp only [ssh_ciphertab, ssh_ciphertab_head, ssh_ciphertab_tail, List.mem_append, List.mem_cons,
    List.mem_ite_nil_right, List.mem_singleton, List.not_mem_nil, or_false, or_assoc] at he
  rcases he with ⟨_, rfl⟩ | rfl | rfl | rfl | rfl | rfl | rfl | ⟨_, rfl | rfl⟩ | rfl | rfl | ⟨_, rfl⟩
  case inr.inr.inr.inr.inr.inr.inr.inr.inr.inl =>
    unfold chacha20_poly1305_entry at hh
    split at hh <;> simp only [or_self, Option.some.injEq, reduceCtorEq] at hh
    subst hh; trivial
  all_goals
    simp only [cbc_entry, ctr_entry, gcm_entry, Option.some.injEq, reduceCtorEq, or_false] at hh <;>
      rcases hh with rfl | rfl <;> simp [SetKeyHook.type_ok, mbedtls_cipher_info_from_type, cbc_entry, ctr_entry, gcm_entry]

/-! ## 2. `ssh_crypto_init` -/

/-- `ssh_crypto_init` returns `SSH_OK` and leaves the library initialised; a
first call records the DRBG as seeded exactly when `mbedtls_ctr_drbg_seed`
succeeded. -/
theorem ssh_crypto_init_rc (cfg : BuildConfig) (B : Backend) (fallback : ssh_cipher_struct)
    (st : CryptoState) :
    (ssh_crypto_init cfg B fallback st).1 = SSH_OK ∧
      (ssh_crypto_init cfg B fallback st).2.libmbedcrypto_initialized = true ∧
      (st.libmbedcrypto_initialized = false →
        (ssh_crypto_init cfg B fallback st).2.ctr_drbg_seeded = !B.setup_fails .mbedtls_ctr_drbg_seed) := by
  unfold ssh_crypto_init
  split <;> simp_all

section CryptoTrace

/-- The backends met by the `ssh_crypto_init` calls of a trace since its last
`ssh_crypto_finalize`, in order. -/
def inits_since_finalize (t : List CryptoEvent) : List Backend :=
  t.foldl (fun bs e => match e with
    | .ssh_crypto_init B => bs ++ [B]
    | .ssh_crypto_finalize => []) []

theorem crypto_trace_append (cfg : BuildConfig) (fallback : ssh_cipher_struct) (st : CryptoState)
    (t : List CryptoEvent) (e : CryptoEvent) :
    crypto_trace cfg fallback st (t ++ [e]) = crypto_step cfg fallback (crypto_trace cfg fallback st t) e := by
  simp [crypto_trace]

/-- **The library state along any trace.** From the state the library is
loaded in, after any trace of `ssh_crypto_init` and `ssh_crypto_finalize`, in
which each `ssh_crypto_init` may meet another outcome of
`mbedtls_ctr_drbg_seed`: the library is initialised exactly when
`ssh_crypto_init` was called since the last `ssh_crypto_finalize`, and the DRBG
is seeded exactly when the first of those calls seeded it, since every later
one returns at once; the table is the build's, or the build's with its
chacha20-poly1305 entry replaced. -/
theorem crypto_trace_seeded (cfg : BuildConfig) (fallback : ssh_cipher_struct) (t : List CryptoEvent) :
    (crypto_trace cfg fallback (crypto_state_start cfg) t).libmbedcrypto_initialized =
        !(inits_since_finalize t).isEmpty ∧
      (crypto_trace cfg fallback (crypto_state_start cfg) t).ctr_drbg_seeded =
        (inits_since_finalize t).head?.any (fun B => !B.setup_fails .mbedtls_ctr_drbg_seed) ∧
      TableReachable cfg fallback (crypto_trace cfg fallback (crypto_state_start cfg) t).ssh_ciphertab := by
  rw [← and_assoc]
  refine ⟨?_, crypto_trace_reachable t (.inl rfl)⟩
  induction t using List.reverseRecOn with
  | nil => exact ⟨rfl, rfl⟩
  | append_singleton t e ih =>
    obtain ⟨hi, hs⟩ := ih
    rw [crypto_trace_append]
    generalize crypto_trace cfg fallback (crypto_state_start cfg) t = st at hi hs
    cases e with
    | ssh_crypto_init B =>
      have hL : inits_since_finalize (t ++ [.ssh_crypto_init B]) = inits_since_finalize t ++ [B] := by
        simp [inits_since_finalize]
      rw [hL, crypto_step, ssh_crypto_init]
      cases hinit : st.libmbedcrypto_initialized
      · -- the first call since the last `ssh_crypto_finalize` seeds the DRBG
        obtain hnil : inits_since_finalize t = [] := by simpa [hinit] using hi
        simp [hnil]
      · -- a later call returns at once
        obtain ⟨b, L, hbL⟩ := List.exists_cons_of_ne_nil (by simpa [hinit] using hi)
        simp [hinit, hs, hbL]
    | ssh_crypto_finalize =>
      have hL : inits_since_finalize (t ++ [.ssh_crypto_finalize]) = [] := by simp [inits_since_finalize]
      rw [hL, crypto_step, ssh_crypto_finalize]
      cases hinit : st.libmbedcrypto_initialized
      · obtain hnil : inits_since_finalize t = [] := by simpa [hinit] using hi
        simp [hinit, hs, hnil]
      · simp

/-- A failed seeding is kept by a second `ssh_crypto_init`, and retried only
after `ssh_crypto_finalize`. -/
example :
    let fails : Backend := { reversing_backend false with
      setup_fails := fun c => decide (c = .mbedtls_ctr_drbg_seed) }
    let cfg : BuildConfig := ⟨false, false, false, false, false⟩
    (crypto_trace cfg { name := "" } (crypto_state_start cfg)
      [.ssh_crypto_init fails, .ssh_crypto_init (reversing_backend false)]).ctr_drbg_seeded = false ∧
    (crypto_trace cfg { name := "" } (crypto_state_start cfg)
      [.ssh_crypto_init fails, .ssh_crypto_finalize, .ssh_crypto_init (reversing_backend false)]).ctr_drbg_seeded =
        true :=
  ⟨rfl, rfl⟩

end CryptoTrace

/-! ## 3. Failing closed -/

/-- **Key setup fails closed.** For every entry of the table and every key
setup it has, called on a cipher of the entry's type with any key and IV: when
every mbedTLS call it makes succeeds it returns `SSH_OK`, and when one fails
(the decrypt setups' final reset aside) it does not, and returns `SSH_ERROR`
unless it is `cipher_set_key_gcm`. `ssh_crypto_init` returns `SSH_OK` and
marks the library initialised whatever `mbedtls_ctr_drbg_seed` did; a first
call records the DRBG as seeded only when the seeding succeeded. -/
theorem key_setup_fails_closed :
    (∀ cfg, ∀ e ∈ ssh_ciphertab cfg, ∀ h, (e.set_encrypt_key = some h ∨ e.set_decrypt_key = some h) →
      ∀ (B : Backend) (cipher : ssh_cipher_struct), cipher.type = e.type → ∀ key IV,
        ((∀ c ∈ h.mbedtls_calls cipher, B.setup_fails c = false) → (h.call B cipher key IV).1 = SSH_OK) ∧
        ∀ c ∈ h.mbedtls_calls cipher, B.setup_fails c = true →
          (c = .mbedtls_cipher_reset → h ≠ .cipher_set_decrypt_key ∧ h ≠ .cipher_set_decrypt_key_cbc) →
          (h.call B cipher key IV).1 ≠ SSH_OK ∧
            (h ≠ .cipher_set_key_gcm → (h.call B cipher key IV).1 = SSH_ERROR)) ∧
    ∀ cfg B fallback st,
      (ssh_crypto_init cfg B fallback st).1 = SSH_OK ∧
      (ssh_crypto_init cfg B fallback st).2.libmbedcrypto_initialized = true ∧
      (st.libmbedcrypto_initialized = false →
        (ssh_crypto_init cfg B fallback st).2.ctr_drbg_seeded = !B.setup_fails .mbedtls_ctr_drbg_seed) := by
  refine ⟨fun cfg e he h hh B cipher hty key IV => ?_, ssh_crypto_init_rc⟩
  have hrc := SetKeyHook.call_rc (B := B) (hty ▸ ssh_ciphertab_type_ok he hh) key IV
  constructor
  · intro hall
    have hrep : B.calls_succeed (h.reported_calls cipher) = true :=
      (Backend.calls_succeed_iff _ _).mpr fun c hc => hall c (SetKeyHook.reported_calls_subset cipher h hc)
    rw [hrc, if_pos hrep]
  · intro c hc hfail hreset
    have hrep : B.calls_succeed (h.reported_calls cipher) = false := by
      rw [← Bool.not_eq_true, Backend.calls_succeed_iff]
      exact fun hall => absurd (hall c (SetKeyHook.mem_reported_calls hc hreset)) (by simp [hfail])
    rw [hrc, if_neg (by simp [hrep])]
    exact ⟨h.error_rc_ne_ok, fun hg => by cases h <;> first | rfl | exact absurd rfl hg⟩

/-- A first `ssh_crypto_init` whose `mbedtls_ctr_drbg_seed` fails still returns
`SSH_OK` and marks the library initialised, with the DRBG unseeded. -/
theorem ssh_crypto_init_unseeded :
    let B : Backend := { reversing_backend false with setup_fails := fun c => decide (c = .mbedtls_ctr_drbg_seed) }
    let r := ssh_crypto_init ⟨false, false, true, true, false⟩ B { name := chacha20_poly1305_name }
      (crypto_state_start ⟨false, false, true, true, false⟩)
    B.setup_fails .mbedtls_ctr_drbg_seed = true ∧ r.1 = SSH_OK ∧ r.2.libmbedcrypto_initialized = true ∧
      r.2.ctr_drbg_seeded = false :=
  ⟨rfl, rfl, rfl, rfl⟩

end Libssh
