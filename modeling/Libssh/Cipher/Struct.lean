import Libssh.Mbedtls

/-!
`struct ssh_cipher_struct` as `libmbedcrypto.c` fills it: a table entry's
description (name, sizes, mbedTLS type, hooks) and the per-session state the
hooks mutate (the two generic contexts, the GCM key and counter, and the
ChaCha20-Poly1305 key schedule).

A hook is a C function pointer that may be NULL, so each is an `Option` of the
functions the table can point to; `Cipher.Table` gives them their meaning. The
fields the modelled functions never read (`ciphertype`, `keylen`) are left out.

A run of the code ends in a value or in undefined behaviour; `Fault` names the
undefined behaviour the container code can reach.
-/

set_option autoImplicit false

namespace Libssh

/-- Undefined behaviour of a C run. -/
inductive Fault
  /-- A call through a NULL hook of the cipher table. -/
  | null_hook
  /-- A `%` whose divisor, a cipher's block size, is zero. -/
  | div_by_zero
  /-- A dereference of a NULL key schedule. -/
  | null_schedule
  deriving DecidableEq, Repr

/-- The key-setup functions a table entry can point to. -/
inductive SetKeyHook
  | cipher_set_encrypt_key
  | cipher_set_encrypt_key_cbc
  | cipher_set_decrypt_key
  | cipher_set_decrypt_key_cbc
  | cipher_set_key_gcm
  | chacha20_poly1305_set_key
  deriving DecidableEq, Repr

/-- The block-mode `encrypt` / `decrypt` functions. -/
inductive CryptHook
  | cipher_encrypt
  | cipher_encrypt_cbc
  | cipher_decrypt
  | cipher_decrypt_cbc
  | none_crypt
  deriving DecidableEq, Repr

/-- The `aead_encrypt` functions. -/
inductive AeadEncryptHook
  | cipher_encrypt_gcm
  | chacha20_poly1305_aead_encrypt
  deriving DecidableEq, Repr

/-- The `aead_decrypt_length` functions. -/
inductive AeadDecryptLengthHook
  | cipher_gcm_get_length
  | chacha20_poly1305_aead_decrypt_length
  deriving DecidableEq, Repr

/-- The `aead_decrypt` functions. -/
inductive AeadDecryptHook
  | cipher_decrypt_gcm
  | chacha20_poly1305_aead_decrypt
  deriving DecidableEq, Repr

/-- The `cleanup` functions. -/
inductive CleanupHook
  | cipher_cleanup
  | chacha20_poly1305_cleanup
  deriving DecidableEq, Repr

/-- Which of the two ChaCha20 contexts an update ran on: `main_ctx` is keyed
with the first half of the key, `header_ctx` with the second. -/
inductive ChachaHalf
  | main_ctx
  | header_ctx
  deriving DecidableEq, Repr

/-- Where the output of a ChaCha20 update went. -/
inductive ChachaSink
  | poly_key
  | length_field
  | payload
  deriving DecidableEq, Repr

/-- One `mbedtls_chacha20_update` of the AEAD code: the context it ran on and
its state before, the number of bytes, and where the output went. -/
structure ChachaUpdate where
  half : ChachaHalf
  ctx : mbedtls_chacha20_context
  len : Nat
  sink : ChachaSink
  deriving DecidableEq, Repr

/-- `struct chacha20_poly1305_keysched`. `updates` is not in the C struct: it
records every keystream update made through the schedule, newest last, so that
which keystream blocks were used is a property of the state. -/
structure chacha20_poly1305_keysched where
  initialized : Bool
  main_ctx : mbedtls_chacha20_context
  header_ctx : mbedtls_chacha20_context
  poly_ctx : mbedtls_poly1305_context
  updates : List ChachaUpdate
  deriving DecidableEq, Repr

/-- `struct ssh_cipher_struct`: the description an entry of `ssh_ciphertab`
gives, and the state of a session keyed from it. -/
structure ssh_cipher_struct where
  name : String
  blocksize : Nat := 0
  lenfield_blocksize : Nat := 0
  keysize : Nat := 0
  tag_size : Nat := 0
  type : mbedtls_cipher_type_t := .MBEDTLS_CIPHER_NONE
  set_encrypt_key : Option SetKeyHook := none
  set_decrypt_key : Option SetKeyHook := none
  encrypt : Option CryptHook := none
  decrypt : Option CryptHook := none
  aead_encrypt : Option AeadEncryptHook := none
  aead_decrypt_length : Option AeadDecryptLengthHook := none
  aead_decrypt : Option AeadDecryptHook := none
  cleanup : Option CleanupHook := none
  encrypt_ctx : Option mbedtls_cipher_context_t := none
  decrypt_ctx : Option mbedtls_cipher_context_t := none
  gcm_ctx : Option Bytes := none
  last_iv : Bytes := []
  chacha20_schedule : Option chacha20_poly1305_keysched := none
  deriving DecidableEq, Repr

/-- The mbedTLS calls a key setup makes on `cipher`, in order; each can fail,
and each setup stops at the first that does. `chacha20_poly1305_set_key`
allocates a schedule only when the session has none. -/
def SetKeyHook.mbedtls_calls (cipher : ssh_cipher_struct) : SetKeyHook → List MbedtlsCall
  | .cipher_set_encrypt_key | .cipher_set_decrypt_key =>
    [.mbedtls_cipher_setup, .mbedtls_cipher_setkey, .mbedtls_cipher_set_iv, .mbedtls_cipher_reset]
  | .cipher_set_encrypt_key_cbc | .cipher_set_decrypt_key_cbc =>
    [.mbedtls_cipher_setup, .mbedtls_cipher_setkey, .mbedtls_cipher_set_iv, .mbedtls_cipher_set_padding_mode,
      .mbedtls_cipher_reset]
  | .cipher_set_key_gcm => [.mbedtls_gcm_setkey]
  | .chacha20_poly1305_set_key => (if cipher.chacha20_schedule.isSome then [] else [.calloc]) ++
    [.mbedtls_chacha20_setkey_main, .mbedtls_chacha20_setkey_header]

/-- `SSH_OK`. -/
def SSH_OK : Int := 0

/-- `SSH_ERROR`. -/
def SSH_ERROR : Int := -1

end Libssh
