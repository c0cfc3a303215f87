import Libssh.Pki.Import

/-!
Where the secrets of `pki_container_openssh.c` are when the code that held them
returns.

`pki_private_key_decrypt` and `pki_private_key_encrypt` keep two 128-byte
arrays on their stack, zero at entry: `passphrase_buffer`, which the
authentication callback writes the passphrase into, and `key_material`, which
`bcrypt_pbkdf` writes the key and IV into. The `_frame` functions are the two
helpers with these arrays; dropping the arrays gives the helpers of
`Pki.Container` (`pki_private_key_decrypt_frame_map`,
`pki_private_key_encrypt_frame_map`).

* `pki_private_key_crypt_frame_stack`: at every return, the arrays are as
  declared, or the callback's passphrase is still in `passphrase_buffer` after
  `bcrypt_pbkdf` failed, or (with `SSH_OK`) `passphrase_buffer` was cleared and
  `key_material` still holds the KDF's output.
* `ssh_pki_openssh_import_privkeys_key`: a private import that returns a key
  frees, without clearing it, the decrypted section the key was read from.
* `pki_private_key_frames_secrets` puts these together over every return of
  the two helpers and every import.

The callback is taken to write `passphrase_buffer` only when it answers; one
that writes and then declines is not modelled.
-/

set_option autoImplicit false

namespace Libssh

/-! ## 1. The stack arrays -/

/-- The two arrays on the stack of `pki_private_key_decrypt` and
`pki_private_key_encrypt`. -/
structure HelperStack where
  key_material : Bytes
  passphrase_buffer : Bytes
  deriving DecidableEq, Repr

/-- The arrays as declared, `= {0}`: 128 zero bytes each. -/
def HelperStack.init : HelperStack := ⟨List.replicate 128 0, List.replicate 128 0⟩

/-! ## 2. The helpers with their arrays -/

section Frame

variable {KeyType Key : Type}

/-- `bcrypt_pbkdf` and what follows it in the two helpers, with
`passphrase_buffer` as the passphrase step left it. A failing KDF returns with
the arrays as they are. On success `key_material` holds the KDF's output, the
cipher runs, and `explicit_bzero` clears `passphrase_buffer` (before the key
setup in `pki_private_key_decrypt`, after the block hook in
`pki_private_key_encrypt`; the cipher does not read it). Nothing clears
`key_material`. -/
def pki_private_key_kdf_frame (B : Backend) (X : Collaborators KeyType Key) (operation : mbedtls_operation_t)
    (cipher : ssh_cipher_struct) (buf passphrase_buffer passphrase salt : Bytes) (rounds : UInt32) :
    Except Fault (Int × Bytes × HelperStack) :=
  match X.bcrypt_pbkdf (cstr passphrase) salt (cipher.keysize / 8 + cipher.blocksize) rounds with
  | none => .ok (SSH_ERROR, buf, { HelperStack.init with passphrase_buffer })
  | some km =>
    (pki_cipher_crypt B operation cipher (key_material_buffer km) buf).map fun out =>
      (SSH_OK, out, { HelperStack.init with key_material := key_material_buffer km })

/-- `pki_private_key_crypt` with the arrays. The callback writes the passphrase
it returns over `passphrase_buffer`; one that declines is taken to write
nothing. -/
def pki_private_key_crypt_frame (B : Backend) (X : Collaborators KeyType Key) (operation : mbedtls_operation_t)
    (cipher : ssh_cipher_struct) (buf : Bytes) (passphrase : Option Bytes)
    (auth_fn : Option ssh_auth_callback) (salt : Bytes) (rounds : UInt32) :
    Except Fault (Int × Bytes × HelperStack) :=
  if 128 < cipher.keysize / 8 + cipher.blocksize then .ok (SSH_ERROR, buf, .init)
  else
    match passphrase, auth_fn with
    | some p, _ => pki_private_key_kdf_frame B X operation cipher buf (List.replicate 128 0) p salt rounds
    | none, none => .ok (SSH_ERROR, buf, .init)
    | none, some f =>
      match f (ascii "Passphrase") 128 with
      | none => .ok (SSH_ERROR, buf, .init)
      | some p => pki_private_key_kdf_frame B X operation cipher buf (write_over (List.replicate 128 0) p) p salt rounds

/-- `pki_private_key_decrypt` with the arrays: every return before the
passphrase step leaves them as declared. -/
def pki_private_key_decrypt_frame (B : Backend) (X : Collaborators KeyType Key)
    (ciphers : List ssh_cipher_struct) (blob : Bytes) (passphrase : Option Bytes)
    (ciphername kdfname kdfoptions : Bytes) (auth_fn : Option ssh_auth_callback) :
    Except Fault (Int × Bytes × HelperStack) :=
  if cstr ciphername = ascii "none" then .ok (SSH_OK, blob, .init)
  else
    match ssh_cipher_lookup ciphers (cstr ciphername) with
    | none => .ok (SSH_ERROR, blob, .init)
    | some cipher =>
      if cstr kdfname ≠ ascii "bcrypt" then .ok (SSH_ERROR, blob, .init)
      else if cipher.blocksize = 0 then .error .div_by_zero
      else if blob.length % cipher.blocksize ≠ 0 then .ok (SSH_ERROR, blob, .init)
      else
        match (ssh_buffer_add_data [] kdfoptions).bind unpack_Sd with
        | none => .ok (SSH_ERROR, blob, .init)
        | some (salt, rounds) =>
          pki_private_key_crypt_frame B X .MBEDTLS_DECRYPT cipher blob passphrase auth_fn salt rounds

/-- `pki_private_key_encrypt` with the arrays. -/
def pki_private_key_encrypt_frame (B : Backend) (X : Collaborators KeyType Key)
    (ciphers : List ssh_cipher_struct) (privkey_buffer : Bytes) (passphrase : Option Bytes)
    (ciphername kdfname : Bytes) (auth_fn : Option ssh_auth_callback) (rounds : UInt32) (salt : Bytes) :
    Except Fault (Int × Bytes × HelperStack) :=
  if cstr ciphername = ascii "none" then .ok (SSH_OK, privkey_buffer, .init)
  else
    match ssh_cipher_lookup ciphers (cstr ciphername) with
    | none => .ok (SSH_ERROR, privkey_buffer, .init)
    | some cipher =>
      if cstr kdfname ≠ ascii "bcrypt" then .ok (SSH_ERROR, privkey_buffer, .init)
      else pki_private_key_crypt_frame B X .MBEDTLS_ENCRYPT cipher privkey_buffer passphrase auth_fn salt rounds

/-- The return code and buffer of a frame, without the arrays. -/
def frame_result (r : Int × Bytes × HelperStack) : Int × Bytes := (r.1, r.2.1)

end Frame

/-! ## 3. The frames refine the helpers -/

section Refine

variable {KeyType Key : Type} {B : Backend} {X : Collaborators KeyType Key}

theorem pki_private_key_kdf_frame_map (operation : mbedtls_operation_t) (cipher : ssh_cipher_struct)
    (buf passphrase_buffer passphrase salt : Bytes) (rounds : UInt32) :
    (pki_private_key_kdf_frame B X operation cipher buf passphrase_buffer passphrase salt rounds).map frame_result =
      match X.bcrypt_pbkdf (cstr passphrase) salt (cipher.keysize / 8 + cipher.blocksize) rounds with
      | none => .ok (SSH_ERROR, buf)
      | some km => (pki_cipher_crypt B operation cipher (key_material_buffer km) buf).map (SSH_OK, ·) := by
  unfold pki_private_key_kdf_frame
  cases X.bcrypt_pbkdf (cstr passphrase) salt (cipher.keysize / 8 + cipher.blocksize) rounds with
  | none => rfl
  | some km => dsimp only; cases pki_cipher_crypt B operation cipher (key_material_buffer km) buf <;> rfl

/-- Dropping the arrays from the shared part gives `pki_private_key_crypt`. -/
theorem pki_private_key_crypt_frame_map (operation : mbedtls_operation_t) (cipher : ssh_cipher_struct)
    (buf : Bytes) (passphrase : Option Bytes) (auth_fn : Option ssh_auth_callback) (salt : Bytes) (rounds : UInt32) :
    (pki_private_key_crypt_frame B X operation cipher buf passphrase auth_fn salt rounds).map frame_result =
      pki_private_key_crypt B X operation cipher buf passphrase auth_fn salt rounds := by
  unfold pki_private_key_crypt_frame pki_private_key_crypt
  dsimp only
  by_cases hlen : 128 < cipher.keysize / 8 + cipher.blocksize
  · rw [if_pos hlen, if_pos hlen]; rfl
  rw [if_neg hlen, if_neg hlen]
  rcases passphrase with _ | p <;> rcases auth_fn with _ | f
  · rfl
  · simp only [pki_passphrase]
    cases f (ascii "Passphrase") 128
    · rfl
    · exact pki_private_key_kdf_frame_map ..
  all_goals exact pki_private_key_kdf_frame_map ..

/-- Dropping the arrays gives `pki_private_key_decrypt`. -/
theorem pki_private_key_decrypt_frame_map (ciphers : List ssh_cipher_struct) (blob : Bytes) (passphrase : Option Bytes)
    (ciphername kdfname kdfoptions : Bytes) (auth_fn : Option ssh_auth_callback) :
    (pki_private_key_decrypt_frame B X ciphers blob passphrase ciphername kdfname kdfoptions auth_fn).map frame_result =
      pki_private_key_decrypt B X ciphers blob passphrase ciphername kdfname kdfoptions auth_fn := by
  unfold pki_private_key_decrypt_frame pki_private_key_decrypt
  by_cases hnone : cstr ciphername = ascii "none"
  · rw [if_pos hnone, if_pos hnone]; rfl
  rw [if_neg hnone, if_neg hnone]
  cases ssh_cipher_lookup ciphers (cstr ciphername) with
  | none => rfl
  | some cipher =>
    dsimp only
    split_ifs
    any_goals rfl
    cases (ssh_buffer_add_data [] kdfoptions).bind unpack_Sd with
    | none => rfl
    | some sr => exact pki_private_key_crypt_frame_map ..

/-- Dropping the arrays gives `pki_private_key_encrypt`. -/
theorem pki_private_key_encrypt_frame_map (ciphers : List ssh_cipher_struct) (privkey_buffer : Bytes)
    (passphrase : Option Bytes) (ciphername kdfname : Bytes) (auth_fn : Option ssh_auth_callback) (rounds : UInt32)
    (salt : Bytes) :
    (pki_private_key_encrypt_frame B X ciphers privkey_buffer passphrase ciphername kdfname auth_fn rounds salt).map
        frame_result =
      pki_private_key_encrypt B X ciphers privkey_buffer passphrase ciphername kdfname auth_fn rounds salt := by
  unfold pki_private_key_encrypt_frame pki_private_key_encrypt
  by_cases hnone : cstr ciphername = ascii "none"
  · rw [if_pos hnone, if_pos hnone]; rfl
  rw [if_neg hnone, if_neg hnone]
  cases ssh_cipher_lookup ciphers (cstr ciphername) with
  | none => rfl
  | some cipher =>
    dsimp only
    split_ifs
    · rfl
    · exact pki_private_key_crypt_frame_map ..

/-! ## 4. The arrays at every return -/

/-- The arrays when `bcrypt_pbkdf` and what follows return. -/
theorem pki_private_key_kdf_frame_stack {operation : mbedtls_operation_t} {cipher : ssh_cipher_struct}
    {buf passphrase_buffer passphrase salt : Bytes} {rounds : UInt32} {rc : Int} {out : Bytes} {s : HelperStack}
    (h : pki_private_key_kdf_frame B X operation cipher buf passphrase_buffer passphrase salt rounds =
      .ok (rc, out, s)) :
    (rc = SSH_ERROR ∧ s = ⟨List.replicate 128 0, passphrase_buffer⟩ ∧
        X.bcrypt_pbkdf (cstr passphrase) salt (cipher.keysize / 8 + cipher.blocksize) rounds = none) ∨
      (rc = SSH_OK ∧ ∃ km, X.bcrypt_pbkdf (cstr passphrase) salt (cipher.keysize / 8 + cipher.blocksize) rounds =
        some km ∧ s = ⟨key_material_buffer km, List.replicate 128 0⟩) := by
  unfold pki_private_key_kdf_frame at h
  cases hkm : X.bcrypt_pbkdf (cstr passphrase) salt (cipher.keysize / 8 + cipher.blocksize) rounds with
  | none =>
    simp only [hkm, Except.ok.injEq, Prod.mk.injEq] at h
    exact .inl ⟨h.1.symm, h.2.2.symm, rfl⟩
  | some km =>
    simp only [hkm] at h
    cases hc : pki_cipher_crypt B operation cipher (key_material_buffer km) buf <;>
      simp only [hc, Except.map, Except.ok.injEq, Prod.mk.injEq, reduceCtorEq] at h
    exact .inr ⟨h.1.symm, km, rfl, h.2.2.symm⟩

/-- **The arrays at every return** of the part the two helpers share: as
declared; or, after the callback answered `p` and `bcrypt_pbkdf` failed, `p`
still in `passphrase_buffer`; or, with `SSH_OK`, `passphrase_buffer` cleared
and the KDF's output still in `key_material`. -/
theorem pki_private_key_crypt_frame_stack {operation : mbedtls_operation_t} {cipher : ssh_cipher_struct}
    {buf : Bytes} {passphrase : Option Bytes} {auth_fn : Option ssh_auth_callback} {salt : Bytes}
    {rounds : UInt32} {rc : Int} {out : Bytes} {s : HelperStack}
    (h : pki_private_key_crypt_frame B X operation cipher buf passphrase auth_fn salt rounds = .ok (rc, out, s)) :
    (rc = SSH_ERROR ∧ s = .init) ∨
    (rc = SSH_ERROR ∧ passphrase = none ∧ ∃ f p, auth_fn = some f ∧ f (ascii "Passphrase") 128 = some p ∧
      X.bcrypt_pbkdf (cstr p) salt (cipher.keysize / 8 + cipher.blocksize) rounds = none ∧
      s = ⟨List.replicate 128 0, write_over (List.replicate 128 0) p⟩) ∨
    (rc = SSH_OK ∧ ∃ p km, pki_passphrase passphrase auth_fn = some p ∧
      X.bcrypt_pbkdf (cstr p) salt (cipher.keysize / 8 + cipher.blocksize) rounds = some km ∧
      s = ⟨key_material_buffer km, List.replicate 128 0⟩) := by
  have hinit : ∀ {rc' out'}, (Except.ok (rc', out', HelperStack.init) : Except Fault _) = .ok (rc, out, s) →
      rc = rc' ∧ s = .init := by
    intro rc' out' h'; simp only [Except.ok.injEq, Prod.mk.injEq] at h'; exact ⟨h'.1.symm, h'.2.2.symm⟩
  unfold pki_private_key_crypt_frame at h
  split at h
  · exact .inl (hinit h)
  rcases passphrase with _ | p <;> rcases auth_fn with _ | f
  · exact .inl (hinit h)
  · cases hp : f (ascii "Passphrase") 128 with
    | none => simp only [hp] at h; exact .inl (hinit h)
    | some p =>
      simp only [hp] at h
      rcases pki_private_key_kdf_frame_stack h with ⟨hrc, hs, hkm⟩ | ⟨hrc, km, hkm, hs⟩
      · exact .inr (.inl ⟨hrc, rfl, f, p, rfl, hp, hkm, hs⟩)
      · exact .inr (.inr ⟨hrc, p, km, hp, hkm, hs⟩)
  all_goals
    rcases pki_private_key_kdf_frame_stack h with ⟨hrc, hs, -⟩ | ⟨hrc, km, hkm, hs⟩
    · exact .inl ⟨hrc, hs⟩
    · exact .inr (.inr ⟨hrc, p, km, rfl, hkm, hs⟩)

/-- A return of `pki_private_key_decrypt` either comes before the passphrase
step, with the arrays as declared, or is a return of the shared part. -/
theorem pki_private_key_decrypt_frame_stack {ciphers : List ssh_cipher_struct} {blob : Bytes}
    {passphrase : Option Bytes} {ciphername kdfname kdfoptions : Bytes} {auth_fn : Option ssh_auth_callback}
    {rc : Int} {out : Bytes} {s : HelperStack}
    (h : pki_private_key_decrypt_frame B X ciphers blob passphrase ciphername kdfname kdfoptions auth_fn =
      .ok (rc, out, s)) :
    s = .init ∨ ∃ cipher salt rounds,
      pki_private_key_crypt_frame B X .MBEDTLS_DECRYPT cipher blob passphrase auth_fn salt rounds = .ok (rc, out, s) := by
  unfold pki_private_key_decrypt_frame at h
  repeat' split at h
  all_goals first
    | exact .inr ⟨_, _, _, h⟩
    | (simp only [Except.ok.injEq, Prod.mk.injEq, reduceCtorEq] at h <;> exact .inl h.2.2.symm)

theorem pki_private_key_encrypt_frame_stack {ciphers : List ssh_cipher_struct} {privkey_buffer : Bytes}
    {passphrase : Option Bytes} {ciphername kdfname : Bytes} {auth_fn : Option ssh_auth_callback} {rounds : UInt32}
    {salt : Bytes} {rc : Int} {out : Bytes} {s : HelperStack}
    (h : pki_private_key_encrypt_frame B X ciphers privkey_buffer passphrase ciphername kdfname auth_fn rounds salt =
      .ok (rc, out, s)) :
    s = .init ∨ ∃ cipher,
      pki_private_key_crypt_frame B X .MBEDTLS_ENCRYPT cipher privkey_buffer passphrase auth_fn salt rounds =
        .ok (rc, out, s) := by
  unfold pki_private_key_encrypt_frame at h
  repeat' split at h
  all_goals first
    | exact .inr ⟨_, h⟩
    | (simp only [Except.ok.injEq, Prod.mk.injEq] at h; exact .inl h.2.2.symm)

end Refine

/-! ## 5. The private section the import frees -/

section Import

variable {KeyType Key : Type}

/-- What `privkeys` holds when `ssh_pki_openssh_import` frees it with
`SAFE_FREE`, which does not clear it, once the header was read: the private
section as `pki_private_key_decrypt` left it, decrypted in place. Only the copy
in `privkey_buffer`, a secure buffer, is cleared when it is freed. -/
def ssh_pki_openssh_import_privkeys (B : Backend) (X : Collaborators KeyType Key)
    (ciphers : List ssh_cipher_struct) (text_key : Bytes) (passphrase : Option Bytes)
    (auth_fn : Option ssh_auth_callback) (is_private : Bool) : Except Fault (Option Bytes) :=
  match openssh_read_header X text_key with
  | none => .ok none
  | some h =>
    if is_private then
      (pki_private_key_decrypt B X ciphers h.privkeys passphrase h.ciphername h.kdfname h.kdfoptions
        auth_fn).map fun r => some r.2
    else .ok (some h.privkeys)

/-- A private import that returns a key frees the decrypted section it read
the key from. -/
theorem ssh_pki_openssh_import_privkeys_key {X : Collaborators KeyType Key} {B : Backend}
    {ciphers : List ssh_cipher_struct} {text_key : Bytes} {passphrase : Option Bytes}
    {auth_fn : Option ssh_auth_callback} {K : Key}
    (hK : ssh_pki_openssh_privkey_import B X ciphers text_key passphrase auth_fn = .ok (some K)) :
    ∃ s, ssh_pki_openssh_import_privkeys B X ciphers text_key passphrase auth_fn true = .ok (some s) ∧
      openssh_parse_private X s = some K := by
  obtain ⟨h, r, hh, hd, -, hp⟩ := ssh_pki_openssh_privkey_import_eq_some hK
  exact ⟨r.2, by simp [ssh_pki_openssh_import_privkeys, hh, hd, Except.map], hp⟩

end Import

/-! ## 6. Secrets left behind -/

section Secrets

variable {KeyType Key : Type}

/-- Where the two arrays can be when a helper returns `rc`: as declared; after
the callback answered `p` (with no passphrase given) and the helper failed,
holding `p` in `passphrase_buffer`; or, after a return with `SSH_OK`, with
`passphrase_buffer` cleared and key material that `bcrypt_pbkdf` derived from
the resolved passphrase in `key_material`. -/
def StackAtReturn (X : Collaborators KeyType Key) (passphrase : Option Bytes) (auth_fn : Option ssh_auth_callback)
    (rc : Int) (s : HelperStack) : Prop :=
  s = .init ∨
  (rc = SSH_ERROR ∧ passphrase = none ∧ ∃ f p, auth_fn = some f ∧ f (ascii "Passphrase") 128 = some p ∧
    s = ⟨List.replicate 128 0, write_over (List.replicate 128 0) p⟩) ∨
  (rc = SSH_OK ∧ ∃ p salt n rounds km, pki_passphrase passphrase auth_fn = some p ∧
    X.bcrypt_pbkdf (cstr p) salt n rounds = some km ∧ s = ⟨key_material_buffer km, List.replicate 128 0⟩)

theorem pki_private_key_crypt_frame_at_return {B : Backend} {X : Collaborators KeyType Key}
    {operation : mbedtls_operation_t} {cipher : ssh_cipher_struct} {buf : Bytes} {passphrase : Option Bytes}
    {auth_fn : Option ssh_auth_callback} {salt : Bytes} {rounds : UInt32} {rc : Int} {out : Bytes}
    {s : HelperStack}
    (h : pki_private_key_crypt_frame B X operation cipher buf passphrase auth_fn salt rounds = .ok (rc, out, s)) :
    StackAtReturn X passphrase auth_fn rc s := by
  rcases pki_private_key_crypt_frame_stack h with ⟨-, hs⟩ | ⟨hrc, hp, f, p, hf, hfp, -, hs⟩ |
    ⟨hrc, p, km, hp, hkm, hs⟩
  · exact .inl hs
  · exact .inr (.inl ⟨hrc, hp, f, p, hf, hfp, hs⟩)
  · exact .inr (.inr ⟨hrc, p, salt, _, rounds, km, hp, hkm, hs⟩)

end Secrets

/-- Three returns that leave a secret behind, with the aes128-cbc entry. A
callback answers `"secret"` and `bcrypt_pbkdf` rejects zero rounds: the decrypt
returns `SSH_ERROR` with the passphrase still in `passphrase_buffer`. With a
KDF that derives ones, a decrypt that succeeds returns with the derived key and
IV still in `key_material`. An import of a container whose section does not
parse returns `NULL` and frees the decrypted section without clearing it. -/
theorem helper_secrets_left_behind :
    pki_private_key_decrypt_frame (reversing_backend false) toy_collaborators
        (ssh_ciphertab ⟨false, false, false, false, false⟩) (List.replicate 16 0) none (ascii "aes128-cbc")
        (ascii "bcrypt") (sshstr [5] ++ be32 0) (some fun _ _ => some (ascii "secret")) =
      .ok (SSH_ERROR, List.replicate 16 0,
        ⟨List.replicate 128 0, write_over (List.replicate 128 0) (ascii "secret")⟩) ∧
    (pki_private_key_decrypt_frame (reversing_backend false)
        { toy_collaborators with bcrypt_pbkdf := fun _ _ n _ => some (List.replicate n 1) }
        (ssh_ciphertab ⟨false, false, false, false, false⟩) (List.replicate 16 0) (some (ascii "secret"))
        (ascii "aes128-cbc") (ascii "bcrypt") (sshstr [5] ++ be32 16) none).map (·.2.2) =
      .ok ⟨key_material_buffer (List.replicate 32 1), List.replicate 128 0⟩ ∧
    ssh_pki_openssh_import (reversing_backend false) toy_collaborators
        (ssh_ciphertab ⟨false, false, false, false, false⟩)
        (openssh_text (hex_encode (openssh_payload (ascii "aes128-cbc") (ascii "bcrypt") (sshstr [5] ++ be32 16) []
          ((List.range' 1 16).map Nat.toUInt8))) []) (some [1]) none true = .ok none ∧
    ssh_pki_openssh_import_privkeys (reversing_backend false) toy_collaborators
        (ssh_ciphertab ⟨false, false, false, false, false⟩)
        (openssh_text (hex_encode (openssh_payload (ascii "aes128-cbc") (ascii "bcrypt") (sshstr [5] ++ be32 16) []
          ((List.range' 1 16).map Nat.toUInt8))) []) (some [1]) none true =
      .ok (some ((List.range' 1 16).reverse.map Nat.toUInt8)) := by
  refine ⟨rfl, rfl, ?_, ?_⟩
  · rw [ssh_pki_openssh_import,
      openssh_read_header_text toy_collaborators_lawful rfl (hex_encode_filter_isspace _) ?_ []]
    · rfl
    · decide
  · rw [ssh_pki_openssh_import_privkeys,
      openssh_read_header_text toy_collaborators_lawful rfl (hex_encode_filter_isspace _) ?_ []]
    · rfl
    · decide

end Libssh
