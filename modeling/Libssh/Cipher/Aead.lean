import Libssh.Cipher.Gcm
import Libssh.Cipher.Chacha

/-!
What the two AEAD decrypt hooks of `libmbedcrypto.c` authenticate before they
release anything.

The bytes each construction authenticates are named here once, as the spec
states them: `chacha_poly_tag` is Poly1305 under the first 32 bytes of ChaCha20
block 0 of the first key half, and `gcm_tag_verifies` says that a tag is the
one GCM computes for a ciphertext under a key, a nonce and an AAD. The hooks
are compared with them one call at a time:

* `chacha20_poly1305_aead_decrypt_verify`: after `aead_decrypt_length` has set
  the nonce, `aead_decrypt` returns `SSH_OK` only on a tag equal to
  `chacha_poly_tag` of the length field and the ciphertext, and on any other
  tag returns `SSH_ERROR` and writes nothing;
* `cipher_decrypt_gcm_verify`: `cipher_decrypt_gcm` returns `SSH_OK` only on
  a tag that verifies for the length field as AAD and the ciphertext after it,
  and on any other leaves the session as it was and writes nothing.

`aead_decrypt_authenticated` puts the two together.
-/

set_option autoImplicit false

namespace Libssh

/-! ## What is authenticated -/

/-- The chacha20-poly1305 tag of the message `m` in the packet of sequence
number `seq`: Poly1305 keyed with the first 32 bytes of ChaCha20 block 0 of the
first key half `K1` under the packet's nonce. -/
def chacha_poly_tag (B : Backend) (K1 : Bytes) (seq : UInt64) (m : Bytes) : Bytes :=
  (B.poly1305_mac ((B.chacha20_block K1 (chacha_nonce seq) 0).take 32) m).take POLY1305_TAGLEN

/-- `tag` is the tag GCM computes under `key`, the nonce `iv` and the AAD `aad`
for a plaintext whose ciphertext is `ct`. -/
def gcm_tag_verifies (B : Backend) (key iv aad ct tag : Bytes) : Prop :=
  ∃ pt, B.gcm_crypt_and_tag key iv aad tag.length pt = some (ct, tag)

section Hooks

variable {B : Backend}

/-- The first 64 keystream bytes from counter 0 are ChaCha20 block 0. -/
theorem chacha20_stream_block_zero (hB : B.Lawful) (K n : Bytes) (p : Nat) :
    chacha20_stream B ⟨K, n, 0, p⟩ 0 64 = B.chacha20_block K n 0 := by
  have hlen := hB.length_chacha20_block K n 0
  refine List.ext_getElem (by simp [hlen]) fun i hi _ => ?_
  have hi' : i < 64 := by simpa using hi
  have h0 : (0 : Nat).toUInt32 = 0 := rfl
  simp [chacha20_stream, chacha20_counter, Nat.div_eq_of_lt hi', Nat.mod_eq_of_lt hi', h0,
    List.getElem?_eq_getElem (hlen ▸ hi' : i < (B.chacha20_block K n 0).length)]

/-- **`aead_decrypt` checks the tag before it decrypts.** After
`aead_decrypt_length` has set the nonce of `seq` on a keyed session, the
`aead_decrypt` that follows (whatever sequence number it is passed) never
faults; it returns `SSH_OK` only when the 16 bytes at `4 + encrypted_size` are
`chacha_poly_tag` of bytes `[0, 4 + encrypted_size)`, and on any other tag it
returns `SSH_ERROR` and writes nothing. -/
theorem chacha20_poly1305_aead_decrypt_verify (hB : B.Lawful) {K1 K2 : Bytes} {r : ssh_cipher_struct}
    (hr : ChachaKeyed K1 K2 r) (pkt : Bytes) (len es : Nat) (hlen : 4 ≤ len) (seq seq' : UInt64) :
    ∃ r₁ field, chacha20_poly1305_aead_decrypt_length B r pkt len seq = .ok (SSH_OK, r₁, field) ∧
      ∃ rc r₂ out, chacha20_poly1305_aead_decrypt B r₁ pkt es seq' = .ok (rc, r₂, out) ∧
        (rc = SSH_OK → (pkt.drop (4 + es)).take POLY1305_TAGLEN = chacha_poly_tag B K1 seq (pkt.take (4 + es))) ∧
        ((pkt.drop (4 + es)).take POLY1305_TAGLEN ≠ chacha_poly_tag B K1 seq (pkt.take (4 + es)) →
          rc = SSH_ERROR ∧ out = none) := by
  obtain ⟨ctx, hc, h1, -⟩ := hr
  refine ⟨_, _, by simp only [chacha20_poly1305_aead_decrypt_length, if_neg (Nat.not_lt.mpr hlen), hc]; rfl, ?_⟩
  -- the tag `aead_decrypt` computes: `main_ctx` stands at block 0 of the nonce of `seq`
  have htag : (mbedtls_poly1305_finish B (mbedtls_poly1305_update (mbedtls_poly1305_starts
      (chacha20_stream B ⟨K1, chacha_nonce seq, 0, 0⟩ 0 64)) (pkt.take (es + 4)))).take POLY1305_TAGLEN =
      chacha_poly_tag B K1 seq (pkt.take (4 + es)) := by
    rw [chacha20_stream_block_zero hB, Nat.add_comm]; rfl
  simp only [chacha20_poly1305_aead_decrypt, chacha20_poly1305_packet_setup_false, keysched_update_header,
    chacha20_poly1305_set_iv_main, h1, htag]
  split
  · next hne => exact ⟨_, _, _, rfl, fun h => absurd h (by decide), fun _ => ⟨rfl, rfl⟩⟩
  · next heq => exact ⟨_, _, _, rfl, fun _ => (not_not.mp heq).symm, fun hne => absurd (not_not.mp heq).symm hne⟩

/-- **`cipher_decrypt_gcm` checks the tag before it releases the plaintext.**
On a session with the GCM entries' 4-byte length field and 16-byte tag, it
returns `SSH_OK` only when the 16 bytes at `4 + encrypted_size` verify under
the session's key and `last_iv`, with bytes `[0, 4)` as AAD and bytes
`[4, 4 + encrypted_size)` as ciphertext; on any other tag it returns
`SSH_ERROR`, leaves the session (its `last_iv` included) as it was and writes
nothing. -/
theorem cipher_decrypt_gcm_verify (hB : B.Lawful) (cipher : ssh_cipher_struct)
    (haad : cipher.lenfield_blocksize = 4) (htag : cipher.tag_size = 16) (pkt : Bytes) (es : Nat) :
    ((cipher_decrypt_gcm B cipher pkt es).1 = SSH_OK → ∃ key, cipher.gcm_ctx = some key ∧
        gcm_tag_verifies B key (cipher.last_iv.take AES_GCM_IVLEN) (pkt.take 4) ((pkt.drop 4).take es)
          ((pkt.drop (4 + es)).take 16)) ∧
      ((∀ key, cipher.gcm_ctx = some key → ¬gcm_tag_verifies B key (cipher.last_iv.take AES_GCM_IVLEN)
          (pkt.take 4) ((pkt.drop 4).take es) ((pkt.drop (4 + es)).take 16)) →
        cipher_decrypt_gcm B cipher pkt es = (SSH_ERROR, cipher, none)) := by
  simp only [cipher_decrypt_gcm, haad, htag]
  split
  · next hnone => exact ⟨fun h => by simp [SSH_ERROR, SSH_OK] at h, fun _ => rfl⟩
  · next out hsome =>
    obtain ⟨key, hk, hdec⟩ := Option.bind_eq_some.mp hsome
    have hv := (hB.gcm_auth_decrypt_iff _ _ _ _ _ _).mp hdec
    exact ⟨fun _ => ⟨key, hk, out, hv⟩, fun hno => absurd ⟨out, hv⟩ (hno key hk)⟩

end Hooks

/-! ## Nothing unauthenticated is released -/

/-- **AEAD decryption releases nothing unauthenticated**, for every packet
buffer and every `encrypted_size`. chacha20-poly1305: after the nonce of `seq`
is set by `aead_decrypt_length`, `aead_decrypt` returns `SSH_OK` only when the
16 bytes at `4 + encrypted_size` are Poly1305 of bytes `[0, 4 + encrypted_size)`
under the first 32 bytes of ChaCha20 block 0 of the first key half, and on any
other tag returns `SSH_ERROR` with nothing written. AES-GCM: `cipher_decrypt_gcm`
returns `SSH_OK` only when those 16 bytes are the GCM tag under `last_iv` of the
ciphertext `[4, 4 + encrypted_size)` with AAD `[0, 4)`, and on any other tag
returns `SSH_ERROR`, keeps `last_iv` and writes no plaintext. -/
theorem aead_decrypt_authenticated (B : Backend) (hB : B.Lawful) :
    (∀ (K1 K2 : Bytes) (r : ssh_cipher_struct), ChachaKeyed K1 K2 r →
      ∀ (pkt : Bytes) (len es : Nat), 4 ≤ len → ∀ seq seq' : UInt64,
      ∃ r₁ field, chacha20_poly1305_aead_decrypt_length B r pkt len seq = .ok (SSH_OK, r₁, field) ∧
        ∃ rc r₂ out, chacha20_poly1305_aead_decrypt B r₁ pkt es seq' = .ok (rc, r₂, out) ∧
          (rc = SSH_OK →
            (pkt.drop (4 + es)).take POLY1305_TAGLEN = chacha_poly_tag B K1 seq (pkt.take (4 + es))) ∧
          ((pkt.drop (4 + es)).take POLY1305_TAGLEN ≠ chacha_poly_tag B K1 seq (pkt.take (4 + es)) →
            rc = SSH_ERROR ∧ out = none)) ∧
    (∀ cipher : ssh_cipher_struct, cipher.lenfield_blocksize = 4 → cipher.tag_size = 16 →
      ∀ (pkt : Bytes) (es : Nat),
      ((cipher_decrypt_gcm B cipher pkt es).1 = SSH_OK → ∃ key, cipher.gcm_ctx = some key ∧
          gcm_tag_verifies B key (cipher.last_iv.take AES_GCM_IVLEN) (pkt.take 4) ((pkt.drop 4).take es)
            ((pkt.drop (4 + es)).take 16)) ∧
        ((∀ key, cipher.gcm_ctx = some key → ¬gcm_tag_verifies B key (cipher.last_iv.take AES_GCM_IVLEN)
            (pkt.take 4) ((pkt.drop 4).take es) ((pkt.drop (4 + es)).take 16)) →
          cipher_decrypt_gcm B cipher pkt es = (SSH_ERROR, cipher, none))) :=
  ⟨fun _ _ _ hr pkt len es hlen seq seq' => chacha20_poly1305_aead_decrypt_verify hB hr pkt len es hlen seq seq',
    fun cipher haad htag pkt es => cipher_decrypt_gcm_verify hB cipher haad htag pkt es⟩

/-- A chacha20-poly1305 session keyed by `chacha20_poly1305_set_key` and an
AES-128-GCM cipher keyed by `cipher_set_key_gcm`, over the backend whose
primitives reverse their input and whose tags are zero: a packet whose last tag
byte is flipped is rejected by both with nothing written, and what each says of
the genuine packet. -/
theorem aead_decrypt_authenticated_reversing :
    let B := reversing_backend false
    let r := (chacha20_poly1305_set_key B { name := "chacha20-poly1305@openssh.com" } (List.replicate 64 1)).2
    let gcm : ssh_cipher_struct :=
      { name := "aes128-gcm@openssh.com", lenfield_blocksize := 4, keysize := 128, tag_size := 16,
        type := .MBEDTLS_CIPHER_AES_128_GCM }
    let g := (cipher_set_key_gcm B gcm (List.replicate 16 0) (List.replicate 12 255)).2
    let genuine : Bytes := [0, 0, 0, 1, 7] ++ List.replicate 16 0
    let forged : Bytes := [0, 0, 0, 1, 7] ++ List.replicate 15 0 ++ [1]
    (∃ r₁ field, chacha20_poly1305_aead_decrypt_length B r forged 4 0 = .ok (SSH_OK, r₁, field) ∧
      ∃ r₂, chacha20_poly1305_aead_decrypt B r₁ forged 1 0 = .ok (SSH_ERROR, r₂, none)) ∧
    (∃ r₁ field, chacha20_poly1305_aead_decrypt_length B r genuine 4 0 = .ok (SSH_OK, r₁, field) ∧
      ∃ rc r₂ out, chacha20_poly1305_aead_decrypt B r₁ genuine 1 0 = .ok (rc, r₂, out) ∧
        (rc = SSH_OK → (genuine.drop 5).take POLY1305_TAGLEN =
          chacha_poly_tag B ((List.replicate 64 1).take 32) 0 (genuine.take 5))) ∧
    cipher_decrypt_gcm B g forged 1 = (SSH_ERROR, g, none) ∧
    ((cipher_decrypt_gcm B g genuine 1).1 = SSH_OK → ∃ key, g.gcm_ctx = some key ∧
      gcm_tag_verifies B key (g.last_iv.take AES_GCM_IVLEN) (genuine.take 4) ((genuine.drop 4).take 1)
        ((genuine.drop 5).take 16)) := by
  have hA := aead_decrypt_authenticated (reversing_backend false) (reversing_backend_lawful false)
  have hr := (chacha20_poly1305_set_key_lawful (reversing_backend_setup_succeeds false)
    { name := "chacha20-poly1305@openssh.com" } (List.replicate 64 1)).2
  refine ⟨?_, ?_, (hA.2 _ rfl rfl _ 1).2 fun key _ ⟨pt, hpt⟩ => ?_, (hA.2 _ rfl rfl _ 1).1⟩
  · obtain ⟨r₁, field, h₁, rc, r₂, out, h₂, -, hrej⟩ := hA.1 _ _ _ hr
      ([0, 0, 0, 1, 7] ++ List.replicate 15 0 ++ [1]) 4 1 le_rfl 0 0
    obtain ⟨rfl, rfl⟩ := hrej (by decide)
    exact ⟨r₁, field, h₁, r₂, h₂⟩
  · obtain ⟨r₁, field, h₁, rc, r₂, out, h₂, hok, -⟩ := hA.1 _ _ _ hr
      ([0, 0, 0, 1, 7] ++ List.replicate 16 0) 4 1 le_rfl 0 0
    exact ⟨r₁, field, h₁, rc, r₂, out, h₂, hok⟩
  · -- the backend's tags are zero, and the forged one is not
    simp only [reversing_backend, Option.some.injEq, Prod.mk.injEq] at hpt
    exact absurd hpt.2 (by decide)

end Libssh
