import Libssh.Pki.Container

/-!
What `ssh_pki_openssh_import` makes of a well-formed container, phase by phase:
the armor (`openssh_strip_armor_text`), the header
(`openssh_parse_header_payload`, from the two-way `unpack_PssSdSS_eq_some`),
the decryption of the private section by a block entry of the table
(`pki_private_key_decrypt_block`) and the private section itself
(`openssh_parse_private_section`). The decryption rests on
`pki_cipher_crypt_entry_encrypt`: the in-place encryption through an entry's
block hooks is the CBC chain or the CTR keystream of `entry_encrypt`, and the
entry's decrypt hooks invert it. Put together they give
`ssh_pki_openssh_privkey_import_text`: a text whose body is, up to whitespace,
the base64 of a container imports to the key its private section holds.

The last section puts the phases together:

* `openssh_privkey_import_complete`: every container in the format, with any
  table cipher that has block hooks or none at all, any comment, padding and
  whitespace, imports to its key;
* `openssh_pubkey_privkey_import`: the public and the private import of one
  text read the same header, and agree only when its public blob is the key's;
  `openssh_pubkey_privkey_import_mismatch` is a text where they do not;
* `privkey_import_missing_hook`: a container that names an AEAD entry, or the
  chacha20-poly1305 entry before `ssh_crypto_init`, makes the import call a
  NULL hook or divide by a zero block size.
-/

set_option autoImplicit false

namespace Libssh

/-! ## C strings and `strstr` -/

theorem cstr_append_of_not_mem {a : Bytes} (h : (0 : UInt8) ∉ a) (b : Bytes) :
    cstr (a ++ b) = a ++ cstr b :=
  List.takeWhile_append_of_pos fun c hc => by simpa using ne_of_mem_of_not_mem hc h

theorem cstr_of_not_mem {a : Bytes} (h : (0 : UInt8) ∉ a) : cstr a = a := by
  simpa [cstr] using cstr_append_of_not_mem h []

/-- `strstr` finds a needle right after a prefix that does not hold its first
byte. -/
theorem strstr_append_of_not_mem {d : UInt8} {n : Bytes} (hd : n.head? = some d) (pre rest : Bytes)
    (h : d ∉ pre) : strstr n (pre ++ n ++ rest) = some (pre, n ++ rest) := by
  obtain ⟨n, rfl⟩ : ∃ n', n = d :: n' := by
    cases n with
    | nil => cases hd
    | cons d' n' => exact ⟨n', by cases hd; rfl⟩
  induction pre with
  | nil => simp [strstr, List.isPrefixOf]
  | cons c pre ih =>
    rw [List.mem_cons, not_or] at h
    simpa [strstr, List.isPrefixOf, h.1] using ih h.2

/-! ## The armor -/

/-- A whitespace byte is neither a dash nor NUL. -/
theorem isspace_ne {c : UInt8} (h : isspace c = true) : c ≠ 45 ∧ c ≠ 0 := by
  simp only [isspace, Bool.or_eq_true, beq_iff_eq, Bool.and_eq_true, decide_eq_true_eq] at h
  rcases h with rfl | ⟨h1, h2⟩
  · decide
  · constructor <;> rintro rfl <;> revert h1 h2 <;> decide

/-- **The armor of a container text.** With a body free of dashes and NULs,
`openssh_strip_armor` finds the END marker after the body, and hands on the
body without its whitespace, whatever follows the marker. -/
theorem openssh_strip_armor_text {body : Bytes} (hbody : ∀ c ∈ body, c ≠ 45 ∧ c ≠ 0) (rest : Bytes) :
    openssh_strip_armor (openssh_text body rest) = some (body.filter fun c => !isspace c) := by
  have hb0 : (0 : UInt8) ∉ body := fun h => (hbody 0 h).2 rfl
  have hb45 : (45 : UInt8) ∉ body := fun h => (hbody 45 h).1 rfl
  have h0 : (0 : UInt8) ∉ OPENSSH_HEADER_BEGIN ++ [10] ++ body ++ [10] ++ OPENSSH_HEADER_END := by
    simp only [List.mem_append, not_or]
    exact ⟨⟨⟨⟨by decide, by decide⟩, hb0⟩, by decide⟩, by decide⟩
  have hskip : ∀ t : Bytes, ((10 :: t).dropWhile fun c => !isspace c) = 10 :: t :=
    fun _ => List.dropWhile_cons_of_neg (by decide)
  have hend := strstr_append_of_not_mem (d := 45) (n := OPENSSH_HEADER_END) rfl (10 :: (body ++ [10])) (cstr rest) (by simp [hb45])
  rw [openssh_strip_armor, openssh_text, cstr_append_of_not_mem h0]
  simp only [List.append_assoc, List.isPrefixOf_iff_prefix, List.prefix_append, if_true,
    List.drop_left, List.singleton_append]
  simp only [List.cons_append, List.append_assoc, List.singleton_append, List.nil_append] at hend
  have h10 : isspace 10 = true := by decide
  simp [hskip, hend, List.filter_append, List.filter_cons, h10]

/-! ## The header -/

/-- **`"PssSdSS"` both ways.** The header unpack succeeds exactly on a buffer
that starts with 15 magic bytes, three strings, a word and two strings; what
follows is not looked at. -/
theorem unpack_PssSdSS_eq_some {buffer : Bytes} {h : OpensshHeader} :
    unpack_PssSdSS buffer = some h ↔ h.magic.length = 15 ∧
      (∀ s ∈ [h.ciphername, h.kdfname, h.kdfoptions, h.pubkey0, h.privkeys], s.length < 2 ^ 32) ∧
      ∃ trailing, buffer = h.magic ++ sshstr h.ciphername ++ sshstr h.kdfname ++ sshstr h.kdfoptions ++
        be32 h.nkeys ++ sshstr h.pubkey0 ++ sshstr h.privkeys ++ trailing := by
  constructor
  · intro hu
    obtain ⟨⟨m, b1⟩, h1, hu⟩ := Option.bind_eq_some.mp hu
    obtain ⟨⟨c, b2⟩, h2, hu⟩ := Option.bind_eq_some.mp hu
    obtain ⟨⟨k, b3⟩, h3, hu⟩ := Option.bind_eq_some.mp hu
    obtain ⟨⟨o, b4⟩, h4, hu⟩ := Option.bind_eq_some.mp hu
    obtain ⟨⟨n, b5⟩, h5, hu⟩ := Option.bind_eq_some.mp hu
    obtain ⟨⟨p, b6⟩, h6, hu⟩ := Option.bind_eq_some.mp hu
    obtain ⟨⟨q, b7⟩, h7, rfl⟩ := Option.map_eq_some'.mp hu
    obtain ⟨rfl, hm⟩ := ssh_buffer_get_data_eq_some.mp h1
    obtain ⟨rfl, hc⟩ := unpack_S_eq_some.mp h2
    obtain ⟨rfl, hk⟩ := unpack_S_eq_some.mp h3
    obtain ⟨rfl, ho⟩ := unpack_S_eq_some.mp h4
    obtain rfl := ssh_buffer_get_u32_eq_some.mp h5
    obtain ⟨rfl, hp⟩ := unpack_S_eq_some.mp h6
    obtain ⟨rfl, hq⟩ := unpack_S_eq_some.mp h7
    refine ⟨by rw [hm]; rfl, fun s hs => ?_, b7, by simp⟩
    simp only [List.mem_cons, List.not_mem_nil, or_false] at hs
    rcases hs with rfl | rfl | rfl | rfl | rfl <;> assumption
  · rintro ⟨hm, hl, trailing, rfl⟩
    simp only [List.mem_cons, List.not_mem_nil, or_false, forall_eq_or_imp, forall_eq] at hl
    obtain ⟨hc, hk, ho, hp, hq⟩ := hl
    have hm' : OPENSSH_AUTH_MAGIC.length + 1 = h.magic.length := by rw [hm]; rfl
    simp only [unpack_PssSdSS, hm', List.append_assoc, ssh_buffer_get_data_append, Option.some_bind,
      unpack_S_sshstr _ _ hc, unpack_S_sshstr _ _ hk, unpack_S_sshstr _ _ ho, ssh_buffer_get_u32_be32,
      unpack_S_sshstr _ _ hp, unpack_S_sshstr _ _ hq, Option.map_some']

/-- **The header of a container.** -/
theorem openssh_parse_header_payload {ciphername kdfname kdfoptions pubkey privkeys : Bytes}
    (hfit : (openssh_payload ciphername kdfname kdfoptions pubkey privkeys).length < 2 ^ 32)
    (trailing : Bytes) :
    openssh_parse_header (openssh_payload ciphername kdfname kdfoptions pubkey privkeys ++ trailing) =
      some ⟨OPENSSH_AUTH_MAGIC ++ [0], ciphername, kdfname, kdfoptions, 1, pubkey, privkeys⟩ := by
  simp only [openssh_payload, List.length_append, length_sshstr] at hfit
  have hu := @unpack_PssSdSS_eq_some (openssh_payload ciphername kdfname kdfoptions pubkey privkeys ++ trailing)
    ⟨OPENSSH_AUTH_MAGIC ++ [0], ciphername, kdfname, kdfoptions, 1, pubkey, privkeys⟩ |>.mpr ⟨show (OPENSSH_AUTH_MAGIC ++ [0]).length = 15 by decide, by simp; omega, trailing, rfl⟩
  have hmagic : (OPENSSH_AUTH_MAGIC ++ [0]).take OPENSSH_AUTH_MAGIC.length = OPENSSH_AUTH_MAGIC := by decide
  simp [openssh_parse_header, hu, hmagic]

/-- A body that is base64 up to whitespace holds no dash and no NUL. -/
theorem base64_body_char {b64 body : Bytes} (hb64 : ∀ c ∈ b64, c ∈ base64_alphabet)
    (hbody : body.filter (fun c => !isspace c) = b64) : ∀ c ∈ body, c ≠ 45 ∧ c ≠ 0 := by
  intro c hc
  by_cases hs : isspace c
  · exact isspace_ne hs
  · exact (base64_alphabet_char (hb64 c (hbody ▸ List.mem_filter.mpr ⟨hc, by simpa using hs⟩))).2

/-- A newline put anywhere into a text without whitespace is dropped again by
the armor's filter: this is how a body is wrapped. -/
theorem filter_isspace_wrap {s : Bytes} (hs : s.filter (fun c => !isspace c) = s) (i : Nat) :
    (s.take i ++ [10] ++ s.drop i).filter (fun c => !isspace c) = s := by
  have hall := List.filter_eq_self.mp hs
  rw [List.filter_append, List.filter_append, List.filter_eq_self.mpr fun c hc => hall c (List.mem_of_mem_take hc),
    List.filter_eq_self.mpr fun c hc => hall c (List.mem_of_mem_drop hc)]
  exact (congrArg (· ++ s.drop i) (List.append_nil _)).trans (List.take_append_drop i s)

section Read

variable {KeyType Key : Type} {X : Collaborators KeyType Key}

/-- **The header of a container text.** A text whose body is, up to
whitespace, what `bin_to_base64` makes of a container reads to that
container's header. -/
theorem openssh_read_header_text (hX : X.Lawful)
    {ciphername kdfname kdfoptions pubkey privkeys b64 body : Bytes}
    (hb64 : X.bin_to_base64 (openssh_payload ciphername kdfname kdfoptions pubkey privkeys) = some b64)
    (hbody : body.filter (fun c => !isspace c) = b64)
    (hfit : (openssh_payload ciphername kdfname kdfoptions pubkey privkeys).length < 2 ^ 32)
    (rest : Bytes) :
    openssh_read_header X (openssh_text body rest) =
      some ⟨OPENSSH_AUTH_MAGIC ++ [0], ciphername, kdfname, kdfoptions, 1, pubkey, privkeys⟩ := by
  have harmor := openssh_strip_armor_text
    (base64_body_char (hX.bin_to_base64_alphabet _ _ hb64) hbody) rest
  rw [openssh_read_header, harmor, Option.some_bind, hbody, hX.base64_to_bin_bin_to_base64 _ _ hb64,
    Option.some_bind, ← List.append_nil (openssh_payload ..), openssh_parse_header_payload hfit]

/-- **What a private import of a container text does.** A text whose body is,
up to whitespace, the base64 of a container leaves the import its private
section to decrypt and parse. -/
theorem ssh_pki_openssh_privkey_import_text (hX : X.Lawful) (B : Backend)
    (ciphers : List ssh_cipher_struct) {ciphername kdfname kdfoptions pubkey privkeys b64 body : Bytes}
    (hb64 : X.bin_to_base64 (openssh_payload ciphername kdfname kdfoptions pubkey privkeys) = some b64)
    (hbody : body.filter (fun c => !isspace c) = b64)
    (hfit : (openssh_payload ciphername kdfname kdfoptions pubkey privkeys).length < 2 ^ 32)
    (rest : Bytes) (passphrase : Option Bytes) (auth_fn : Option ssh_auth_callback) :
    ssh_pki_openssh_privkey_import B X ciphers (openssh_text body rest) passphrase auth_fn =
      (pki_private_key_decrypt B X ciphers privkeys passphrase ciphername kdfname kdfoptions auth_fn).map
        fun r => if r.1 = SSH_ERROR then none else openssh_parse_private X r.2 := by
  rw [ssh_pki_openssh_privkey_import, ssh_pki_openssh_import, openssh_read_header_text hX hb64 hbody hfit rest]
  rfl

/-- The public import of the same text reads the public blob. -/
theorem ssh_pki_openssh_pubkey_import_text (hX : X.Lawful) (B : Backend)
    (ciphers : List ssh_cipher_struct) {ciphername kdfname kdfoptions pubkey privkeys b64 body : Bytes}
    (hb64 : X.bin_to_base64 (openssh_payload ciphername kdfname kdfoptions pubkey privkeys) = some b64)
    (hbody : body.filter (fun c => !isspace c) = b64)
    (hfit : (openssh_payload ciphername kdfname kdfoptions pubkey privkeys).length < 2 ^ 32)
    (rest : Bytes) :
    ssh_pki_openssh_pubkey_import B X ciphers (openssh_text body rest) = .ok (X.ssh_pki_import_pubkey_blob pubkey) := by
  rw [ssh_pki_openssh_pubkey_import, ssh_pki_openssh_import, openssh_read_header_text hX hb64 hbody hfit rest]
  rfl

/-- **What a private import that returns a key did**: it read a header,
decrypted the header's private section without `SSH_ERROR`, and parsed the key
from what came out. -/
theorem ssh_pki_openssh_privkey_import_eq_some {B : Backend} {ciphers : List ssh_cipher_struct}
    {text_key : Bytes} {passphrase : Option Bytes} {auth_fn : Option ssh_auth_callback} {K : Key}
    (hK : ssh_pki_openssh_privkey_import B X ciphers text_key passphrase auth_fn = .ok (some K)) :
    ∃ h r, openssh_read_header X text_key = some h ∧
      pki_private_key_decrypt B X ciphers h.privkeys passphrase h.ciphername h.kdfname h.kdfoptions
        auth_fn = .ok r ∧ r.1 ≠ SSH_ERROR ∧ openssh_parse_private X r.2 = some K := by
  rw [ssh_pki_openssh_privkey_import, ssh_pki_openssh_import] at hK
  cases hh : openssh_read_header X text_key with
  | none => simp [hh] at hK
  | some h =>
    simp only [hh, if_true] at hK
    cases hd : pki_private_key_decrypt B X ciphers h.privkeys passphrase h.ciphername h.kdfname h.kdfoptions
        auth_fn with
    | error f => simp [hd, Except.map] at hK
    | ok r =>
      simp only [hd, Except.map, Except.ok.injEq] at hK
      split at hK
      · cases hK
      · next hr => exact ⟨h, r, rfl, hd, hr, hK⟩

/-- **What a public import that returns a key did**: it read a header and
imported the header's public blob. -/
theorem ssh_pki_openssh_pubkey_import_eq_some {B : Backend} {ciphers : List ssh_cipher_struct}
    {text_key : Bytes} {P : Key} (hP : ssh_pki_openssh_pubkey_import B X ciphers text_key = .ok (some P)) :
    ∃ h, openssh_read_header X text_key = some h ∧ X.ssh_pki_import_pubkey_blob h.pubkey0 = some P := by
  rw [ssh_pki_openssh_pubkey_import, ssh_pki_openssh_import] at hP
  cases hh : openssh_read_header X text_key with
  | none => simp [hh] at hP
  | some h =>
    simp only [hh, Bool.false_eq_true, if_false, Except.ok.injEq] at hP
    exact ⟨h, rfl, hP⟩

end Read

/-! ## Decryption -/

/-- Key setup changes a session's contexts, never the hooks it was given. -/
@[simp] theorem SetKeyHook.call_crypt_hook (B : Backend) (k : SetKeyHook) (cipher : ssh_cipher_struct)
    (key IV : Bytes) (operation : mbedtls_operation_t) :
    (k.call B cipher key IV).2.crypt_hook operation = cipher.crypt_hook operation := by
  cases k <;> cases operation <;>
    simp only [SetKeyHook.call, ssh_cipher_struct.crypt_hook, Libssh.cipher_set_encrypt_key,
      Libssh.cipher_set_encrypt_key_cbc, Libssh.cipher_set_decrypt_key, Libssh.cipher_set_decrypt_key_cbc,
      Libssh.cipher_set_key_gcm, Libssh.chacha20_poly1305_set_key] <;>
    (repeat' split) <;> rfl

/-- `pki_cipher_crypt` through the hooks an entry has for the operation. -/
theorem pki_cipher_crypt_hooks {B : Backend} {operation : mbedtls_operation_t}
    {cipher : ssh_cipher_struct} {set_key : SetKeyHook} {crypt : CryptHook}
    (hk : cipher.set_key_hook operation = some set_key) (hc : cipher.crypt_hook operation = some crypt)
    (key_material buf : Bytes) :
    pki_cipher_crypt B operation cipher key_material buf = .ok (write_over buf
      (crypt.call B (set_key.call B cipher key_material (key_material.drop (cipher.keysize / 8))).2 buf).2) := by
  simp [pki_cipher_crypt, hk, hc]

theorem write_over_of_length {buf out : Bytes} (h : out.length = buf.length) : write_over buf out = out := by
  simp [write_over, h]

theorem length_key_material_buffer (km : Bytes) : (key_material_buffer km).length = 128 := by
  simp [key_material_buffer]

/-- The entries before the chacha20-poly1305 one: C-string names other than
`none`, a block size, and a key and an IV that fit the 128 bytes of
`key_material`. -/
theorem ssh_ciphertab_head_params (cfg : BuildConfig) : ∀ e ∈ ssh_ciphertab_head cfg,
    cstr (ascii e.name) = ascii e.name ∧ ascii e.name ≠ ascii "none" ∧ e.blocksize ≠ 0 ∧
      e.keysize / 8 + e.blocksize ≤ 128 := by
  unfold ssh_ciphertab_head; split <;> split <;> decide

theorem unpack_Sd_sshstr {salt : Bytes} (h : salt.length < 2 ^ 32) (rounds : UInt32) (rest : Bytes) :
    unpack_Sd (sshstr salt ++ be32 rounds ++ rest) = some (salt, rounds) := by
  simp [unpack_Sd, List.append_assoc, unpack_S_sshstr _ _ h]

section Decrypt

variable {KeyType Key : Type} {X : Collaborators KeyType Key} {cfg : BuildConfig} {B : Backend}
  {e : ssh_cipher_struct} {ek : SetKeyHook} {enc : CryptHook}

/-- **The in-place encryption of a block entry is CBC or CTR.** Through an entry
with block hooks, `pki_cipher_crypt` encrypts a block-aligned buffer, with key
material of at least a key and a block, to what `entry_encrypt` says: the CBC
chain or the CTR keystream over the backend's block cipher, keyed by the first
`keysize / 8` bytes of the key material with the IV after them. -/
theorem pki_cipher_crypt_entry_encrypt (hB : B.Lawful) (hS : B.SetupSucceeds) (he : e ∈ ssh_ciphertab cfg)
    (hek : e.set_encrypt_key = some ek) (henc : e.encrypt = some enc) {key_material : Bytes}
    (hkm : e.keysize / 8 + e.blocksize ≤ key_material.length) {buf : Bytes} (hbuf : e.blocksize ∣ buf.length) :
    ∃ out, pki_cipher_crypt B .MBEDTLS_ENCRYPT e key_material buf = .ok out ∧
      entry_encrypt B e key_material buf = some out := by
  obtain ⟨-, info, hinfo, hbs, hkey, hmodes⟩ := block_entry_hooks he hek henc
  obtain ⟨hty, hbs0, hivs⟩ := mbedtls_cipher_info_from_type_spec hinfo
  rw [← hbs] at hkm hbuf
  have hX : buf.length = buf.length / info.block_size * info.block_size := (Nat.div_mul_cancel hbuf).symm
  -- the IV the key setup keeps is the block after the key
  have hiv (h : info.mode ≠ .MBEDTLS_MODE_GCM) :
      (key_material.drop (e.keysize / 8)).take info.iv_size =
          (key_material.drop (e.keysize / 8)).take info.block_size ∧
        ((key_material.drop (e.keysize / 8)).take info.iv_size).length = info.block_size := by
    rw [hivs h, List.length_take, List.length_drop]
    exact ⟨rfl, by omega⟩
  have hkey' (operation : mbedtls_operation_t) (pn : Bool) :
      (keyed_context info operation pn key_material (key_material.drop (e.keysize / 8))).key =
        key_material.take (e.keysize / 8) := by rw [keyed_context, hkey]
  rcases hmodes with ⟨hmode, rfl, rfl, -, -⟩ | ⟨hmode, rfl, rfl, -, -⟩
  · obtain ⟨hiv, hivl⟩ := hiv (by rw [hmode]; decide)
    obtain ⟨ctx', hc, -⟩ := cipher_encrypt_cbc_aligned (B := B)
      (rfl : ({ e with encrypt_ctx := some (keyed_context info .MBEDTLS_ENCRYPT true key_material
        (key_material.drop (e.keysize / 8))) } : ssh_cipher_struct).encrypt_ctx = _)
      (keyed_context_at ..) hmode rfl hbs0 hX
    have hlen := (cbc_blocks_encrypt_length hB (keyed_context info .MBEDTLS_ENCRYPT true key_material
      (key_material.drop (e.keysize / 8))) (hty ▸ hinfo) rfl _ _ buf hivl hX).1
    rw [@pki_cipher_crypt_hooks B .MBEDTLS_ENCRYPT e _ _ hek henc, SetKeyHook.call, CryptHook.call,
      cipher_set_encrypt_key_cbc_lawful hS hinfo, hc, write_over_of_length (hlen.trans hX.symm)]
    have hcbc : cbc_blocks B (keyed_context info .MBEDTLS_ENCRYPT true key_material
        (key_material.drop (e.keysize / 8))) =
          cbc_blocks B ⟨info, key_material.take (e.keysize / 8), .MBEDTLS_ENCRYPT, true, [], [], 0⟩ :=
      cbc_blocks_congr B rfl (hkey' _ _) rfl
    refine ⟨_, rfl, ?_⟩
    simp only [entry_encrypt, hinfo, Option.some_bind, hmode, hiv, hcbc]
  · obtain ⟨hiv, hivl⟩ := hiv (by rw [hmode]; decide)
    obtain ⟨ctx', hc, -⟩ := cipher_crypt_ctr_aligned (B := B) hB (hty ▸ hinfo) .MBEDTLS_ENCRYPT
      (rfl : ({ e with encrypt_ctx := some (keyed_context info .MBEDTLS_ENCRYPT false key_material
        (key_material.drop (e.keysize / 8))) } : ssh_cipher_struct).ctx .MBEDTLS_ENCRYPT = _)
      (keyed_context_at ..) hmode hbs0 hivl hX
    have hlen : (xor_bytes buf (ctr_keystream B (keyed_context info .MBEDTLS_ENCRYPT false key_material
        (key_material.drop (e.keysize / 8))) (buf.length / info.block_size)
          ((key_material.drop (e.keysize / 8)).take info.iv_size))).length = buf.length := by
      rw [length_xor_bytes, length_ctr_keystream hB _ (hty ▸ hinfo) _ _ hivl]; exact min_eq_left hX.le
    rw [@pki_cipher_crypt_hooks B .MBEDTLS_ENCRYPT e _ _ hek henc, SetKeyHook.call, CryptHook.call, cipher_encrypt,
      cipher_set_encrypt_key_lawful hS hinfo, hc, write_over_of_length hlen]
    have hctr : ctr_keystream B (keyed_context info .MBEDTLS_ENCRYPT false key_material
        (key_material.drop (e.keysize / 8))) =
          ctr_keystream B ⟨info, key_material.take (e.keysize / 8), .MBEDTLS_ENCRYPT, true, [], [], 0⟩ :=
      ctr_keystream_congr _ _ rfl (hkey' _ _)
    refine ⟨_, rfl, ?_⟩
    simp only [entry_encrypt, hinfo, Option.some_bind, hmode, hiv, hctr]

/-- **The in-place crypt of a block entry inverts itself.** A block-aligned
buffer that `pki_cipher_crypt` encrypts through an entry with block hooks keeps
its length and decrypts back, with the same key material of at least a key and
a block. -/
theorem pki_cipher_crypt_roundtrip (hB : B.Lawful) (hS : B.SetupSucceeds) (he : e ∈ ssh_ciphertab cfg)
    (hek : e.set_encrypt_key = some ek) (henc : e.encrypt = some enc) {key_material : Bytes}
    (hkm : e.keysize / 8 + e.blocksize ≤ key_material.length) {buf out : Bytes}
    (hbuf : e.blocksize ∣ buf.length) (hout : pki_cipher_crypt B .MBEDTLS_ENCRYPT e key_material buf = .ok out) :
    out.length = buf.length ∧ pki_cipher_crypt B .MBEDTLS_DECRYPT e key_material out = .ok buf := by
  obtain ⟨dk, dec, hdk, hdec, hlen, hrt⟩ := block_entry_crypt_roundtrip hB hS he hek henc key_material
    (key_material.drop (e.keysize / 8)) (by simp only [List.length_drop]; omega) buf hbuf
  rw [@pki_cipher_crypt_hooks B .MBEDTLS_ENCRYPT e _ _ hek henc, Except.ok.injEq,
    write_over_of_length hlen] at hout
  subst hout
  refine ⟨hlen, ?_⟩
  rw [@pki_cipher_crypt_hooks B .MBEDTLS_DECRYPT e _ _ hdk hdec, hrt, write_over_of_length hlen.symm]

/-- **Decryption of a section a block entry encrypted.** In every table a run
reaches, a private section that an entry with block hooks encrypted in place
decrypts back when the container names the entry, the KDF `bcrypt`, and the salt
and rounds the key material came from, and the import resolves the passphrase
it came from. -/
theorem pki_private_key_decrypt_block (hB : B.Lawful) (hS : B.SetupSucceeds) {fallback : ssh_cipher_struct}
    {tab : List ssh_cipher_struct} (htab : TableReachable cfg fallback tab) (he : e ∈ ssh_ciphertab cfg)
    (hek : e.set_encrypt_key = some ek) (henc : e.encrypt = some enc) {passphrase : Option Bytes}
    {auth_fn : Option ssh_auth_callback} {p : Bytes} (hp : pki_passphrase passphrase auth_fn = some p)
    {salt : Bytes} {rounds : UInt32} (hopts : (sshstr salt ++ be32 rounds).length ≤ BUFFER_SIZE_MAX)
    {km : Bytes} (hkm : X.bcrypt_pbkdf (cstr p) salt (e.keysize / 8 + e.blocksize) rounds = some km)
    {privkey_buffer privkeys : Bytes} (hbuf : e.blocksize ∣ privkey_buffer.length)
    (hprivkeys : entry_encrypt B e (key_material_buffer km) privkey_buffer = some privkeys) :
    privkeys.length = privkey_buffer.length ∧
      pki_private_key_decrypt B X tab privkeys passphrase (ascii e.name) (ascii "bcrypt")
        (sshstr salt ++ be32 rounds) auth_fn = .ok (SSH_OK, privkey_buffer) := by
  obtain ⟨hhead, -⟩ := block_entry_hooks he hek henc
  obtain ⟨hcstr, hnone, hbs, hkl⟩ := ssh_ciphertab_head_params cfg e hhead
  have hkl' : e.keysize / 8 + e.blocksize ≤ (key_material_buffer km).length := by
    rw [length_key_material_buffer]; exact hkl
  obtain ⟨out, hcrypt, hE⟩ := pki_cipher_crypt_entry_encrypt hB hS he hek henc hkl' hbuf
  obtain rfl := Option.some.inj (hE.symm.trans hprivkeys)
  obtain ⟨hlen, hdec⟩ := pki_cipher_crypt_roundtrip hB hS he hek henc hkl' hbuf hcrypt
  have hsalt : salt.length < 2 ^ 32 := by
    simp only [List.length_append, length_sshstr] at hopts; have := BUFFER_SIZE_MAX_lt; omega
  have hSd : (ssh_buffer_add_data [] (sshstr salt ++ be32 rounds)).bind unpack_Sd = some (salt, rounds) := by
    rw [ssh_buffer_add_data_nil hopts, Option.some_bind, ← List.append_nil (sshstr salt ++ be32 rounds),
      unpack_Sd_sshstr hsalt]
  have hbcrypt : cstr (ascii "bcrypt") = ascii "bcrypt" := by decide
  refine ⟨hlen, ?_⟩
  rw [pki_private_key_decrypt, if_neg (by rw [hcstr]; exact hnone), hcstr, ssh_cipher_lookup_head htab hhead]
  simp only [hbcrypt, ne_eq, not_true_eq_false, if_false, hbs, hlen, Nat.mod_eq_zero_of_dvd hbuf, hSd,
    pki_private_key_crypt, hp, hkm, hdec, Nat.not_lt.mpr hkl]
  rfl

end Decrypt

/-! ## The private section -/

theorem check_padding_range' (i n : Nat) (h : i + n ≤ 256) :
    check_padding i ((List.range' i n).map Nat.toUInt8) = true := by
  induction n generalizing i with
  | zero => rfl
  | succ n ih =>
    rw [List.range'_succ, List.map_cons, check_padding, ih (i + 1) (by omega), toNat_toUInt8,
      Nat.mod_eq_of_lt (by omega)]
    simp

/-- The padding `1, …, n` passes the padding loop while its counter fits a byte. -/
theorem check_padding_pad_bytes {n : Nat} (hn : n ≤ 255) : check_padding 1 (pad_bytes n) = true :=
  check_padding_range' 1 n (by omega)

section Private

variable {KeyType Key : Type} {X : Collaborators KeyType Key}

theorem pki_openssh_import_privkey_blob_export (hX : X.Lawful) {k : Key} {blob : Bytes}
    (hblob : X.ssh_pki_export_privkey_blob k = some blob) (rest : Bytes) :
    pki_openssh_import_privkey_blob X (blob ++ rest) = some (k, rest) := by
  obtain ⟨name, t, body, rfl, hname, ht, himp⟩ := hX.export_privkey_blob k blob hblob
  simp [pki_openssh_import_privkey_blob, List.append_assoc, unpack_S_sshstr _ _ hname, ht, himp]

/-- **The private section.** Two equal checkints, the blob a key exports to, a
comment and a padding of at most 255 bytes parse to the key. -/
theorem openssh_parse_private_section (hX : X.Lawful) {k : Key} {blob : Bytes}
    (hblob : X.ssh_pki_export_privkey_blob k = some blob) (checkint : UInt32) {comment : Bytes}
    (hcomment : comment.length < 2 ^ 32) {n : Nat} (hn : n ≤ 255)
    (hfit : (openssh_private_section checkint blob comment n).length ≤ BUFFER_SIZE_MAX) :
    openssh_parse_private X (openssh_private_section checkint blob comment n) = some k := by
  rw [openssh_parse_private, ssh_buffer_add_data_nil hfit]
  simp only [openssh_private_section, List.append_assoc, Option.getD_some, ssh_buffer_get_u32_be32,
    Option.some_bind, ne_eq, not_true_eq_false, if_false, pki_openssh_import_privkey_blob_export hX hblob,
    ssh_buffer_get_ssh_string_sshstr _ _ hcomment, check_padding_pad_bytes hn, if_true]

end Private

/-! ## What import makes of a container -/

section Containers

variable {KeyType Key : Type}

/-- The import of a container text whose private section is stored as
`SectionStored` says, from every table a run reaches: the key the section holds,
when the import resolves the passphrase the section was encrypted with, or the
section is in the clear. -/
theorem ssh_pki_openssh_privkey_import_stored {cfg : BuildConfig} {B : Backend} (hB : B.Lawful)
    (hS : B.SetupSucceeds) (fallback : ssh_cipher_struct) {tab : List ssh_cipher_struct}
    (htab : TableReachable cfg fallback tab) {X : Collaborators KeyType Key} (hX : X.Lawful) {k : Key} {blob : Bytes}
    (hblob : X.ssh_pki_export_privkey_blob k = some blob) (checkint : UInt32) {comment : Bytes}
    (hcomment : comment.length < 2 ^ 32) {n : Nat} (hn : n ≤ 255) {p : Bytes}
    {ciphername kdfname kdfoptions pubkey privkeys : Bytes}
    (hstored : SectionStored B X cfg p ciphername kdfname kdfoptions
      (openssh_private_section checkint blob comment n) privkeys)
    (hfit : (openssh_payload ciphername kdfname kdfoptions pubkey privkeys).length ≤ BUFFER_SIZE_MAX)
    {b64 body : Bytes}
    (hb64 : X.bin_to_base64 (openssh_payload ciphername kdfname kdfoptions pubkey privkeys) = some b64)
    (hbody : body.filter (fun c => !isspace c) = b64) (rest : Bytes) {passphrase : Option Bytes}
    {auth_fn : Option ssh_auth_callback}
    (hp : ciphername = ascii "none" ∨ pki_passphrase passphrase auth_fn = some p) :
    ssh_pki_openssh_privkey_import B X tab (openssh_text body rest) passphrase auth_fn = .ok (some k) := by
  rw [ssh_pki_openssh_privkey_import_text hX _ _ hb64 hbody (hfit.trans_lt BUFFER_SIZE_MAX_lt)]
  simp only [openssh_payload, List.length_append, length_sshstr, length_be32] at hfit
  rcases hstored with ⟨rfl, rfl⟩ |
    ⟨e, he, ek, enc, hek, henc, rfl, rfl, hbuf, salt, rounds, km, rfl, hkm, hprivkeys⟩
  · rw [pki_private_key_decrypt, if_pos (by decide)]
    simp [Except.map, SSH_OK, SSH_ERROR, openssh_parse_private_section hX hblob checkint hcomment hn (by omega)]
  · have hp : pki_passphrase passphrase auth_fn = some p :=
      hp.resolve_left (ssh_ciphertab_head_params cfg e (block_entry_hooks he hek henc).1).2.1
    obtain ⟨hlen, hdec⟩ := pki_private_key_decrypt_block hB hS htab he hek henc hp
      (by simp only [List.length_append, length_sshstr, length_be32] at hfit ⊢; omega) hkm hbuf hprivkeys
    rw [hdec]
    simp [Except.map, SSH_OK, SSH_ERROR, openssh_parse_private_section hX hblob checkint hcomment hn (by omega)]

/-- **Import accepts the whole format.** After any run of the library, a text
made of the BEGIN line, the base64 of a container wrapped with any whitespace,
and the END marker followed by anything, imports to the key `k` when the
container's private section holds the checkint twice, the blob `k` exports to,
any comment and the padding `1, …, n` for any `n ≤ 255`, stored in the clear
under `none` or encrypted by any table entry with block hooks under `bcrypt`
with any salt and rounds `bcrypt_pbkdf` accepts for the passphrase given; the
public blob can be anything. -/
theorem openssh_privkey_import_complete (cfg : BuildConfig) (B : Backend) (hB : B.Lawful)
    (hS : B.SetupSucceeds) (fallback : ssh_cipher_struct) (calls : List CryptoCall) (X : Collaborators KeyType Key)
    (hX : X.Lawful) (k : Key) (blob : Bytes) (hblob : X.ssh_pki_export_privkey_blob k = some blob)
    (checkint : UInt32) (comment : Bytes) (hcomment : comment.length < 2 ^ 32) (n : Nat) (hn : n ≤ 255)
    (passphrase : Bytes) (auth_fn : Option ssh_auth_callback)
    (ciphername kdfname kdfoptions pubkey privkeys : Bytes)
    (hstored : SectionStored B X cfg passphrase ciphername kdfname kdfoptions
      (openssh_private_section checkint blob comment n) privkeys)
    (hfit : (openssh_payload ciphername kdfname kdfoptions pubkey privkeys).length ≤ BUFFER_SIZE_MAX)
    (b64 body rest : Bytes)
    (hb64 : X.bin_to_base64 (openssh_payload ciphername kdfname kdfoptions pubkey privkeys) = some b64)
    (hbody : body.filter (fun c => !isspace c) = b64) :
    ssh_pki_openssh_privkey_import B X (crypto_run cfg B fallback (crypto_state_start cfg) calls).ssh_ciphertab
      (openssh_text body rest) (some passphrase) auth_fn = .ok (some k) :=
  ssh_pki_openssh_privkey_import_stored hB hS fallback (ssh_crypto_run_table B calls) hX hblob checkint hcomment hn
    hstored hfit hb64 hbody rest (.inr rfl)

/-- Two containers in hex for base64, each with a comment and padding: one in
the clear, and one that aes128-cbc encrypts under `bcrypt` and whose body a
newline wraps. -/
theorem openssh_privkey_import_complete_aes128_cbc :
    let blob := sshstr toy_key_name ++ (sshstr [1] ++ sshstr [2])
    let tab := (crypto_run ⟨false, false, false, false, false⟩ (reversing_backend false)
      { name := chacha20_poly1305_name } (crypto_state_start ⟨false, false, false, false, false⟩) []).ssh_ciphertab
    let privkeys := (entry_encrypt (reversing_backend false)
      (cbc_entry "aes128-cbc" 16 128 .MBEDTLS_CIPHER_AES_128_CBC) (key_material_buffer (List.replicate 32 0))
      (openssh_private_section 7 blob (ascii "c") 10)).getD []
    let b64 := hex_encode (openssh_payload (ascii "aes128-cbc") (ascii "bcrypt") (sshstr [5] ++ be32 16) []
      privkeys)
    ssh_pki_openssh_privkey_import (reversing_backend false) toy_collaborators tab
        (openssh_text (hex_encode (openssh_payload (ascii "none") (ascii "none") [] []
          (openssh_private_section 7 blob (ascii "c") 3))) [10]) (some [1]) none = .ok (some ([1], [2])) ∧
      ssh_pki_openssh_privkey_import (reversing_backend false) toy_collaborators tab
        (openssh_text (b64.take 64 ++ [10] ++ b64.drop 64) [10]) (some [1]) none = .ok (some ([1], [2])) :=
  ⟨openssh_privkey_import_complete _ _ (reversing_backend_lawful false) (reversing_backend_setup_succeeds false)
      _ _ _ toy_collaborators_lawful ([1], [2]) _ rfl _ _ (by decide) _ (by decide) _ _ _ _ _ _ _
      (.inl ⟨rfl, rfl⟩) (by decide) _ _ _ rfl (hex_encode_filter_isspace _),
    openssh_privkey_import_complete _ _ (reversing_backend_lawful false) (reversing_backend_setup_succeeds false)
      _ _ _ toy_collaborators_lawful ([1], [2]) _ rfl _ _ (by decide) _ (by decide) [1] _ _ _ _ _ _
      (.inr ⟨cbc_entry "aes128-cbc" 16 128 .MBEDTLS_CIPHER_AES_128_CBC, by decide, _, _, rfl, rfl, rfl, rfl,
        by decide, [5], 16, List.replicate 32 0, rfl, rfl, rfl⟩) (by decide) _ _ _ rfl
      (filter_isspace_wrap (hex_encode_filter_isspace _) 64)⟩

/-- **The public and the private import of one text.** When both imports of a
text return a key, they have read one header: the public key is what
`ssh_pki_import_pubkey_blob` makes of the header's public blob, the private key
what its private section decrypts and parses to. Nothing compares the two: the
public key is the private key's public half when the header's public blob is
the one that key exports. -/
theorem openssh_pubkey_privkey_import (B : Backend) (X : Collaborators KeyType Key) (hX : X.Lawful)
    (ciphers : List ssh_cipher_struct) (text_key : Bytes) (passphrase : Option Bytes)
    (auth_fn : Option ssh_auth_callback) (P K : Key)
    (hP : ssh_pki_openssh_pubkey_import B X ciphers text_key = .ok (some P))
    (hK : ssh_pki_openssh_privkey_import B X ciphers text_key passphrase auth_fn = .ok (some K)) :
    ∃ h, openssh_read_header X text_key = some h ∧ X.ssh_pki_import_pubkey_blob h.pubkey0 = some P ∧
      (∃ r, pki_private_key_decrypt B X ciphers h.privkeys passphrase h.ciphername h.kdfname h.kdfoptions
          auth_fn = .ok r ∧ r.1 ≠ SSH_ERROR ∧ openssh_parse_private X r.2 = some K) ∧
      (X.ssh_pki_export_pubkey_blob K = some h.pubkey0 → P = X.ssh_pki_export_privkey_to_pubkey K) := by
  obtain ⟨h, hh, hP⟩ := ssh_pki_openssh_pubkey_import_eq_some hP
  obtain ⟨h', r, hh', hd, hr, hK⟩ := ssh_pki_openssh_privkey_import_eq_some hK
  -- both imports read the one header of the text
  obtain rfl : h = h' := Option.some.inj (hh.symm.trans hh')
  exact ⟨h, hh, hP, ⟨r, hd, hr, hK⟩,
    fun hpub => Option.some.inj (hP.symm.trans (hX.export_pubkey_blob K _ hpub))⟩

/-- A container whose public blob is the one its key exports: both imports
return a key, and the public one is the private one's public half. -/
theorem openssh_pubkey_privkey_import_matching :
    ∃ h, openssh_read_header toy_collaborators
        (openssh_text (hex_encode (openssh_payload (ascii "none") (ascii "none") []
          (sshstr toy_key_name ++ sshstr [1])
          (openssh_private_section 7 (sshstr toy_key_name ++ (sshstr [1] ++ sshstr [2])) [] 3))) []) = some h ∧
      toy_collaborators.ssh_pki_import_pubkey_blob h.pubkey0 = some ([1], []) ∧
      (∃ r, pki_private_key_decrypt (reversing_backend false) toy_collaborators
          (ssh_ciphertab ⟨false, false, false, false, false⟩) h.privkeys none h.ciphername h.kdfname h.kdfoptions
          none = .ok r ∧ r.1 ≠ SSH_ERROR ∧ openssh_parse_private toy_collaborators r.2 = some ([1], [2])) ∧
      (toy_collaborators.ssh_pki_export_pubkey_blob ([1], [2]) = some h.pubkey0 →
        ([1], []) = toy_collaborators.ssh_pki_export_privkey_to_pubkey ([1], [2])) :=
  openssh_pubkey_privkey_import _ _ toy_collaborators_lawful _ _ _ _ _ _
    (by rw [ssh_pki_openssh_pubkey_import_text toy_collaborators_lawful _ _ rfl (hex_encode_filter_isspace _)
      (by decide)]; rfl)
    (ssh_pki_openssh_privkey_import_stored (reversing_backend_lawful false) (reversing_backend_setup_succeeds false)
      { name := chacha20_poly1305_name } (.inl rfl) toy_collaborators_lawful (k := ([1], [2])) rfl 7
      (by decide) (by decide) (p := []) (.inl ⟨rfl, rfl⟩) (by decide) rfl (hex_encode_filter_isspace _) []
      (.inl rfl))

/-- A container whose public blob holds the public key `[3]` while its private
section holds the key `([1], [2])`: both imports succeed, with keys that do not
match. -/
theorem openssh_pubkey_privkey_import_mismatch :
    ssh_pki_openssh_pubkey_import (reversing_backend false) toy_collaborators
        (ssh_ciphertab ⟨false, false, false, false, false⟩)
        (openssh_text (hex_encode (openssh_payload (ascii "none") (ascii "none") []
          (sshstr toy_key_name ++ sshstr [3])
          (openssh_private_section 7 (sshstr toy_key_name ++ (sshstr [1] ++ sshstr [2])) [] 3))) []) =
      .ok (some ([3], [])) ∧
    ssh_pki_openssh_privkey_import (reversing_backend false) toy_collaborators
        (ssh_ciphertab ⟨false, false, false, false, false⟩)
        (openssh_text (hex_encode (openssh_payload (ascii "none") (ascii "none") []
          (sshstr toy_key_name ++ sshstr [3])
          (openssh_private_section 7 (sshstr toy_key_name ++ (sshstr [1] ++ sshstr [2])) [] 3))) [])
        (some [1]) none =
      .ok (some ([1], [2])) ∧
    toy_collaborators.ssh_pki_export_privkey_to_pubkey ([1], [2]) ≠ ([3], []) := by
  refine ⟨?_, ?_, by decide⟩
  · rw [ssh_pki_openssh_pubkey_import_text toy_collaborators_lawful _ _ rfl (hex_encode_filter_isspace _) (by decide)]
    rfl
  · exact ssh_pki_openssh_privkey_import_stored (reversing_backend_lawful false)
      (reversing_backend_setup_succeeds false) { name := chacha20_poly1305_name } (.inl rfl)
      toy_collaborators_lawful (k := ([1], [2])) rfl 7 (by decide) (by decide) (p := [1]) (.inl ⟨rfl, rfl⟩)
      (by decide) rfl (hex_encode_filter_isspace _) [] (.inl rfl)

/-- **Import reaches a missing hook.** In every table a run reaches, a container
that names an entry before the chacha20-poly1305 one that has no block `decrypt`
hook (the AES-GCM entries), with the KDF `bcrypt`, a section of whole blocks,
KDF options that unpack, and a passphrase that `bcrypt_pbkdf` accepts, makes
the import call a NULL hook. -/
theorem privkey_import_missing_hook (cfg : BuildConfig) (B : Backend) (X : Collaborators KeyType Key)
    (fallback : ssh_cipher_struct) (calls : List CryptoCall) (text_key : Bytes) (passphrase : Option Bytes)
    (auth_fn : Option ssh_auth_callback) (h : OpensshHeader) (hread : openssh_read_header X text_key = some h)
    (e : ssh_cipher_struct) (he : e ∈ ssh_ciphertab_head cfg) (hdec : e.decrypt = none)
    (hname : cstr h.ciphername = ascii e.name) (hkdf : cstr h.kdfname = ascii "bcrypt")
    (hbuf : e.blocksize ∣ h.privkeys.length) (salt : Bytes) (rounds : UInt32)
    (hopts : (ssh_buffer_add_data [] h.kdfoptions).bind unpack_Sd = some (salt, rounds)) (p : Bytes)
    (hp : pki_passphrase passphrase auth_fn = some p) (km : Bytes)
    (hkm : X.bcrypt_pbkdf (cstr p) salt (e.keysize / 8 + e.blocksize) rounds = some km) :
    ssh_pki_openssh_privkey_import B X (crypto_run cfg B fallback (crypto_state_start cfg) calls).ssh_ciphertab
      text_key passphrase auth_fn = .error .null_hook := by
  obtain ⟨-, hnone, hbs, hkl⟩ := ssh_ciphertab_head_params cfg e he
  have hcrypt : pki_cipher_crypt B .MBEDTLS_DECRYPT e (key_material_buffer km) h.privkeys = .error .null_hook := by
    unfold pki_cipher_crypt
    split
    · rfl
    · simp only [SetKeyHook.call_crypt_hook]
      simp [ssh_cipher_struct.crypt_hook, hdec]
  rw [ssh_pki_openssh_privkey_import, ssh_pki_openssh_import, hread]
  simp only [if_true, pki_private_key_decrypt, hname, hnone, if_false,
    ssh_cipher_lookup_head (ssh_crypto_run_table B calls) he, hkdf, ne_eq, not_true_eq_false, hbs,
    Nat.mod_eq_zero_of_dvd hbuf, hopts, pki_private_key_crypt, Nat.not_lt.mpr hkl, hp, hkm, hcrypt]
  rfl

/-- The aes128-gcm entry named by a container in a build with GCM. -/
theorem privkey_import_missing_hook_aes128_gcm :
    ssh_pki_openssh_privkey_import (reversing_backend false) toy_collaborators
      (crypto_run ⟨false, true, false, false, false⟩ (reversing_backend false)
        { name := chacha20_poly1305_name } (crypto_state_start ⟨false, true, false, false, false⟩)
        [.ssh_crypto_init]).ssh_ciphertab
      (openssh_text (hex_encode (openssh_payload (ascii "aes128-gcm@openssh.com") (ascii "bcrypt")
        (sshstr [5] ++ be32 16) [] (List.replicate 16 0))) [])
      (some [1]) none = .error .null_hook :=
  privkey_import_missing_hook _ _ _ _ _ _ _ _ _
    (openssh_read_header_text toy_collaborators_lawful rfl
      (hex_encode_filter_isspace _)
      (by decide) [])
    (gcm_entry "aes128-gcm@openssh.com" 128 .MBEDTLS_CIPHER_AES_128_GCM) (by decide) rfl (by decide) (by decide)
    (by decide) [5] 16 (by decide) [1] rfl _ rfl

/-- **Before `ssh_crypto_init`, the chacha20-poly1305 placeholder divides by
zero.** In a build without mbedTLS's ChaCha20 and Poly1305, the table the
library starts with holds an entry with only the chacha20-poly1305 name: a
container that names it, with the KDF `bcrypt`, makes the import take the
section's length modulo a zero block size. -/
theorem privkey_import_zero_blocksize (cfg : BuildConfig)
    (hcfg : (cfg.MBEDTLS_CHACHA20_C && cfg.MBEDTLS_POLY1305_C) = false) (B : Backend)
    (X : Collaborators KeyType Key) (text_key : Bytes) (passphrase : Option Bytes)
    (auth_fn : Option ssh_auth_callback) (h : OpensshHeader) (hread : openssh_read_header X text_key = some h)
    (hname : cstr h.ciphername = ascii chacha20_poly1305_name) (hkdf : cstr h.kdfname = ascii "bcrypt") :
    ssh_pki_openssh_privkey_import B X (crypto_state_start cfg).ssh_ciphertab text_key passphrase auth_fn =
      .error .div_by_zero := by
  have hhead : ∀ c ∈ ssh_ciphertab_head cfg, (ascii c.name == ascii chacha20_poly1305_name) = false := by
    unfold ssh_ciphertab_head; split <;> split <;> decide
  have hlookup : ssh_cipher_lookup (crypto_state_start cfg).ssh_ciphertab (ascii chacha20_poly1305_name) =
      some { name := chacha20_poly1305_name } := by
    rw [crypto_state_start, ssh_cipher_lookup, ssh_ciphertab, List.find?_append,
      List.find?_eq_none.mpr (by simpa using hhead), chacha20_poly1305_entry, hcfg]
    simp
  rw [ssh_pki_openssh_privkey_import, ssh_pki_openssh_import, hread]
  simp only [if_true, pki_private_key_decrypt, hname, hlookup, hkdf, ne_eq, not_true_eq_false, if_false]
  rw [if_neg (by decide)]
  rfl

/-- A container naming chacha20-poly1305, before the library is initialised. -/
theorem privkey_import_zero_blocksize_chacha :
    ssh_pki_openssh_privkey_import (reversing_backend false) toy_collaborators
      (crypto_state_start ⟨false, false, false, false, false⟩).ssh_ciphertab
      (openssh_text (hex_encode (openssh_payload (ascii chacha20_poly1305_name) (ascii "bcrypt") [] [] [])) [])
      none none = .error .div_by_zero :=
  privkey_import_zero_blocksize ⟨false, false, false, false, false⟩ rfl _ _ _ _ _ _
    (openssh_read_header_text toy_collaborators_lawful rfl
      (hex_encode_filter_isspace _)
      (by decide) [])
    (by decide) (by decide)

end Containers

end Libssh
