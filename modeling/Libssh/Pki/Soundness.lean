import Libssh.Pki.Import

/-!
What a text must be for `ssh_pki_openssh_import` to return a key: the converse
of `Pki.Import`, phase by phase. Each phase has an inversion lemma, stated with
everything the code lets through:

* the armor (`openssh_strip_armor_eq_some`): the text holds the BEGIN marker,
  bytes up to a whitespace, the body and the END marker; anything may follow;
* the header (`openssh_parse_header_eq_some`): 14 magic bytes and a fifteenth
  that is not looked at, the strings and one key, then anything at all;
* the decryption (`pki_private_key_decrypt_sound`): the names are compared as C
  strings, and the KDF options only have to start with the salt and the rounds;
* the private section (`openssh_parse_private_sound`): after the key, a comment
  string and the padding, or, when the comment string cannot be read, the
  padding alone (`CommentPadding`).

`openssh_import_sound` puts them together as `ContainerRead`,
`SectionDecrypted` and `PrivateSectionOf`, for both the private and the
public import; `openssh_import_trailing_bytes` is a text outside the exact
format that the private import accepts.
-/

set_option autoImplicit false

namespace Libssh

/-! ## The shapes the import accepts -/

section Shapes

variable {KeyType Key : Type}

/-- The header `h` read from `text_key`: the text holds the BEGIN marker, bytes
up to a whitespace, the body and the END marker, and the body without its
whitespace decodes to the header's fields, with 14 bytes of magic and any
fifteenth, one key, and any trailing bytes. -/
def ContainerRead (X : Collaborators KeyType Key) (text_key : Bytes) (h : OpensshHeader) : Prop :=
  h.nkeys = 1 ∧ (∃ b, h.magic = OPENSSH_AUTH_MAGIC ++ [b]) ∧
  ∃ skip body rest trailing, text_key = OPENSSH_HEADER_BEGIN ++ skip ++ body ++ OPENSSH_HEADER_END ++ rest ∧
    (∀ c ∈ skip, isspace c = false) ∧
    X.base64_to_bin (body.filter fun c => !isspace c) = some (h.magic ++ sshstr h.ciphername ++
      sshstr h.kdfname ++ sshstr h.kdfoptions ++ be32 h.nkeys ++ sshstr h.pubkey0 ++ sshstr h.privkeys ++ trailing)

/-- The private section `plain` that the header's `privkeys` decrypt to: the
section itself under the C-string name `none`, or otherwise what an entry of
`ciphers` whose name is the C string decrypts in place, under the KDF `bcrypt`,
with key material from the passphrase the import resolves and the salt and
rounds the KDF options start with. -/
def SectionDecrypted (B : Backend) (X : Collaborators KeyType Key) (ciphers : List ssh_cipher_struct)
    (passphrase : Option Bytes) (auth_fn : Option ssh_auth_callback) (h : OpensshHeader) (plain : Bytes) : Prop :=
  (cstr h.ciphername = ascii "none" ∧ plain = h.privkeys) ∨
  ∃ e ∈ ciphers, ascii e.name = cstr h.ciphername ∧ cstr h.kdfname = ascii "bcrypt" ∧
    e.blocksize ∣ h.privkeys.length ∧
    ∃ salt rounds opts_rest p km, h.kdfoptions = sshstr salt ++ be32 rounds ++ opts_rest ∧
      pki_passphrase passphrase auth_fn = some p ∧
      X.bcrypt_pbkdf (cstr p) salt (e.keysize / 8 + e.blocksize) rounds = some km ∧
      pki_cipher_crypt B .MBEDTLS_DECRYPT e (key_material_buffer km) h.privkeys = .ok plain

/-- What may follow the key in a private section: a comment string and the
padding `1, …, n`; or, when the comment string cannot be read, the padding
alone, in fewer than four bytes or after a length word larger than what
follows. -/
def CommentPadding (tail : Bytes) : Prop :=
  ∃ n ≤ 255, (∃ comment, comment.length < 2 ^ 32 ∧ tail = sshstr comment ++ pad_bytes n) ∨
    (n < 4 ∧ tail = pad_bytes n) ∨ ∃ len : UInt32, n < len.toNat ∧ tail = be32 len ++ pad_bytes n

/-- A private section that holds the key `k`: the checkint twice, the key type's
name and the fields `pki_import_privkey_buffer` reads to `k`, then a comment and
the padding as `CommentPadding` has them. -/
def PrivateSectionOf (X : Collaborators KeyType Key) (plain : Bytes) (k : Key) : Prop :=
  ∃ checkint name t body tail, plain = be32 checkint ++ be32 checkint ++ sshstr name ++ body ++ tail ∧
    X.ssh_key_type_from_name (cstr name) = some t ∧ X.pki_import_privkey_buffer t (body ++ tail) = some (k, tail) ∧
    CommentPadding tail

end Shapes

/-! ## The armor -/

/-- `strstr` splits the haystack before the needle. -/
theorem strstr_eq_some {needle : Bytes} :
    ∀ {haystack a b : Bytes}, strstr needle haystack = some (a, b) → haystack = a ++ b ∧ needle <+: b
  | [], a, b, h => by
    simp only [strstr] at h
    split at h
    · next hn =>
      cases h
      exact ⟨rfl, by simp_all⟩
    · cases h
  | c :: cs, a, b, h => by
    simp only [strstr] at h
    split at h
    · next hp =>
      cases h
      exact ⟨rfl, List.isPrefixOf_iff_prefix.mp hp⟩
    · obtain ⟨⟨a', b'⟩, hr, he⟩ := Option.map_eq_some'.mp h
      cases he
      obtain ⟨rfl, hpre⟩ := strstr_eq_some hr
      exact ⟨rfl, hpre⟩

/-- **The armor the import strips.** -/
theorem openssh_strip_armor_eq_some {text_key s : Bytes} (h : openssh_strip_armor text_key = some s) :
    ∃ skip body rest, text_key = OPENSSH_HEADER_BEGIN ++ skip ++ body ++ OPENSSH_HEADER_END ++ rest ∧
      (∀ c ∈ skip, isspace c = false) ∧ s = body.filter fun c => !isspace c := by
  simp only [openssh_strip_armor] at h
  split at h
  · next hpre =>
    obtain ⟨after, hafter⟩ := List.isPrefixOf_iff_prefix.mp hpre
    obtain ⟨⟨body, r⟩, hs, rfl⟩ := Option.map_eq_some'.mp h
    rw [← hafter, List.drop_left] at hs
    obtain ⟨hsplit, rest, rfl⟩ := strstr_eq_some hs
    refine ⟨after.takeWhile (fun c => !isspace c), body, rest ++ text_key.dropWhile (· != 0),
      ?_, fun c hc => by simpa using List.mem_takeWhile_imp hc, rfl⟩
    calc text_key = cstr text_key ++ text_key.dropWhile (· != 0) := (List.takeWhile_append_dropWhile _ _).symm
      _ = OPENSSH_HEADER_BEGIN ++ ((after.takeWhile fun c => !isspace c) ++
            (after.dropWhile fun c => !isspace c)) ++ text_key.dropWhile (· != 0) := by
          rw [List.takeWhile_append_dropWhile, hafter]
      _ = _ := by rw [hsplit]; simp
  · cases h

/-! ## The header -/

/-- **The header the import accepts.** -/
theorem openssh_parse_header_eq_some {buffer : Bytes} {h : OpensshHeader}
    (hp : openssh_parse_header buffer = some h) :
    h.nkeys = 1 ∧ (∃ b, h.magic = OPENSSH_AUTH_MAGIC ++ [b]) ∧
      ∃ trailing, buffer = h.magic ++ sshstr h.ciphername ++ sshstr h.kdfname ++ sshstr h.kdfoptions ++
        be32 h.nkeys ++ sshstr h.pubkey0 ++ sshstr h.privkeys ++ trailing := by
  obtain ⟨h₀, hu, hif⟩ := Option.bind_eq_some.mp hp
  split at hif
  · next hc =>
    cases hif
    obtain ⟨hm, -, hbuf⟩ := unpack_PssSdSS_eq_some.mp hu
    obtain ⟨b, hb⟩ := List.length_eq_one.mp (show (h.magic.drop OPENSSH_AUTH_MAGIC.length).length = 1 by
      rw [List.length_drop, hm]; rfl)
    refine ⟨hc.2, ⟨b, ?_⟩, hbuf⟩
    rw [← List.take_append_drop OPENSSH_AUTH_MAGIC.length h.magic, hc.1, hb]
  · cases hif

section Read

variable {KeyType Key : Type} {X : Collaborators KeyType Key}

/-- Every header the import reads, it reads as `ContainerRead` says. -/
theorem openssh_read_header_sound {text_key : Bytes} {h : OpensshHeader}
    (hr : openssh_read_header X text_key = some h) : ContainerRead X text_key h := by
  obtain ⟨decoded, hd, hp⟩ := Option.bind_eq_some.mp hr
  obtain ⟨s, hs, hdec⟩ := Option.bind_eq_some.mp hd
  obtain ⟨skip, body, rest, rfl, hskip, rfl⟩ := openssh_strip_armor_eq_some hs
  obtain ⟨hn, hmagic, trailing, rfl⟩ := openssh_parse_header_eq_some hp
  exact ⟨hn, hmagic, skip, body, rest, trailing, rfl, hskip, hdec⟩

end Read

/-! ## The decryption -/

section Decrypt

variable {KeyType Key : Type} {X : Collaborators KeyType Key} {B : Backend}

/-- **What a decryption that does not fail did.** -/
theorem pki_private_key_decrypt_sound {ciphers : List ssh_cipher_struct} {passphrase : Option Bytes}
    {auth_fn : Option ssh_auth_callback} {h : OpensshHeader} {r : Int × Bytes}
    (hd : pki_private_key_decrypt B X ciphers h.privkeys passphrase h.ciphername h.kdfname h.kdfoptions auth_fn =
      .ok r) (hr : r.1 ≠ SSH_ERROR) :
    SectionDecrypted B X ciphers passphrase auth_fn h r.2 := by
  have herr : ∀ {x : Bytes}, Except.ok (SSH_ERROR, x) = (Except.ok r : Except Fault (Int × Bytes)) → False :=
    fun he => hr (by cases he; rfl)
  unfold pki_private_key_decrypt at hd
  split at hd
  · next hnone =>
    cases hd
    exact .inl ⟨hnone, rfl⟩
  split at hd
  · exact (herr hd).elim
  next e hlookup =>
  split at hd
  · exact (herr hd).elim
  next hkdf =>
  split at hd
  · cases hd
  next hbs =>
  split at hd
  · exact (herr hd).elim
  next hmod =>
  split at hd
  · exact (herr hd).elim
  next salt rounds hopts =>
  obtain ⟨opts, hadd, hsd⟩ := Option.bind_eq_some.mp hopts
  simp only [ssh_buffer_add_data, List.length_nil, Nat.zero_add, List.nil_append,
    Option.ite_none_right_eq_some, Option.some.injEq] at hadd
  obtain ⟨-, rfl⟩ := hadd
  obtain ⟨⟨salt', rest⟩, hS, hd32⟩ := Option.bind_eq_some.mp hsd
  obtain ⟨⟨rounds', rest'⟩, hu32, he⟩ := Option.map_eq_some'.mp hd32
  cases he
  have hopts' : h.kdfoptions = sshstr salt ++ be32 rounds ++ rest' := by
    rw [(unpack_S_eq_some.mp hS).1, ssh_buffer_get_u32_eq_some.mp hu32, List.append_assoc]
  dsimp only [pki_private_key_crypt] at hd
  split at hd
  · exact (herr hd).elim
  split at hd
  · exact (herr hd).elim
  next p hp =>
  split at hd
  · exact (herr hd).elim
  next km hkm =>
  cases hc : pki_cipher_crypt B .MBEDTLS_DECRYPT e (key_material_buffer km) h.privkeys with
  | error f => simp [hc, Except.map] at hd
  | ok y =>
    simp only [hc, Except.map, Except.ok.injEq] at hd
    subst hd
    exact .inr ⟨e, List.mem_of_find?_eq_some hlookup, by simpa using List.find?_some hlookup, not_not.mp hkdf,
      Nat.dvd_of_mod_eq_zero (not_not.mp hmod), salt, rounds, rest', p, km, hopts', hp, hkm, hc⟩

end Decrypt

/-! ## The private section -/

/-- **The padding loop accepts the counters and nothing else.** -/
theorem check_padding_eq_true : ∀ (i : Nat) (pad : Bytes), check_padding i pad = true →
    pad = (List.range' i pad.length).map Nat.toUInt8 ∧ (pad = [] ∨ i + pad.length ≤ 256)
  | _, [], _ => ⟨rfl, .inl rfl⟩
  | i, x :: rest, h => by
    simp only [check_padding, Bool.and_eq_true, beq_iff_eq] at h
    obtain ⟨hrest, hlen⟩ := check_padding_eq_true (i + 1) rest h.2
    have hi : i < 256 := h.1 ▸ x.toNat_lt
    have hx : x = i.toUInt8 := UInt8.ext (by rw [toNat_toUInt8, Nat.mod_eq_of_lt hi, h.1])
    refine ⟨by rw [List.length_cons, List.range'_succ, List.map_cons, hx, ← hrest], .inr ?_⟩
    rcases hlen with rfl | hlen
    · simp only [List.length_cons, List.length_nil]; omega
    · simp only [List.length_cons]; omega

/-- What the comment read and the padding loop let through. -/
theorem comment_padding_of_check {tail : Bytes}
    (h : check_padding 1 (ssh_buffer_get_ssh_string tail).2 = true) : CommentPadding tail := by
  have hpad : ∀ {pad : Bytes}, check_padding 1 pad = true → ∃ n ≤ 255, pad = pad_bytes n := fun hc => by
    obtain ⟨hp, hl⟩ := check_padding_eq_true 1 _ hc
    refine ⟨_, ?_, hp⟩
    rcases hl with hl | hl
    · simp [hl]
    · omega
  unfold ssh_buffer_get_ssh_string at h
  split at h
  · next hu =>
    obtain ⟨n, hn, rfl⟩ := hpad h
    refine ⟨n, hn, .inr (.inl ⟨?_, rfl⟩)⟩
    have := ssh_buffer_get_data_eq_none.mp (Option.map_eq_none'.mp hu)
    simpa [pad_bytes] using this
  · next len rest hu =>
    obtain rfl := ssh_buffer_get_u32_eq_some.mp hu
    split at h
    · next hd =>
      obtain ⟨n, hn, rfl⟩ := hpad h
      exact ⟨n, hn, .inr (.inr ⟨len, by simpa [pad_bytes] using ssh_buffer_get_data_eq_none.mp hd, rfl⟩)⟩
    · next s rest' hd =>
      obtain ⟨n, hn, rfl⟩ := hpad h
      obtain ⟨rfl, hl⟩ := ssh_buffer_get_data_eq_some.mp hd
      have hs : s.length < 2 ^ 32 := hl ▸ len.toNat_lt
      have hlen : len = s.length.toUInt32 := UInt32.ext (by rw [toNat_toUInt32_length hs, hl])
      subst hlen
      exact ⟨n, hn, .inl ⟨s, hs, by simp [sshstr]⟩⟩

section Private

variable {KeyType Key : Type} {X : Collaborators KeyType Key}

/-- **The private sections the import accepts.** -/
theorem openssh_parse_private_sound (hX : X.Lawful) {plain : Bytes} {k : Key}
    (hp : openssh_parse_private X plain = some k) : PrivateSectionOf X plain k := by
  unfold openssh_parse_private at hp
  obtain ⟨⟨c1, b1⟩, h1, hp⟩ := Option.bind_eq_some.mp hp
  obtain ⟨⟨c2, b2⟩, h2, hp⟩ := Option.bind_eq_some.mp hp
  by_cases hc : c1 = c2
  swap
  · simp [hc] at hp
  subst hc
  simp only [ne_eq, not_true_eq_false, if_false] at hp
  obtain ⟨⟨k', tail⟩, hblob, hk⟩ := Option.bind_eq_some.mp hp
  split at hk
  · next hcheck =>
    cases hk
    obtain ⟨⟨name, b3⟩, hS, ht⟩ := Option.bind_eq_some.mp hblob
    obtain ⟨t, htype, himp⟩ := Option.bind_eq_some.mp ht
    obtain ⟨rfl, -⟩ := unpack_S_eq_some.mp hS
    obtain ⟨body, rfl⟩ := hX.import_privkey_buffer_suffix t _ _ tail himp
    obtain rfl := ssh_buffer_get_u32_eq_some.mp h2
    have hfit : plain.length ≤ BUFFER_SIZE_MAX := by
      by_contra hf
      rw [ssh_buffer_add_data, if_neg (by simpa using hf)] at h1
      simp [ssh_buffer_get_u32, ssh_buffer_get_data] at h1
    rw [ssh_buffer_add_data_nil hfit, Option.getD_some] at h1
    obtain rfl := ssh_buffer_get_u32_eq_some.mp h1
    exact ⟨c1, name, t, body, tail, by simp, htype, himp, comment_padding_of_check hcheck⟩
  · cases hk

end Private

/-! ## Soundness of the import -/

section Sound

variable {KeyType Key : Type}

/-- **Import accepts what the format lets through, and only that.** When the
private import returns a key, it has read a header as `ContainerRead` says,
decrypted its private section as `SectionDecrypted` says, and found the key
there as `PrivateSectionOf` says; when the public import returns a key, it has
read a header as `ContainerRead` says and imported its public blob. -/
theorem openssh_import_sound (B : Backend) (X : Collaborators KeyType Key) (hX : X.Lawful)
    (ciphers : List ssh_cipher_struct) (text_key : Bytes) (passphrase : Option Bytes)
    (auth_fn : Option ssh_auth_callback) (k P : Key) :
    (ssh_pki_openssh_privkey_import B X ciphers text_key passphrase auth_fn = .ok (some k) →
      ∃ h plain, ContainerRead X text_key h ∧ SectionDecrypted B X ciphers passphrase auth_fn h plain ∧
        PrivateSectionOf X plain k) ∧
    (ssh_pki_openssh_pubkey_import B X ciphers text_key = .ok (some P) →
      ∃ h, ContainerRead X text_key h ∧ X.ssh_pki_import_pubkey_blob h.pubkey0 = some P) := by
  refine ⟨fun hk => ?_, fun hP => ?_⟩
  · obtain ⟨h, r, hh, hd, hr, hk⟩ := ssh_pki_openssh_privkey_import_eq_some hk
    exact ⟨h, r.2, openssh_read_header_sound hh, pki_private_key_decrypt_sound hd hr,
      openssh_parse_private_sound hX hk⟩
  · obtain ⟨h, hh, hP⟩ := ssh_pki_openssh_pubkey_import_eq_some hP
    exact ⟨h, openssh_read_header_sound hh, hP⟩

set_option maxRecDepth 10000 in
/-- Two containers in the format, with the public blob their key exports, one
in the clear and one that aes128-cbc encrypts under `bcrypt`: the private
imports each return a key after reading a header, decrypting and parsing as
the three predicates say, and the public import of the first reads its blob. -/
theorem openssh_import_sound_aes128_cbc :
    let blob := sshstr toy_key_name ++ (sshstr [1] ++ sshstr [2])
    let tab := ssh_ciphertab ⟨false, false, false, false, false⟩
    let text := openssh_text (hex_encode (openssh_payload (ascii "none") (ascii "none") []
      (sshstr toy_key_name ++ sshstr [1]) (openssh_private_section 7 blob [] 3))) []
    let privkeys := (entry_encrypt (reversing_backend false)
      (cbc_entry "aes128-cbc" 16 128 .MBEDTLS_CIPHER_AES_128_CBC) (key_material_buffer (List.replicate 32 0))
      (openssh_private_section 7 blob [] 11)).getD []
    let text' := openssh_text (hex_encode (openssh_payload (ascii "aes128-cbc") (ascii "bcrypt")
      (sshstr [5] ++ be32 16) (sshstr toy_key_name ++ sshstr [1]) privkeys)) []
    (∃ h plain, ContainerRead toy_collaborators text h ∧
      SectionDecrypted (reversing_backend false) toy_collaborators tab none none h plain ∧
        PrivateSectionOf toy_collaborators plain ([1], [2])) ∧
    (∃ h, ContainerRead toy_collaborators text h ∧
      toy_collaborators.ssh_pki_import_pubkey_blob h.pubkey0 = some ([1], [])) ∧
    (∃ h plain, ContainerRead toy_collaborators text' h ∧
      SectionDecrypted (reversing_backend false) toy_collaborators tab (some [1]) none h plain ∧
        PrivateSectionOf toy_collaborators plain ([1], [2])) :=
  ⟨(openssh_import_sound _ _ toy_collaborators_lawful _ _ _ _ _ ([1], [])).1
      (ssh_pki_openssh_privkey_import_stored (reversing_backend_lawful false)
        (reversing_backend_setup_succeeds false) { name := chacha20_poly1305_name } (.inl rfl)
        toy_collaborators_lawful (k := ([1], [2])) rfl 7 (by decide) (by decide) (p := []) (.inl ⟨rfl, rfl⟩)
        (by decide) rfl (hex_encode_filter_isspace _) [] (.inl rfl)),
    (openssh_import_sound (reversing_backend false) _ toy_collaborators_lawful
      (ssh_ciphertab ⟨false, false, false, false, false⟩) _ none none ([1], [2]) _).2
      (by rw [ssh_pki_openssh_pubkey_import_text toy_collaborators_lawful _ _ rfl (hex_encode_filter_isspace _)
        (by decide)]; rfl),
    (openssh_import_sound _ _ toy_collaborators_lawful _ _ _ _ _ ([1], [])).1
      (ssh_pki_openssh_privkey_import_stored (reversing_backend_lawful false)
        (reversing_backend_setup_succeeds false) { name := chacha20_poly1305_name } (.inl rfl)
        toy_collaborators_lawful (k := ([1], [2])) rfl 7 (by decide) (by decide) (p := [1])
        (.inr ⟨cbc_entry "aes128-cbc" 16 128 .MBEDTLS_CIPHER_AES_128_CBC, by decide, _, _, rfl, rfl, rfl, rfl,
          by decide, [5], 16, List.replicate 32 0, rfl, rfl, rfl⟩)
        (by decide) rfl (hex_encode_filter_isspace _) [] (.inr rfl))⟩

set_option maxRecDepth 10000 in
/-- A text the private import accepts that is not in the exact format: the
fifteenth magic byte is `1` where the format has a NUL, the private section has
no comment string (the padding `1, 2, 3` follows the key), and a byte follows
the private section's string. -/
theorem openssh_import_trailing_bytes :
    ssh_pki_openssh_privkey_import (reversing_backend false) toy_collaborators
      (ssh_ciphertab ⟨false, false, false, false, false⟩)
      (openssh_text (hex_encode (OPENSSH_AUTH_MAGIC ++ [1] ++ sshstr (ascii "none") ++ sshstr (ascii "none") ++
        sshstr [] ++ be32 1 ++ sshstr [] ++
        sshstr (be32 7 ++ be32 7 ++ sshstr toy_key_name ++ (sshstr [1] ++ sshstr [2]) ++ [1, 2, 3]) ++ [9])) [])
      none none = .ok (some ([1], [2])) := by
  rfl

end Sound

end Libssh
