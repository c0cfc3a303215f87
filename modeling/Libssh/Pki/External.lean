import Libssh.Buffer

/-!
The collaborators `pki_container_openssh.c` calls that are not in `src/`: the
typed key codecs of libssh's PKI layer, base64, `bcrypt_pbkdf`,
`ssh_get_random` and the passphrase callback, at the interface the container
code sees.

`Collaborators` holds the functions and `Collaborators.Lawful` the contracts the
container's round trip rests on: the private key codec reads back what it
writes and consumes exactly that, the public one reads back the public half,
`base64_to_bin` inverts `bin_to_base64`, and `bin_to_base64` writes base64
characters only. Nothing is assumed of `bcrypt_pbkdf` and `ssh_get_random`
beyond their being functions: a KDF is deterministic, and the results range over
every value the random source can give.

`toy_collaborators` meets every contract, with a key of two strings shaped like
an Ed25519 key, hex for base64 and a constant KDF. It shows that the contracts
can be met together, and runs the container code on concrete texts.
-/

set_option autoImplicit false

namespace Libssh

/-- An `ssh_auth_callback` as the container code calls it: given the prompt and
the size of `passphrase_buffer`, the passphrase it writes there (a C string of
fewer bytes), or nothing when it does not return `SSH_OK`. -/
abbrev ssh_auth_callback := Bytes → Nat → Option Bytes

/-- The characters `bin_to_base64` writes: the alphabet of RFC 4648 and its pad
character. -/
def base64_alphabet : Bytes :=
  ascii "ABCDEFGHIJKLMNOPQRSTUVWXYZabcdefghijklmnopqrstuvwxyz0123456789+/="

/-- The collaborators, over the key types and keys of libssh's PKI layer. -/
structure Collaborators (KeyType Key : Type) where
  /-- `ssh_key_type_from_name` on a C string; nothing for `SSH_KEYTYPE_UNKNOWN`. -/
  ssh_key_type_from_name : Bytes → Option KeyType
  /-- `pki_import_privkey_buffer`: the key of a type read from the front of a
  buffer, and what is left of the buffer. -/
  pki_import_privkey_buffer : KeyType → Bytes → Option (Key × Bytes)
  /-- `ssh_pki_import_pubkey_blob`. -/
  ssh_pki_import_pubkey_blob : Bytes → Option Key
  /-- `ssh_pki_export_pubkey_blob`. -/
  ssh_pki_export_pubkey_blob : Key → Option Bytes
  /-- `ssh_pki_export_privkey_blob`. -/
  ssh_pki_export_privkey_blob : Key → Option Bytes
  /-- `ssh_pki_export_privkey_to_pubkey`: the public key of a private key. -/
  ssh_pki_export_privkey_to_pubkey : Key → Key
  /-- `base64_to_bin` on a C string. -/
  base64_to_bin : Bytes → Option Bytes
  /-- `bin_to_base64`. -/
  bin_to_base64 : Bytes → Option Bytes
  /-- `bcrypt_pbkdf` (passphrase, salt, output length, rounds): the key
  material, or nothing for a negative return. -/
  bcrypt_pbkdf : Bytes → Bytes → Nat → UInt32 → Option Bytes
  /-- `ssh_get_random` of a number of bytes, or nothing when it fails. -/
  ssh_get_random : Nat → Option Bytes

/-- The contracts of the collaborators. -/
structure Collaborators.Lawful {KeyType Key : Type} (X : Collaborators KeyType Key) : Prop where
  /-- A private key blob is the key type's name as a string, then fields that
  `pki_import_privkey_buffer` reads back to the key, consuming exactly them. -/
  export_privkey_blob : ∀ k blob, X.ssh_pki_export_privkey_blob k = some blob →
    ∃ name t body, blob = sshstr name ++ body ∧ name.length < 2 ^ 32 ∧
      X.ssh_key_type_from_name (cstr name) = some t ∧
      ∀ rest, X.pki_import_privkey_buffer t (body ++ rest) = some (k, rest)
  /-- `pki_import_privkey_buffer` reads from the front of its buffer. -/
  import_privkey_buffer_suffix : ∀ t buf k rest,
    X.pki_import_privkey_buffer t buf = some (k, rest) → ∃ body, buf = body ++ rest
  /-- A public key blob reads back to the public key. -/
  export_pubkey_blob : ∀ k b, X.ssh_pki_export_pubkey_blob k = some b →
    X.ssh_pki_import_pubkey_blob b = some (X.ssh_pki_export_privkey_to_pubkey k)
  /-- `base64_to_bin` inverts `bin_to_base64`. -/
  base64_to_bin_bin_to_base64 : ∀ b s, X.bin_to_base64 b = some s → X.base64_to_bin s = some b
  /-- `bin_to_base64` writes base64 characters only. -/
  bin_to_base64_alphabet : ∀ b s, X.bin_to_base64 b = some s → ∀ c ∈ s, c ∈ base64_alphabet

/-- A base64 character is neither whitespace, nor the dash the marker lines
start with, nor NUL. -/
theorem base64_alphabet_char {c : UInt8} (h : c ∈ base64_alphabet) :
    isspace c = false ∧ c ≠ 45 ∧ c ≠ 0 := by
  revert c
  decide

/-! ## A concrete set of collaborators -/

/-- The key type name of `toy_collaborators`. -/
def toy_key_name : Bytes := ascii "ssh-ed25519"

/-- A hex digit. -/
def hex_digit (d : Nat) : UInt8 := if d < 10 then (48 + d).toUInt8 else (87 + d).toUInt8

/-- The value of a hex digit. -/
def hex_value (c : UInt8) : Option Nat :=
  if 48 ≤ c.toNat ∧ c.toNat ≤ 57 then some (c.toNat - 48)
  else if 97 ≤ c.toNat ∧ c.toNat ≤ 102 then some (c.toNat - 87) else none

/-- Hex encoding, two digits a byte. -/
def hex_encode (b : Bytes) : Bytes :=
  b.flatMap fun x => [hex_digit (x.toNat / 16), hex_digit (x.toNat % 16)]

/-- Hex decoding. -/
def hex_decode : Bytes → Option Bytes
  | [] => some []
  | [_] => none
  | h :: l :: rest =>
    (hex_value h).bind fun a => (hex_value l).bind fun b =>
      (hex_decode rest).map ((a * 16 + b).toUInt8 :: ·)

theorem hex_value_hex_digit : ∀ d < 16, hex_value (hex_digit d) = some d := by decide

theorem hex_digit_alphabet : ∀ d < 16, hex_digit d ∈ base64_alphabet := by decide

theorem hex_decode_hex_encode (b : Bytes) : hex_decode (hex_encode b) = some b := by
  induction b with
  | nil => rfl
  | cons x b ih =>
    have hx : x.toNat < 256 := x.toNat_lt
    have hbyte : (x.toNat / 16 * 16 + x.toNat % 16).toUInt8 = x := by
      apply UInt8.ext
      rw [toNat_toUInt8, Nat.div_add_mod', Nat.mod_eq_of_lt hx]
    simp only [hex_encode, List.flatMap_cons, List.cons_append, List.nil_append] at ih ⊢
    rw [hex_decode, hex_value_hex_digit _ (by omega), hex_value_hex_digit _ (by omega)]
    simp [ih, hbyte]

/-- Keys of two strings (public, private) named `ssh-ed25519`, hex for base64,
a KDF that fails only on an empty passphrase or zero rounds, and a random source
that always gives sevens. -/
def toy_collaborators : Collaborators Unit (Bytes × Bytes) where
  ssh_key_type_from_name n := if n = toy_key_name then some () else none
  pki_import_privkey_buffer _ buf := (unpack_S buf).bind fun (pub, buf) =>
    (unpack_S buf).map fun (priv, buf) => ((pub, priv), buf)
  ssh_pki_import_pubkey_blob b := (unpack_S b).bind fun (n, b) =>
    if cstr n = toy_key_name then (unpack_S b).map fun (pub, _) => (pub, []) else none
  ssh_pki_export_pubkey_blob k :=
    if k.1.length < 2 ^ 32 then some (sshstr toy_key_name ++ sshstr k.1) else none
  ssh_pki_export_privkey_blob k :=
    if k.1.length < 2 ^ 32 ∧ k.2.length < 2 ^ 32 then
      some (sshstr toy_key_name ++ (sshstr k.1 ++ sshstr k.2)) else none
  ssh_pki_export_privkey_to_pubkey k := (k.1, [])
  base64_to_bin := hex_decode
  bin_to_base64 b := some (hex_encode b)
  bcrypt_pbkdf pass _ n rounds := if pass = [] ∨ rounds = 0 then none else some (List.replicate n 0)
  ssh_get_random n := some (List.replicate n 7)

theorem cstr_toy_key_name : cstr toy_key_name = toy_key_name := by decide

theorem toy_collaborators_lawful : toy_collaborators.Lawful where
  export_privkey_blob k blob h := by
    simp only [toy_collaborators, Option.ite_none_right_eq_some, Option.some.injEq] at h
    obtain ⟨⟨h1, h2⟩, rfl⟩ := h
    refine ⟨toy_key_name, (), _, rfl, by decide, by simp [toy_collaborators, cstr_toy_key_name],
      fun rest => ?_⟩
    simp [toy_collaborators, List.append_assoc, unpack_S_sshstr _ _ h1, unpack_S_sshstr _ _ h2]
  import_privkey_buffer_suffix t buf k rest h := by
    simp only [toy_collaborators, Option.bind_eq_some, Option.map_eq_some', Prod.mk.injEq] at h
    obtain ⟨⟨pub, buf'⟩, h1, ⟨priv, buf''⟩, h2, -, rfl⟩ := h
    obtain ⟨rfl, -⟩ := unpack_S_eq_some.mp h1
    obtain ⟨rfl, -⟩ := unpack_S_eq_some.mp h2
    exact ⟨sshstr pub ++ sshstr priv, by simp⟩
  export_pubkey_blob k b h := by
    simp only [toy_collaborators, Option.ite_none_right_eq_some, Option.some.injEq] at h
    obtain ⟨h1, rfl⟩ := h
    have hpub := unpack_S_sshstr k.1 [] h1
    rw [List.append_nil] at hpub
    simp only [toy_collaborators, unpack_S_sshstr _ _ (by decide : toy_key_name.length < 2 ^ 32),
      Option.some_bind, cstr_toy_key_name, if_true, hpub, Option.map_some']
  base64_to_bin_bin_to_base64 b s h := by
    simp only [toy_collaborators, Option.some.injEq] at h
    subst h
    exact hex_decode_hex_encode b
  bin_to_base64_alphabet b s h c hc := by
    simp only [toy_collaborators, Option.some.injEq] at h
    subst h
    simp only [hex_encode, List.mem_flatMap, List.mem_cons, List.mem_singleton,
      List.not_mem_nil, or_false] at hc
    obtain ⟨x, -, rfl | rfl⟩ := hc
    · exact hex_digit_alphabet _ (by have := x.toNat_lt; omega)
    · exact hex_digit_alphabet _ (Nat.mod_lt _ (by decide))

/-- What `toy_collaborators` writes as base64 holds no whitespace. -/
theorem hex_encode_filter_isspace (b : Bytes) : (hex_encode b).filter (fun c => !isspace c) = hex_encode b :=
  List.filter_eq_self.mpr fun c hc => by
    simpa using (base64_alphabet_char (toy_collaborators_lawful.bin_to_base64_alphabet _ _ rfl c hc)).1

end Libssh
