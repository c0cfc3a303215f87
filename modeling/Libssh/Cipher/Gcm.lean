import Libssh.Cipher.Struct

/-!
The AES-GCM hooks of `libmbedcrypto.c`: `cipher_set_key_gcm`,
`cipher_gcm_get_length`, `cipher_encrypt_gcm` and `cipher_decrypt_gcm`.

The session's nonce is `last_iv`, installed by the key setup and moved on by
`uint64_inc (cipher->last_iv + 4)` after each call that succeeded, in both
directions. Two results are about whole runs of calls:

* `gcm_nonce_run_trace`: along any run of calls on one session, the nonce each
  call hands to mbedTLS is the installed IV with its 64-bit counter advanced by
  the number of calls before it that succeeded (`gcm_nonce_trace`); no two calls
  within `2 ^ 64` successes of each other use the same nonce
  (`gcm_nonce_trace_ne`).
* `gcm_link_lockstep`: a sender and a receiver keyed alike stay in lockstep
  over any run in which the receiver is also handed packets it rejects; every
  genuine packet is accepted and decrypts to what was sent.
-/

set_option autoImplicit false

namespace Libssh

/-! ## Constants -/

/-- `AES_GCM_IVLEN`. Modelled from the spec: the GCM nonce is 96 bits. -/
def AES_GCM_IVLEN : Nat := 12

/-- `AES_GCM_TAGLEN`, which a libssh header outside `src/` defines as the 16
bytes of the SSH AES-GCM tag. No result here depends on its value: both
directions pass the entry's `tag_size` to mbedTLS. -/
def AES_GCM_TAGLEN : Nat := 16

/-- Modelled from the spec: `uint64_inc` is not in `src/`. The spec has the
nonce incremented after every packet at byte 4 of the 12-byte IV; the function's
name and its call at `last_iv + 4`, with eight bytes left, make it the increment
of the 64-bit big-endian counter in those eight bytes, with the carry running
from the last byte towards the first. -/
def uint64_inc (counter : Bytes) : Bytes := be_inc (counter.take 8) ++ counter.drop 8

/-- `uint64_inc (cipher->last_iv + 4)`. -/
def last_iv_inc (last_iv : Bytes) : Bytes := last_iv.take 4 ++ uint64_inc (last_iv.drop 4)

/-! ## The hooks -/

/-- `cipher_set_key_gcm`: keys the GCM context with the first `key_bitlen / 8`
key bytes and installs the first 12 IV bytes as `last_iv`. It returns `0`, or
`1` when `mbedtls_gcm_setkey` fails (which it does for a key length AES does not
have), with the context freed. -/
def cipher_set_key_gcm (B : Backend) (cipher : ssh_cipher_struct) (key IV : Bytes) :
    Int × ssh_cipher_struct :=
  let key_bitlen := ((mbedtls_cipher_info_from_type cipher.type).map (·.key_bitlen)).getD 0
  if B.setup_fails .mbedtls_gcm_setkey || key_bitlen ∉ [128, 192, 256] then
    (1, { cipher with gcm_ctx := none })
  else
    (0, { cipher with gcm_ctx := some (key.take (key_bitlen / 8)),
                      last_iv := IV.take AES_GCM_IVLEN })

/-- `cipher_gcm_get_length`: the length field is not encrypted, so it is copied. -/
def cipher_gcm_get_length (input : Bytes) (len : Nat) : Int × Bytes :=
  (SSH_OK, input.take len)

/-- `cipher_encrypt_gcm` on the `len` bytes at `in`: the session after, the
bytes written at `out` (the length field, then on success the ciphertext), and
the tag when one was written. The length field is the AAD. -/
def cipher_encrypt_gcm (B : Backend) (cipher : ssh_cipher_struct) (input : Bytes) (len : Nat) :
    ssh_cipher_struct × Bytes × Option Bytes :=
  let aadlen := cipher.lenfield_blocksize
  let authlen := cipher.tag_size
  let aad := input.take aadlen
  match cipher.gcm_ctx.bind fun key =>
      B.gcm_crypt_and_tag key (cipher.last_iv.take AES_GCM_IVLEN) aad authlen
        ((input.drop aadlen).take (len - aadlen)) with
  | none => (cipher, aad, none)
  | some (out, tag) => ({ cipher with last_iv := last_iv_inc cipher.last_iv }, aad ++ out, some tag)

/-- `cipher_decrypt_gcm` on a complete packet (length field, `encrypted_size`
bytes, tag): the return code, the session after, and the plaintext, written
only when the tag verifies. -/
def cipher_decrypt_gcm (B : Backend) (cipher : ssh_cipher_struct) (complete_packet : Bytes)
    (encrypted_size : Nat) : Int × ssh_cipher_struct × Option Bytes :=
  let aadlen := cipher.lenfield_blocksize
  let authlen := cipher.tag_size
  let aad := complete_packet.take aadlen
  let tag := (complete_packet.drop (aadlen + encrypted_size)).take authlen
  let input := (complete_packet.drop aadlen).take encrypted_size
  match cipher.gcm_ctx.bind fun key =>
      B.gcm_auth_decrypt key (cipher.last_iv.take AES_GCM_IVLEN) aad tag input with
  | none => (SSH_ERROR, cipher, none)
  | some out => (SSH_OK, { cipher with last_iv := last_iv_inc cipher.last_iv }, some out)

/-! ## What one call does -/

section Calls

variable {B : Backend} {cipher : ssh_cipher_struct}

/-- **`cipher_encrypt_gcm` inverted.** A call either fails and leaves the
session alone, or succeeds and moves the nonce on, and nothing else. -/
theorem cipher_encrypt_gcm_cases (cipher : ssh_cipher_struct) (input : Bytes) (len : Nat) :
    (cipher_encrypt_gcm B cipher input len).2.2 = none ∧
        (cipher_encrypt_gcm B cipher input len).1 = cipher ∨
      (cipher_encrypt_gcm B cipher input len).2.2.isSome ∧
        (cipher_encrypt_gcm B cipher input len).1 = { cipher with last_iv := last_iv_inc cipher.last_iv } := by
  simp only [cipher_encrypt_gcm]
  split <;> simp

/-- **`cipher_decrypt_gcm` inverted.** A call either rejects the packet with
`SSH_ERROR`, leaving the session alone and writing nothing, or accepts it with
`SSH_OK` and moves the nonce on. -/
theorem cipher_decrypt_gcm_cases (cipher : ssh_cipher_struct) (pkt : Bytes) (es : Nat) :
    cipher_decrypt_gcm B cipher pkt es = (SSH_ERROR, cipher, none) ∨
      ∃ out, cipher_decrypt_gcm B cipher pkt es =
        (SSH_OK, { cipher with last_iv := last_iv_inc cipher.last_iv }, some out) := by
  simp only [cipher_decrypt_gcm]
  split
  · exact .inl rfl
  · exact .inr ⟨_, rfl⟩

/-- What `cipher_set_key_gcm` returns, for every outcome of `mbedtls_gcm_setkey`:
`0` when it succeeds on a key length AES has, and `1` otherwise. -/
theorem cipher_set_key_gcm_rc (key IV : Bytes) :
    (cipher_set_key_gcm B cipher key IV).1 =
      if B.calls_succeed (SetKeyHook.mbedtls_calls cipher .cipher_set_key_gcm) ∧
          ((mbedtls_cipher_info_from_type cipher.type).map (·.key_bitlen)).getD 0 ∈ [128, 192, 256] then 0
      else 1 := by
  rw [cipher_set_key_gcm, apply_ite Prod.fst]
  simp only [SetKeyHook.mbedtls_calls, Backend.calls_succeed, List.all_cons, List.all_nil, Bool.and_true,
    Bool.not_eq_true', Bool.or_eq_true, decide_eq_true_eq, Bool.not_eq_eq_eq_not, Bool.not_true]
  split_ifs <;> simp_all

end Calls

/-! ## The nonce sequence -/

/-- The nonce the installed IV `iv0` gives after `k` increments: its fixed field,
then its 64-bit counter plus `k` modulo `2 ^ 64`. -/
def gcm_nonce (iv0 : Bytes) (k : Nat) : Bytes :=
  iv0.take 4 ++ be_bytes 8 ((be_nat ((iv0.drop 4).take 8) + k) % 2 ^ 64)

/-- The nonces of a run of calls with the given outcomes: each call's nonce
follows from the calls before it that succeeded. -/
def gcm_nonce_trace (iv0 : Bytes) : Nat → List Bool → List Bytes
  | _, [] => []
  | k, ok :: oks => gcm_nonce iv0 k :: gcm_nonce_trace iv0 (if ok then k + 1 else k) oks

section Nonce

variable {iv0 : Bytes}

theorem length_gcm_nonce (h4 : 4 ≤ iv0.length) (k : Nat) : (gcm_nonce iv0 k).length = 12 := by
  simp [gcm_nonce]; omega

/-- The installed IV is the nonce after no increment. -/
theorem gcm_nonce_zero (h12 : iv0.length = 12) : gcm_nonce iv0 0 = iv0 := by
  have h8 : ((iv0.drop 4).take 8).length = 8 := by simp; omega
  have hlt : be_nat ((iv0.drop 4).take 8) < 2 ^ 64 := (be_nat_lt _).trans_eq (by rw [h8]; norm_num)
  have hb := be_bytes_be_nat ((iv0.drop 4).take 8)
  rw [h8] at hb
  rw [gcm_nonce, Nat.add_zero, Nat.mod_eq_of_lt hlt, hb,
    List.take_of_length_le (by simp; omega : (iv0.drop 4).length ≤ 8), List.take_append_drop]

theorem uint64_inc_of_length {c : Bytes} (h : c.length = 8) : uint64_inc c = be_inc c := by
  rw [uint64_inc, List.take_of_length_le h.le, List.drop_of_length_le h.le, List.append_nil]

theorem gcm_nonce_take_four (h4 : 4 ≤ iv0.length) (k : Nat) : (gcm_nonce iv0 k).take 4 = iv0.take 4 := by
  simp [gcm_nonce, List.take_append_of_le_length, h4]

/-- The nonces only read the first 12 bytes of the IV. -/
theorem gcm_nonce_take_twelve (k : Nat) : gcm_nonce (iv0.take 12) k = gcm_nonce iv0 k := by
  simp [gcm_nonce, List.take_take, List.drop_take]

/-- **The increment is the successor of the counter.** `uint64_inc` at byte 4
of a nonce in the sequence gives the next one: the carry runs through all eight
counter bytes and never into the fixed field. -/
theorem last_iv_inc_gcm_nonce (h4 : 4 ≤ iv0.length) (k : Nat) :
    last_iv_inc (gcm_nonce iv0 k) = gcm_nonce iv0 (k + 1) := by
  have h256 : (2 : Nat) ^ 64 = 256 ^ 8 := by norm_num
  have hdrop : (gcm_nonce iv0 k).drop 4 =
      be_bytes 8 ((be_nat ((iv0.drop 4).take 8) + k) % 2 ^ 64) := by
    simp [gcm_nonce, List.drop_append_eq_append_drop, h4]
  rw [last_iv_inc, gcm_nonce_take_four h4, hdrop, uint64_inc_of_length (length_be_bytes _ _), be_inc_be_bytes,
    gcm_nonce, ← be_bytes_mod 8, ← h256, Nat.mod_add_mod, Nat.add_assoc]

/-- Two nonces of the sequence agree only when their counts agree modulo `2 ^ 64`. -/
theorem gcm_nonce_inj {j k : Nat} (h : gcm_nonce iv0 j = gcm_nonce iv0 k) :
    j % 2 ^ 64 = k % 2 ^ 64 := by
  have h' := be_bytes_injective (Nat.mod_lt _ (by norm_num)) (Nat.mod_lt _ (by norm_num))
    (List.append_cancel_left h)
  omega

@[simp] theorem length_gcm_nonce_trace (k : Nat) (oks : List Bool) :
    (gcm_nonce_trace iv0 k oks).length = oks.length := by
  induction oks generalizing k with
  | nil => rfl
  | cons ok oks ih => simp [gcm_nonce_trace, ih]

/-- The `j`-th nonce of a trace, by the number of successes before it. -/
theorem gcm_nonce_trace_get (k : Nat) (oks : List Bool) (j : Nat)
    (hj : j < (gcm_nonce_trace iv0 k oks).length) :
    (gcm_nonce_trace iv0 k oks).get ⟨j, hj⟩ = gcm_nonce iv0 (k + (oks.take j).count true) := by
  induction oks generalizing k j with
  | nil => simp at hj
  | cons ok oks ih =>
    cases j with
    | zero => simp [gcm_nonce_trace]
    | succ j =>
      have ih' := ih (if ok then k + 1 else k) j (by simpa using hj)
      simp only [List.get_eq_getElem] at ih' ⊢
      simp only [gcm_nonce_trace, List.getElem_cons_succ, ih', List.take_succ_cons, List.count_cons]
      cases ok with
      | false => simp
      | true => simp; congr 1; omega

/-- **No nonce reuse within `2 ^ 64` successes.** A call that succeeded and any
later call with fewer than `2 ^ 64` successes from the first up to it use
different nonces. -/
theorem gcm_nonce_trace_ne (k : Nat) (oks : List Bool) {i j : Nat} (hi : i < oks.length)
    (hj : j < oks.length) (hij : i < j) (hok : oks[i] = true)
    (hwin : ((oks.drop i).take (j - i)).count true < 2 ^ 64) :
    (gcm_nonce_trace iv0 k oks).get ⟨i, by simpa using hi⟩ ≠
      (gcm_nonce_trace iv0 k oks).get ⟨j, by simpa using hj⟩ := by
  rw [gcm_nonce_trace_get, gcm_nonce_trace_get]
  intro h
  have hsplit : (oks.take j).count true =
      (oks.take i).count true + ((oks.drop i).take (j - i)).count true := by
    rw [← List.count_append, ← List.take_add, Nat.add_sub_cancel' hij.le]
  have hpos : 0 < ((oks.drop i).take (j - i)).count true := by
    rw [List.drop_eq_getElem_cons hi, show j - i = (j - i - 1) + 1 by omega, List.take_succ_cons,
      List.count_cons, hok]
    simp
  have := gcm_nonce_inj h
  omega

end Nonce

/-! ## Runs of one session -/

/-- A run of calls on one session, each reporting whether it succeeded: the
nonce each call hands to mbedTLS (the first `AES_GCM_IVLEN` bytes of
`last_iv`), with that call's outcome. -/
def gcm_nonce_run {α : Type} (f : ssh_cipher_struct → α → ssh_cipher_struct × Bool) :
    ssh_cipher_struct → List α → List (Bytes × Bool)
  | _, [] => []
  | s, a :: as => (s.last_iv.take AES_GCM_IVLEN, (f s a).2) :: gcm_nonce_run f (f s a).1 as

/-- `cipher_encrypt_gcm` as a step of a run: it succeeded when it wrote a tag. -/
def gcm_encrypt_step (B : Backend) (s : ssh_cipher_struct) (call : Bytes × Nat) :
    ssh_cipher_struct × Bool :=
  ((cipher_encrypt_gcm B s call.1 call.2).1, (cipher_encrypt_gcm B s call.1 call.2).2.2.isSome)

/-- `cipher_decrypt_gcm` as a step of a run: it succeeded when it returned
`SSH_OK`. -/
def gcm_decrypt_step (B : Backend) (s : ssh_cipher_struct) (call : Bytes × Nat) :
    ssh_cipher_struct × Bool :=
  ((cipher_decrypt_gcm B s call.1 call.2).2.1, (cipher_decrypt_gcm B s call.1 call.2).1 == SSH_OK)

section NonceRun

variable {α : Type} {f : ssh_cipher_struct → α → ssh_cipher_struct × Bool} {iv0 : Bytes}

/-- **Run lemma.** When each step moves the nonce on exactly when it succeeds,
a run from the `k`-th nonce hands mbedTLS the nonces of `gcm_nonce_trace`. -/
theorem gcm_nonce_run_eq_trace
    (hf : ∀ s a, (f s a).1.last_iv = if (f s a).2 then last_iv_inc s.last_iv else s.last_iv)
    (h4 : 4 ≤ iv0.length) (as : List α) (k : Nat) (s : ssh_cipher_struct)
    (hs : s.last_iv = gcm_nonce iv0 k) :
    (gcm_nonce_run f s as).map Prod.fst = gcm_nonce_trace iv0 k ((gcm_nonce_run f s as).map Prod.snd) := by
  induction as generalizing k s with
  | nil => rfl
  | cons a as ih =>
    have hnext : (f s a).1.last_iv = gcm_nonce iv0 (if (f s a).2 then k + 1 else k) := by
      rw [hf, hs]; split <;> simp [last_iv_inc_gcm_nonce h4]
    simp only [gcm_nonce_run, List.map_cons, gcm_nonce_trace, ih _ _ hnext, hs,
      List.take_of_length_le (length_gcm_nonce h4 k).le, AES_GCM_IVLEN]

variable {B : Backend}

theorem gcm_encrypt_step_last_iv (s : ssh_cipher_struct) (call : Bytes × Nat) :
    (gcm_encrypt_step B s call).1.last_iv =
      if (gcm_encrypt_step B s call).2 then last_iv_inc s.last_iv else s.last_iv := by
  rcases cipher_encrypt_gcm_cases (B := B) s call.1 call.2 with ⟨h1, h2⟩ | ⟨h1, h2⟩ <;>
    simp [gcm_encrypt_step, h1, h2]

theorem gcm_decrypt_step_last_iv (s : ssh_cipher_struct) (call : Bytes × Nat) :
    (gcm_decrypt_step B s call).1.last_iv =
      if (gcm_decrypt_step B s call).2 then last_iv_inc s.last_iv else s.last_iv := by
  rcases cipher_decrypt_gcm_cases (B := B) s call.1 call.2 with h | ⟨out, h⟩ <;>
    simp [gcm_decrypt_step, h, SSH_OK, SSH_ERROR]

end NonceRun

/-- A successful `cipher_set_key_gcm` installs the first 12 IV bytes. -/
theorem cipher_set_key_gcm_eq_zero {B : Backend} {cipher : ssh_cipher_struct} {key IV : Bytes}
    (h : (cipher_set_key_gcm B cipher key IV).1 = 0) :
    ∃ k, (cipher_set_key_gcm B cipher key IV).2 =
      { cipher with gcm_ctx := some k, last_iv := IV.take AES_GCM_IVLEN } := by
  simp only [cipher_set_key_gcm] at h ⊢
  split at h
  · exact absurd h (by simp)
  · next hc => rw [if_neg hc]; exact ⟨_, rfl⟩

/-- What reaches the receiver: the sender's next packet, or a packet of an
attacker's with the `encrypted_size` it is processed with. -/
inductive GcmDelivery
  | genuine (p : Bytes)
  | injected (pkt : Bytes) (encrypted_size : Nat)
  deriving DecidableEq, Repr

/-- Whether a delivery is an attacker's. -/
def GcmDelivery.is_injected : GcmDelivery → Bool
  | .genuine _ => false
  | .injected _ _ => true

/-- What the receiver makes of one packet: the length field
`cipher_gcm_get_length` gives, and the return code and output of
`cipher_decrypt_gcm`. -/
structure GcmReceipt where
  length_field : Bytes
  rc : Int
  out : Option Bytes
  deriving DecidableEq, Repr

/-- The receiver on one complete packet: it reads the length field, then
decrypts the packet. -/
def gcm_receive (B : Backend) (r : ssh_cipher_struct) (pkt : Bytes) (encrypted_size : Nat) :
    ssh_cipher_struct × GcmReceipt :=
  ((cipher_decrypt_gcm B r pkt encrypted_size).2.1,
    ⟨(cipher_gcm_get_length pkt r.lenfield_blocksize).2, (cipher_decrypt_gcm B r pkt encrypted_size).1,
      (cipher_decrypt_gcm B r pkt encrypted_size).2.2⟩)

/-- One delivery. For a genuine one the sender encrypts its next packet, and the
receiver is handed what the sender wrote and the tag, with the size of the
encrypted part. -/
def gcm_link_step (B : Backend) (s r : ssh_cipher_struct) :
    GcmDelivery → ssh_cipher_struct × ssh_cipher_struct × GcmReceipt
  | .genuine p =>
    let e := cipher_encrypt_gcm B s p p.length
    let x := gcm_receive B r (e.2.1 ++ e.2.2.getD []) (p.length - s.lenfield_blocksize)
    (e.1, x.1, x.2)
  | .injected pkt es =>
    let x := gcm_receive B r pkt es
    (s, x.1, x.2)

/-- A run of deliveries: the sender's and the receiver's sessions after each,
and the receipt. -/
def gcm_link_run (B : Backend) :
    ssh_cipher_struct → ssh_cipher_struct → List GcmDelivery →
      List (ssh_cipher_struct × ssh_cipher_struct × GcmReceipt)
  | _, _, [] => []
  | s, r, d :: ds => gcm_link_step B s r d :: gcm_link_run B (gcm_link_step B s r d).1 (gcm_link_step B s r d).2.1 ds

/-- The receiver is keyed like the sender, reads the same field sizes, and is at
the same nonce. -/
structure GcmInSync (s r : ssh_cipher_struct) : Prop where
  gcm_ctx : r.gcm_ctx = s.gcm_ctx
  last_iv : r.last_iv = s.last_iv
  lenfield_blocksize : r.lenfield_blocksize = s.lenfield_blocksize
  tag_size : r.tag_size = s.tag_size
  keyed : s.gcm_ctx.isSome

section Link

variable {B : Backend} {s r : ssh_cipher_struct}

/-- **A genuine packet goes through.** With the sessions in sync, the receiver
reads the sent length field, accepts the packet and writes the rest of what was
sent, and the sessions are in sync again. -/
theorem gcm_link_step_genuine (hB : B.Lawful) (hsync : GcmInSync s r) (p : Bytes)
    (hp : s.lenfield_blocksize ≤ p.length) :
    (gcm_link_step B s r (.genuine p)).2.2 =
        ⟨p.take s.lenfield_blocksize, SSH_OK, some (p.drop s.lenfield_blocksize)⟩ ∧
      GcmInSync (gcm_link_step B s r (.genuine p)).1 (gcm_link_step B s r (.genuine p)).2.1 := by
  obtain ⟨key, hkey⟩ := Option.isSome_iff_exists.mp hsync.keyed
  obtain ⟨c, t, hct, hc, ht⟩ := hB.gcm_crypt_and_tag_spec key (s.last_iv.take AES_GCM_IVLEN)
    (p.take s.lenfield_blocksize) s.tag_size (p.drop s.lenfield_blocksize)
  have hin : (p.drop s.lenfield_blocksize).take (p.length - s.lenfield_blocksize) =
      p.drop s.lenfield_blocksize := List.take_of_length_le (by simp)
  have henc : cipher_encrypt_gcm B s p p.length =
      ({ s with last_iv := last_iv_inc s.last_iv }, p.take s.lenfield_blocksize ++ c, some t) := by
    simp only [cipher_encrypt_gcm, hkey, Option.some_bind, hin, hct]
  have hlen : (p.take s.lenfield_blocksize).length = s.lenfield_blocksize := by simp [hp]
  have hcl : c.length = p.length - s.lenfield_blocksize := by rw [hc, List.length_drop]
  -- where `cipher_decrypt_gcm` finds the AAD, the tag and the ciphertext in what was sent
  have haad : (p.take s.lenfield_blocksize ++ c ++ t).take s.lenfield_blocksize =
      p.take s.lenfield_blocksize := by rw [List.append_assoc, List.take_left' hlen]
  have htag : ((p.take s.lenfield_blocksize ++ c ++ t).drop
      (s.lenfield_blocksize + (p.length - s.lenfield_blocksize))).take s.tag_size = t := by
    rw [List.drop_left' (by rw [List.length_append, hlen, hcl]), List.take_of_length_le ht.le]
  have hct' : ((p.take s.lenfield_blocksize ++ c ++ t).drop s.lenfield_blocksize).take
      (p.length - s.lenfield_blocksize) = c := by
    rw [List.append_assoc, List.drop_left' hlen, List.take_left' hcl]
  have hauth : B.gcm_auth_decrypt key (s.last_iv.take AES_GCM_IVLEN) (p.take s.lenfield_blocksize) t c =
      some (p.drop s.lenfield_blocksize) := (hB.gcm_auth_decrypt_iff _ _ _ _ _ _).mpr (ht ▸ hct)
  have hdec : cipher_decrypt_gcm B r (p.take s.lenfield_blocksize ++ c ++ t)
      (p.length - s.lenfield_blocksize) =
      (SSH_OK, { r with last_iv := last_iv_inc r.last_iv }, some (p.drop s.lenfield_blocksize)) := by
    simp only [cipher_decrypt_gcm, hsync.gcm_ctx, hsync.last_iv, hsync.lenfield_blocksize,
      hsync.tag_size, hkey, Option.some_bind, haad, htag, hct', hauth]
  simp only [gcm_link_step, henc, Option.getD_some, gcm_receive, hdec, cipher_gcm_get_length,
    hsync.lenfield_blocksize, haad]
  exact ⟨trivial, ⟨hsync.gcm_ctx, by simp [hsync.last_iv], rfl, hsync.tag_size, hsync.keyed⟩⟩

/-- **A rejected packet changes nothing.** -/
theorem gcm_link_step_rejected (pkt : Bytes) (es : Nat)
    (hrej : (gcm_link_step B s r (.injected pkt es)).2.2.rc = SSH_ERROR) :
    (gcm_link_step B s r (.injected pkt es)).1 = s ∧ (gcm_link_step B s r (.injected pkt es)).2.1 = r := by
  rcases cipher_decrypt_gcm_cases (B := B) r pkt es with h | ⟨out, h⟩ <;>
    simp_all [gcm_link_step, gcm_receive, SSH_OK, SSH_ERROR]

/-- **Lockstep over any run.** From sessions in sync, over any run of
deliveries in which every injected packet is rejected, every genuine packet is
accepted with its length field read back and the rest of it written, and after
every delivery the sessions are in sync. -/
theorem gcm_link_lockstep (hB : B.Lawful) (hsync : GcmInSync s r) (ds : List GcmDelivery)
    (hlen : ∀ p, GcmDelivery.genuine p ∈ ds → s.lenfield_blocksize ≤ p.length)
    (hrej : ∀ y ∈ ds.zip (gcm_link_run B s r ds), y.1.is_injected → y.2.2.2.rc = SSH_ERROR) :
    ∀ d x, (d, x) ∈ ds.zip (gcm_link_run B s r ds) → GcmInSync x.1 x.2.1 ∧
      ∀ p, d = .genuine p →
        x.2.2 = ⟨p.take s.lenfield_blocksize, SSH_OK, some (p.drop s.lenfield_blocksize)⟩ := by
  induction ds generalizing s r with
  | nil => simp [gcm_link_run]
  | cons d ds ih =>
    -- the first delivery keeps the sessions in sync and leaves the field sizes alone
    have hstep : GcmInSync (gcm_link_step B s r d).1 (gcm_link_step B s r d).2.1 ∧
        (gcm_link_step B s r d).1.lenfield_blocksize = s.lenfield_blocksize ∧
        ∀ p, d = .genuine p → (gcm_link_step B s r d).2.2 =
          ⟨p.take s.lenfield_blocksize, SSH_OK, some (p.drop s.lenfield_blocksize)⟩ := by
      cases d with
      | genuine p =>
        obtain ⟨h1, h2⟩ := gcm_link_step_genuine hB hsync p (hlen p (List.mem_cons_self _ _))
        refine ⟨h2, ?_, fun q hq => by cases hq; exact h1⟩
        rcases cipher_encrypt_gcm_cases (B := B) s p p.length with ⟨-, he⟩ | ⟨-, he⟩ <;>
          simp [gcm_link_step, he]
      | injected pkt es =>
        obtain ⟨h1, h2⟩ := gcm_link_step_rejected pkt es
          (hrej (.injected pkt es, gcm_link_step B s r (.injected pkt es)) (by simp [gcm_link_run]) rfl)
        rw [h1, h2]
        exact ⟨hsync, rfl, fun _ h => by cases h⟩
    obtain ⟨hsync', hlf, hhead⟩ := hstep
    have htail := ih hsync' (fun p hp => hlf ▸ hlen p (List.mem_cons_of_mem _ hp))
      (fun y hy => hrej y (by simp [gcm_link_run, hy]))
    intro d' x hx
    simp only [gcm_link_run, List.zip_cons_cons, List.mem_cons, Prod.mk.injEq] at hx
    rcases hx with ⟨rfl, rfl⟩ | hx
    · exact ⟨hsync', hhead⟩
    · obtain ⟨h1, h2⟩ := htail d' x hx
      exact ⟨h1, fun p hp => hlf ▸ h2 p hp⟩

end Link

end Libssh
