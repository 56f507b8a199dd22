import SevGuest.Snp.Bitfields

open rust bitfield bincode Mathlib

namespace sev.guest

/-- The member types of a report that `snp.rs` imports from modules not under `src/`:
`firmware::host::TcbVersion` and `certs::snp::ecdsa::Signature`. Each is a parameter, with
the fixed-size encoding its derived serde code has under bincode and its `Debug`. -/
structure External where
  TcbVersion : Type
  Signature : Type
  tcb_version : FixedCodec TcbVersion 8
  signature : FixedCodec Signature 512
  fmt_debug_tcb_version : TcbVersion → Outcome Unit
  fmt_debug_signature : Signature → Outcome Unit

/-- The external types as plain byte arrays of their sizes, whose `Debug` cannot fail. -/
def External.bytes : External :=
  ⟨Vector u8 8, Vector u8 512, FixedCodec.bytes 8, FixedCodec.bytes 512, fun _ => .ret (),
    fun _ => .ret ()⟩

/-- The trait `Attestable`: the signed bytes of a report, and its signature. -/
structure Attestable (T Sig : Type) where
  measurable_bytes : T → ExceptT IoError Outcome (List u8)
  signature : T → Sig

/-- The default method `Attestable::measurable_bytes`: the first `0x2a0` bytes of the bincode
encoding, a panic if there are fewer. -/
def Attestable.default_measurable_bytes {T : Type} (ser : T → List u8) (self : T) :
    ExceptT IoError Outcome (List u8) := do
  let measurable_bytes ← match bincode.serialize ser self with
    | .ok bytes => pure bytes
    | .error e => throw ⟨.Other, "Unable to serialize bytes: " ++ e.display⟩
  slice_to measurable_bytes 0x2a0

/-- `TryFrom<&[u8]>` of both report versions: `bincode::deserialize`, its error wrapped as
`BincodeError`. -/
def try_from_bincode {R : Type} (de : Reader R) (bytes : List u8) :
    Except AttestationReportError R :=
  (bincode.deserialize de bytes).mapError .BincodeError

section

variable {R : Type} {n : Nat} (C : FixedCodec R n)

/-- A fixed-size value is read from exactly the buffers of at least its size, whatever they
hold, from their first `n` bytes; shorter ones fail with the reader's end-of-file. -/
theorem try_from_bincode_read (b : List u8) :
    try_from_bincode C.read b =
      if n ≤ b.length then .ok (C.decode (b.take n)) else .error (.BincodeError unexpected_eof) := by
  simp only [try_from_bincode, bincode.deserialize, StateT.run]
  split_ifs with h
  · rw [C.read_of_le h]; rfl
  · rw [C.read_of_lt (by omega)]; rfl

end

theorem Attestable.default_measurable_bytes_eq {T : Type} (ser : T → List u8) (self : T)
    (h : 0x2a0 ≤ (ser self).length) :
    (default_measurable_bytes ser self).run = .ret (.ok ((ser self).take 0x2a0)) := by
  simp only [default_measurable_bytes, bincode.serialize, pure_bind, slice_to_of_le h]
  rfl

/-! Both report versions derive `Serialize` and `Deserialize` as a fixed-size encoding `C`
(`serialize_eq`, `deserialize_eq` in each version's module); what follows from that is proved
here once. -/

section

variable {R : Type} {n : Nat} {C : FixedCodec R n} {ser : R → List u8} {de : Reader R}

theorem length_serialize_of (hser : ∀ r, ser r = C.encode r) (r : R) : (ser r).length = n := by
  rw [hser, C.length_encode]

theorem try_from_bincode_of_le (hde : de = C.read) {b : List u8} (hb : n ≤ b.length) :
    try_from_bincode de b = .ok (C.decode (b.take n)) := by
  rw [hde, try_from_bincode_read, if_pos hb]

/-- What `try_from` accepts encodes back to the buffer's first `n` bytes. -/
theorem serialize_of_try_from_bincode (hser : ∀ r, ser r = C.encode r) (hde : de = C.read)
    {b : List u8} {r : R} (h : try_from_bincode de b = .ok r) : ser r = b.take n := by
  rw [hde, try_from_bincode_read] at h
  split_ifs at h with hb
  cases h
  rw [hser, C.encode_decode _ (by simp; omega)]

/-- `try_from` and the derived encoding are inverse on the `n`-byte wire format: every buffer
of at least `n` bytes decodes and encodes back to its first `n` bytes, and every value
encodes to `n` bytes that decode back to it. -/
theorem try_from_bincode_inverse (hser : ∀ r, ser r = C.encode r) (hde : de = C.read) :
    (∀ b : List u8, n ≤ b.length → ∃ r, try_from_bincode de b = .ok r ∧
      bincode.serialize ser r = .ok (b.take n)) ∧
    ∀ r, ∃ bytes, bincode.serialize ser r = .ok bytes ∧ bytes.length = n ∧
      try_from_bincode de bytes = .ok r := by
  refine ⟨fun b hb => ?_, fun r => ⟨_, rfl, length_serialize_of hser r, ?_⟩⟩
  · have h := try_from_bincode_of_le hde hb
    exact ⟨_, h, congrArg Except.ok (serialize_of_try_from_bincode hser hde h)⟩
  · rw [try_from_bincode_of_le hde (length_serialize_of hser r).ge,
      List.take_of_length_le (length_serialize_of hser r).le, hser, C.decode_encode]

end

section

variable {X : External} {R Body : Type} {body : FixedCodec Body 0x2a0}
  {equiv : (Body × X.Signature) ≃ R} {ser : R → List u8}

/-- The signed bytes of a report encoded as its body and then its signature are the encoding
of the body: every member but the signature. -/
theorem take_serialize_of (hser : ∀ r, ser r = ((body.prod X.signature).map equiv).encode r)
    (r : R) : (ser r).take 0x2a0 = body.encode (equiv.symm r).1 := by
  rw [hser, FixedCodec.map_encode, FixedCodec.prod_encode,
    List.take_left' (body.length_encode _)]

theorem default_measurable_bytes_of
    (hser : ∀ r, ser r = ((body.prod X.signature).map equiv).encode r) (r : R) :
    (Attestable.default_measurable_bytes ser r).run = .ret (.ok ((ser r).take 0x2a0)) :=
  Attestable.default_measurable_bytes_eq _ _ (by rw [length_serialize_of hser]; decide)

/-- The signed bytes determine every member but the signature: two reports have the same
exactly when the second is the first with its signature replaced. -/
theorem default_measurable_bytes_inj
    (hser : ∀ r, ser r = ((body.prod X.signature).map equiv).encode r) (r r' : R) :
    Attestable.default_measurable_bytes ser r = Attestable.default_measurable_bytes ser r' ↔
      equiv ((equiv.symm r).1, (equiv.symm r').2) = r' := by
  change (Attestable.default_measurable_bytes ser r).run =
    (Attestable.default_measurable_bytes ser r').run ↔ _
  rw [default_measurable_bytes_of hser, default_measurable_bytes_of hser, take_serialize_of hser,
    take_serialize_of hser, Outcome.ret.injEq, Except.ok.injEq, body.encode_injective.eq_iff]
  constructor
  · intro h
    rw [h, Prod.mk.eta, Equiv.apply_symm_apply]
  · intro h
    rw [← h, Equiv.symm_apply_apply]

end

end sev.guest
