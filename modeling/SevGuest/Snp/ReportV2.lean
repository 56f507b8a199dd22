import SevGuest.Snp.Attestable

open rust bitfield bincode Mathlib

namespace sev.guest

/-- `AttestationReportV2`, the report of firmware before ABI 1.56, in declaration order. -/
structure AttestationReportV2 (X : External) where
  version : u32
  guest_svn : u32
  policy : GuestPolicy
  family_id : Vector u8 16
  image_id : Vector u8 16
  vmpl : u32
  sig_algo : u32
  current_tcb : X.TcbVersion
  plat_info : PlatformInfoV1
  key_info : KeyInfo
  _reserved_0 : u32
  report_data : Vector u8 64
  measurement : Vector u8 48
  host_data : Vector u8 32
  id_key_digest : Vector u8 48
  author_key_digest : Vector u8 48
  report_id : Vector u8 32
  report_id_ma : Vector u8 32
  reported_tcb : X.TcbVersion
  _reserved_1 : Vector u8 24
  chip_id : Vector u8 64
  committed_tcb : X.TcbVersion
  current_build : u8
  current_minor : u8
  current_major : u8
  _reserved_2 : u8
  committed_build : u8
  committed_minor : u8
  committed_major : u8
  _reserved_3 : u8
  launch_tcb : X.TcbVersion
  _reserved_4 : Vector u8 168
  signature : X.Signature

namespace AttestationReportV2

variable {X : External}

open FixedCodec in
/-- The derived `Serialize` under bincode: every member in declaration order, integers
little-endian and arrays as their bytes. -/
def serialize (r : AttestationReportV2 X) : List u8 :=
  u32.encode r.version ++ u32.encode r.guest_svn ++ GuestPolicy.codec.encode r.policy ++
  (bytes 16).encode r.family_id ++ (bytes 16).encode r.image_id ++ u32.encode r.vmpl ++
  u32.encode r.sig_algo ++ X.tcb_version.encode r.current_tcb ++
  PlatformInfoV1.codec.encode r.plat_info ++ KeyInfo.codec.encode r.key_info ++
  u32.encode r._reserved_0 ++ (bytes 64).encode r.report_data ++
  (bytes 48).encode r.measurement ++ (bytes 32).encode r.host_data ++
  (bytes 48).encode r.id_key_digest ++ (bytes 48).encode r.author_key_digest ++
  (bytes 32).encode r.report_id ++ (bytes 32).encode r.report_id_ma ++
  X.tcb_version.encode r.reported_tcb ++ (bytes 24).encode r._reserved_1 ++
  (bytes 64).encode r.chip_id ++ X.tcb_version.encode r.committed_tcb ++
  u8.encode r.current_build ++ u8.encode r.current_minor ++ u8.encode r.current_major ++
  u8.encode r._reserved_2 ++ u8.encode r.committed_build ++ u8.encode r.committed_minor ++
  u8.encode r.committed_major ++ u8.encode r._reserved_3 ++
  X.tcb_version.encode r.launch_tcb ++ (bytes 168).encode r._reserved_4 ++
  X.signature.encode r.signature

/-- The derived `Deserialize` under bincode: every member in declaration order, the first
that runs out of bytes failing the read. -/
def deserialize : Reader (AttestationReportV2 X) := do
  let version ← deserialize_u32
  let guest_svn ← deserialize_u32
  let policy ← GuestPolicy.deserialize
  let family_id ← deserialize_array 16
  let image_id ← deserialize_array 16
  let vmpl ← deserialize_u32
  let sig_algo ← deserialize_u32
  let current_tcb ← X.tcb_version.read
  let plat_info ← PlatformInfoV1.deserialize
  let key_info ← KeyInfo.deserialize
  let _reserved_0 ← deserialize_u32
  let report_data ← deserialize_array 64
  let measurement ← deserialize_array 48
  let host_data ← deserialize_array 32
  let id_key_digest ← deserialize_array 48
  let author_key_digest ← deserialize_array 48
  let report_id ← deserialize_array 32
  let report_id_ma ← deserialize_array 32
  let reported_tcb ← X.tcb_version.read
  let _reserved_1 ← deserialize_array 24
  let chip_id ← deserialize_array 64
  let committed_tcb ← X.tcb_version.read
  let current_build ← deserialize_u8
  let current_minor ← deserialize_u8
  let current_major ← deserialize_u8
  let _reserved_2 ← deserialize_u8
  let committed_build ← deserialize_u8
  let committed_minor ← deserialize_u8
  let committed_major ← deserialize_u8
  let _reserved_3 ← deserialize_u8
  let launch_tcb ← X.tcb_version.read
  let _reserved_4 ← deserialize_array 168
  let signature ← X.signature.read
  pure ⟨version, guest_svn, policy, family_id, image_id, vmpl, sig_algo, current_tcb,
    plat_info, key_info, _reserved_0, report_data, measurement, host_data, id_key_digest,
    author_key_digest, report_id, report_id_ma, reported_tcb, _reserved_1, chip_id,
    committed_tcb, current_build, current_minor, current_major, _reserved_2, committed_build,
    committed_minor, committed_major, _reserved_3, launch_tcb, _reserved_4, signature⟩

/-- `TryFrom<&[u8]>`: `bincode::deserialize`, its error wrapped as `BincodeError`. -/
def try_from (bytes : List u8) : Except AttestationReportError (AttestationReportV2 X) :=
  try_from_bincode deserialize bytes

/-- `impl Attestable`: the default `measurable_bytes`, and the `signature` member. -/
def attestable : Attestable (AttestationReportV2 X) X.Signature :=
  ⟨Attestable.default_measurable_bytes serialize, signature⟩

/-- The derived `Debug` formats the members in order; of these only the bit-field words and
the external types run code that can fail. -/
def fmt_debug (r : AttestationReportV2 X) : Outcome Unit := do
  r.policy.fmt_debug
  X.fmt_debug_tcb_version r.current_tcb
  r.plat_info.fmt_debug
  r.key_info.fmt_debug
  X.fmt_debug_tcb_version r.reported_tcb
  X.fmt_debug_tcb_version r.committed_tcb
  X.fmt_debug_tcb_version r.launch_tcb
  X.fmt_debug_signature r.signature

/-- The members before the signature, in declaration order. -/
abbrev Body (X : External) :=
  u32 × u32 × GuestPolicy × Vector u8 16 × Vector u8 16 × u32 × u32 × X.TcbVersion ×
  PlatformInfoV1 × KeyInfo × u32 × Vector u8 64 × Vector u8 48 × Vector u8 32 ×
  Vector u8 48 × Vector u8 48 × Vector u8 32 × Vector u8 32 × X.TcbVersion × Vector u8 24 ×
  Vector u8 64 × X.TcbVersion × u8 × u8 × u8 × u8 × u8 × u8 × u8 × u8 × X.TcbVersion ×
  Vector u8 168

/-- A report is its body and its signature. -/
def equiv : (Body X × X.Signature) ≃ AttestationReportV2 X where
  toFun := fun ⟨⟨version, guest_svn, policy, family_id, image_id, vmpl, sig_algo, current_tcb,
      plat_info, key_info, _reserved_0, report_data, measurement, host_data, id_key_digest,
      author_key_digest, report_id, report_id_ma, reported_tcb, _reserved_1, chip_id,
      committed_tcb, current_build, current_minor, current_major, _reserved_2,
      committed_build, committed_minor, committed_major, _reserved_3, launch_tcb,
      _reserved_4⟩, signature⟩ =>
    ⟨version, guest_svn, policy, family_id, image_id, vmpl, sig_algo, current_tcb,
      plat_info, key_info, _reserved_0, report_data, measurement, host_data, id_key_digest,
      author_key_digest, report_id, report_id_ma, reported_tcb, _reserved_1, chip_id,
      committed_tcb, current_build, current_minor, current_major, _reserved_2,
      committed_build, committed_minor, committed_major, _reserved_3, launch_tcb,
      _reserved_4, signature⟩
  invFun r := ((r.version, r.guest_svn, r.policy, r.family_id, r.image_id, r.vmpl,
    r.sig_algo, r.current_tcb, r.plat_info, r.key_info, r._reserved_0, r.report_data,
    r.measurement, r.host_data, r.id_key_digest, r.author_key_digest, r.report_id,
    r.report_id_ma, r.reported_tcb, r._reserved_1, r.chip_id, r.committed_tcb,
    r.current_build, r.current_minor, r.current_major, r._reserved_2, r.committed_build,
    r.committed_minor, r.committed_major, r._reserved_3, r.launch_tcb, r._reserved_4),
    r.signature)
  left_inv _ := rfl
  right_inv _ := rfl

open FixedCodec in
/-- The encoding of the body: its members side by side, `0x2a0` bytes. -/
def bodyCodec : FixedCodec (Body X) 0x2a0 :=
  u32.prod <| u32.prod <| GuestPolicy.codec.prod <| (bytes 16).prod <| (bytes 16).prod <|
  u32.prod <| u32.prod <| X.tcb_version.prod <| PlatformInfoV1.codec.prod <|
  KeyInfo.codec.prod <| u32.prod <| (bytes 64).prod <| (bytes 48).prod <| (bytes 32).prod <|
  (bytes 48).prod <| (bytes 48).prod <| (bytes 32).prod <| (bytes 32).prod <|
  X.tcb_version.prod <| (bytes 24).prod <| (bytes 64).prod <| X.tcb_version.prod <|
  u8.prod <| u8.prod <| u8.prod <| u8.prod <| u8.prod <| u8.prod <| u8.prod <| u8.prod <|
  X.tcb_version.prod <| bytes 168

/-- The encoding of a whole report: body, then signature, `0x4a0` bytes. -/
def codec : FixedCodec (AttestationReportV2 X) 0x4a0 :=
  (bodyCodec.prod X.signature).map equiv

theorem deserialize_eq : (deserialize : Reader (AttestationReportV2 X)) = codec.read := by
  rw [← bind_pure codec.read]
  simp only [codec, bodyCodec, FixedCodec.read_map_bind, FixedCodec.read_prod_bind, deserialize,
    deserialize_u32_eq, deserialize_u8_eq, deserialize_array_eq, GuestPolicy.deserialize,
    PlatformInfoV1.deserialize, KeyInfo.deserialize, GuestPolicy.codec, PlatformInfoV1.codec, KeyInfo.codec,
    deserialize_u64_eq, bind_assoc, pure_bind]
  rfl

theorem serialize_eq (r : AttestationReportV2 X) : serialize r = codec.encode r := by
  simp [serialize, codec, bodyCodec, equiv]

open FixedCodec in
/-- The offset of every member: each is decoded from its own byte range of the buffer. -/
theorem decode_take_eq (b : List u8) : (codec.decode (b.take 0x4a0) : AttestationReportV2 X) =
    ⟨u32.decode (slice b 0x00 0x04), u32.decode (slice b 0x04 0x08),
      GuestPolicy.codec.decode (slice b 0x08 0x10), (bytes 16).decode (slice b 0x10 0x20),
      (bytes 16).decode (slice b 0x20 0x30), u32.decode (slice b 0x30 0x34),
      u32.decode (slice b 0x34 0x38), X.tcb_version.decode (slice b 0x38 0x40),
      PlatformInfoV1.codec.decode (slice b 0x40 0x48), KeyInfo.codec.decode (slice b 0x48 0x4C),
      u32.decode (slice b 0x4C 0x50), (bytes 64).decode (slice b 0x50 0x90),
      (bytes 48).decode (slice b 0x90 0xC0), (bytes 32).decode (slice b 0xC0 0xE0),
      (bytes 48).decode (slice b 0xE0 0x110), (bytes 48).decode (slice b 0x110 0x140),
      (bytes 32).decode (slice b 0x140 0x160), (bytes 32).decode (slice b 0x160 0x180),
      X.tcb_version.decode (slice b 0x180 0x188), (bytes 24).decode (slice b 0x188 0x1A0),
      (bytes 64).decode (slice b 0x1A0 0x1E0), X.tcb_version.decode (slice b 0x1E0 0x1E8),
      u8.decode (slice b 0x1E8 0x1E9), u8.decode (slice b 0x1E9 0x1EA),
      u8.decode (slice b 0x1EA 0x1EB), u8.decode (slice b 0x1EB 0x1EC),
      u8.decode (slice b 0x1EC 0x1ED), u8.decode (slice b 0x1ED 0x1EE),
      u8.decode (slice b 0x1EE 0x1EF), u8.decode (slice b 0x1EF 0x1F0),
      X.tcb_version.decode (slice b 0x1F0 0x1F8), (bytes 168).decode (slice b 0x1F8 0x2A0),
      X.signature.decode (slice b 0x2A0 0x4A0)⟩ := by
  simp only [codec, bodyCodec, equiv, rust.slice, map_decode, prod_decode, List.take_take,
    List.drop_take, List.drop_drop, Equiv.coe_fn_mk]
  simp

/-- The version word of an encoded report is its `version` member. -/
theorem version_eq_slice (r : AttestationReportV2 X) :
    r.version = u32.from_le_bytes (slice (serialize r) 0 4) := by
  have h := congrArg version (decode_take_eq (X := X) (serialize r))
  rw [List.take_of_length_le (length_serialize_of serialize_eq r).le] at h
  calc r.version = (codec.decode (serialize r)).version := by rw [serialize_eq, codec.decode_encode]
    _ = _ := h

/-- The derived `Debug` reaches the platform information word, whose `reserved` getter
overflows. -/
theorem fmt_debug_eq (r : AttestationReportV2 X) : r.fmt_debug = .panic := by
  simp only [fmt_debug, GuestPolicy.fmt_debug_eq, PlatformInfoV1.fmt_debug_eq, Outcome.ret_bind,
    Outcome.panic_bind, Outcome.bind_const_panic]

end AttestationReportV2

end sev.guest
