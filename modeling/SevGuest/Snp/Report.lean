import SevGuest.Snp.ReportV2
import SevGuest.Snp.ReportV3

open rust bitfield bincode Mathlib

namespace sev.guest

/-- For both versions, `try_from` and the bincode encoding are inverse on the `0x4a0`-byte
wire format: every buffer of at least that size decodes, whatever its version word and
reserved bytes, and encodes back to its first `0x4a0` bytes; every report, reserved members
included, encodes to `0x4a0` bytes that decode back to it. -/
theorem try_from_serialize_inverse {X : External} :
    (∀ b : List u8, 1184 ≤ b.length → ∃ r : AttestationReportV2 X,
      AttestationReportV2.try_from b = .ok r ∧
        bincode.serialize AttestationReportV2.serialize r = .ok (b.take 1184)) ∧
    (∀ r : AttestationReportV2 X, ∃ bytes,
      bincode.serialize AttestationReportV2.serialize r = .ok bytes ∧ bytes.length = 1184 ∧
        AttestationReportV2.try_from bytes = .ok r) ∧
    (∀ b : List u8, 1184 ≤ b.length → ∃ r : AttestationReportV3 X,
      AttestationReportV3.try_from b = .ok r ∧
        bincode.serialize AttestationReportV3.serialize r = .ok (b.take 1184)) ∧
    (∀ r : AttestationReportV3 X, ∃ bytes,
      bincode.serialize AttestationReportV3.serialize r = .ok bytes ∧ bytes.length = 1184 ∧
        AttestationReportV3.try_from bytes = .ok r) := by
  have hv2 := try_from_bincode_inverse (AttestationReportV2.serialize_eq (X := X))
    AttestationReportV2.deserialize_eq
  have hv3 := try_from_bincode_inverse (AttestationReportV3.serialize_eq (X := X))
    AttestationReportV3.deserialize_eq
  exact ⟨hv2.1, hv2.2, hv3.1, hv3.2⟩

/-- `AttestationReport`: a report of either version. -/
inductive AttestationReport (X : External) where
  | V2 (report : AttestationReportV2 X)
  | V3 (report : AttestationReportV3 X)

namespace AttestationReport

variable {X : External}

/-- `TryFrom<&[u8]>`: the version word from the first four bytes, indexed without a length
check, then the decoder of that version. -/
def try_from (raw_report : List u8) :
    ExceptT AttestationReportError Outcome (AttestationReport X) := do
  let version := u32.from_le_bytes
    [← index raw_report 0, ← index raw_report 1, ← index raw_report 2, ← index raw_report 3]
  if version = 2 then
    let report_v2 ← AttestationReportV2.try_from raw_report
    pure (V2 report_v2)
  else if version = 3 then
    let report_v3 ← AttestationReportV3.try_from raw_report
    pure (V3 report_v3)
  else
    throw (.UnsupportedReportVersion version)

/-- The facade's accessors read one member of either version: the version's own reader. -/
def field {α : Type} (onV2 : AttestationReportV2 X → α) (onV3 : AttestationReportV3 X → α) :
    AttestationReport X → α
  | V2 report => onV2 report
  | V3 report => onV3 report

def version : AttestationReport X → u32 := field (·.version) (·.version)
def guest_svn : AttestationReport X → u32 := field (·.guest_svn) (·.guest_svn)
def policy : AttestationReport X → GuestPolicy := field (·.policy) (·.policy)
def family_id : AttestationReport X → Vector u8 16 := field (·.family_id) (·.family_id)
def image_id : AttestationReport X → Vector u8 16 := field (·.image_id) (·.image_id)
def vmpl : AttestationReport X → u32 := field (·.vmpl) (·.vmpl)
def sig_algo : AttestationReport X → u32 := field (·.sig_algo) (·.sig_algo)
def current_tcb : AttestationReport X → X.TcbVersion := field (·.current_tcb) (·.current_tcb)

def plat_info : AttestationReport X → PlatformInfo :=
  field (fun report => .V1 report.plat_info) (fun report => .V2 report.plat_info)

def key_info : AttestationReport X → KeyInfo := field (·.key_info) (·.key_info)
def report_data : AttestationReport X → Vector u8 64 := field (·.report_data) (·.report_data)
def measurement : AttestationReport X → Vector u8 48 := field (·.measurement) (·.measurement)
def host_data : AttestationReport X → Vector u8 32 := field (·.host_data) (·.host_data)

def id_key_digest : AttestationReport X → Vector u8 48 :=
  field (·.id_key_digest) (·.id_key_digest)

def author_key_digest : AttestationReport X → Vector u8 48 :=
  field (·.author_key_digest) (·.author_key_digest)

def report_id : AttestationReport X → Vector u8 32 := field (·.report_id) (·.report_id)
def report_id_ma : AttestationReport X → Vector u8 32 := field (·.report_id_ma) (·.report_id_ma)
def reported_tcb : AttestationReport X → X.TcbVersion := field (·.reported_tcb) (·.reported_tcb)

/-- `cpuid`: the three CPUID bytes, which only a version 3 report has. -/
def cpuid : AttestationReport X → Except AttestationReportError (u8 × u8 × u8) :=
  field (fun _ => .error (.UnsupportedField "cpuid information"))
    (fun report => .ok (report.cpuid_fam_id, report.cpuid_mod_id, report.cpuid_step))

def chip_id : AttestationReport X → Vector u8 64 := field (·.chip_id) (·.chip_id)
def commited_tcb : AttestationReport X → X.TcbVersion := field (·.committed_tcb) (·.committed_tcb)

/-- `current_version`: (major, minor, build). -/
def current_version : AttestationReport X → u8 × u8 × u8 :=
  field (fun report => (report.current_major, report.current_minor, report.current_build))
    (fun report => (report.current_major, report.current_minor, report.current_build))

/-- `commited_version`: (major, minor, build). -/
def commited_version : AttestationReport X → u8 × u8 × u8 :=
  field (fun report => (report.committed_major, report.committed_minor, report.committed_build))
    (fun report => (report.committed_major, report.committed_minor, report.committed_build))

def launch_tcb : AttestationReport X → X.TcbVersion := field (·.launch_tcb) (·.launch_tcb)

/-- `impl Attestable`: the inner report's `measurable_bytes`, so that the enum's own encoding
is not what is signed. -/
def measurable_bytes : AttestationReport X → ExceptT IoError Outcome (List u8)
  | V2 v2 => do pure (← AttestationReportV2.attestable.measurable_bytes v2)
  | V3 v3 => do pure (← AttestationReportV3.attestable.measurable_bytes v3)

def signature : AttestationReport X → X.Signature := field (·.signature) (·.signature)

def attestable : Attestable (AttestationReport X) X.Signature := ⟨measurable_bytes, signature⟩

/-- The derived `Serialize` under bincode: the variant index as a `u32`, then the report. -/
def serialize : AttestationReport X → List u8
  | V2 report => FixedCodec.u32.encode 0 ++ AttestationReportV2.serialize report
  | V3 report => FixedCodec.u32.encode 1 ++ AttestationReportV3.serialize report

/-- The derived `Deserialize` under bincode: the variant index, then that variant's report;
an index past the variants is serde's `invalid_value` error. -/
def deserialize : Reader (AttestationReport X) := do
  let idx ← deserialize_u32
  if idx = 0 then
    let report ← AttestationReportV2.deserialize
    pure (V2 report)
  else if idx = 1 then
    let report ← AttestationReportV3.deserialize
    pure (V3 report)
  else
    throw (.Custom ("invalid value: integer `" ++ toString idx.toNat ++
      "`, expected variant index 0 <= i < 2"))

/-- The derived `Debug`: the inner report's. -/
def fmt_debug : AttestationReport X → Outcome Unit :=
  field AttestationReportV2.fmt_debug AttestationReportV3.fmt_debug

theorem try_from_of_lt {b : List u8} (hb : b.length < 4) :
    (try_from b : ExceptT _ Outcome (AttestationReport X)).run = .panic := by
  match b, hb with
  | [], _ | [_], _ | [_, _], _ | [_, _, _], _ => rfl

theorem try_from_of_le {b : List u8} (hb : 4 ≤ b.length) :
    (try_from b : ExceptT _ Outcome (AttestationReport X)).run =
      .ret (let version := u32.from_le_bytes (b.take 4)
        if version = 2 then V2 <$> AttestationReportV2.try_from b
        else if version = 3 then V3 <$> AttestationReportV3.try_from b
        else .error (.UnsupportedReportVersion version)) := by
  match b, hb with
  | b0 :: b1 :: b2 :: b3 :: rest, _ =>
    simp only [try_from, index, List.getElem?_cons_zero, List.getElem?_cons_succ,
      Outcome.lift_ret_bind, List.take]
    split_ifs
    · cases AttestationReportV2.try_from (X := X) (b0 :: b1 :: b2 :: b3 :: rest) <;> rfl
    · cases AttestationReportV3.try_from (X := X) (b0 :: b1 :: b2 :: b3 :: rest) <;> rfl
    · rfl

/-- What `try_from` does on every buffer: it panics below four bytes; otherwise the version
word picks the decoder, which needs `0x4a0` bytes. -/
theorem try_from_run (b : List u8) :
    (try_from b : ExceptT _ Outcome (AttestationReport X)).run =
      if b.length < 4 then .panic else .ret (
        let version := u32.from_le_bytes (slice b 0 4)
        if version = 2 ∨ version = 3 then
          if 0x4a0 ≤ b.length then
            .ok (if version = 2 then V2 (AttestationReportV2.codec.decode (b.take 0x4a0))
              else V3 (AttestationReportV3.codec.decode (b.take 0x4a0)))
          else .error (.BincodeError unexpected_eof)
        else .error (.UnsupportedReportVersion version)) := by
  by_cases hb : b.length < 4
  · rw [if_pos hb, try_from_of_lt hb]
  · rw [if_neg hb, try_from_of_le (by omega)]
    simp only [rust.slice, List.drop_zero, AttestationReportV2.try_from,
      AttestationReportV3.try_from, AttestationReportV2.deserialize_eq,
      AttestationReportV3.deserialize_eq, try_from_bincode_read]
    split_ifs <;> simp_all

theorem try_from_of_supported {b : List u8} (hb : 0x4a0 ≤ b.length)
    (hv : u32.from_le_bytes (slice b 0 4) = 2 ∨ u32.from_le_bytes (slice b 0 4) = 3) :
    (try_from b : ExceptT _ Outcome (AttestationReport X)).run = .ret (.ok
      (if u32.from_le_bytes (slice b 0 4) = 2
        then V2 (AttestationReportV2.codec.decode (b.take 0x4a0))
        else V3 (AttestationReportV3.codec.decode (b.take 0x4a0)))) := by
  rw [try_from_run, if_neg (by omega)]
  simp only [if_pos hv, if_pos hb]

/-- A report that `try_from` returns is the decoding of the buffer's first `0x4a0` bytes by
the decoder its version word names. -/
theorem try_from_eq_ok {b : List u8} {r : AttestationReport X}
    (h : (try_from b).run = .ret (.ok r)) :
    0x4a0 ≤ b.length ∧
      (u32.from_le_bytes (slice b 0 4) = 2 ∧
          r = V2 (AttestationReportV2.codec.decode (b.take 0x4a0)) ∨
        u32.from_le_bytes (slice b 0 4) = 3 ∧
          r = V3 (AttestationReportV3.codec.decode (b.take 0x4a0))) := by
  rw [try_from_run] at h
  dsimp only at h
  split_ifs at h with h4 hv hb hv2 <;> cases h
  · exact ⟨hb, .inl ⟨hv2, rfl⟩⟩
  · exact ⟨hb, .inr ⟨hv.resolve_left hv2, rfl⟩⟩

/-- The members a report exposes are those at the offsets of the `ATTESTATION_REPORT`
layout in `b`; `plat_info` and `cpuid` follow the version word. -/
structure HasLayout (b : List u8) (r : AttestationReport X) : Prop where
  version : r.version = u32.from_le_bytes (slice b 0x00 0x04)
  guest_svn : r.guest_svn = u32.from_le_bytes (slice b 0x04 0x08)
  policy : r.policy.val = u64.from_le_bytes (slice b 0x08 0x10)
  family_id : r.family_id.toList = slice b 0x10 0x20
  image_id : r.image_id.toList = slice b 0x20 0x30
  vmpl : r.vmpl = u32.from_le_bytes (slice b 0x30 0x34)
  sig_algo : r.sig_algo = u32.from_le_bytes (slice b 0x34 0x38)
  current_tcb : r.current_tcb = X.tcb_version.decode (slice b 0x38 0x40)
  plat_info : r.plat_info = if u32.from_le_bytes (slice b 0 4) = 2
    then .V1 ⟨u64.from_le_bytes (slice b 0x40 0x48)⟩
    else .V2 ⟨u64.from_le_bytes (slice b 0x40 0x48)⟩
  key_info : r.key_info.val = u32.from_le_bytes (slice b 0x48 0x4C)
  report_data : r.report_data.toList = slice b 0x50 0x90
  measurement : r.measurement.toList = slice b 0x90 0xC0
  host_data : r.host_data.toList = slice b 0xC0 0xE0
  id_key_digest : r.id_key_digest.toList = slice b 0xE0 0x110
  author_key_digest : r.author_key_digest.toList = slice b 0x110 0x140
  report_id : r.report_id.toList = slice b 0x140 0x160
  report_id_ma : r.report_id_ma.toList = slice b 0x160 0x180
  reported_tcb : r.reported_tcb = X.tcb_version.decode (slice b 0x180 0x188)
  cpuid : r.cpuid = if u32.from_le_bytes (slice b 0 4) = 2
    then .error (.UnsupportedField "cpuid information")
    else .ok (b.getD 0x188 0, b.getD 0x189 0, b.getD 0x18A 0)
  chip_id : r.chip_id.toList = slice b 0x1A0 0x1E0
  commited_tcb : r.commited_tcb = X.tcb_version.decode (slice b 0x1E0 0x1E8)
  current_version : r.current_version = (b.getD 0x1EA 0, b.getD 0x1E9 0, b.getD 0x1E8 0)
  commited_version : r.commited_version = (b.getD 0x1EE 0, b.getD 0x1ED 0, b.getD 0x1EC 0)
  launch_tcb : r.launch_tcb = X.tcb_version.decode (slice b 0x1F0 0x1F8)
  signature : r.signature = X.signature.decode (slice b 0x2A0 0x4A0)

/-- Every report that `try_from` returns reads its members at their offsets in the buffer. -/
theorem hasLayout_of_try_from {b : List u8} {r : AttestationReport X}
    (h : (try_from b).run = .ret (.ok r)) : HasLayout b r := by
  have h32 : (3 : u32) ≠ 2 := by decide
  obtain ⟨hb, ⟨hv, rfl⟩ | ⟨hv, rfl⟩⟩ := try_from_eq_ok h <;> constructor <;>
  simp only [hv, h32, if_true, if_false, AttestationReportV2.decode_take_eq,
    AttestationReportV3.decode_take_eq, version, guest_svn, policy, family_id, image_id, vmpl,
    sig_algo, current_tcb, plat_info, key_info, report_data, measurement, host_data,
    id_key_digest, author_key_digest, report_id, report_id_ma, reported_tcb, cpuid, chip_id,
    commited_tcb, current_version, commited_version, launch_tcb, signature, field] <;>
  simp (disch := omega) only [hv, FixedCodec.u32_decode, FixedCodec.u64_decode,
    FixedCodec.map_decode, GuestPolicy.codec, PlatformInfoV1.codec, PlatformInfoV2.codec,
    KeyInfo.codec, GuestPolicy.equiv, PlatformInfoV1.equiv, PlatformInfoV2.equiv, KeyInfo.equiv,
    Equiv.coe_fn_mk, FixedCodec.bytes_decode_slice, slice_eq_singleton, FixedCodec.u8_decode_cons]

/-- Every buffer of at least `0x4a0` bytes whose version word is 2 or 3 decodes, and the
report's accessors read each member at its offset in the buffer. -/
theorem try_from_layout (b : List u8) (hb : 1184 ≤ b.length)
    (hv : u32.from_le_bytes (slice b 0 4) = 2 ∨ u32.from_le_bytes (slice b 0 4) = 3) :
    ∃ r : AttestationReport X, (try_from b).run = .ret (.ok r) ∧ HasLayout b r :=
  ⟨_, try_from_of_supported hb hv, hasLayout_of_try_from (try_from_of_supported hb hv)⟩

/-- A `0x4a0`-byte report buffer whose version word is `version` and whose every other byte is
zero. -/
def zeroed_report (version : u8) : List u8 := [version, 0, 0, 0] ++ List.replicate 1180 0

theorem length_zeroed_report (version : u8) : (zeroed_report version).length = 0x4a0 := by
  rw [zeroed_report, List.length_append, List.length_replicate]
  rfl

theorem try_from_layout_of_zeros :
    1184 ≤ (zeroed_report 2).length ∧
      (u32.from_le_bytes (slice (zeroed_report 2) 0 4) = 2 ∨
        u32.from_le_bytes (slice (zeroed_report 2) 0 4) = 3) ∧
      ∃ r : AttestationReport External.bytes,
        (try_from (zeroed_report 2)).run = .ret (.ok r) ∧ HasLayout (zeroed_report 2) r :=
  have hb := (length_zeroed_report 2).ge
  ⟨hb, .inl (by decide), try_from_layout _ hb (.inl (by decide))⟩

/-- The platform information of a decoded report, of either version, reads its five shared
flags from bits 0 to 4 of `b[0x40..0x48]`; `alias_check_complete` reads bit 5 only in version 3
and names the unsupported field in version 2. -/
theorem plat_info_of_try_from {b : List u8} {r : AttestationReport X}
    (h : (try_from b).run = .ret (.ok r)) :
    r.plat_info.smt_enabled = .ret (BitVec.ofNat 64
      (bitfield.field (u64.from_le_bytes (slice b 0x40 0x48)).toNat 0 0)) ∧
    r.plat_info.tsme_enabled = .ret (BitVec.ofNat 64
      (bitfield.field (u64.from_le_bytes (slice b 0x40 0x48)).toNat 1 1)) ∧
    r.plat_info.ecc_enabled = .ret (BitVec.ofNat 64
      (bitfield.field (u64.from_le_bytes (slice b 0x40 0x48)).toNat 2 2)) ∧
    r.plat_info.rapl_disabled = .ret (BitVec.ofNat 64
      (bitfield.field (u64.from_le_bytes (slice b 0x40 0x48)).toNat 3 3)) ∧
    r.plat_info.cypertext_hiding_enabled = .ret (BitVec.ofNat 64
      (bitfield.field (u64.from_le_bytes (slice b 0x40 0x48)).toNat 4 4)) ∧
    r.plat_info.alias_check_complete.run = if u32.from_le_bytes (slice b 0 4) = 2
      then .ret (.error (.UnsupportedField "Alias Check Complete"))
      else .ret (.ok (BitVec.ofNat 64
        (bitfield.field (u64.from_le_bytes (slice b 0x40 0x48)).toNat 5 5))) := by
  rw [(hasLayout_of_try_from h).plat_info]
  split_ifs <;>
  simp (disch := decide) only [PlatformInfo.smt_enabled, PlatformInfo.tsme_enabled,
    PlatformInfo.ecc_enabled, PlatformInfo.rapl_disabled, PlatformInfo.cypertext_hiding_enabled,
    PlatformInfo.alias_check_complete, PlatformInfoV1.smt_enabled, PlatformInfoV1.tsme_enabled,
    PlatformInfoV1.ecc_enabled, PlatformInfoV1.rapl_disabled,
    PlatformInfoV1.ciphertext_hiding_enabled, PlatformInfoV2.smt_enabled,
    PlatformInfoV2.tsme_enabled, PlatformInfoV2.ecc_enabled, PlatformInfoV2.rapl_disabled,
    PlatformInfoV2.ciphertext_hiding_enabled, PlatformInfoV2.alias_check_complete,
    bit_range_of_valid, true_and] <;>
  rfl

theorem plat_info_of_try_from_of_zeros :
    ∃ r : AttestationReport External.bytes,
      (try_from (zeroed_report 3)).run = .ret (.ok r) ∧
      r.plat_info.smt_enabled = .ret (BitVec.ofNat 64 (bitfield.field
        (u64.from_le_bytes (slice (zeroed_report 3) 0x40 0x48)).toNat 0 0)) ∧
      r.plat_info.tsme_enabled = .ret (BitVec.ofNat 64 (bitfield.field
        (u64.from_le_bytes (slice (zeroed_report 3) 0x40 0x48)).toNat 1 1)) ∧
      r.plat_info.ecc_enabled = .ret (BitVec.ofNat 64 (bitfield.field
        (u64.from_le_bytes (slice (zeroed_report 3) 0x40 0x48)).toNat 2 2)) ∧
      r.plat_info.rapl_disabled = .ret (BitVec.ofNat 64 (bitfield.field
        (u64.from_le_bytes (slice (zeroed_report 3) 0x40 0x48)).toNat 3 3)) ∧
      r.plat_info.cypertext_hiding_enabled = .ret (BitVec.ofNat 64 (bitfield.field
        (u64.from_le_bytes (slice (zeroed_report 3) 0x40 0x48)).toNat 4 4)) ∧
      r.plat_info.alias_check_complete.run =
        if u32.from_le_bytes (slice (zeroed_report 3) 0 4) = 2
        then .ret (.error (.UnsupportedField "Alias Check Complete"))
        else .ret (.ok (BitVec.ofNat 64 (bitfield.field
          (u64.from_le_bytes (slice (zeroed_report 3) 0x40 0x48)).toNat 5 5))) :=
  have h := try_from_of_supported (X := External.bytes) (length_zeroed_report 3).ge
    (.inr (by decide))
  ⟨_, h, plat_info_of_try_from h⟩

/-- `try_from` indexes the first four bytes before any length check: it panics on every
buffer shorter than four bytes, the empty one among them, and on no other. -/
theorem try_from_panics_iff_short :
    (try_from (X := X) []).run = .panic ∧
      ∀ b : List u8, (try_from (X := X) b).run = .panic ↔ b.length < 4 := by
  refine ⟨rfl, fun b => ⟨fun h => ?_, try_from_of_lt⟩⟩
  rw [try_from_run] at h
  split_ifs at h with h4
  exact h4

theorem measurable_bytes_eq_inner (r : AttestationReport X) :
    measurable_bytes r = r.field AttestationReportV2.attestable.measurable_bytes
      AttestationReportV3.attestable.measurable_bytes := by
  cases r <;> exact bind_pure _

theorem measurable_bytes_run (r : AttestationReport X) :
    (measurable_bytes r).run =
      .ret (.ok ((r.field AttestationReportV2.serialize AttestationReportV3.serialize).take 0x2a0)) := by
  rw [measurable_bytes_eq_inner]
  cases r
  · exact default_measurable_bytes_of AttestationReportV2.serialize_eq _
  · exact default_measurable_bytes_of AttestationReportV3.serialize_eq _

/-- The signed bytes of a report, whatever its members hold, are the first `0x2a0` bytes of
the inner report's encoding; within one version they change exactly when a member other
than the signature does. -/
theorem measurable_bytes_exclude_signature :
    (∀ r : AttestationReport X,
      measurable_bytes r = r.field AttestationReportV2.attestable.measurable_bytes
        AttestationReportV3.attestable.measurable_bytes ∧
      ∃ bytes, (measurable_bytes r).run = .ret (.ok bytes) ∧ bytes.length = 0x2a0 ∧
        bytes = (r.field AttestationReportV2.serialize AttestationReportV3.serialize).take 0x2a0) ∧
    (∀ r r' : AttestationReportV2 X,
      measurable_bytes (V2 r) = measurable_bytes (V2 r') ↔
        { r with signature := r'.signature } = r') ∧
    (∀ r r' : AttestationReportV3 X,
      measurable_bytes (V3 r) = measurable_bytes (V3 r') ↔
        { r with signature := r'.signature } = r') := by
  refine ⟨fun r => ⟨measurable_bytes_eq_inner r, _, measurable_bytes_run r, ?_, rfl⟩,
    fun r r' => ?_, fun r r' => ?_⟩
  · cases r <;> simp [field, length_serialize_of AttestationReportV2.serialize_eq,
      length_serialize_of AttestationReportV3.serialize_eq]
  · rw [measurable_bytes_eq_inner, measurable_bytes_eq_inner]
    exact default_measurable_bytes_inj AttestationReportV2.serialize_eq r r'
  · rw [measurable_bytes_eq_inner, measurable_bytes_eq_inner]
    exact default_measurable_bytes_inj AttestationReportV3.serialize_eq r r'

/-- What `try_from` reads back is exactly the first `0x4a0` bytes of the buffer. -/
theorem serialize_inner_of_try_from {b : List u8} {r : AttestationReport X}
    (h : (try_from b).run = .ret (.ok r)) :
    r.field AttestationReportV2.serialize AttestationReportV3.serialize = b.take 0x4a0 := by
  obtain ⟨hb, ⟨-, rfl⟩ | ⟨-, rfl⟩⟩ := try_from_eq_ok h
  · exact serialize_of_try_from_bincode AttestationReportV2.serialize_eq
      AttestationReportV2.deserialize_eq (try_from_bincode_of_le AttestationReportV2.deserialize_eq hb)
  · exact serialize_of_try_from_bincode AttestationReportV3.serialize_eq
      AttestationReportV3.deserialize_eq (try_from_bincode_of_le AttestationReportV3.deserialize_eq hb)

/-- The signed bytes of a report that `try_from` returns are the buffer's first `0x2a0`. -/
theorem measurable_bytes_of_try_from {b : List u8} {r : AttestationReport X}
    (h : (try_from b).run = .ret (.ok r)) :
    (measurable_bytes r).run = .ret (.ok (b.take 0x2a0)) := by
  rw [measurable_bytes_run, serialize_inner_of_try_from h, List.take_take]
  rfl

theorem serialize_eq_tag (r : AttestationReport X) :
    serialize r = FixedCodec.u32.encode (r.field (fun _ => 0) (fun _ => 1)) ++
      r.field AttestationReportV2.serialize AttestationReportV3.serialize := by
  cases r <;> rfl

/-- The derived serde code of the enum reads back what it writes. -/
theorem deserialize_serialize (r : AttestationReport X) (rest : List u8) :
    bincode.deserialize deserialize (serialize r ++ rest) = .ok r := by
  have h10 : (1 : u32) ≠ 0 := by decide
  cases r <;>
  simp only [bincode.deserialize, StateT.run, deserialize, serialize, deserialize_u32_eq,
    List.append_assoc, AttestationReportV2.deserialize_eq, AttestationReportV3.deserialize_eq,
    AttestationReportV2.serialize_eq, AttestationReportV3.serialize_eq,
    FixedCodec.read_encode_append_bind, h10, if_true, if_false] <;>
  rfl

/-- The report of one variant, read after its index. -/
private theorem read_variant {R : Type} (C : FixedCodec R 0x4a0) (f : R → AttestationReport X)
    (b : List u8) :
    Prod.fst <$> (C.read >>= fun r => pure (f r)) (b.drop 4) =
      if 0x4a4 ≤ b.length then .ok (f (C.decode (slice b 4 0x4a4))) else .error unexpected_eof := by
  by_cases hb : 0x4a4 ≤ b.length
  · rw [if_pos hb, Reader.bind_of_ok (C.read_of_le (by rw [List.length_drop]; omega))]
    rfl
  · rw [if_neg hb, Reader.bind_of_error (C.read_of_lt (by rw [List.length_drop]; omega))]
    rfl

/-- What the derived `Deserialize` of the enum does on every buffer: it reads a variant index
from the first four bytes, then that variant's report from the next `0x4a0`. An index past the
two variants is serde's `invalid_value` error naming it, whatever follows; a buffer too short
for the index, or for the report it names, fails with the reader's end-of-file. -/
theorem deserialize_run (b : List u8) :
    bincode.deserialize (deserialize : Reader (AttestationReport X)) b =
      if b.length < 4 then .error unexpected_eof else
        let idx := u32.from_le_bytes (slice b 0 4)
        if idx = 0 ∨ idx = 1 then
          if 0x4a4 ≤ b.length then
            .ok (if idx = 0 then V2 (AttestationReportV2.codec.decode (slice b 4 0x4a4))
              else V3 (AttestationReportV3.codec.decode (slice b 4 0x4a4)))
          else .error unexpected_eof
        else .error (.Custom ("invalid value: integer `" ++ toString idx.toNat ++
          "`, expected variant index 0 <= i < 2")) := by
  simp only [bincode.deserialize, StateT.run, deserialize, deserialize_u32_eq]
  by_cases h4 : b.length < 4
  · rw [if_pos h4, Reader.bind_of_error (FixedCodec.u32.read_of_lt h4)]
    rfl
  · rw [if_neg h4, Reader.bind_of_ok (FixedCodec.u32.read_of_le (by omega)), FixedCodec.u32_decode,
      show slice b 0 4 = b.take 4 by rw [rust.slice, List.drop_zero], AttestationReportV2.deserialize_eq,
      AttestationReportV3.deserialize_eq]
    by_cases h0 : u32.from_le_bytes (b.take 4) = 0
    · rw [if_pos h0, if_pos (.inl h0), if_pos h0, read_variant]
    · by_cases h1 : u32.from_le_bytes (b.take 4) = 1
      · rw [if_neg h0, if_pos h1, if_pos (.inr h1), if_neg h0, read_variant]
      · rw [if_neg h0, if_neg h1, if_neg (by tauto)]
        rfl

/-- A version word past the two variant indices is serde's `invalid_value` error. -/
theorem deserialize_of_unknown_index {b : List u8} (hb : 4 ≤ b.length)
    (h0 : u32.from_le_bytes (slice b 0 4) ≠ 0) (h1 : u32.from_le_bytes (slice b 0 4) ≠ 1) :
    bincode.deserialize (deserialize : Reader (AttestationReport X)) b =
      .error (.Custom ("invalid value: integer `" ++ toString (u32.from_le_bytes (slice b 0 4)).toNat ++
        "`, expected variant index 0 <= i < 2")) := by
  simp only [rust.slice, List.drop_zero] at h0 h1 ⊢
  simp only [bincode.deserialize, StateT.run, deserialize, deserialize_u32_eq]
  rw [Reader.bind_of_ok (FixedCodec.u32.read_of_le hb), FixedCodec.u32_decode, if_neg h0, if_neg h1]
  rfl

/-- `try_from` reads the enum's variant index as the version word, and rejects it. -/
theorem try_from_serialize (r : AttestationReport X) :
    (try_from (X := X) (serialize r)).run =
      .ret (.error (.UnsupportedReportVersion (r.field (fun _ => 0) (fun _ => 1)))) := by
  have hword : ∀ (t : u32) (rest : List u8),
      u32.from_le_bytes (slice (FixedCodec.u32.encode t ++ rest) 0 4) = t := fun t rest => by
    rw [rust.slice, List.drop_zero, List.take_left' (FixedCodec.u32.length_encode t),
      ← FixedCodec.u32_decode, FixedCodec.u32.decode_encode]
  cases r <;> simp [try_from_run, serialize, field, hword,
    length_serialize_of AttestationReportV2.serialize_eq,
    length_serialize_of AttestationReportV3.serialize_eq]

/-- The inner report's encoding, without the variant index, is what `try_from` decodes, when
the report's version word names its variant. -/
theorem try_from_serialize_inner (r : AttestationReport X)
    (h : r.version = r.field (fun _ => 2) (fun _ => 3)) :
    (try_from (r.field AttestationReportV2.serialize AttestationReportV3.serialize)).run =
      .ret (.ok r) := by
  have h32 : (3 : u32) ≠ 2 := by decide
  cases r with
  | V2 report =>
    have hv : u32.from_le_bytes (slice report.serialize 0 4) = 2 :=
      (AttestationReportV2.version_eq_slice report).symm.trans h
    have hlen := length_serialize_of AttestationReportV2.serialize_eq report
    rw [field, try_from_of_supported hlen.ge (.inl hv), if_pos hv, List.take_of_length_le hlen.le,
      AttestationReportV2.serialize_eq, AttestationReportV2.codec.decode_encode]
  | V3 report =>
    have hv : u32.from_le_bytes (slice report.serialize 0 4) = 3 :=
      (AttestationReportV3.version_eq_slice report).symm.trans h
    have hlen := length_serialize_of AttestationReportV3.serialize_eq report
    rw [field, try_from_of_supported hlen.ge (.inr hv), if_neg (hv ▸ h32),
      List.take_of_length_le hlen.le,
      AttestationReportV3.serialize_eq, AttestationReportV3.codec.decode_encode]

/-- On a buffer that `try_from` accepts, the derived `Deserialize` fails, reading the version
word as a variant index; with the variant index prepended it agrees with `try_from`. -/
theorem deserialize_of_try_from {b : List u8} {r : AttestationReport X}
    (h : (try_from b).run = .ret (.ok r)) :
    bincode.deserialize (deserialize (X := X)) b = .error (.Custom ("invalid value: integer `" ++
      toString r.version.toNat ++ "`, expected variant index 0 <= i < 2")) ∧
    bincode.deserialize deserialize (FixedCodec.u32.encode (r.field (fun _ => 0) (fun _ => 1)) ++ b) =
      .ok r := by
  have hr := serialize_inner_of_try_from h
  obtain ⟨hb, hv⟩ := try_from_eq_ok h
  have hversion : r.version = u32.from_le_bytes (slice b 0 4) := (hasLayout_of_try_from h).version
  have hword : u32.from_le_bytes (slice b 0 4) ≠ 0 ∧ u32.from_le_bytes (slice b 0 4) ≠ 1 := by
    rcases hv with ⟨hv, -⟩ | ⟨hv, -⟩ <;> rw [hv] <;> decide
  refine ⟨by rw [hversion, deserialize_of_unknown_index (by omega) hword.1 hword.2], ?_⟩
  rw [← List.take_append_drop 0x4a0 b, ← hr, ← List.append_assoc, ← serialize_eq_tag]
  exact deserialize_serialize r _

/-- The enum's derived serde encoding is the variant index followed by the inner report's
encoding, and that is not the wire format `try_from` reads: `try_from` rejects the derived
encoding, decodes the inner one, and on the buffers it accepts the derived `Deserialize`
only agrees with it once the variant index is prepended. -/
theorem serde_encoding_is_tagged :
    (∀ r : AttestationReport X,
      bincode.serialize serialize r = .ok (FixedCodec.u32.encode (r.field (fun _ => 0) (fun _ => 1)) ++
        r.field AttestationReportV2.serialize AttestationReportV3.serialize) ∧
      (try_from (X := X) (serialize r)).run =
        .ret (.error (.UnsupportedReportVersion (r.field (fun _ => 0) (fun _ => 1)))) ∧
      bincode.deserialize deserialize (serialize r) = .ok r) ∧
    (∀ r : AttestationReport X, r.version = r.field (fun _ => 2) (fun _ => 3) →
      (try_from (r.field AttestationReportV2.serialize AttestationReportV3.serialize)).run =
        .ret (.ok r)) ∧
    ∀ (b : List u8) (r : AttestationReport X), (try_from b).run = .ret (.ok r) →
      r.field AttestationReportV2.serialize AttestationReportV3.serialize = b.take 1184 ∧
      bincode.deserialize (deserialize (X := X)) b = .error (.Custom ("invalid value: integer `" ++
        toString r.version.toNat ++ "`, expected variant index 0 <= i < 2")) ∧
      bincode.deserialize deserialize
        (FixedCodec.u32.encode (r.field (fun _ => 0) (fun _ => 1)) ++ b) = .ok r := by
  refine ⟨fun r => ⟨congrArg Except.ok (serialize_eq_tag r), try_from_serialize r, ?_⟩,
    try_from_serialize_inner,
    fun b r h => ⟨serialize_inner_of_try_from h, deserialize_of_try_from h⟩⟩
  simpa using deserialize_serialize r []

/-- A version 2 report whose version member is 2, serialized by the derived code, is rejected
by `try_from`. -/
theorem try_from_rejects_derived_encoding :
    (V2 { AttestationReportV2.codec.decode (List.replicate 1184 0) with version := 2 } :
      AttestationReport External.bytes).version = 2 ∧
    (try_from (X := External.bytes) (serialize (V2 { AttestationReportV2.codec.decode (List.replicate 1184 0) with
      version := 2 } : AttestationReport External.bytes))).run =
        .ret (.error (.UnsupportedReportVersion 0)) :=
  ⟨rfl, try_from_serialize _⟩

/-- A table of generated getters whose ranges are declared inside the word except those of
the getters named `reserved`. -/
private theorem get_eq_of_reserved {T : Type} {w r : Nat} {val : T → BitVec w}
    {table : List (Getter T r)} (hgen : ∀ g ∈ table, g.Generated val)
    (hdecl : ∀ g ∈ table, g.msb - g.lsb + 1 ≤ r ∧ (Valid w g.msb g.lsb ↔ g.name ≠ "reserved")) :
    ∀ g ∈ table, ∀ t, g.get t = if g.name = "reserved" then .panic
      else .ret (BitVec.ofNat r (bitfield.field (val t).toNat g.msb g.lsb)) := by
  intro g hg t
  rw [Getter.get_eq (hgen g hg) (hdecl g hg).1]
  by_cases hn : g.name = "reserved" <;> simp [hn, (hdecl g hg).2]

/-- Every getter of the five bit-field words returns the bits of its declared range, except
the `reserved` getters of the platform and key information words: declared with `msb < lsb`,
they overflow for every word, and so does the derived `Debug` of every report, which reaches
the platform information word. -/
theorem reserved_getters_overflow :
    (∀ a ∈ GuestFieldSelect.accessors, ∀ x : u64,
      a.get ⟨x⟩ = .ret (BitVec.ofNat 64 (bitfield.field x.toNat a.msb a.lsb))) ∧
    (∀ a ∈ GuestPolicy.accessors, ∀ x : u64,
      a.get ⟨x⟩ = .ret (BitVec.ofNat 64 (bitfield.field x.toNat a.msb a.lsb))) ∧
    (∀ g ∈ PlatformInfoV1.getters, ∀ x : u64, g.get ⟨x⟩ = if g.name = "reserved" then .panic
      else .ret (BitVec.ofNat 64 (bitfield.field x.toNat g.msb g.lsb))) ∧
    (∀ g ∈ PlatformInfoV2.getters, ∀ x : u64, g.get ⟨x⟩ = if g.name = "reserved" then .panic
      else .ret (BitVec.ofNat 64 (bitfield.field x.toNat g.msb g.lsb))) ∧
    (∀ g ∈ KeyInfo.getters, ∀ x : u32, g.get ⟨x⟩ = if g.name = "reserved" then .panic
      else .ret (BitVec.ofNat 32 (bitfield.field x.toNat g.msb g.lsb))) ∧
    (∀ x : u32, KeyInfo.author_key_en ⟨x⟩ = .ret (x.getLsbD 0)) ∧
    ∀ r : AttestationReport X, r.fmt_debug = .panic := by
  have hselect : ∀ a ∈ GuestFieldSelect.accessors, Valid 64 a.msb a.lsb := by decide
  have hpolicy : ∀ a ∈ GuestPolicy.accessors, Valid 64 a.msb a.lsb := by decide
  refine ⟨fun a ha x => Accessor.get_of_generated (GuestFieldSelect.accessors_generated a ha)
      (hselect a ha) _,
    fun a ha x => Accessor.get_of_generated (GuestPolicy.accessors_generated a ha)
      (hpolicy a ha) _,
    fun g hg x => get_eq_of_reserved PlatformInfoV1.getters_generated (by decide) g hg ⟨x⟩,
    fun g hg x => get_eq_of_reserved PlatformInfoV2.getters_generated (by decide) g hg ⟨x⟩,
    fun g hg x => get_eq_of_reserved KeyInfo.getters_generated (by decide) g hg ⟨x⟩,
    fun x => bit_of_valid _ (by decide), fun r => ?_⟩
  cases r
  · exact AttestationReportV2.fmt_debug_eq _
  · exact AttestationReportV3.fmt_debug_eq _

end AttestationReport

end sev.guest
