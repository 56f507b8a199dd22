import SevGuest.Snp.Report

open rust bincode Mathlib

namespace sev.linux

/-- The largest VMPL a report request may name. -/
def MAX_VMPL : u32 := 3

/-- `ReportReq`: the request for an attestation report. -/
structure ReportReq where
  report_data : Vector u8 64
  vmpl : u32
  _reserved : Vector u8 28
  deriving DecidableEq

namespace ReportReq

/-- `impl Default`: no report data, VMPL 1. -/
def default : ReportReq := ⟨Vector.replicate 64 0, 1, Vector.replicate 28 0⟩

/-- `ReportReq::new`: the default request with the given report data and VMPL; a VMPL above
`MAX_VMPL` is refused. -/
def new (report_data : Option (Vector u8 64)) (vmpl : Option u32) :
    Except UserApiError ReportReq := do
  let mut request := default
  if let some report_data := report_data then
    request := { request with report_data := report_data }
  if let some vmpl := vmpl then
    if vmpl > MAX_VMPL then
      throw .VmplError
    else
      request := { request with vmpl := vmpl }
  pure request

/-- A request the firmware accepts: a VMPL of at most three and zero reserved bytes. -/
def Valid (request : ReportReq) : Prop :=
  request.vmpl ≤ MAX_VMPL ∧ request._reserved = Vector.replicate 28 0

instance (request : ReportReq) : Decidable request.Valid :=
  inferInstanceAs (Decidable (_ ∧ _))

theorem valid_default : default.Valid := by decide

/-- `new` keeps the given report data, takes the VMPL when it is at most three and refuses it
otherwise, and defaults both when they are absent. -/
theorem new_eq (report_data : Option (Vector u8 64)) (vmpl : Option u32) :
    new report_data vmpl =
      match vmpl with
      | some vmpl => if vmpl ≤ MAX_VMPL
          then .ok ⟨report_data.getD (Vector.replicate 64 0), vmpl, Vector.replicate 28 0⟩
          else .error .VmplError
      | none => .ok ⟨report_data.getD (Vector.replicate 64 0), 1, Vector.replicate 28 0⟩ := by
  rcases vmpl with _ | vmpl
  · rcases report_data <;> rfl
  · dsimp only
    by_cases hle : vmpl ≤ MAX_VMPL
    · rw [if_pos hle]
      rcases report_data <;> simp [new, default, BitVec.not_lt.mpr hle] <;> rfl
    · rw [if_neg hle]
      rcases report_data <;> simp [new, default, BitVec.not_le.mp hle] <;> rfl

example : (new none (some 3)).toOption.map (·.vmpl) = some 3 := rfl

example : new none (some 4) = .error .VmplError := rfl

/-- Every request `new` builds is one the firmware accepts. -/
theorem valid_of_new {report_data : Option (Vector u8 64)} {vmpl : Option u32} {request : ReportReq}
    (h : new report_data vmpl = .ok request) : request.Valid := by
  rw [new_eq] at h
  rcases vmpl with _ | vmpl
  · cases h
    exact ⟨(by decide : (1 : u32) ≤ MAX_VMPL), rfl⟩
  · dsimp only at h
    split_ifs at h with hle
    cases h
    exact ⟨hle, rfl⟩

/-- `new` refuses a request exactly when it is given a VMPL above `MAX_VMPL`, and then only with
`VmplError`, rather than clamping it; every request it builds instead is one the firmware
accepts, carrying the given report data and VMPL (zero data and VMPL 1 when absent). -/
theorem new_refuses_iff_vmpl_above_max (report_data : Option (Vector u8 64)) (vmpl : Option u32) :
    (∀ e, new report_data vmpl = .error e ↔ e = .VmplError ∧ ∃ v ∈ vmpl, MAX_VMPL < v) ∧
    ∀ request, new report_data vmpl = .ok request →
      request.Valid ∧ request.report_data = report_data.getD (Vector.replicate 64 0) ∧
        request.vmpl = vmpl.getD 1 := by
  refine ⟨fun e => ?_, fun request h => ⟨valid_of_new h, ?_⟩⟩
  · rw [new_eq]
    rcases vmpl with _ | v
    · simp
    · by_cases hle : v ≤ MAX_VMPL
      · simp [hle, BitVec.not_lt.mpr hle]
      · simp [hle, BitVec.not_le.mp hle, eq_comm]
  · rw [new_eq] at h
    rcases vmpl with _ | v
    · cases h
      exact ⟨rfl, rfl⟩
    · dsimp only at h
      split_ifs at h
      cases h
      exact ⟨rfl, rfl⟩

end ReportReq

/-- `ExtReportReq`: a report request with the certificate buffer the hypervisor fills. -/
structure ExtReportReq where
  data : ReportReq
  certs_address : u64
  certs_len : u32

/-- `ExtReportReq::new`: the request, with no certificate buffer yet. -/
def ExtReportReq.new (data : ReportReq) : ExtReportReq :=
  ⟨data, BitVec.allOnes 64, 0⟩

/-- The size of the report in a response: one encoded report. -/
def REPORT_SIZE : Nat := 1184

/-- `ReportRsp`: the firmware's response, padded to 4000 bytes. -/
structure ReportRsp where
  status : u32
  report_size : u32
  reserved_0 : Vector u8 24
  report : Vector u8 REPORT_SIZE
  reserved_1 : Vector u8 (4000 - (REPORT_SIZE + 4 * 2 + 24))

open sev.guest in
/-- The report of every response decodes without a panic: to the report its version word
names when that is 2 or 3, and to `UnsupportedReportVersion` otherwise. -/
theorem ReportRsp.try_from_report {X : External} (rsp : ReportRsp) :
    (AttestationReport.try_from (X := X) rsp.report.toList).run =
      .ret (let version := u32.from_le_bytes (slice rsp.report.toList 0 4)
        if version = 2 ∨ version = 3 then
          .ok (if version = 2 then .V2 (AttestationReportV2.codec.decode rsp.report.toList)
            else .V3 (AttestationReportV3.codec.decode rsp.report.toList))
        else .error (.UnsupportedReportVersion version)) := by
  have hlen : rsp.report.toList.length = 0x4a0 := rsp.report.toList_length
  rw [AttestationReport.try_from_run, if_neg (by omega)]
  simp only [if_pos hlen.ge, List.take_of_length_le hlen.le]

end sev.linux
