import SevGuest.Snp.Report

open rust bincode

namespace sev.guest

/-- `certs::snp::Chain`, declared in a module not under `src/`: a certificate chain whose
`verify` yields the endorsement key's certificate (VCEK or VLEK). -/
structure ChainApi where
  Chain : Type
  Certificate : Type
  verify : Chain → Except IoError Certificate

/-- A SHA-384 hasher (`openssl::sha::Sha384`, `sha2::Sha384`): the bytes fed to it so far. -/
structure Sha384 where
  data : List u8

namespace Sha384

def new : Sha384 := ⟨[]⟩

def update (self : Sha384) (data : List u8) : Sha384 := ⟨self.data ++ data⟩

def new_with_prefix (data : List u8) : Sha384 := new.update data

@[simp] theorem new_update (data : List u8) : new.update data = ⟨data⟩ := rfl

end Sha384

/-- The OpenSSL calls of the `openssl` backend, uninterpreted: the conversion of a report
signature, SHA-384, the certificate's EC key, and ECDSA verification of a digest. -/
structure OpensslApi (ReportSignature Certificate : Type) where
  EcdsaSig : Type
  PKey : Type
  EcKey : Type
  Digest : Type
  ecdsa_sig_try_from : ReportSignature → Except IoError EcdsaSig
  finish : Sha384 → Digest
  public_key : Certificate → Except IoError PKey
  ec_key : PKey → Except IoError EcKey
  verify : EcdsaSig → Digest → EcKey → Except IoError Bool

/-- The `p384` calls of the `crypto_nossl` backend, uninterpreted: the conversion of a
report signature, the certificate's SEC1 key, and ECDSA-P384 verification over a hasher. -/
structure P384Api (ReportSignature Certificate : Type) where
  Signature : Type
  VerifyingKey : Type
  Error : Type
  signature_try_from : ReportSignature → Except IoError Signature
  public_key_sec1 : Certificate → List u8
  from_sec1_bytes : List u8 → Except Error VerifyingKey
  verify_digest : VerifyingKey → Sha384 → Signature → Except Error Unit
  fmt_debug : Error → String

variable {Sig : Type} (Ch : ChainApi)

namespace OpensslApi

variable (O : OpensslApi Sig Ch.Certificate)

/-- `impl Verifiable for (&Chain, &T)` under the `openssl` feature. -/
def verify_report {T : Type} (A : Attestable T Sig) (self : Ch.Chain × T) :
    ExceptT IoError Outcome Unit := do
  let vcek ← Ch.verify self.1
  let sig ← O.ecdsa_sig_try_from (A.signature self.2)
  let measurable_bytes ← A.measurable_bytes self.2
  let hasher := Sha384.new.update measurable_bytes
  let base_digest := O.finish hasher
  let ec ← O.ec_key (← O.public_key vcek)
  let signed ← O.verify sig base_digest ec
  match signed with
  | true => pure ()
  | false => throw ⟨.Other, "VCEK does not sign the attestation report"⟩

/-- What verification is for: the chain yields a certificate, the signature converts, and
ECDSA accepts it over the SHA-384 digest of exactly `signed` under the certificate's key. -/
def Accepts (chain : Ch.Chain) (signature : Sig) (signed : List u8) : Prop :=
  ∃ vcek sig pkey ec, Ch.verify chain = .ok vcek ∧ O.ecdsa_sig_try_from signature = .ok sig ∧
    O.public_key vcek = .ok pkey ∧ O.ec_key pkey = .ok ec ∧
    O.verify sig (O.finish ⟨signed⟩) ec = .ok true

theorem verify_report_eq_ok_iff {T : Type} (A : Attestable T Sig) (self : Ch.Chain × T) :
    (O.verify_report Ch A self).run = .ret (.ok ()) ↔
      ∃ bytes, (A.measurable_bytes self.2).run = .ret (.ok bytes) ∧
        O.Accepts Ch self.1 (A.signature self.2) bytes := by
  simp only [verify_report, Outcome.run_bind_eq_ok, Outcome.run_liftM, Outcome.ret.injEq,
    Except.ok.injEq, Sha384.new_update, Accepts]
  constructor
  · rintro ⟨vcek, hvcek, sig, hsig, bytes, hbytes, pkey, hpkey, ec, hec, signed, hsigned, hok⟩
    cases signed
    · cases hok
    · exact ⟨bytes, hbytes, vcek, sig, pkey, ec, hvcek, hsig, hpkey, hec, hsigned⟩
  · rintro ⟨bytes, hbytes, vcek, sig, pkey, ec, hvcek, hsig, hpkey, hec, hok⟩
    exact ⟨vcek, hvcek, sig, hsig, bytes, hbytes, pkey, hpkey, ec, hec, true, hok, rfl⟩

end OpensslApi

namespace P384Api

variable (N : P384Api Sig Ch.Certificate)

/-- `impl Verifiable for (&Chain, &T)` under the `crypto_nossl` feature. -/
def verify_report {T : Type} (A : Attestable T Sig) (self : Ch.Chain × T) :
    ExceptT IoError Outcome Unit := do
  let vcek ← Ch.verify self.1
  let sig ← N.signature_try_from (A.signature self.2)
  let measurable_bytes ← A.measurable_bytes self.2
  let base_digest := Sha384.new_with_prefix measurable_bytes
  let verifying_key ← liftM <| (N.from_sec1_bytes (N.public_key_sec1 vcek)).mapError fun e =>
    (⟨.Other, "failed to deserialize public key from sec1 bytes: " ++ N.fmt_debug e⟩ : IoError)
  liftM <| (N.verify_digest verifying_key base_digest sig).mapError fun e =>
    (⟨.Other, "VCEK does not sign the attestation report: " ++ N.fmt_debug e⟩ : IoError)

/-- What verification is for, with the `p384` calls. -/
def Accepts (chain : Ch.Chain) (signature : Sig) (signed : List u8) : Prop :=
  ∃ vcek sig key, Ch.verify chain = .ok vcek ∧ N.signature_try_from signature = .ok sig ∧
    N.from_sec1_bytes (N.public_key_sec1 vcek) = .ok key ∧
    N.verify_digest key ⟨signed⟩ sig = .ok ()

theorem verify_report_eq_ok_iff {T : Type} (A : Attestable T Sig) (self : Ch.Chain × T) :
    (N.verify_report Ch A self).run = .ret (.ok ()) ↔
      ∃ bytes, (A.measurable_bytes self.2).run = .ret (.ok bytes) ∧
        N.Accepts Ch self.1 (A.signature self.2) bytes := by
  simp only [verify_report, Outcome.run_bind_eq_ok, Outcome.run_liftM, Accepts,
    Outcome.ret.injEq, mapError_eq_ok]
  constructor
  · rintro ⟨vcek, hvcek, sig, hsig, bytes, hbytes, key, hkey, hok⟩
    exact ⟨bytes, hbytes, vcek, sig, key, hvcek, hsig, hkey, hok⟩
  · rintro ⟨bytes, hbytes, vcek, sig, key, hvcek, hsig, hkey, hok⟩
    exact ⟨vcek, hvcek, sig, hsig, bytes, hbytes, key, hkey, hok⟩

end P384Api

/-- Under both backends, a report that `try_from` read from `b` verifies against a chain
exactly when the chain yields a certificate, the signature decoded from `b[0x2a0..0x4a0]`
converts, and ECDSA accepts it over SHA-384 of exactly `b[..0x2a0]`: no variant index is
hashed, no signature byte, and no signed byte is left out. -/
theorem verify_iff_signed_prefix {X : External} (O : OpensslApi X.Signature Ch.Certificate)
    (N : P384Api X.Signature Ch.Certificate) (c : Ch.Chain) (b : List u8)
    (r : AttestationReport X) (h : (AttestationReport.try_from b).run = .ret (.ok r)) :
    ((O.verify_report Ch AttestationReport.attestable (c, r)).run = .ret (.ok ()) ↔
      O.Accepts Ch c (X.signature.decode (slice b 0x2A0 0x4A0)) (b.take 0x2A0)) ∧
    ((N.verify_report Ch AttestationReport.attestable (c, r)).run = .ret (.ok ()) ↔
      N.Accepts Ch c (X.signature.decode (slice b 0x2A0 0x4A0)) (b.take 0x2A0)) := by
  have hsig := (AttestationReport.hasLayout_of_try_from h).signature
  rw [OpensslApi.verify_report_eq_ok_iff, P384Api.verify_report_eq_ok_iff]
  simp only [AttestationReport.attestable, AttestationReport.measurable_bytes_of_try_from h,
    Outcome.ret.injEq, Except.ok.injEq, exists_eq_left', hsig, and_self]

/-- A chain that yields its certificate. -/
def ChainApi.unit : ChainApi := ⟨Unit, Unit, fun _ => .ok ()⟩

/-- An `openssl` backend whose calls all succeed and whose ECDSA accepts everything. -/
def OpensslApi.accepting (Sig : Type) : OpensslApi Sig ChainApi.unit.Certificate :=
  ⟨Unit, Unit, Unit, Unit, fun _ => .ok (), fun _ => (), fun _ => .ok (), fun _ => .ok (),
    fun _ _ _ => .ok true⟩

/-- A `crypto_nossl` backend whose calls all succeed. -/
def P384Api.accepting (Sig : Type) : P384Api Sig ChainApi.unit.Certificate :=
  ⟨Unit, Unit, Unit, fun _ => .ok (), fun _ => [], fun _ => .ok (), fun _ _ _ => .ok (),
    fun _ => ""⟩

theorem verify_iff_signed_prefix_of_zeros :
    (AttestationReport.try_from (X := External.bytes) (AttestationReport.zeroed_report 2)).run =
      .ret (.ok (.V2 (AttestationReportV2.codec.decode
        ((AttestationReport.zeroed_report 2).take 0x4a0)))) ∧
    (((OpensslApi.accepting External.bytes.Signature).verify_report ChainApi.unit
        AttestationReport.attestable ((), .V2 (AttestationReportV2.codec.decode
          ((AttestationReport.zeroed_report 2).take 0x4a0) : AttestationReportV2 External.bytes))).run =
        .ret (.ok ()) ↔
      (OpensslApi.accepting External.bytes.Signature).Accepts ChainApi.unit ()
        (External.bytes.signature.decode (slice (AttestationReport.zeroed_report 2) 0x2A0 0x4A0))
        ((AttestationReport.zeroed_report 2).take 0x2A0)) ∧
    (((P384Api.accepting External.bytes.Signature).verify_report ChainApi.unit
        AttestationReport.attestable ((), .V2 (AttestationReportV2.codec.decode
          ((AttestationReport.zeroed_report 2).take 0x4a0) : AttestationReportV2 External.bytes))).run =
        .ret (.ok ()) ↔
      (P384Api.accepting External.bytes.Signature).Accepts ChainApi.unit ()
        (External.bytes.signature.decode (slice (AttestationReport.zeroed_report 2) 0x2A0 0x4A0))
        ((AttestationReport.zeroed_report 2).take 0x2A0)) := by
  have h := AttestationReport.try_from_of_supported (X := External.bytes)
    (AttestationReport.length_zeroed_report 2).ge (.inl (by decide))
  rw [if_pos (by decide)] at h
  exact ⟨h, verify_iff_signed_prefix ChainApi.unit _ _ () _ _ h⟩

end sev.guest
