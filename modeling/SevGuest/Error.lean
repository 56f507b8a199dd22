import SevGuest.Bincode

open rust

namespace sev

/-- `crate::error::AttestationReportError`, declared in a module not under `src/`: the
variants that `snp.rs` constructs. -/
inductive AttestationReportError where
  | BincodeError (kind : bincode.ErrorKind)
  | UnsupportedReportVersion (version : u32)
  | UnsupportedField (name : String)
  deriving DecidableEq, Repr

/-- `crate::error::UserApiError`, declared in a module not under `src/`: the variant that
`ReportReq::new` constructs. -/
inductive UserApiError where
  | VmplError
  deriving DecidableEq, Repr

end sev
