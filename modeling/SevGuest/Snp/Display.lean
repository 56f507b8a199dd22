import SevGuest.Snp.Report

open rust bitfield Mathlib

namespace sev.guest

/-- `impl Display for GuestPolicy`: the word in hexadecimal, then six of its fields. -/
def GuestPolicy.fmt_display (self : GuestPolicy) : Outcome String :=
  write
    ["\n    Guest Policy (0x", "):\n    ABI Major:     ", "\n    ABI Minor:     ",
     "\n    SMT Allowed:   ", "\n    Migrate MA:    ", "\n    Debug Allowed: ",
     "\n    Single Socket: ", ""]
    [.ret (lower_hex self.val), display_uint <$> self.abi_major, display_uint <$> self.abi_minor,
     display_uint <$> self.smt_allowed, display_uint <$> self.migrate_ma_allowed,
     display_uint <$> self.debug_allowed, display_uint <$> self.single_socket_required]

/-- `impl Display for PlatformInfoV1`: the word in decimal, then its five named fields. -/
def PlatformInfoV1.fmt_display (self : PlatformInfoV1) : Outcome String :=
  write
    ["\nPlatform Info (", "):\n  SMT Enabled:               ", "\n  TSME Enabled:              ",
     "\n  ECC Enabled:               ", "\n  RAPL Disabled:             ",
     "\n  Ciphertext Hiding Enabled: ", "\n"]
    [.ret (display_uint self.val), display_uint <$> self.smt_enabled,
     display_uint <$> self.tsme_enabled, display_uint <$> self.ecc_enabled,
     display_uint <$> self.rapl_disabled, display_uint <$> self.ciphertext_hiding_enabled]

/-- `impl Display for PlatformInfoV2`: the word in decimal, then its six named fields. -/
def PlatformInfoV2.fmt_display (self : PlatformInfoV2) : Outcome String :=
  write
    ["\nPlatform Info (", "):\n  SMT Enabled:               ", "\n  TSME Enabled:              ",
     "\n  ECC Enabled:               ", "\n  RAPL Disabled:             ",
     "\n  Ciphertext Hiding Enabled: ", "\n  Alias Check Complete:      ", "\n"]
    [.ret (display_uint self.val), display_uint <$> self.smt_enabled,
     display_uint <$> self.tsme_enabled, display_uint <$> self.ecc_enabled,
     display_uint <$> self.rapl_disabled, display_uint <$> self.ciphertext_hiding_enabled,
     display_uint <$> self.alias_check_complete]

/-- `impl Display for KeyInfo`: the signing key named from bits 2 to 4 (`vcek`, `vlek`, `none`,
or `unkown` for the reserved values), after the two flags. -/
def KeyInfo.fmt_display (self : KeyInfo) : Outcome String := do
  let signing_key ← self.signing_key
  let signing_key :=
    if signing_key = 0 then "vcek" else if signing_key = 1 then "vlek"
    else if signing_key = 7 then "none" else "unkown"
  write
    ["\nKey Information:\n    author key enabled: ", "\n    mask chip key:      ",
     "\n    signing key:        ", "\n"]
    [toString <$> self.author_key_en, display_uint <$> self.mask_chip_key, .ret signing_key]

theorem GuestPolicy.fmt_display_ne_panic (self : GuestPolicy) : self.fmt_display ≠ .panic := by
  simp (disch := decide) only [fmt_display, abi_major, abi_minor, smt_allowed, migrate_ma_allowed,
    debug_allowed, single_socket_required, bit_range_of_valid, Outcome.map_ret, ne_eq,
    write_eq_panic, List.mem_cons, List.not_mem_nil, exists_eq_right, reduceCtorEq, or_self,
    not_false_eq_true]

theorem PlatformInfoV1.fmt_display_ne_panic (self : PlatformInfoV1) : self.fmt_display ≠ .panic := by
  simp (disch := decide) only [fmt_display, smt_enabled, tsme_enabled, ecc_enabled, rapl_disabled,
    ciphertext_hiding_enabled, bit_range_of_valid, Outcome.map_ret, ne_eq, write_eq_panic,
    List.mem_cons, List.not_mem_nil, exists_eq_right, reduceCtorEq, or_self, not_false_eq_true]

theorem PlatformInfoV2.fmt_display_ne_panic (self : PlatformInfoV2) : self.fmt_display ≠ .panic := by
  simp (disch := decide) only [fmt_display, smt_enabled, tsme_enabled, ecc_enabled, rapl_disabled,
    ciphertext_hiding_enabled, alias_check_complete, bit_range_of_valid, Outcome.map_ret, ne_eq,
    write_eq_panic, List.mem_cons, List.not_mem_nil, exists_eq_right, reduceCtorEq, or_self,
    not_false_eq_true]

theorem KeyInfo.fmt_display_ne_panic (self : KeyInfo) : self.fmt_display ≠ .panic := by
  simp (disch := decide) only [fmt_display, signing_key, author_key_en, mask_chip_key,
    bit_range_of_valid, bit_of_valid, Outcome.map_ret, Outcome.ret_bind, ne_eq, write_eq_panic,
    List.mem_cons, List.not_mem_nil, exists_eq_right, reduceCtorEq, or_self, not_false_eq_true]

/-- What the `Display` impls of the reports call from modules not under `src/`:
`util::hexdump`, the `Display` of `TcbVersion` and of `Signature`, and `size_of_val` of each
report type. The two `Display` impls may panic; `hexdump` is taken to return a string for
every byte array, an assumption about code outside `src/` that every result over a
`Formatting` inherits. -/
structure Formatting (X : External) where
  /-- `util::hexdump`, assumed total. -/
  hexdump : List u8 → String
  display_tcb_version : X.TcbVersion → Outcome String
  display_signature : X.Signature → Outcome String
  size_of_v2 : Nat
  size_of_v3 : Nat

variable {X : External}

/-- `impl Display for AttestationReportV2`. -/
def AttestationReportV2.fmt_display (F : Formatting X) (r : AttestationReportV2 X) :
    Outcome String :=
  write
    ["\nAttestation Report (", " bytes):\nVersion:                      ",
     "\nGuest SVN:                    ", "\n", "\nFamily ID:                    ",
     "\nImage ID:                     ", "\nVMPL:                         ",
     "\nSignature Algorithm:          ", "\nCurrent TCB:\n", "\n", "\n",
     "\nReport Data:                  ", "\nMeasurement:                  ",
     "\nHost Data:                    ", "\nID Key Digest:                ",
     "\nAuthor Key Digest:            ", "\nReport ID:                    ",
     "\nReport ID Migration Agent:    ", "\nReported TCB:                 ",
     "\nChip ID:                      ", "\nCommitted TCB:\n", "\nCurrent Build:                ",
     "\nCurrent Minor:                ", "\nCurrent Major:                ",
     "\nCommitted Build:              ", "\nCommitted Minor:              ",
     "\nCommitted Major:              ", "\nLaunch TCB:\n", "\n", "\n"]
    [.ret (toString F.size_of_v2), .ret (display_uint r.version), .ret (display_uint r.guest_svn),
     r.policy.fmt_display, .ret (F.hexdump r.family_id.toList),
     .ret (F.hexdump r.image_id.toList), .ret (display_uint r.vmpl), .ret (display_uint r.sig_algo),
     F.display_tcb_version r.current_tcb, r.plat_info.fmt_display, r.key_info.fmt_display,
     .ret (F.hexdump r.report_data.toList), .ret (F.hexdump r.measurement.toList),
     .ret (F.hexdump r.host_data.toList), .ret (F.hexdump r.id_key_digest.toList),
     .ret (F.hexdump r.author_key_digest.toList), .ret (F.hexdump r.report_id.toList),
     .ret (F.hexdump r.report_id_ma.toList), F.display_tcb_version r.reported_tcb,
     .ret (F.hexdump r.chip_id.toList), F.display_tcb_version r.committed_tcb,
     .ret (display_uint r.current_build), .ret (display_uint r.current_minor),
     .ret (display_uint r.current_major), .ret (display_uint r.committed_build),
     .ret (display_uint r.committed_minor), .ret (display_uint r.committed_major),
     F.display_tcb_version r.launch_tcb, F.display_signature r.signature]

/-- `impl Display for AttestationReportV3`: the same, with the three CPUID bytes. -/
def AttestationReportV3.fmt_display (F : Formatting X) (r : AttestationReportV3 X) :
    Outcome String :=
  write
    ["\nAttestation Report (", " bytes):\nVersion:                      ",
     "\nGuest SVN:                    ", "\n", "\nFamily ID:                    ",
     "\nImage ID:                     ", "\nVMPL:                         ",
     "\nSignature Algorithm:          ", "\nCurrent TCB:\n", "\n", "\n",
     "\nReport Data:                  ", "\nMeasurement:                  ",
     "\nHost Data:                    ", "\nID Key Digest:                ",
     "\nAuthor Key Digest:            ", "\nReport ID:                    ",
     "\nReport ID Migration Agent:    ", "\nReported TCB:                 ",
     "\nCPUID Family ID:              ", "\nCPUID Model ID:               ",
     "\nCPUID Stepping:               ", "\nChip ID:                      ", "\nCommitted TCB:\n",
     "\nCurrent Build:                ", "\nCurrent Minor:                ",
     "\nCurrent Major:                ", "\nCommitted Build:              ",
     "\nCommitted Minor:              ", "\nCommitted Major:              ", "\nLaunch TCB:\n",
     "\n", "\n"]
    [.ret (toString F.size_of_v3), .ret (display_uint r.version), .ret (display_uint r.guest_svn),
     r.policy.fmt_display, .ret (F.hexdump r.family_id.toList),
     .ret (F.hexdump r.image_id.toList), .ret (display_uint r.vmpl), .ret (display_uint r.sig_algo),
     F.display_tcb_version r.current_tcb, r.plat_info.fmt_display, r.key_info.fmt_display,
     .ret (F.hexdump r.report_data.toList), .ret (F.hexdump r.measurement.toList),
     .ret (F.hexdump r.host_data.toList), .ret (F.hexdump r.id_key_digest.toList),
     .ret (F.hexdump r.author_key_digest.toList), .ret (F.hexdump r.report_id.toList),
     .ret (F.hexdump r.report_id_ma.toList), F.display_tcb_version r.reported_tcb,
     .ret (display_uint r.cpuid_fam_id), .ret (display_uint r.cpuid_mod_id),
     .ret (display_uint r.cpuid_step), .ret (F.hexdump r.chip_id.toList),
     F.display_tcb_version r.committed_tcb, .ret (display_uint r.current_build),
     .ret (display_uint r.current_minor), .ret (display_uint r.current_major),
     .ret (display_uint r.committed_build), .ret (display_uint r.committed_minor),
     .ret (display_uint r.committed_major), F.display_tcb_version r.launch_tcb,
     F.display_signature r.signature]

/-- `impl Display for AttestationReport`: the inner report's. -/
def AttestationReport.fmt_display (F : Formatting X) : AttestationReport X → Outcome String
  | .V2 report => write ["", ""] [report.fmt_display F]
  | .V3 report => write ["", ""] [report.fmt_display F]


/-- Formatting a report with `Display` panics exactly when formatting one of its external
members does, the four TCB versions or the signature: every bit-field getter that the `Display`
impls of the policy, platform-information and key-information words call is declared inside its
word, unlike the `reserved` getters that the derived `Debug` reaches. `util::hexdump` is taken
to be total (`Formatting.hexdump`). -/
theorem AttestationReport.fmt_display_eq_panic_iff (F : Formatting X) (r : AttestationReport X) :
    r.fmt_display F = .panic ↔
      F.display_tcb_version r.current_tcb = .panic ∨ F.display_tcb_version r.reported_tcb = .panic ∨
        F.display_tcb_version r.commited_tcb = .panic ∨ F.display_tcb_version r.launch_tcb = .panic ∨
        F.display_signature r.signature = .panic := by
  cases r <;>
  simp only [fmt_display, AttestationReportV2.fmt_display, AttestationReportV3.fmt_display,
    current_tcb, reported_tcb, commited_tcb, launch_tcb, signature, field, write_eq_panic,
    List.mem_cons, List.not_mem_nil, exists_eq_or_imp, exists_eq_left, false_and, exists_false,
    or_false, reduceCtorEq, false_or, GuestPolicy.fmt_display_ne_panic,
    PlatformInfoV1.fmt_display_ne_panic, PlatformInfoV2.fmt_display_ne_panic,
    KeyInfo.fmt_display_ne_panic]

end sev.guest
