import SevGuest.Bitfield
import SevGuest.Bincode
import SevGuest.Error

open rust bitfield bincode

namespace sev.guest

/-- `GuestFieldSelect(u64)`: the data mixed into a derived key, one bit each. -/
structure GuestFieldSelect where
  val : u64
  deriving DecidableEq, Repr

namespace GuestFieldSelect

def get_guest_policy (self : GuestFieldSelect) : Outcome u64 := bit_range 64 self.val 0 0
def get_image_id (self : GuestFieldSelect) : Outcome u64 := bit_range 64 self.val 1 1
def get_family_id (self : GuestFieldSelect) : Outcome u64 := bit_range 64 self.val 2 2
def get_measurement (self : GuestFieldSelect) : Outcome u64 := bit_range 64 self.val 3 3
def get_svn (self : GuestFieldSelect) : Outcome u64 := bit_range 64 self.val 4 4
def get_tcb_version (self : GuestFieldSelect) : Outcome u64 := bit_range 64 self.val 5 5

def set_guest_policy (self : GuestFieldSelect) (value : u64) : Outcome GuestFieldSelect :=
  mk <$> set_bit_range self.val 0 0 value
def set_image_id (self : GuestFieldSelect) (value : u64) : Outcome GuestFieldSelect :=
  mk <$> set_bit_range self.val 1 1 value
def set_family_id (self : GuestFieldSelect) (value : u64) : Outcome GuestFieldSelect :=
  mk <$> set_bit_range self.val 2 2 value
def set_measurement (self : GuestFieldSelect) (value : u64) : Outcome GuestFieldSelect :=
  mk <$> set_bit_range self.val 3 3 value
def set_svn (self : GuestFieldSelect) (value : u64) : Outcome GuestFieldSelect :=
  mk <$> set_bit_range self.val 4 4 value
def set_tcb_version (self : GuestFieldSelect) (value : u64) : Outcome GuestFieldSelect :=
  mk <$> set_bit_range self.val 5 5 value

/-- The lines of the `bitfield!` declaration of `GuestFieldSelect`, in order. -/
def accessors : List (Accessor GuestFieldSelect 64) :=
  [⟨"guest_policy", 0, 0, get_guest_policy, set_guest_policy⟩,
   ⟨"image_id", 1, 1, get_image_id, set_image_id⟩,
   ⟨"family_id", 2, 2, get_family_id, set_family_id⟩,
   ⟨"measurement", 3, 3, get_measurement, set_measurement⟩,
   ⟨"svn", 4, 4, get_svn, set_svn⟩,
   ⟨"tcb_version", 5, 5, get_tcb_version, set_tcb_version⟩]

theorem accessors_generated : ∀ a ∈ accessors, a.Generated mk val := by
  intro a ha
  simp only [accessors, List.mem_cons, List.mem_singleton, List.not_mem_nil, or_false] at ha
  rcases ha with rfl | rfl | rfl | rfl | rfl | rfl <;> exact ⟨rfl, rfl⟩

/-- The declaration of `GuestFieldSelect`, its ranges checked. -/
def declaration : Declaration GuestFieldSelect 64 :=
  ⟨mk, val, fun _ => rfl, accessors, accessors_generated, by decide, by decide, by decide⟩

/-- `#[derive(Default)]`: the zero word. -/
def default : GuestFieldSelect := ⟨0⟩

/-- The `Debug` impl that `impl Debug;` generates calls every named getter in declaration
order. -/
def fmt_debug (self : GuestFieldSelect) : Outcome Unit := do
  let _ ← self.get_guest_policy
  let _ ← self.get_image_id
  let _ ← self.get_family_id
  let _ ← self.get_measurement
  let _ ← self.get_svn
  let _ ← self.get_tcb_version
  pure ()

theorem fmt_debug_eq (self : GuestFieldSelect) : self.fmt_debug = .ret () := by
  simp (disch := decide) only [fmt_debug, get_guest_policy, get_image_id, get_family_id,
    get_measurement, get_svn, get_tcb_version, bit_range_of_valid, Outcome.ret_bind,
    Outcome.pure_eq_ret]

end GuestFieldSelect

/-- `GuestPolicy(u64)`: the guest policy the guest owner gives at launch. -/
structure GuestPolicy where
  val : u64
  deriving DecidableEq, Repr

namespace GuestPolicy

def abi_minor (self : GuestPolicy) : Outcome u64 := bit_range 64 self.val 7 0
def abi_major (self : GuestPolicy) : Outcome u64 := bit_range 64 self.val 15 8
def smt_allowed (self : GuestPolicy) : Outcome u64 := bit_range 64 self.val 16 16
def migrate_ma_allowed (self : GuestPolicy) : Outcome u64 := bit_range 64 self.val 18 18
def debug_allowed (self : GuestPolicy) : Outcome u64 := bit_range 64 self.val 19 19
def single_socket_required (self : GuestPolicy) : Outcome u64 := bit_range 64 self.val 20 20
def cxl_allowed (self : GuestPolicy) : Outcome u64 := bit_range 64 self.val 21 21
def mem_aes_256_xts (self : GuestPolicy) : Outcome u64 := bit_range 64 self.val 22 22
def rapl_dis (self : GuestPolicy) : Outcome u64 := bit_range 64 self.val 23 23
def ciphertext_hiding (self : GuestPolicy) : Outcome u64 := bit_range 64 self.val 24 24

def set_abi_minor (self : GuestPolicy) (value : u64) : Outcome GuestPolicy :=
  mk <$> set_bit_range self.val 7 0 value
def set_abi_major (self : GuestPolicy) (value : u64) : Outcome GuestPolicy :=
  mk <$> set_bit_range self.val 15 8 value
def set_smt_allowed (self : GuestPolicy) (value : u64) : Outcome GuestPolicy :=
  mk <$> set_bit_range self.val 16 16 value
def set_migrate_ma_allowed (self : GuestPolicy) (value : u64) : Outcome GuestPolicy :=
  mk <$> set_bit_range self.val 18 18 value
def set_debug_allowed (self : GuestPolicy) (value : u64) : Outcome GuestPolicy :=
  mk <$> set_bit_range self.val 19 19 value
def set_single_socket_required (self : GuestPolicy) (value : u64) : Outcome GuestPolicy :=
  mk <$> set_bit_range self.val 20 20 value
def set_cxl_allowed (self : GuestPolicy) (value : u64) : Outcome GuestPolicy :=
  mk <$> set_bit_range self.val 21 21 value
def set_mem_aes_256_xts (self : GuestPolicy) (value : u64) : Outcome GuestPolicy :=
  mk <$> set_bit_range self.val 22 22 value
def set_rapl_dis (self : GuestPolicy) (value : u64) : Outcome GuestPolicy :=
  mk <$> set_bit_range self.val 23 23 value
def set_ciphertext_hiding (self : GuestPolicy) (value : u64) : Outcome GuestPolicy :=
  mk <$> set_bit_range self.val 24 24 value

/-- The lines of the `bitfield!` declaration of `GuestPolicy`, in order. -/
def accessors : List (Accessor GuestPolicy 64) :=
  [⟨"abi_minor", 7, 0, abi_minor, set_abi_minor⟩,
   ⟨"abi_major", 15, 8, abi_major, set_abi_major⟩,
   ⟨"smt_allowed", 16, 16, smt_allowed, set_smt_allowed⟩,
   ⟨"migrate_ma_allowed", 18, 18, migrate_ma_allowed, set_migrate_ma_allowed⟩,
   ⟨"debug_allowed", 19, 19, debug_allowed, set_debug_allowed⟩,
   ⟨"single_socket_required", 20, 20, single_socket_required, set_single_socket_required⟩,
   ⟨"cxl_allowed", 21, 21, cxl_allowed, set_cxl_allowed⟩,
   ⟨"mem_aes_256_xts", 22, 22, mem_aes_256_xts, set_mem_aes_256_xts⟩,
   ⟨"rapl_dis", 23, 23, rapl_dis, set_rapl_dis⟩,
   ⟨"ciphertext_hiding", 24, 24, ciphertext_hiding, set_ciphertext_hiding⟩]

theorem accessors_generated : ∀ a ∈ accessors, a.Generated mk val := by
  intro a ha
  simp only [accessors, List.mem_cons, List.mem_singleton, List.not_mem_nil, or_false] at ha
  rcases ha with rfl | rfl | rfl | rfl | rfl | rfl | rfl | rfl | rfl | rfl <;> exact ⟨rfl, rfl⟩

/-- The declaration of `GuestPolicy`, its ranges checked. -/
def declaration : Declaration GuestPolicy 64 :=
  ⟨mk, val, fun _ => rfl, accessors, accessors_generated, by decide, by decide, by decide⟩

/-- `#[derive(Default)]`: the zero word. -/
def default : GuestPolicy := ⟨0⟩

/-- The `Debug` impl that `impl Debug;` generates calls every named getter in declaration
order; only that is modelled, not the text it writes. -/
def fmt_debug (self : GuestPolicy) : Outcome Unit := do
  let _ ← self.abi_minor
  let _ ← self.abi_major
  let _ ← self.smt_allowed
  let _ ← self.migrate_ma_allowed
  let _ ← self.debug_allowed
  let _ ← self.single_socket_required
  let _ ← self.cxl_allowed
  let _ ← self.mem_aes_256_xts
  let _ ← self.rapl_dis
  let _ ← self.ciphertext_hiding
  pure ()

/-- Every getter of `GuestPolicy` is declared on a range inside the word. -/
theorem fmt_debug_eq (self : GuestPolicy) : self.fmt_debug = .ret () := by
  simp (disch := decide) only [fmt_debug, abi_minor, abi_major, smt_allowed, migrate_ma_allowed,
    debug_allowed, single_socket_required, cxl_allowed, mem_aes_256_xts, rapl_dis,
    ciphertext_hiding, bit_range_of_valid, Outcome.ret_bind, Outcome.pure_eq_ret]

def equiv : u64 ≃ GuestPolicy := ⟨mk, val, fun _ => rfl, fun _ => rfl⟩

/-- The derived serde encoding of the newtype: its `u64`. -/
def codec : FixedCodec GuestPolicy 8 := FixedCodec.u64.map equiv

/-- The derived `Deserialize` of the newtype struct, under bincode. -/
def deserialize : Reader GuestPolicy := do
  let value ← deserialize_u64
  pure ⟨value⟩

end GuestPolicy

/-- `impl From<GuestPolicy> for u64`: the policy word with the reserved bit 17 set. -/
def u64.from (value : GuestPolicy) : u64 :=
  let reserved : u64 := (1 : u64) <<< 17
  value.val ||| reserved

private theorem getLsbD_bit_17 (i : Nat) : ((1 : u64) <<< 17).getLsbD i = decide (i = 17) := by
  simp only [BitVec.getLsbD_shiftLeft, BitVec.getLsbD_one]
  by_cases h : i = 17 <;> simp [h]
  omega

/-- Converting a policy sets bit 17 and keeps every other bit. -/
theorem getLsbD_u64_from (p : GuestPolicy) (i : Nat) :
    (u64.from p).getLsbD i = (decide (i = 17) || p.val.getLsbD i) := by
  simp only [u64.from, BitVec.getLsbD_or, getLsbD_bit_17, Bool.or_comm]

/-- `PlatformInfoV1(u64)`: information about the platform, version 1. -/
structure PlatformInfoV1 where
  val : u64
  deriving DecidableEq, Repr

namespace PlatformInfoV1

def smt_enabled (self : PlatformInfoV1) : Outcome u64 := bit_range 64 self.val 0 0
def tsme_enabled (self : PlatformInfoV1) : Outcome u64 := bit_range 64 self.val 1 1
def ecc_enabled (self : PlatformInfoV1) : Outcome u64 := bit_range 64 self.val 2 2
def rapl_disabled (self : PlatformInfoV1) : Outcome u64 := bit_range 64 self.val 3 3
def ciphertext_hiding_enabled (self : PlatformInfoV1) : Outcome u64 := bit_range 64 self.val 4 4
/-- Declared `reserved, _: 5, 63;`: the macro reads this as `msb = 5`, `lsb = 63`. -/
def reserved (self : PlatformInfoV1) : Outcome u64 := bit_range 64 self.val 5 63

/-- The generated `Debug`: the named getters in declaration order, `reserved` included. -/
def fmt_debug (self : PlatformInfoV1) : Outcome Unit := do
  let _ ← self.smt_enabled
  let _ ← self.tsme_enabled
  let _ ← self.ecc_enabled
  let _ ← self.rapl_disabled
  let _ ← self.ciphertext_hiding_enabled
  let _ ← self.reserved
  pure ()

/-- The `u64` getters of the declaration, with the ranges written there. -/
def getters : List (Getter PlatformInfoV1 64) :=
  [⟨"smt_enabled", 0, 0, smt_enabled⟩, ⟨"tsme_enabled", 1, 1, tsme_enabled⟩,
   ⟨"ecc_enabled", 2, 2, ecc_enabled⟩, ⟨"rapl_disabled", 3, 3, rapl_disabled⟩,
   ⟨"ciphertext_hiding_enabled", 4, 4, ciphertext_hiding_enabled⟩, ⟨"reserved", 5, 63, reserved⟩]

theorem getters_generated : ∀ g ∈ getters, g.Generated val := by
  intro g hg
  simp only [getters, List.mem_cons, List.mem_singleton, List.not_mem_nil, or_false] at hg
  rcases hg with rfl | rfl | rfl | rfl | rfl | rfl <;> rfl

/-- The generated `Debug` reaches `reserved`, whose range is reversed, for every word. -/
theorem fmt_debug_eq (self : PlatformInfoV1) : self.fmt_debug = .panic := by
  simp (disch := decide) only [fmt_debug, smt_enabled, tsme_enabled, ecc_enabled, rapl_disabled,
    ciphertext_hiding_enabled, reserved,
    bit_range_of_valid, bit_range_of_not_valid, Outcome.ret_bind, Outcome.panic_bind]

def equiv : u64 ≃ PlatformInfoV1 := ⟨mk, val, fun _ => rfl, fun _ => rfl⟩

def codec : FixedCodec PlatformInfoV1 8 := FixedCodec.u64.map equiv

def deserialize : Reader PlatformInfoV1 := do
  let value ← deserialize_u64
  pure ⟨value⟩

end PlatformInfoV1

/-- `PlatformInfoV2(u64)`: information about the platform, version 2, which adds bit 5. -/
structure PlatformInfoV2 where
  val : u64
  deriving DecidableEq, Repr

namespace PlatformInfoV2

def smt_enabled (self : PlatformInfoV2) : Outcome u64 := bit_range 64 self.val 0 0
def tsme_enabled (self : PlatformInfoV2) : Outcome u64 := bit_range 64 self.val 1 1
def ecc_enabled (self : PlatformInfoV2) : Outcome u64 := bit_range 64 self.val 2 2
def rapl_disabled (self : PlatformInfoV2) : Outcome u64 := bit_range 64 self.val 3 3
def ciphertext_hiding_enabled (self : PlatformInfoV2) : Outcome u64 := bit_range 64 self.val 4 4
def alias_check_complete (self : PlatformInfoV2) : Outcome u64 := bit_range 64 self.val 5 5
/-- Declared `reserved, _: 6, 63;`: `msb = 6`, `lsb = 63`. -/
def reserved (self : PlatformInfoV2) : Outcome u64 := bit_range 64 self.val 6 63

def fmt_debug (self : PlatformInfoV2) : Outcome Unit := do
  let _ ← self.smt_enabled
  let _ ← self.tsme_enabled
  let _ ← self.ecc_enabled
  let _ ← self.rapl_disabled
  let _ ← self.ciphertext_hiding_enabled
  let _ ← self.alias_check_complete
  let _ ← self.reserved
  pure ()

/-- The `u64` getters of the declaration, with the ranges written there. -/
def getters : List (Getter PlatformInfoV2 64) :=
  [⟨"smt_enabled", 0, 0, smt_enabled⟩, ⟨"tsme_enabled", 1, 1, tsme_enabled⟩,
   ⟨"ecc_enabled", 2, 2, ecc_enabled⟩, ⟨"rapl_disabled", 3, 3, rapl_disabled⟩,
   ⟨"ciphertext_hiding_enabled", 4, 4, ciphertext_hiding_enabled⟩,
   ⟨"alias_check_complete", 5, 5, alias_check_complete⟩, ⟨"reserved", 6, 63, reserved⟩]

theorem getters_generated : ∀ g ∈ getters, g.Generated val := by
  intro g hg
  simp only [getters, List.mem_cons, List.mem_singleton, List.not_mem_nil, or_false] at hg
  rcases hg with rfl | rfl | rfl | rfl | rfl | rfl | rfl <;> rfl

/-- The generated `Debug` reaches `reserved`, whose range is reversed, for every word. -/
theorem fmt_debug_eq (self : PlatformInfoV2) : self.fmt_debug = .panic := by
  simp (disch := decide) only [fmt_debug, smt_enabled, tsme_enabled, ecc_enabled, rapl_disabled,
    ciphertext_hiding_enabled, alias_check_complete, reserved,
    bit_range_of_valid, bit_range_of_not_valid, Outcome.ret_bind, Outcome.panic_bind]

def equiv : u64 ≃ PlatformInfoV2 := ⟨mk, val, fun _ => rfl, fun _ => rfl⟩

def codec : FixedCodec PlatformInfoV2 8 := FixedCodec.u64.map equiv

def deserialize : Reader PlatformInfoV2 := do
  let value ← deserialize_u64
  pure ⟨value⟩

end PlatformInfoV2

/-- `KeyInfo(u32)`: which key signed the report. -/
structure KeyInfo where
  val : u32
  deriving DecidableEq, Repr

namespace KeyInfo

/-- Declared `author_key_en, _: 0;`: a one-bit getter through `Bit::bit`. -/
def author_key_en (self : KeyInfo) : Outcome Bool := bit self.val 0
def mask_chip_key (self : KeyInfo) : Outcome u32 := bit_range 32 self.val 1 1
def signing_key (self : KeyInfo) : Outcome u32 := bit_range 32 self.val 4 2
/-- Declared `reserved, _: 5, 31;`: `msb = 5`, `lsb = 31`. -/
def reserved (self : KeyInfo) : Outcome u32 := bit_range 32 self.val 5 31

def fmt_debug (self : KeyInfo) : Outcome Unit := do
  let _ ← self.author_key_en
  let _ ← self.mask_chip_key
  let _ ← self.signing_key
  let _ ← self.reserved
  pure ()

/-- The `u32` getters of the declaration, with the ranges written there. -/
def getters : List (Getter KeyInfo 32) :=
  [⟨"mask_chip_key", 1, 1, mask_chip_key⟩, ⟨"signing_key", 4, 2, signing_key⟩,
   ⟨"reserved", 5, 31, reserved⟩]

theorem getters_generated : ∀ g ∈ getters, g.Generated val := by
  intro g hg
  simp only [getters, List.mem_cons, List.mem_singleton, List.not_mem_nil, or_false] at hg
  rcases hg with rfl | rfl | rfl <;> rfl

/-- The generated `Debug` reaches `reserved`, whose range is reversed, for every word. -/
theorem fmt_debug_eq (self : KeyInfo) : self.fmt_debug = .panic := by
  simp (disch := decide) only [fmt_debug, author_key_en, mask_chip_key, signing_key, bit_of_valid, reserved,
    bit_range_of_valid, bit_range_of_not_valid, Outcome.ret_bind, Outcome.panic_bind]

def equiv : u32 ≃ KeyInfo := ⟨mk, val, fun _ => rfl, fun _ => rfl⟩

def codec : FixedCodec KeyInfo 4 := FixedCodec.u32.map equiv

def deserialize : Reader KeyInfo := do
  let value ← deserialize_u32
  pure ⟨value⟩

end KeyInfo

/-- The setters of `GuestPolicy` and `GuestFieldSelect` write their declared range and
nothing else, for every word and every written value. Converting a policy to `u64` sets bit
17 and keeps every other bit, and no declared getter reads bit 17. -/
theorem setters_write_declared_ranges :
    SetterLaws GuestPolicy.mk GuestPolicy.accessors ∧
      SetterLaws GuestFieldSelect.mk GuestFieldSelect.accessors ∧
      ∀ p : GuestPolicy, (∀ i, (u64.from p).getLsbD i = (decide (i = 17) || p.val.getLsbD i)) ∧
        ∀ a ∈ GuestPolicy.accessors, a.get ⟨u64.from p⟩ = a.get p := by
  refine ⟨setterLaws_of_generated _ _ (fun _ => rfl) _ GuestPolicy.accessors_generated
      (by decide) (by decide),
    setterLaws_of_generated _ _ (fun _ => rfl) _ GuestFieldSelect.accessors_generated
      (by decide) (by decide), fun p => ⟨getLsbD_u64_from p, fun a ha => ?_⟩⟩
  have hv : Valid 64 a.msb a.lsb := by revert a; decide
  have h17 : a.msb < 17 ∨ 17 < a.lsb := by revert a; decide
  obtain ⟨hget, -⟩ := GuestPolicy.accessors_generated a ha
  have hr : a.msb - a.lsb + 1 ≤ 64 := by have := hv.2; omega
  simp only [hget, bit_range_of_valid _ hv hr, u64.from,
    field_or_of_disjoint hv.1 _ _ fun i h1 h2 => by rw [getLsbD_bit_17]; simp; omega]

/-- `PlatformInfo`: either version of the platform information word. -/
inductive PlatformInfo where
  | V1 (field : PlatformInfoV1)
  | V2 (field : PlatformInfoV2)

namespace PlatformInfo

def smt_enabled : PlatformInfo → Outcome u64
  | V1 field => field.smt_enabled
  | V2 field => field.smt_enabled

def tsme_enabled : PlatformInfo → Outcome u64
  | V1 field => field.tsme_enabled
  | V2 field => field.tsme_enabled

def ecc_enabled : PlatformInfo → Outcome u64
  | V1 field => field.ecc_enabled
  | V2 field => field.ecc_enabled

def rapl_disabled : PlatformInfo → Outcome u64
  | V1 field => field.rapl_disabled
  | V2 field => field.rapl_disabled

def cypertext_hiding_enabled : PlatformInfo → Outcome u64
  | V1 field => field.ciphertext_hiding_enabled
  | V2 field => field.ciphertext_hiding_enabled

/-- Bit 5 exists only in version 2; on version 1 the field is unsupported. -/
def alias_check_complete : PlatformInfo → ExceptT AttestationReportError Outcome u64
  | V1 _ => throw (.UnsupportedField "Alias Check Complete")
  | V2 field => field.alias_check_complete

end PlatformInfo

end sev.guest
