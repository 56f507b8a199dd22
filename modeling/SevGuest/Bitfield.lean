import SevGuest.Rust

open rust

namespace bitfield

/-- `BitRange::bit_range` for an unsigned integer of `w` bits, read as an `r`-bit integer:
the bits `lsb..=msb` of `x` brought down to bit 0 by shifting them to the top and back. -/
def bit_range {w : Nat} (r : Nat) (x : BitVec w) (msb lsb : Nat) : Outcome (BitVec r) := do
  let bit_len := w
  let result_bit_len := r
  let s ← usize_sub bit_len msb >>= (usize_sub · 1)
  let result := (← shr (← shl x s) (s + lsb)).setWidth r
  let len ← usize_sub msb lsb
  let t ← usize_sub result_bit_len (len + 1)
  shr (← shl result t) t

/-- `BitRangeMut::set_bit_range` for an unsigned integer of `w` bits: clear the bits
`lsb..=msb` through a mask, then or in `value` shifted to `lsb` under the same mask. -/
def set_bit_range {w : Nat} (x : BitVec w) (msb lsb : Nat) (value : BitVec w) :
    Outcome (BitVec w) := do
  let bit_len := w
  let s ← usize_sub bit_len msb >>= (usize_sub · 1)
  let mask ← shl (← shr (← shl (BitVec.allOnes w) s) (s + lsb)) lsb
  let x := x &&& ~~~mask
  pure (x ||| ((← shl value lsb) &&& mask))

/-- `Bit::bit`, which the one-bit getters `getter, _: bit;` call: the bit read as a `u8`
through `bit_range`, compared with zero. -/
def bit {w : Nat} (x : BitVec w) (b : Nat) : Outcome Bool := do
  let v ← bit_range 8 x b b
  pure (v != 0)

/-- A declared range `msb, lsb` names bits of the word: the code's shifts and subtractions
stay in range exactly for these. -/
def Valid (w msb lsb : Nat) : Prop := lsb ≤ msb ∧ msb < w

instance (w msb lsb : Nat) : Decidable (Valid w msb lsb) :=
  inferInstanceAs (Decidable (_ ∧ _))

/-- The value of the bits `lsb..=msb` of `x`. -/
def field (x : Nat) (msb lsb : Nat) : Nat := x >>> lsb % 2 ^ (msb - lsb + 1)

variable {w r msb lsb : Nat}

/-- On a declared range the getter returns the bits `lsb..=msb`, for every word. -/
theorem bit_range_of_valid (x : BitVec w) (h : Valid w msb lsb) (hr : msb - lsb + 1 ≤ r) :
    bit_range r x msb lsb = .ret (BitVec.ofNat r (field x.toNat msb lsb)) := by
  obtain ⟨h1, h2⟩ := h
  simp only [bit_range, usize_sub, shl, shr, if_pos (show msb ≤ w by omega),
    if_pos (show 1 ≤ w - msb by omega), if_pos (show w - msb - 1 < w by omega),
    if_pos (show w - msb - 1 + lsb < w by omega), if_pos h1, if_pos hr,
    if_pos (show r - (msb - lsb + 1) < r by omega), Outcome.ret_bind]
  congr 1
  apply BitVec.eq_of_getLsbD_eq
  intro ⟨i, hi⟩
  simp only [field, BitVec.getLsbD_ushiftRight, BitVec.getLsbD_shiftLeft, BitVec.getLsbD_setWidth,
    BitVec.getLsbD_ofNat, Nat.testBit_mod_two_pow, Nat.testBit_shiftRight, BitVec.testBit_toNat]
  by_cases hlen : i < msb - lsb + 1
  · simp [hlen, hi, show r - (msb - lsb + 1) + i < r by omega,
      show w - msb - 1 + lsb + i < w by omega,
      show w - msb - 1 + lsb + i - (w - msb - 1) = lsb + i by omega,
      show ¬r - (msb - lsb + 1) + i < r - (msb - lsb + 1) by omega,
      show ¬w - msb - 1 + lsb + i < w - msb - 1 by omega]
  · simp [hlen, show ¬r - (msb - lsb + 1) + i < r by omega]

/-- Off a declared range the getter overflows, for every word: a reversed pair `msb < lsb`
shifts right by `w - msb - 1 + lsb ≥ w`, and `msb ≥ w` underflows `w - msb - 1`. -/
theorem bit_range_of_not_valid (x : BitVec w) (h : ¬Valid w msb lsb) :
    bit_range r x msb lsb = .panic := by
  simp only [Valid, not_and_or, not_le, not_lt] at h
  by_cases h2 : msb < w
  · simp [bit_range, usize_sub, shl, shr, show msb ≤ w by omega, show 1 ≤ w - msb by omega,
      show w - msb - 1 < w by omega, show ¬w - msb - 1 + lsb < w by omega]
  · by_cases h3 : msb ≤ w
    · simp [bit_range, usize_sub, h3, show ¬1 ≤ w - msb by omega]
    · simp [bit_range, usize_sub, h3]

theorem bit_range_eq_panic_iff (x : BitVec w) (hr : msb - lsb + 1 ≤ r) :
    bit_range r x msb lsb = .panic ↔ ¬Valid w msb lsb := by
  by_cases h : Valid w msb lsb
  · simp [h, bit_range_of_valid x h hr]
  · simp [h, bit_range_of_not_valid x h]

theorem bit_of_valid (x : BitVec w) (h : Valid w msb msb) :
    bit x msb = .ret (x.getLsbD msb) := by
  rw [bit, bit_range_of_valid x h (show msb - msb + 1 ≤ 8 by omega), Outcome.ret_bind, ← BitVec.testBit_toNat,
    Nat.testBit_to_div_mod]
  simp only [field, Nat.shiftRight_eq_div_pow, Nat.sub_self, zero_add, pow_one]
  rcases Nat.mod_two_eq_zero_or_one (x.toNat / 2 ^ msb) with h0 | h1
  · rw [h0]; rfl
  · rw [h1]; rfl

/-- A getter that `bitfield!` generates from a line `getter, _: msb, lsb;` of a struct `T`,
with the name and range written on that line. -/
structure Getter (T : Type) (r : Nat) where
  name : String
  msb : Nat
  lsb : Nat
  get : T → Outcome (BitVec r)

/-- The getter is the macro's expansion of its line on a newtype over a `w`-bit word. -/
def Getter.Generated {T : Type} {w r : Nat} (val : T → BitVec w) (g : Getter T r) : Prop :=
  g.get = fun t => bit_range r (val t) g.msb g.lsb

/-- A generated getter returns the bits of its range when the range is declared inside the
word, and overflows otherwise. -/
theorem Getter.get_eq {T : Type} {w r : Nat} {val : T → BitVec w} {g : Getter T r}
    (hgen : g.Generated val) (hr : g.msb - g.lsb + 1 ≤ r) (t : T) :
    g.get t = if Valid w g.msb g.lsb
      then .ret (BitVec.ofNat r (field (val t).toNat g.msb g.lsb)) else .panic := by
  rw [hgen]
  split_ifs with h
  · exact bit_range_of_valid _ h hr
  · exact bit_range_of_not_valid _ h

/-- The mask of the bits `lsb..=msb` of a `w`-bit word, as `set_bit_range` computes it. -/
def mask (w msb lsb : Nat) : BitVec w :=
  BitVec.allOnes w <<< (w - msb - 1) >>> (w - msb - 1 + lsb) <<< lsb

/-- The word `x` with the bits `lsb..=msb` replaced by the low bits of `v`. -/
def replace (x : BitVec w) (msb lsb : Nat) (v : BitVec w) : BitVec w :=
  (x &&& ~~~mask w msb lsb) ||| ((v <<< lsb) &&& mask w msb lsb)

theorem getLsbD_mask (h : Valid w msb lsb) (i : Nat) :
    (mask w msb lsb).getLsbD i = decide (lsb ≤ i ∧ i ≤ msb) := by
  obtain ⟨h1, h2⟩ := h
  simp only [mask, BitVec.getLsbD_shiftLeft, BitVec.getLsbD_ushiftRight, BitVec.getLsbD_allOnes]
  rw [Bool.eq_iff_iff]
  simp only [Bool.and_eq_true, decide_eq_true_eq, Bool.not_eq_true', decide_eq_false_iff_not]
  omega

theorem getLsbD_replace (h : Valid w msb lsb) (x v : BitVec w) (i : Nat) :
    (replace x msb lsb v).getLsbD i =
      if lsb ≤ i ∧ i ≤ msb then v.getLsbD (i - lsb) else x.getLsbD i := by
  have hw := h.2
  by_cases hin : lsb ≤ i ∧ i ≤ msb
  · simp [replace, getLsbD_mask h, hin, show i < w by omega, show ¬i < lsb by omega]
  · simp only [replace, BitVec.getLsbD_or, BitVec.getLsbD_and, BitVec.getLsbD_not, getLsbD_mask h,
      hin, decide_False, Bool.not_false, Bool.and_false, Bool.or_false, Bool.and_true, if_false]
    exact Bool.and_iff_left_iff_imp.mpr fun hx => decide_eq_true (BitVec.lt_of_getLsbD hx)

/-- On a declared range the setter computes `replace`: its shifts and subtractions do not
overflow. -/
theorem set_bit_range_of_valid (x v : BitVec w) (h : Valid w msb lsb) :
    set_bit_range x msb lsb v = .ret (replace x msb lsb v) := by
  obtain ⟨h1, h2⟩ := h
  simp only [set_bit_range, usize_sub, shl, shr, if_pos (show msb ≤ w by omega),
    if_pos (show 1 ≤ w - msb by omega), if_pos (show w - msb - 1 < w by omega),
    if_pos (show w - msb - 1 + lsb < w by omega), if_pos (show lsb < w by omega),
    Outcome.ret_bind, Outcome.pure_eq_ret]
  rfl

theorem testBit_field (n msb lsb i : Nat) :
    (field n msb lsb).testBit i = (decide (i < msb - lsb + 1) && n.testBit (lsb + i)) := by
  simp [field, Nat.testBit_mod_two_pow, Nat.testBit_shiftRight]

/-- Reading a range back after writing it gives the written value cut to the range's width. -/
theorem field_replace (h : Valid w msb lsb) (x v : BitVec w) :
    field (replace x msb lsb v).toNat msb lsb = v.toNat % 2 ^ (msb - lsb + 1) := by
  have h1 := h.1
  apply Nat.eq_of_testBit_eq
  intro i
  rw [testBit_field, BitVec.testBit_toNat, getLsbD_replace h, Nat.testBit_mod_two_pow,
    BitVec.testBit_toNat]
  by_cases hi : i < msb - lsb + 1
  · simp [hi, show lsb + i ≤ msb by omega]
  · simp [hi]

/-- Writing a range leaves every range disjoint from it as it was. -/
theorem field_replace_of_disjoint {msb' lsb' : Nat} (h : Valid w msb lsb) (h' : lsb' ≤ msb')
    (hd : msb < lsb' ∨ msb' < lsb) (x v : BitVec w) :
    field (replace x msb lsb v).toNat msb' lsb' = field x.toNat msb' lsb' := by
  apply Nat.eq_of_testBit_eq
  intro i
  rw [testBit_field, testBit_field, BitVec.testBit_toNat, getLsbD_replace h,
    BitVec.testBit_toNat]
  by_cases hi : i < msb' - lsb' + 1
  · simp [hi, show ¬(lsb ≤ lsb' + i ∧ lsb' + i ≤ msb) by omega]
  · simp [hi]

/-- Writing back what a range holds changes nothing. -/
theorem replace_field (h : Valid w msb lsb) (x : BitVec w) :
    replace x msb lsb (BitVec.ofNat w (field x.toNat msb lsb)) = x := by
  have h1 := h.1
  ext ⟨i, hi⟩
  dsimp only
  rw [getLsbD_replace h]
  split_ifs with hin
  · rw [BitVec.getLsbD_ofNat, testBit_field, BitVec.testBit_toNat, show lsb + (i - lsb) = i by omega]
    simp [show i - lsb < w by omega, show i - lsb < msb - lsb + 1 by omega]
  · rfl

/-- A second write of a range overrides the first. -/
theorem replace_replace (h : Valid w msb lsb) (x v v' : BitVec w) :
    replace (replace x msb lsb v) msb lsb v' = replace x msb lsb v' := by
  ext ⟨i, hi⟩
  rw [getLsbD_replace h, getLsbD_replace h, getLsbD_replace h]
  split_ifs <;> rfl

/-- Setting bits outside a range does not change what the range reads. -/
theorem field_or_of_disjoint (h : lsb ≤ msb) (x y : BitVec w)
    (hy : ∀ i, lsb ≤ i → i ≤ msb → y.getLsbD i = false) :
    field (x ||| y).toNat msb lsb = field x.toNat msb lsb := by
  apply Nat.eq_of_testBit_eq
  intro i
  rw [testBit_field, testBit_field, BitVec.testBit_toNat, BitVec.getLsbD_or, BitVec.testBit_toNat]
  by_cases hi : i < msb - lsb + 1
  · simp [hi, hy (lsb + i) (by omega) (by omega)]
  · simp [hi]

/-- The getter and setter that `bitfield!` generates from one line `getter, setter: msb, lsb;`
of a struct `T` over a `w`-bit word, with the name and range written on that line. -/
structure Accessor (T : Type) (w : Nat) where
  name : String
  msb : Nat
  lsb : Nat
  get : T → Outcome (BitVec w)
  set : T → BitVec w → Outcome T

/-- The accessor is the macro's expansion of its line on the newtype `mk`/`val`. -/
def Accessor.Generated {T : Type} {w : Nat} (mk : BitVec w → T) (val : T → BitVec w)
    (a : Accessor T w) : Prop :=
  a.get = (fun t => bit_range w (val t) a.msb a.lsb) ∧
    a.set = (fun t v => mk <$> set_bit_range (val t) a.msb a.lsb v)

/-- A generated getter on a declared range returns the bits of that range. -/
theorem Accessor.get_of_generated {T : Type} {w : Nat} {mk : BitVec w → T} {val : T → BitVec w}
    {a : Accessor T w} (hgen : a.Generated mk val) (hv : Valid w a.msb a.lsb) (t : T) :
    a.get t = .ret (BitVec.ofNat w (field (val t).toNat a.msb a.lsb)) := by
  rw [hgen.1]
  exact bit_range_of_valid _ hv (by have := hv.2; omega)

/-- The laws of a table of setters, for every word `x` and all written values `v`, `v'`:
a write reads back cut to the range's width, keeps every bit outside its range and so
every other declared field, writing back what was read changes nothing, and a second write
overrides the first. -/
def SetterLaws {T : Type} {w : Nat} (mk : BitVec w → T) (table : List (Accessor T w)) : Prop :=
  ∀ a ∈ table, ∀ x v v' : BitVec w,
    (a.set (mk x) v >>= a.get) = .ret (BitVec.ofNat w (v.toNat % 2 ^ (a.msb - a.lsb + 1))) ∧
    (∃ y, a.set (mk x) v = .ret (mk y) ∧
      ∀ i, i < a.lsb ∨ a.msb < i → y.getLsbD i = x.getLsbD i) ∧
    (∀ b ∈ table, b.name ≠ a.name → (a.set (mk x) v >>= b.get) = b.get (mk x)) ∧
    (a.get (mk x) >>= a.set (mk x)) = .ret (mk x) ∧
    (a.set (mk x) v >>= fun t => a.set t v') = a.set (mk x) v'

/-- Generated accessors on declared, pairwise disjoint ranges obey the setter laws. -/
theorem setterLaws_of_generated {T : Type} {w : Nat} (mk : BitVec w → T) (val : T → BitVec w)
    (hval : ∀ x, val (mk x) = x) (table : List (Accessor T w))
    (hgen : ∀ a ∈ table, a.Generated mk val) (hvalid : ∀ a ∈ table, Valid w a.msb a.lsb)
    (hdisjoint : ∀ a ∈ table, ∀ b ∈ table, b.name ≠ a.name → b.msb < a.lsb ∨ a.msb < b.lsb) :
    SetterLaws mk table := by
  intro a ha x v v'
  obtain ⟨hget, hset⟩ := hgen a ha
  have hv := hvalid a ha
  have hr : a.msb - a.lsb + 1 ≤ w := by have := hv.2; omega
  simp only [hget, hset, hval, set_bit_range_of_valid _ _ hv, bit_range_of_valid _ hv hr,
    Outcome.map_ret, Outcome.ret_bind]
  refine ⟨by rw [field_replace hv], ⟨_, rfl, fun i hi => ?_⟩, fun b hb hne => ?_,
    by rw [replace_field hv], by rw [replace_replace hv]⟩
  · rw [getLsbD_replace hv, if_neg (by omega)]
  · obtain ⟨hbget, -⟩ := hgen b hb
    have hbv := hvalid b hb
    have hbr : b.msb - b.lsb + 1 ≤ w := by have := hbv.2; omega
    simp only [hbget, hval, bit_range_of_valid _ hbv hbr,
      field_replace_of_disjoint hv hbv.1 (by have := hdisjoint a ha b hb hne; omega)]

/-- Writes to disjoint ranges commute. -/
theorem replace_comm {msb' lsb' : Nat} (h : Valid w msb lsb) (h' : Valid w msb' lsb')
    (hd : msb < lsb' ∨ msb' < lsb) (x v v' : BitVec w) :
    replace (replace x msb lsb v) msb' lsb' v' = replace (replace x msb' lsb' v') msb lsb v := by
  ext ⟨i, hi⟩
  rw [getLsbD_replace h', getLsbD_replace h, getLsbD_replace h, getLsbD_replace h']
  split_ifs <;> first | rfl | omega

/-- A run of setter calls on a value, in order: each call writes its value through its
accessor, as a caller builds a word (`p.set_abi_major(v); p.set_smt_allowed(1); ...`). -/
def run_setters {T : Type} {w : Nat} : T → List (Accessor T w × BitVec w) → Outcome T
  | t, [] => .ret t
  | t, (a, v) :: calls => a.set t v >>= fun t => run_setters t calls

/-- The value that a run of setter calls writes last to the field `name`, if it writes it. -/
def last_write {T : Type} {w : Nat} (name : String) :
    List (Accessor T w × BitVec w) → Option (BitVec w)
  | [] => none
  | (a, v) :: calls => (last_write name calls).or (if a.name = name then some v else none)

/-- The word that a run of setter calls computes from `x` when no call overflows: each call's
`replace`, in order. -/
def replace_all {T : Type} {w : Nat} (x : BitVec w) (calls : List (Accessor T w × BitVec w)) :
    BitVec w :=
  calls.foldl (fun x c => replace x c.1.msb c.1.lsb c.2) x

@[simp] theorem replace_all_cons {T : Type} {w : Nat} (x : BitVec w) (c : Accessor T w × BitVec w)
    (calls : List (Accessor T w × BitVec w)) :
    replace_all x (c :: calls) = replace_all (replace x c.1.msb c.1.lsb c.2) calls := rfl

/-- The accessor lines of one `bitfield!` declaration over the newtype `wrap`/`val`, with what the
declaration guarantees of them: each line is the macro's expansion on a range inside the word,
differently named fields have disjoint ranges, and a name has one range. -/
structure Declaration (T : Type) (w : Nat) where
  wrap : BitVec w → T
  val : T → BitVec w
  val_wrap : ∀ x, val (wrap x) = x
  accessors : List (Accessor T w)
  generated : ∀ a ∈ accessors, a.Generated wrap val
  valid : ∀ a ∈ accessors, Valid w a.msb a.lsb
  disjoint : ∀ a ∈ accessors, ∀ b ∈ accessors, b.name ≠ a.name → b.msb < a.lsb ∨ a.msb < b.lsb
  named_once : ∀ a ∈ accessors, ∀ b ∈ accessors, b.name = a.name → b.msb = a.msb ∧ b.lsb = a.lsb

namespace Declaration

variable {T : Type} (D : Declaration T w) {a b : Accessor T w}

theorem get_eq (ha : a ∈ D.accessors) (x : BitVec w) :
    a.get (D.wrap x) = .ret (BitVec.ofNat w (field x.toNat a.msb a.lsb)) := by
  rw [Accessor.get_of_generated (D.generated a ha) (D.valid a ha), D.val_wrap]

/-- A declared setter never overflows: it writes `replace`. -/
theorem set_eq (ha : a ∈ D.accessors) (x v : BitVec w) :
    a.set (D.wrap x) v = .ret (D.wrap (replace x a.msb a.lsb v)) := by
  rw [(D.generated a ha).2]
  simp only [D.val_wrap, set_bit_range_of_valid _ _ (D.valid a ha), Outcome.map_ret]

/-- A run of declared setter calls never overflows and computes `replace_all`. -/
theorem run_setters_eq {calls : List (Accessor T w × BitVec w)}
    (hcalls : ∀ c ∈ calls, c.1 ∈ D.accessors) (x : BitVec w) :
    run_setters (D.wrap x) calls = .ret (D.wrap (replace_all x calls)) := by
  induction calls generalizing x with
  | nil => rfl
  | cons c calls ih =>
    obtain ⟨hc, hcalls⟩ := List.forall_mem_cons.mp hcalls
    rw [run_setters, D.set_eq hc, Outcome.ret_bind, ih hcalls, replace_all_cons]

/-- A run leaves every bit outside the declared fields as it was. -/
theorem getLsbD_replace_all {calls : List (Accessor T w × BitVec w)}
    (hcalls : ∀ c ∈ calls, c.1 ∈ D.accessors) (x : BitVec w) {i : Nat}
    (hi : ∀ a ∈ D.accessors, i < a.lsb ∨ a.msb < i) :
    (replace_all x calls).getLsbD i = x.getLsbD i := by
  induction calls generalizing x with
  | nil => rfl
  | cons c calls ih =>
    obtain ⟨hc, hcalls⟩ := List.forall_mem_cons.mp hcalls
    rw [replace_all_cons, ih hcalls, getLsbD_replace (D.valid _ hc),
      if_neg (by have := hi _ hc; omega)]

/-- A run from the zero word leaves every bit outside the declared fields clear. -/
theorem getLsbD_replace_all_zero {calls : List (Accessor T w × BitVec w)}
    (hcalls : ∀ c ∈ calls, c.1 ∈ D.accessors) {i : Nat}
    (hi : ∀ a ∈ D.accessors, i < a.lsb ∨ a.msb < i) : (replace_all 0 calls).getLsbD i = false := by
  rw [D.getLsbD_replace_all hcalls 0 hi]
  simp

/-- After a run, a declared field holds the value last written to it, cut to its width, or
what it held before if no call writes it. -/
theorem field_replace_all {calls : List (Accessor T w × BitVec w)}
    (hcalls : ∀ c ∈ calls, c.1 ∈ D.accessors) (hb : b ∈ D.accessors) (x : BitVec w) :
    field (replace_all x calls).toNat b.msb b.lsb = (last_write b.name calls).elim
      (field x.toNat b.msb b.lsb) fun v => v.toNat % 2 ^ (b.msb - b.lsb + 1) := by
  induction calls generalizing x with
  | nil => rfl
  | cons c calls ih =>
    obtain ⟨a, v⟩ := c
    obtain ⟨ha, hcalls⟩ := List.forall_mem_cons.mp hcalls
    rw [replace_all_cons, ih hcalls, last_write]
    cases last_write b.name calls with
    | some v' => rfl
    | none =>
      by_cases hab : a.name = b.name
      · obtain ⟨hmsb, hlsb⟩ := D.named_once a ha b hb hab.symm
        simp only [hab, if_true, Option.none_or, Option.elim_none, Option.elim_some, hmsb, hlsb,
          field_replace (D.valid a ha)]
      · simp only [hab, if_false, Option.none_or, Option.elim_none,
          field_replace_of_disjoint (D.valid a ha) (D.valid b hb).1
            (D.disjoint a ha b hb (Ne.symm hab)).symm]

/-- A run of declared setter calls from `wrap x` never overflows; it yields `wrap y` where every
declared field reads the value last written to it, cut to the field's width, or what it read
in `x` if no call writes it, and every bit outside the declared fields is that of `x`. -/
theorem run_setters_spec {calls : List (Accessor T w × BitVec w)}
    (hcalls : ∀ c ∈ calls, c.1 ∈ D.accessors) (x : BitVec w) :
    ∃ y, run_setters (D.wrap x) calls = .ret (D.wrap y) ∧
      (∀ i, (∀ a ∈ D.accessors, i < a.lsb ∨ a.msb < i) → y.getLsbD i = x.getLsbD i) ∧
      ∀ b ∈ D.accessors, b.get (D.wrap y) = .ret (BitVec.ofNat w ((last_write b.name calls).elim
        (field x.toNat b.msb b.lsb) fun v => v.toNat % 2 ^ (b.msb - b.lsb + 1))) :=
  ⟨_, D.run_setters_eq hcalls x, fun _ hi => D.getLsbD_replace_all hcalls x hi,
    fun _ hb => by rw [D.get_eq hb, D.field_replace_all hcalls hb]⟩

/-- Setters of differently named fields commute. -/
theorem set_comm (ha : a ∈ D.accessors) (hb : b ∈ D.accessors) (hab : a.name ≠ b.name)
    (x v v' : BitVec w) :
    (a.set (D.wrap x) v >>= fun t => b.set t v') = (b.set (D.wrap x) v' >>= fun t => a.set t v) := by
  rw [D.set_eq ha, Outcome.ret_bind, D.set_eq hb, D.set_eq hb, Outcome.ret_bind, D.set_eq ha,
    replace_comm (D.valid a ha) (D.valid b hb) (D.disjoint a ha b hb (Ne.symm hab)).symm]

end Declaration

end bitfield
