import SevGuest.Snp.Bitfields

open rust bitfield

namespace sev.guest

/-- Every run of setter calls on a guest policy or a field selector never overflows and is
determined by its last writes: each declared field then reads the value last written to it,
cut to the field's width, or what it read before if no call writes it, and every bit outside
the declared fields keeps its value. -/
theorem setter_runs_read_last_write :
    (∀ calls : List (Accessor GuestPolicy 64 × u64), (∀ c ∈ calls, c.1 ∈ GuestPolicy.accessors) →
      ∀ x : u64, ∃ y, run_setters ⟨x⟩ calls = .ret ⟨y⟩ ∧
        (∀ i, (∀ a ∈ GuestPolicy.accessors, i < a.lsb ∨ a.msb < i) → y.getLsbD i = x.getLsbD i) ∧
        ∀ b ∈ GuestPolicy.accessors, b.get ⟨y⟩ = .ret (BitVec.ofNat 64
          ((last_write b.name calls).elim (bitfield.field x.toNat b.msb b.lsb)
            fun v => v.toNat % 2 ^ (b.msb - b.lsb + 1)))) ∧
    (∀ calls : List (Accessor GuestFieldSelect 64 × u64),
      (∀ c ∈ calls, c.1 ∈ GuestFieldSelect.accessors) →
      ∀ x : u64, ∃ y, run_setters ⟨x⟩ calls = .ret ⟨y⟩ ∧
        (∀ i, (∀ a ∈ GuestFieldSelect.accessors, i < a.lsb ∨ a.msb < i) →
          y.getLsbD i = x.getLsbD i) ∧
        ∀ b ∈ GuestFieldSelect.accessors, b.get ⟨y⟩ = .ret (BitVec.ofNat 64
          ((last_write b.name calls).elim (bitfield.field x.toNat b.msb b.lsb)
            fun v => v.toNat % 2 ^ (b.msb - b.lsb + 1)))) :=
  ⟨fun _ hcalls x => GuestPolicy.declaration.run_setters_spec hcalls x,
    fun _ hcalls x => GuestFieldSelect.declaration.run_setters_spec hcalls x⟩

/-- Setters of different fields of a guest policy or a field selector commute, for every word
and all written values: the order in which a caller sets fields does not matter. -/
theorem setters_commute :
    (∀ a ∈ GuestPolicy.accessors, ∀ b ∈ GuestPolicy.accessors, a.name ≠ b.name →
      ∀ x v v' : u64, (a.set ⟨x⟩ v >>= fun p => b.set p v') = (b.set ⟨x⟩ v' >>= fun p => a.set p v)) ∧
    (∀ a ∈ GuestFieldSelect.accessors, ∀ b ∈ GuestFieldSelect.accessors, a.name ≠ b.name →
      ∀ x v v' : u64, (a.set ⟨x⟩ v >>= fun s => b.set s v') = (b.set ⟨x⟩ v' >>= fun s => a.set s v)) :=
  ⟨fun _ ha _ hb hab => GuestPolicy.declaration.set_comm ha hb hab,
    fun _ ha _ hb hab => GuestFieldSelect.declaration.set_comm ha hb hab⟩

/-- Built from the derived default, the zero word, by any run of setter calls, a policy and a
field selector keep their reserved bits clear: bits 17 and 25 to 63 of the policy, 6 to 63 of
the selector. Converted to `u64`, the policy then has bit 17 set and bits 25 to 63 clear. -/
theorem setter_runs_keep_reserved_bits :
    (∀ calls : List (Accessor GuestPolicy 64 × u64), (∀ c ∈ calls, c.1 ∈ GuestPolicy.accessors) →
      ∃ p, run_setters GuestPolicy.default calls = .ret p ∧ p.val.getLsbD 17 = false ∧
        (u64.from p).getLsbD 17 = true ∧ ∀ i, 25 ≤ i → (u64.from p).getLsbD i = false) ∧
    (∀ calls : List (Accessor GuestFieldSelect 64 × u64),
      (∀ c ∈ calls, c.1 ∈ GuestFieldSelect.accessors) →
      ∃ s, run_setters GuestFieldSelect.default calls = .ret s ∧
        ∀ i, 6 ≤ i → s.val.getLsbD i = false) := by
  have hpolicy : ∀ a ∈ GuestPolicy.accessors, a.msb < 25 ∧ (17 < a.lsb ∨ a.msb < 17) := by decide
  have hselect : ∀ a ∈ GuestFieldSelect.accessors, a.msb < 6 := by decide
  refine ⟨fun calls hcalls => ⟨⟨replace_all 0 calls⟩,
      GuestPolicy.declaration.run_setters_eq hcalls 0, ?_⟩,
    fun calls hcalls => ⟨⟨replace_all 0 calls⟩, GuestFieldSelect.declaration.run_setters_eq hcalls 0,
      fun i hi => GuestFieldSelect.declaration.getLsbD_replace_all_zero hcalls
        fun a ha => .inr (by have := hselect a ha; omega)⟩⟩
  have h17 := GuestPolicy.declaration.getLsbD_replace_all_zero hcalls fun a ha => (hpolicy a ha).2
  refine ⟨h17, by rw [getLsbD_u64_from]; rfl, fun i hi => ?_⟩
  rw [getLsbD_u64_from, decide_eq_false (by omega), Bool.false_or]
  exact GuestPolicy.declaration.getLsbD_replace_all_zero hcalls
    fun a ha => .inr (by have := (hpolicy a ha).1; omega)

end sev.guest
