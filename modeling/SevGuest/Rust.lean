import Mathlib.Data.BitVec
import Mathlib.Logic.Equiv.Defs

namespace rust

/-- `u8`, `u32` and `u64` are the bit vectors of their width; arithmetic on them wraps
unless a definition checks for overflow explicitly. -/
abbrev u8 := BitVec 8
abbrev u32 := BitVec 32
abbrev u64 := BitVec 64

/-- What a call of Rust code does: it returns, or it panics (an index out of bounds, or an
arithmetic overflow in a build with overflow checks). A function returning `Result<T, E>` is
modelled in `ExceptT E Outcome T`, so that `?` is `←` and a panic is neither `Ok` nor `Err`. -/
inductive Outcome (α : Type) where
  | ret (value : α)
  | panic
  deriving DecidableEq, Repr

instance : Monad Outcome where
  pure := .ret
  bind x f := match x with
    | .ret a => f a
    | .panic => .panic

instance : LawfulMonad Outcome := LawfulMonad.mk' Outcome
  (fun x => by cases x <;> rfl) (fun _ _ => rfl) (fun x _ _ => by cases x <;> rfl)

namespace Outcome

@[simp] theorem pure_eq_ret {α : Type} (a : α) : (pure a : Outcome α) = .ret a := rfl

@[simp] theorem ret_bind {α β : Type} (a : α) (f : α → Outcome β) : (Outcome.ret a >>= f) = f a :=
  rfl

@[simp] theorem panic_bind {α β : Type} (f : α → Outcome β) :
    ((Outcome.panic : Outcome α) >>= f) = .panic := rfl

@[simp] theorem map_ret {α β : Type} (f : α → β) (a : α) : f <$> Outcome.ret a = .ret (f a) :=
  rfl

theorem bind_eq_ret {α β : Type} {x : Outcome α} {f : α → Outcome β} {b : β} :
    (x >>= f) = .ret b ↔ ∃ a, x = .ret a ∧ f a = .ret b := by
  cases x <;> simp

/-- A panic in what follows a computation is a panic of the whole. -/
@[simp] theorem bind_const_panic {α β : Type} (x : Outcome α) :
    (x >>= fun _ => (Outcome.panic : Outcome β)) = .panic := by
  cases x <;> rfl

/-- A value of the inner monad lifted into a `Result`-returning function. -/
@[simp] theorem lift_ret_bind {ε α β : Type} (a : α) (f : α → ExceptT ε Outcome β) :
    (liftM (Outcome.ret a) >>= f) = f a := rfl

/-- A `Result`-returning function succeeds exactly when each step does. -/
theorem run_bind_eq_ok {ε α β : Type} {x : ExceptT ε Outcome α} {f : α → ExceptT ε Outcome β}
    {b : β} : (x >>= f).run = .ret (.ok b) ↔ ∃ a, x.run = .ret (.ok a) ∧ (f a).run = .ret (.ok b) := by
  rw [ExceptT.run_bind]
  rcases x.run with (e | a) | _ <;> simp

@[simp] theorem run_liftM {ε α : Type} (x : Except ε α) :
    (liftM x : ExceptT ε Outcome α).run = .ret x := rfl

end Outcome

/-- `Result::map_err` changes only the error. -/
@[simp] theorem mapError_eq_ok {ε ε' α : Type} (x : Except ε α) (g : ε → ε') (a : α) :
    x.mapError g = .ok a ↔ x = .ok a := by
  cases x <;> simp [Except.mapError]

/-- `s[i]` on a byte slice: the byte, or a panic when `i` is out of bounds. -/
def index (s : List u8) (i : Nat) : Outcome u8 :=
  match s[i]? with
  | some b => .ret b
  | none => .panic

/-- `s[..n]` on a byte slice: the first `n` bytes, or a panic when the slice is shorter. -/
def slice_to (s : List u8) (n : Nat) : Outcome (List u8) :=
  if n ≤ s.length then .ret (s.take n) else .panic

/-- The bytes `b[i..j]` of a slice that holds them, as specifications name a byte range. -/
def slice (b : List u8) (i j : Nat) : List u8 :=
  (b.drop i).take (j - i)

@[simp] theorem length_slice (b : List u8) (i j : Nat) :
    (slice b i j).length = min (j - i) (b.length - i) := by
  simp [slice]

theorem slice_eq_singleton {b : List u8} {i j : Nat} (hj : j = i + 1) (h : i < b.length) :
    slice b i j = [b.getD i 0] := by
  rw [slice, List.drop_eq_getElem_cons h, hj, Nat.add_sub_cancel_left, List.getD_eq_getElem?_getD,
    List.getElem?_eq_getElem h]
  rfl

theorem index_of_lt {s : List u8} {i : Nat} (h : i < s.length) : index s i = .ret s[i] := by
  simp [index, List.getElem?_eq_getElem h]

theorem index_of_le {s : List u8} {i : Nat} (h : s.length ≤ i) : index s i = .panic := by
  simp [index, List.getElem?_eq_none h]

theorem slice_to_of_le {s : List u8} {n : Nat} (h : n ≤ s.length) :
    slice_to s n = .ret (s.take n) := if_pos h

/-- `a - b` on `usize`, compiled with overflow checks: a panic when `b > a`. -/
def usize_sub (a b : Nat) : Outcome Nat :=
  if b ≤ a then .ret (a - b) else .panic

/-- `x << s`, compiled with overflow checks: a panic unless `s` is below the width. -/
def shl {w : Nat} (x : BitVec w) (s : Nat) : Outcome (BitVec w) :=
  if s < w then .ret (x <<< s) else .panic

/-- `x >> s` on an unsigned integer, compiled with overflow checks. -/
def shr {w : Nat} (x : BitVec w) (s : Nat) : Outcome (BitVec w) :=
  if s < w then .ret (x >>> s) else .panic

/-- `std::io::ErrorKind`, the kinds this crate and its dependencies raise here. -/
inductive IoErrorKind where
  | Other
  | UnexpectedEof
  deriving DecidableEq, Repr

/-- `std::io::Error`: a kind and the message it was created with. -/
structure IoError where
  kind : IoErrorKind
  msg : String
  deriving DecidableEq, Repr

/-- The natural number whose little-endian bytes are `c`. -/
def ofLeBytes : List u8 → Nat
  | [] => 0
  | b :: c => b.toNat + 256 * ofLeBytes c

/-- The `n` little-endian bytes of `x`; bits above `8 * n` are dropped. -/
def toLeBytes : Nat → Nat → List u8
  | 0, _ => []
  | n + 1, x => BitVec.ofNat 8 x :: toLeBytes n (x / 256)

@[simp] theorem length_toLeBytes (n x : Nat) : (toLeBytes n x).length = n := by
  induction n generalizing x <;> simp [toLeBytes, *]

theorem ofLeBytes_lt (c : List u8) : ofLeBytes c < 256 ^ c.length := by
  induction c with
  | nil => simp [ofLeBytes]
  | cons b c ih =>
    have hb : b.toNat < 256 := b.isLt
    simp only [ofLeBytes, List.length_cons, pow_succ]
    omega

theorem ofLeBytes_toLeBytes (n x : Nat) : ofLeBytes (toLeBytes n x) = x % 256 ^ n := by
  induction n generalizing x with
  | zero => simp [toLeBytes, ofLeBytes, Nat.mod_one]
  | succ n ih =>
    rw [pow_succ', Nat.mod_mul, ← ih]
    simp [toLeBytes, ofLeBytes]

theorem toLeBytes_ofLeBytes (c : List u8) : toLeBytes c.length (ofLeBytes c) = c := by
  induction c with
  | nil => rfl
  | cons b c ih =>
    have hb : b.toNat < 256 := b.isLt
    simp only [List.length_cons, toLeBytes, ofLeBytes]
    congr 1
    · apply BitVec.eq_of_toNat_eq
      simp only [BitVec.toNat_ofNat]
      omega
    · rw [show (b.toNat + 256 * ofLeBytes c) / 256 = ofLeBytes c by omega, ih]

/-- `u32::from_le_bytes`. -/
def u32.from_le_bytes (bytes : List u8) : u32 := BitVec.ofNat 32 (ofLeBytes bytes)

/-- `u32::to_le_bytes`. -/
def u32.to_le_bytes (x : u32) : List u8 := toLeBytes 4 x.toNat

/-- `u64::from_le_bytes`. -/
def u64.from_le_bytes (bytes : List u8) : u64 := BitVec.ofNat 64 (ofLeBytes bytes)

/-- `u64::to_le_bytes`. -/
def u64.to_le_bytes (x : u64) : List u8 := toLeBytes 8 x.toNat

/-- `Display` of an unsigned integer: its decimal digits. -/
def display_uint {w : Nat} (x : BitVec w) : String := toString x.toNat

/-- `LowerHex` of an unsigned integer (`{:x}` in a format string): its lowercase hexadecimal
digits. -/
def lower_hex {w : Nat} (x : BitVec w) : String := String.mk (Nat.toDigits 16 x.toNat)

/-- The arguments of a `write!`, each formatted in turn; one whose formatting panics panics the
whole. -/
def format_args : List (Outcome String) → Outcome (List String)
  | [] => .ret []
  | arg :: args => do
    let s ← arg
    let ss ← format_args args
    pure (s :: ss)

/-- The literal pieces of a format string with the formatted arguments between them. -/
def interleave : List String → List String → String
  | piece :: pieces, arg :: args => piece ++ arg ++ interleave pieces args
  | pieces, [] => String.join pieces
  | [], _ :: _ => ""

/-- `write!` into a `String`: the literal pieces of the format string, split at its
placeholders, with the arguments formatted in order between them. -/
def write (pieces : List String) (args : List (Outcome String)) : Outcome String := do
  let args ← format_args args
  pure (interleave pieces args)

theorem format_args_eq_panic (args : List (Outcome String)) :
    format_args args = .panic ↔ ∃ arg ∈ args, arg = .panic := by
  induction args with
  | nil => simp [format_args]
  | cons arg args ih =>
    simp only [List.mem_cons, exists_eq_or_imp, ← ih]
    cases arg <;> cases h : format_args args <;> simp [format_args, h]

/-- A `write!` panics exactly when formatting one of its arguments does. -/
theorem write_eq_panic (pieces : List String) (args : List (Outcome String)) :
    write pieces args = .panic ↔ ∃ arg ∈ args, arg = .panic := by
  rw [write, ← format_args_eq_panic]
  cases format_args args <;> simp

end rust
