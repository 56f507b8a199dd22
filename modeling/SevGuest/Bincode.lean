import SevGuest.Rust
import Mathlib.Data.Vector.Basic

open rust Mathlib

namespace bincode

/-- `bincode::ErrorKind`, the variants raised here: an I/O error of the slice reader, and a
message built by serde (`serde::de::Error::custom`). -/
inductive ErrorKind where
  | Io (error : IoError)
  | Custom (msg : String)
  deriving DecidableEq, Repr

/-- bincode's `Display` for `ErrorKind`. -/
def ErrorKind.display : ErrorKind → String
  | .Io error => "io error: " ++ error.msg
  | .Custom msg => msg

/-- The error `SliceReader` raises when the slice runs out. -/
def unexpected_eof : ErrorKind := .Io ⟨.UnexpectedEof, ""⟩

/-- bincode's deserializer over a `SliceReader`: the state is the unread rest of the slice. -/
abbrev Reader (α : Type) := StateT (List u8) (Except ErrorKind) α

/-- `SliceReader::read_exact`: the next `n` bytes, or `unexpected_eof` when fewer remain. -/
def read_exact (n : Nat) : Reader (List u8) := fun s =>
  if n ≤ s.length then .ok (s.take n, s.drop n) else .error unexpected_eof

/-- `bincode::deserialize`, whose options allow trailing bytes: the value read from the front
of `bytes`, the unread rest dropped. -/
def deserialize {α : Type} (de : Reader α) (bytes : List u8) : Except ErrorKind α :=
  Prod.fst <$> de.run bytes

/-- `bincode::serialize` into a `Vec`; it cannot fail for the fixed-size types here, whose
serializer only writes integers and byte tuples. -/
def serialize {α : Type} (ser : α → List u8) (value : α) : Except ErrorKind (List u8) :=
  .ok (ser value)

namespace Reader

variable {α β : Type} {x : Reader α} {f : α → Reader β} {s : List u8}

@[simp] theorem pure_apply (a : α) : (pure a : Reader α) s = .ok (a, s) := rfl

theorem bind_of_ok {a : α} {s' : List u8} (h : x s = .ok (a, s')) : (x >>= f) s = f a s' := by
  show StateT.bind x f s = _
  simp [StateT.bind, h]
  rfl

theorem bind_of_error {e : ErrorKind} (h : x s = .error e) : (x >>= f) s = .error e := by
  show StateT.bind x f s = _
  simp [StateT.bind, h]
  rfl

end Reader

theorem read_exact_of_le {n : Nat} {s : List u8} (h : n ≤ s.length) :
    read_exact n s = .ok (s.take n, s.drop n) := if_pos h

theorem read_exact_of_lt {n : Nat} {s : List u8} (h : s.length < n) :
    read_exact n s = .error unexpected_eof := if_neg (by omega)

/-- A type whose bincode encoding has `size` bytes for every value, and which reads a value
back from every `size`-byte string: `encode` and `decode` are inverse bijections between the
values and the strings of `size` bytes. -/
structure FixedCodec (α : Type) (size : Nat) where
  encode : α → List u8
  decode : List u8 → α
  length_encode : ∀ a, (encode a).length = size
  decode_encode : ∀ a, decode (encode a) = a
  encode_decode : ∀ c, c.length = size → encode (decode c) = c

namespace FixedCodec

variable {α β : Type} {n m : Nat}

/-- Deserializing a value of a fixed-size type: `size` bytes, decoded. -/
def read (C : FixedCodec α n) : Reader α := do
  let c ← read_exact n
  pure (C.decode c)

theorem read_of_le (C : FixedCodec α n) {s : List u8} (h : n ≤ s.length) :
    C.read s = .ok (C.decode (s.take n), s.drop n) :=
  Reader.bind_of_ok (read_exact_of_le h)

theorem read_of_lt (C : FixedCodec α n) {s : List u8} (h : s.length < n) :
    C.read s = .error unexpected_eof :=
  Reader.bind_of_error (read_exact_of_lt h)

theorem read_encode_append (C : FixedCodec α n) (a : α) (rest : List u8) :
    C.read (C.encode a ++ rest) = .ok (a, rest) := by
  rw [C.read_of_le (by simp [C.length_encode]), List.take_left' (C.length_encode a),
    List.drop_left' (C.length_encode a), C.decode_encode]

@[simp] theorem read_encode_append_bind {γ : Type} (C : FixedCodec α n) (a : α)
    (f : α → Reader γ) (rest : List u8) : (C.read >>= f) (C.encode a ++ rest) = f a rest :=
  Reader.bind_of_ok (C.read_encode_append a rest)

theorem encode_injective (C : FixedCodec α n) : Function.Injective C.encode :=
  fun a b h => by rw [← C.decode_encode a, h, C.decode_encode]

/-- Two fixed-size values side by side, as a derived `Serialize` writes consecutive fields. -/
def prod (P : FixedCodec α n) (Q : FixedCodec β m) : FixedCodec (α × β) (n + m) where
  encode p := P.encode p.1 ++ Q.encode p.2
  decode c := (P.decode (c.take n), Q.decode (c.drop n))
  length_encode p := by simp [P.length_encode, Q.length_encode]
  decode_encode p := by
    simp [List.take_left' (P.length_encode _), List.drop_left' (P.length_encode _),
      P.decode_encode, Q.decode_encode]
  encode_decode c h := by
    show P.encode _ ++ Q.encode _ = c
    rw [P.encode_decode _ (by simp; omega), Q.encode_decode _ (by simp; omega),
      List.take_append_drop]

/-- The same encoding moved along a bijection, as a record is its tuple of fields. -/
def map (P : FixedCodec α n) (e : α ≃ β) : FixedCodec β n where
  encode b := P.encode (e.symm b)
  decode c := e (P.decode c)
  length_encode b := P.length_encode _
  decode_encode b := by simp [P.decode_encode]
  encode_decode c h := by simp [P.encode_decode c h]

@[simp] theorem prod_encode (P : FixedCodec α n) (Q : FixedCodec β m) (p : α × β) :
    (P.prod Q).encode p = P.encode p.1 ++ Q.encode p.2 := rfl

@[simp] theorem prod_decode (P : FixedCodec α n) (Q : FixedCodec β m) (c : List u8) :
    (P.prod Q).decode c = (P.decode (c.take n), Q.decode (c.drop n)) := rfl

@[simp] theorem map_encode (P : FixedCodec α n) (e : α ≃ β) (b : β) :
    (P.map e).encode b = P.encode (e.symm b) := rfl

@[simp] theorem map_decode (P : FixedCodec α n) (e : α ≃ β) (c : List u8) :
    (P.map e).decode c = e (P.decode c) := rfl

/-- Reading a pair is reading its two halves in turn: the sequential reads of a derived
`Deserialize` are the read of the product encoding. -/
theorem read_prod (P : FixedCodec α n) (Q : FixedCodec β m) :
    (P.prod Q).read = (do let a ← P.read; let b ← Q.read; pure (a, b)) := by
  funext s
  by_cases hn : n ≤ s.length
  · rw [Reader.bind_of_ok (P.read_of_le hn)]
    by_cases hm : m ≤ s.length - n
    · rw [Reader.bind_of_ok (Q.read_of_le (by simpa using hm)), Reader.pure_apply,
        read_of_le _ (by omega)]
      simp [List.take_take, List.drop_take, List.drop_drop, Nat.add_comm]
    · rw [Reader.bind_of_error (Q.read_of_lt (by simp; omega)), read_of_lt _ (by omega)]
  · rw [Reader.bind_of_error (P.read_of_lt (by omega)), read_of_lt _ (by omega)]

theorem read_map (P : FixedCodec α n) (e : α ≃ β) :
    (P.map e).read = (do let a ← P.read; pure (e a)) := by
  funext s
  by_cases h : n ≤ s.length
  · rw [Reader.bind_of_ok (P.read_of_le h), read_of_le _ h]
    rfl
  · rw [Reader.bind_of_error (P.read_of_lt (by omega)), read_of_lt _ (by omega)]

theorem read_prod_bind {γ : Type} (P : FixedCodec α n) (Q : FixedCodec β m)
    (f : α × β → Reader γ) :
    (P.prod Q).read >>= f = P.read >>= fun a => Q.read >>= fun b => f (a, b) := by
  simp [read_prod]

theorem read_map_bind {γ : Type} (P : FixedCodec α n) (e : α ≃ β) (f : β → Reader γ) :
    (P.map e).read >>= f = P.read >>= fun a => f (e a) := by
  simp [read_map]

/-- `u8`: one byte. -/
def u8 : FixedCodec rust.u8 1 where
  encode b := [b]
  decode c := c.headD 0
  length_encode _ := rfl
  decode_encode _ := rfl
  encode_decode c h := by
    match c, h with
    | [_], _ => rfl

/-- `u32` under the fixed-int encoding: four little-endian bytes. -/
def u32 : FixedCodec rust.u32 4 where
  encode := u32.to_le_bytes
  decode := u32.from_le_bytes
  length_encode _ := length_toLeBytes _ _
  decode_encode x := by
    apply BitVec.eq_of_toNat_eq
    simp [u32.from_le_bytes, u32.to_le_bytes, ofLeBytes_toLeBytes]
    omega
  encode_decode c h := by
    have hlt := ofLeBytes_lt c
    rw [h] at hlt
    simp only [u32.to_le_bytes, u32.from_le_bytes, BitVec.toNat_ofNat]
    rw [Nat.mod_eq_of_lt (by omega), ← h, toLeBytes_ofLeBytes]

/-- `u64` under the fixed-int encoding: eight little-endian bytes. -/
def u64 : FixedCodec rust.u64 8 where
  encode := u64.to_le_bytes
  decode := u64.from_le_bytes
  length_encode _ := length_toLeBytes _ _
  decode_encode x := by
    apply BitVec.eq_of_toNat_eq
    simp [u64.from_le_bytes, u64.to_le_bytes, ofLeBytes_toLeBytes]
    omega
  encode_decode c h := by
    have hlt := ofLeBytes_lt c
    rw [h] at hlt
    simp only [u64.to_le_bytes, u64.from_le_bytes, BitVec.toNat_ofNat]
    rw [Nat.mod_eq_of_lt (by omega), ← h, toLeBytes_ofLeBytes]

/-- `[u8; n]`: its `n` bytes in order, with no length prefix (serde writes arrays as tuples). -/
def bytes (n : Nat) : FixedCodec (Vector rust.u8 n) n where
  encode v := v.toList
  decode c := if h : c.length = n then ⟨c, h⟩ else Vector.replicate n 0
  length_encode v := v.toList_length
  decode_encode v := by simp
  encode_decode c h := by simp [h]

@[simp] theorem u8_decode_cons (x : rust.u8) (c : List rust.u8) : u8.decode (x :: c) = x := rfl

@[simp] theorem u32_decode (c : List rust.u8) : u32.decode c = rust.u32.from_le_bytes c := rfl

@[simp] theorem u64_decode (c : List rust.u8) : u64.decode c = rust.u64.from_le_bytes c := rfl

theorem bytes_decode_toList {n : Nat} {c : List rust.u8} (h : c.length = n) :
    ((bytes n).decode c).toList = c := by
  simp [bytes, h]

theorem bytes_decode_slice {n i j : Nat} {b : List rust.u8} (hn : j - i = n) (hj : j ≤ b.length) :
    ((bytes n).decode (slice b i j)).toList = slice b i j :=
  bytes_decode_toList (by simp; omega)

theorem bytes_decode_cons {n : Nat} (b : rust.u8) (c : List rust.u8) (h : c.length = n) :
    (bytes (n + 1)).decode (b :: c) = b ::ᵥ (bytes n).decode c := by
  apply Vector.eq
  simp [bytes, h]

end FixedCodec

/-- bincode's `deserialize_u8`: one byte from the reader. -/
def deserialize_u8 : Reader u8 := do
  let c ← read_exact 1
  pure (c.headD 0)

/-- bincode's `deserialize_u32` under the fixed-int encoding. -/
def deserialize_u32 : Reader u32 := do
  let c ← read_exact 4
  pure (u32.from_le_bytes c)

/-- bincode's `deserialize_u64` under the fixed-int encoding. -/
def deserialize_u64 : Reader u64 := do
  let c ← read_exact 8
  pure (u64.from_le_bytes c)

/-- serde's `Deserialize` for `[u8; N]` and for `serde_big_array::BigArray`: a tuple of `N`
elements, each read by `deserialize_u8`, the first missing one failing the whole read. -/
def deserialize_array : (n : Nat) → Reader (Vector u8 n)
  | 0 => pure Vector.nil
  | n + 1 => do
    let b ← deserialize_u8
    let rest ← deserialize_array n
    pure (b ::ᵥ rest)

@[simp] theorem deserialize_u8_eq : deserialize_u8 = FixedCodec.u8.read := rfl

@[simp] theorem deserialize_u32_eq : deserialize_u32 = FixedCodec.u32.read := rfl

@[simp] theorem deserialize_u64_eq : deserialize_u64 = FixedCodec.u64.read := rfl

/-- The element-by-element array read consumes exactly `n` bytes, and fails exactly when
fewer than `n` remain. -/
@[simp] theorem deserialize_array_eq (n : Nat) :
    deserialize_array n = (FixedCodec.bytes n).read := by
  induction n with
  | zero =>
    funext s
    rw [FixedCodec.read_of_le _ (Nat.zero_le _)]
    rfl
  | succ n ih =>
    funext s
    show (FixedCodec.u8.read >>= fun b => deserialize_array n >>= fun rest =>
      pure (b ::ᵥ rest)) s = _
    rw [ih]
    cases s with
    | nil => rw [Reader.bind_of_error (FixedCodec.u8.read_of_lt (by simp)),
        FixedCodec.read_of_lt _ (by simp)]
    | cons b s =>
      rw [Reader.bind_of_ok (FixedCodec.u8.read_of_le (by simp))]
      by_cases h : n ≤ s.length
      · rw [Reader.bind_of_ok (FixedCodec.read_of_le _ (by simpa using h)),
          FixedCodec.read_of_le _ (by simpa using h)]
        simp [FixedCodec.u8, FixedCodec.bytes_decode_cons b _ (List.length_take_of_le h)]
      · rw [Reader.bind_of_error (FixedCodec.read_of_lt _ (by simp; omega)),
          FixedCodec.read_of_lt _ (by simp; omega)]

end bincode
