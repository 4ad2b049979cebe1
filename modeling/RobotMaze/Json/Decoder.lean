import RobotMaze.Json.Reading

/-! # Decoders — from readings to typed values

    A decoder turns a reading into a value of some type, or says which fault it
    met first:

    * `Fault.malformed` — the text is no JSON, or something other than a name
      stands where one of a set of names is wanted;
    * `Fault.mismatch` — the text is JSON, but of another shape, out of range,
      with a member missing or given twice.

    A `Record` decodes an object by its members, in any order and with unknown
    ones skipped, or an array by position. -/

namespace RobotMaze.Json

/-- Why a text has no value of the wanted type. -/
inductive Fault where
  | malformed
  | mismatch
  deriving DecidableEq, Repr

/-- Reads a value of a type. -/
abbrev Decoder (α : Type) := Reading → Except Fault α

namespace Decoder

/-- The fault of a reading of the wrong kind. -/
def wrongKind {α : Type} : Reading → Except Fault α
  | .broken => .error .malformed
  | .valueless => .error .malformed
  | _ => .error .mismatch

/-- A text. -/
def string : Decoder String
  | .string s => .ok s
  | r => wrongKind r

/-- A truth value. -/
def bool : Decoder Bool
  | .bool b => .ok b
  | r => wrongKind r

/-- A whole number within bounds. -/
def within (low high : Int) : Decoder Int
  | .number (.whole n) => if low ≤ n ∧ n ≤ high then .ok n else .error .mismatch
  | r => wrongKind r

/-- A whole number of 64 bits. -/
def int64 : Decoder Int := within (-0x8000000000000000) 0x7FFFFFFFFFFFFFFF

/-- A whole number of 32 bits. -/
def int32 : Decoder Int := within (-0x80000000) 0x7FFFFFFF

/-- A whole number from zero on, below a bound. -/
def below (bound : Nat) : Decoder Nat
  | .number (.whole n) => if 0 ≤ n ∧ n < bound then .ok n.toNat else .error .mismatch
  | r => wrongKind r

/-- A count of 64 bits. -/
def count : Decoder Nat := below 0x10000000000000000

/-- A number of 32 bits from zero on. -/
def uint32 : Decoder UInt32 := fun r => (below 0x100000000 r).map UInt32.ofNat

/-- A floating-point number; a whole number stands for the nearest one. -/
def float : Decoder Float
  | .number (.whole n) =>
      .ok (if 0 ≤ n then (UInt64.ofNat n.toNat).toFloat else -(UInt64.ofNat n.natAbs).toFloat)
  | .number (.float x) => .ok x
  | r => wrongKind r

/-- A value that may be `null`. -/
def nullable {α : Type} (d : Decoder α) : Decoder (Option α)
  | .null => .ok none
  | r => (d r).map some

/-- All items, each by the same decoder. -/
def items {α : Type} (d : Decoder α) : List Reading → Except Fault (List α)
  | [] => .ok []
  | r :: rest => do
      let a ← d r
      let as ← items d rest
      return a :: as

/-- A list of values. -/
def list {α : Type} (d : Decoder α) : Decoder (List α)
  | .array rs closed => do
      let as ← items d rs
      if closed then return as else throw .malformed
  | r => wrongKind r

/-- The members of an object, each value by the same decoder, in the order of the text. -/
def entries {κ α : Type} (key : String → Option κ) (d : Decoder α) :
    List (String × Reading) → Except Fault (List (κ × α))
  | [] => .ok []
  | (k, r) :: rest =>
      match key k with
      | none => .error .mismatch
      | some k => do
          let a ← d r
          let more ← entries key d rest
          return (k, a) :: more

/-- An object with arbitrary keys. -/
def table {κ α : Type} (key : String → Option κ) (d : Decoder α) : Decoder (List (κ × α))
  | .object members closed => do
      let pairs ← entries key d members
      if closed then return pairs else throw .malformed
  | r => wrongKind r

/-- One of a set of names, also as an object with that name and `null`. -/
def name {α : Type} (ofName? : String → Option α) : Decoder α
  | .string s =>
      match ofName? s with
      | some a => .ok a
      | none => .error .mismatch
  | .object ((k, r) :: rest) closed =>
      match ofName? k with
      | none => .error .mismatch
      | some a =>
          match r with
          | .null => if rest.isEmpty && closed then .ok a else .error .malformed
          | r => wrongKind r
  | _ => .error .malformed

end Decoder

/-! ## Records -/

/-- Decodes an object by its members, or an array by position. -/
structure Record (α : Type) where
  /-- The names of the members, each with a test of its value. -/
  fields : List (String × (Reading → Except Fault Unit))
  /-- The value from members that passed their tests. -/
  ofMembers : List (String × Reading) → Except Fault α
  /-- The value from the items of an array, and the items left over; the flag says whether the
      array was closed. -/
  ofItems : Bool → List Reading → Except Fault (α × List Reading)

namespace Record

/-- The record without members. -/
def pure {α : Type} (a : α) : Record α where
  fields := []
  ofMembers _ := .ok a
  ofItems _ rs := .ok (a, rs)

/-- One record after another. -/
def seq {α β : Type} (f : Record (α → β)) (x : Record α) : Record β where
  fields := f.fields ++ x.fields
  ofMembers ms := do
    let g ← f.ofMembers ms
    let a ← x.ofMembers ms
    return g a
  ofItems closed rs := do
    let (g, rs) ← f.ofItems closed rs
    let (a, rs) ← x.ofItems closed rs
    return (g a, rs)

instance : Functor Record where
  map f x := seq (pure f) x

instance : Applicative Record where
  pure := pure
  seq f x := seq f (x ())

/-- A member with a decoder, and what a missing one means in an object and in an array. -/
def field {α : Type} (name : String) (d : Decoder α) (ifAbsent ifShort : Except Fault α) :
    Record α where
  fields := [(name, fun r => (d r).map fun _ => ())]
  ofMembers ms :=
    match ms.lookup name with
    | some r => d r
    | none => ifAbsent
  ofItems closed rs :=
    match rs with
    | r :: rest => (d r).map fun a => (a, rest)
    | [] => if closed then ifShort.map fun a => (a, []) else .error .malformed

/-- A member that must be there. -/
def required {α : Type} (name : String) (d : Decoder α) : Record α :=
  field name d (.error .mismatch) (.error .mismatch)

/-- A member that may be missing or `null`; in an array its place must be filled. -/
def optional {α : Type} (name : String) (d : Decoder α) : Record (Option α) :=
  field name (Decoder.nullable d) (.ok none) (.error .mismatch)

/-- A member with a value of its own for when it is missing. -/
def defaulted {α : Type} (name : String) (d : Decoder α) (value : α) : Record α :=
  field name d (.ok value) (.ok value)

/-- A member that may be missing or `null`, in an array too. -/
def omittable {α : Type} (name : String) (d : Decoder α) : Record (Option α) :=
  defaulted name (Decoder.nullable d) none

/-- Tests the members in the order of the text: a known one must not come twice and must pass its
    test, an unknown one must be JSON. -/
def check (fields : List (String × (Reading → Except Fault Unit))) (seen : List String) :
    List (String × Reading) → Except Fault Unit
  | [] => .ok ()
  | (k, r) :: rest =>
      match fields.lookup k with
      | some test =>
          if seen.contains k then .error .mismatch
          else do
            test r
            check fields (k :: seen) rest
      | none =>
          if r.isWhole then check fields seen rest else .error .malformed

/-- The decoder of a record. -/
def decoder {α : Type} (record : Record α) : Decoder α
  | .object members closed => do
      check record.fields [] members
      if closed then record.ofMembers members else throw .malformed
  | .array rs closed => do
      let (a, rest) ← record.ofItems closed rs
      if closed && rest.isEmpty then return a else throw .malformed
  | r => Decoder.wrongKind r

end Record

/-- Decodes a text: one value, with nothing but white space after it. -/
def decode {α : Type} (d : Decoder α) (text : String) : Except Fault α := do
  let (r, rest) := Reading.ofChars text.toList
  let a ← d r
  if rest.all Reading.isSpace then return a else throw .malformed

/-- Decodes a value. -/
def decodeValue {α : Type} (d : Decoder α) (j : Json) : Except Fault α := d (Reading.ofJson j)

end RobotMaze.Json
