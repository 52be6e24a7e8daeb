import WorkerLint.Text

namespace WorkerLint

abbrev Bytes := List UInt8

namespace Utf8

def encode (text : Text) : Bytes :=
  text.flatMap String.utf8EncodeChar

/-- Where bytes are asked for, a text stands for its encoding. -/
instance : Coe Text Bytes :=
  ⟨encode⟩

structure Partial where
  code : Nat
  need : Nat
  low : Nat
  high : Nat

inductive Lead
  | whole (c : Char)
  | begun (part : Partial)
  | malformed

def lead (b : Nat) : Lead :=
  if b < 0x80 then .whole (Char.ofNat b)
  else if b < 0xC2 then .malformed
  else if b < 0xE0 then .begun ⟨b - 0xC0, 1, 0x80, 0xBF⟩
  else if b < 0xF0 then
    .begun ⟨b - 0xE0, 2, if b = 0xE0 then 0xA0 else 0x80, if b = 0xED then 0x9F else 0xBF⟩
  else if b < 0xF5 then
    .begun ⟨b - 0xF0, 3, if b = 0xF0 then 0x90 else 0x80, if b = 0xF4 then 0x8F else 0xBF⟩
  else .malformed

/-- Reads characters from bytes, `none` for each maximal malformed part. -/
def scan : Option Partial → Bytes → List (Option Char)
  | none, [] => []
  | some _, [] => [none]
  | none, b :: rest =>
    match lead b.toNat with
    | .whole c => some c :: scan none rest
    | .begun part => scan (some part) rest
    | .malformed => none :: scan none rest
  | some part, b :: rest =>
    let n := b.toNat
    if part.low ≤ n ∧ n ≤ part.high then
      let code := part.code * 64 + (n - 0x80)
      if part.need ≤ 1 then some (Char.ofNat code) :: scan none rest
      else scan (some ⟨code, part.need - 1, 0x80, 0xBF⟩) rest
    else
      match lead n with
      | .whole c => none :: some c :: scan none rest
      | .begun next => none :: scan (some next) rest
      | .malformed => none :: none :: scan none rest

def decode? (bytes : Bytes) : Option Text :=
  (scan none bytes).mapM id

/-- The characters that the bytes encode, and the bytes that belong to none, one by one. The first
so many bytes belong to a character that is there already. -/
def partsFrom : Nat → Bytes → List (Char ⊕ UInt8)
  | _, [] => []
  | skip + 1, _ :: rest => partsFrom skip rest
  | 0, b :: rest =>
    match scan none (b :: rest.take 3) with
    | some c :: _ => .inl c :: partsFrom (c.utf8Size - 1) rest
    | _ => .inr b :: partsFrom 0 rest

def parts (bytes : Bytes) : List (Char ⊕ UInt8) :=
  partsFrom 0 bytes

def decodeLossy (bytes : Bytes) : Text :=
  (scan none bytes).map (·.getD '\uFFFD')

end Utf8

end WorkerLint
