import WorkerLint.Text.Bytes

/-! Bytes as characters. Inside the shell every character stands for one byte, so that scripts and
data need not be valid UTF-8. -/

namespace WorkerLint.Octets

def ofBytes (bytes : Bytes) : Text :=
  bytes.map fun b => Char.ofNat b.toNat

def toBytes (octets : Text) : Bytes :=
  octets.map fun c => c.toNat.toUInt8

def ofText (text : Text) : Text :=
  ofBytes (Utf8.encode text)

end WorkerLint.Octets
