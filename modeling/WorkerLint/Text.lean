import WorkerLint.Text.Blank

namespace WorkerLint

/-- Text is kept as its characters, so that every scan is a recursion on a list. -/
abbrev Text := List Char

namespace Text

def after? : Text → Text → Option Text
  | [], text => some text
  | _ :: _, [] => none
  | l :: lead, c :: text => if l = c then after? lead text else none

theorem after?_eq_some_iff (lead text rest : Text) :
    after? lead text = some rest ↔ text = lead ++ rest := by
  induction lead generalizing text with
  | nil => simp [after?]
  | cons l lead ih =>
    cases text with
    | nil => simp [after?]
    | cons c text =>
      by_cases same : l = c
      · simp [after?, same, ih]
      · simp [after?, same, Ne.symm same]

def contains (needle : Text) : Text → Bool
  | [] => needle.isEmpty
  | c :: rest => needle.isPrefixOf (c :: rest) || contains needle rest

theorem contains_eq_true_iff (needle text : Text) :
    contains needle text = true ↔ needle <:+: text := by
  induction text with
  | nil => simp [contains]
  | cons c rest ih => simp [contains, ih, List.infix_cons_iff]

def pieces [DecidableEq α] (sep : α) : List α → List (List α)
  | [] => [[]]
  | c :: rest =>
    if c = sep then [] :: pieces sep rest
    else
      match pieces sep rest with
      | [] => [[c]]
      | piece :: more => (c :: piece) :: more

theorem pieces_ne_nil [DecidableEq α] (sep : α) (whole : List α) : pieces sep whole ≠ [] := by
  cases whole with
  | nil => simp [pieces]
  | cons c rest =>
    rw [pieces]
    split
    · simp
    · split <;> simp

/-- The lines of a text, each with its terminator. Only the last line may lack one, and the empty
text has no line. -/
def splitLines : Text → List Text
  | [] => []
  | c :: rest =>
    if c = '\n' then [c] :: splitLines rest
    else
      match splitLines rest with
      | [] => [[c]]
      | line :: more => (c :: line) :: more

theorem flatten_splitLines (text : Text) : (splitLines text).flatten = text := by
  induction text with
  | nil => rfl
  | cons c rest ih =>
    by_cases ends : c = '\n'
    · simp [splitLines, ends, ih]
    · cases cut : splitLines rest with
      | nil =>
        rw [cut] at ih
        simp [splitLines, ends, ← ih]
      | cons line more =>
        rw [cut] at ih
        simpa [splitLines, ends, cut] using ih

/-- A line without its terminator, which is a line feed with at most one carriage return before
it. A carriage return alone stays. -/
def chomp (line : Text) : Text :=
  match line.reverse with
  | '\n' :: '\r' :: rest => rest.reverse
  | '\n' :: rest => rest.reverse
  | _ => line

def lines (text : Text) : List Text :=
  (splitLines text).map chomp

def dropEndWhile (p : Char → Bool) (text : Text) : Text :=
  (text.reverse.dropWhile p).reverse

def strip (p : Char → Bool) (text : Text) : Text :=
  dropEndWhile p (text.dropWhile p)

def trim (text : Text) : Text :=
  strip isBlank text

def trimEnd (text : Text) : Text :=
  dropEndWhile isBlank text

def join (sep : List α) : List (List α) → List α
  | [] => []
  | [text] => text
  | text :: rest => text ++ sep ++ join sep rest

theorem join_cons_head (sep : List α) (c : α) (piece : List α) (more : List (List α)) :
    join sep ((c :: piece) :: more) = c :: join sep (piece :: more) := by
  cases more <;> simp [join]

theorem join_pieces [DecidableEq α] (sep : α) (whole : List α) :
    join [sep] (pieces sep whole) = whole := by
  induction whole with
  | nil => rfl
  | cons c rest ih =>
    have present := pieces_ne_nil sep rest
    cases cut : pieces sep rest with
    | nil => exact absurd cut present
    | cons piece more =>
      rw [cut] at ih
      by_cases same : c = sep
      · simp [pieces, same, cut, join, ih]
      · simp [pieces, same, cut, join_cons_head, ih]

def ofNat (n : Nat) : Text :=
  Nat.toDigits 10 n

def digitsValue (digits : Text) : Nat :=
  Nat.ofDigitChars 10 digits 0

theorem digitsValue_ofNat (n : Nat) : digitsValue (ofNat n) = n :=
  Nat.ofDigitChars_toDigits (by decide) (by decide)

def wordBound : Nat := 18446744073709551616

/-- Reads a number: ASCII digits only, at least one, and a value below the bound. Leading zeros
are allowed. -/
def toWord? (digits : Text) : Option Nat :=
  if digits ≠ [] ∧ digits.all Char.isDigit ∧ digitsValue digits < wordBound then
    some (digitsValue digits)
  else none

theorem toWord?_ofNat (n : Nat) (bounded : n < wordBound) : toWord? (ofNat n) = some n := by
  have digits : (ofNat n).all Char.isDigit = true :=
    List.all_eq_true.mpr fun _ member =>
      Nat.isDigit_of_mem_toDigits (by decide) (by decide) member
  rw [toWord?, digitsValue_ofNat, if_pos ⟨Nat.toDigits_ne_nil, digits, bounded⟩]

end Text

end WorkerLint
