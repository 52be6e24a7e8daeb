import WorkerLint.Machine
import WorkerLint.Shell.Field

namespace WorkerLint.Shell

structure Glyph where
  char : Char
  literal : Bool
  deriving DecidableEq, Repr

namespace Glob

def glyphsFrom : (escaped : Bool) → Field → List Glyph
  | escaped, [] => if escaped then [⟨'\\', true⟩] else []
  | escaped, .edge :: rest => glyphsFrom escaped rest
  | true, .char c _ :: rest => ⟨c, true⟩ :: glyphsFrom false rest
  | false, .char c isQuoted :: rest =>
    if c = '\\' ∧ ¬isQuoted then glyphsFrom true rest else ⟨c, isQuoted⟩ :: glyphsFrom false rest

def glyphs (field : Field) : List Glyph :=
  glyphsFrom false field

inductive Item
  | char (c : Char)
  | any
  | many
  | set (negated : Bool) (accepts : Char → Bool)

def classes : List (String × (Char → Bool)) :=
  let isPunct (c : Char) : Bool := '!' ≤ c && c ≤ '~' && !c.isAlphanum
  [("alnum", Char.isAlphanum), ("cntrl", fun c => c < ' ' || c == '\x7f'),
    ("lower", Char.isLower), ("space", fun c => c == ' ' || ('\t' ≤ c && c ≤ '\r')),
    ("alpha", Char.isAlpha), ("digit", Char.isDigit), ("print", fun c => ' ' ≤ c && c ≤ '~'),
    ("upper", Char.isUpper), ("blank", fun c => c == ' ' || c == '\t'),
    ("graph", fun c => '!' ≤ c && c ≤ '~'), ("punct", isPunct),
    ("xdigit", fun c => c.isDigit || ('a' ≤ c && c ≤ 'f') || ('A' ≤ c && c ≤ 'F'))]

def after? : Text → List Glyph → Option (List Glyph)
  | [], glyphs => some glyphs
  | _ :: _, [] => none
  | c :: text, glyph :: rest =>
    if glyph.char = c ∧ ¬glyph.literal then after? text rest else none

def class? (glyphs : List Glyph) : Option ((Char → Bool) × List Glyph) :=
  classes.findSome? fun (name, accepts) =>
    (after? (':' :: name.toList ++ ":]".toList) glyphs).map fun rest => (accepts, rest)

/-- Bytes in the order in which ranges count them: those beyond ASCII come first. -/
def rank (c : Char) : Nat :=
  (c.toNat + 128) % 256

/-- The members of a set up to its closing bracket, and what follows; none if it is not closed. A
closing bracket in the first place is a member. -/
def members? : Nat → Bool → List Glyph → Option ((Char → Bool) × List Glyph)
  | 0, _, _ => none
  | _, _, [] => none
  | fuel + 1, first, glyph :: rest =>
    let join (accepts : Char → Bool) (left : List Glyph) :
        Option ((Char → Bool) × List Glyph) :=
      (members? fuel false left).map fun (more, left) => (fun c => accepts c || more c, left)
    let special (c : Char) : Bool := glyph.char = c ∧ ¬glyph.literal
    if special ']' && !first then some (fun _ => false, rest)
    else
      match if special '[' then class? rest else none with
      | some (accepts, left) => join accepts left
      | none =>
        match rest with
        | ⟨'-', false⟩ :: last :: after =>
          if last = ⟨']', false⟩ then join (· == glyph.char) rest
          else join (fun c => rank glyph.char ≤ rank c && rank c ≤ rank last.char) after
        | _ => join (· == glyph.char) rest

def set? (glyphs : List Glyph) : Option (Item × List Glyph) :=
  match glyphs with
  | ⟨'!', false⟩ :: rest =>
    (members? (rest.length + 1) true rest).map fun (found, left) => (.set true found, left)
  | _ =>
    (members? (glyphs.length + 1) true glyphs).map fun (found, left) => (.set false found, left)

def itemsFrom : Nat → List Glyph → List Item
  | 0, _ => []
  | _, [] => []
  | fuel + 1, glyph :: rest =>
    if glyph.literal then .char glyph.char :: itemsFrom fuel rest
    else
      match glyph.char with
      | '*' => .many :: itemsFrom fuel rest
      | '?' => .any :: itemsFrom fuel rest
      | '[' =>
        match set? rest with
        | some (item, left) => item :: itemsFrom fuel left
        | none => .char '[' :: itemsFrom fuel rest
      | c => .char c :: itemsFrom fuel rest

def items (glyphs : List Glyph) : List Item :=
  itemsFrom (glyphs.length + 1) glyphs

def Item.accepts (c : Char) : Item → Bool
  | .char d => c == d
  | .any => true
  | .many => true
  | .set negated accepts => accepts c != negated

def someTail (test : Text → Bool) : Text → Bool
  | [] => test []
  | c :: rest => test (c :: rest) || someTail test rest

def accepts : List Item → Text → Bool
  | [], text => text.isEmpty
  | .many :: more, text => someTail (accepts more) text
  | item :: more, text =>
    match text with
    | c :: rest => item.accepts c && accepts more rest
    | [] => false

def closes : List Glyph → Bool
  | [] => false
  | glyph :: rest =>
    if glyph.char = '/' then false
    else
      match rest with
      | ⟨']', false⟩ :: _ => true
      | _ => closes rest

def isPattern : List Glyph → Bool
  | [] => false
  | glyph :: rest =>
    let special (c : Char) : Bool := glyph.char = c ∧ ¬glyph.literal
    let body := if rest.head? = some ⟨'!', false⟩ then rest.tail else rest
    special '*' || special '?' || (special '[' && closes body) || isPattern rest

def pieces : List Glyph → List (List Glyph)
  | [] => [[]]
  | glyph :: rest =>
    if glyph.char = '/' then [] :: pieces rest
    else
      match pieces rest with
      | [] => [[glyph]]
      | piece :: more => (glyph :: piece) :: more

def textOf (glyphs : List Glyph) : Text :=
  glyphs.map (·.char)

def names (disk : Disk) (directory : Text) (piece : List Glyph) : List Text :=
  match disk.lookup .target (Machine.pathOf (if directory = [] then ['.'] else directory)) with
  | .error _ => []
  | .ok found =>
    let pattern := items piece
    let showsHidden := piece.head?.any (·.char == '.')
    let hidden : List Text := if found.isDir then [['.'], ['.', '.']] else []
    let listed := hidden ++ found.entries.map fun entry => Octets.ofBytes entry.1
    listed.filter fun name => accepts pattern name && (name.head? != some '.' || showsHidden)

def hasEntry (disk : Disk) (path : Text) : Bool :=
  match disk.lookup .entry (Machine.pathOf path) with
  | .ok _ => true
  | .error _ => false

/-- The paths that begin with one of the given and go on as the pieces say. What follows the last
piece that is a pattern has to be there. -/
def paths (disk : Disk) : List (List Glyph) → List Text → List Text
  | [], sofar => sofar
  | piece :: rest, sofar =>
    let separator : Text := if rest.isEmpty then [] else ['/']
    let found :=
      if isPattern piece then
        sofar.flatMap fun start => (names disk start piece).map (start ++ ·)
      else sofar.map (· ++ textOf piece)
    paths disk rest (found.map (· ++ separator))

def files (disk : Disk) (field : Field) : List Text :=
  let pattern := glyphs field
  if !isPattern pattern then [field.text]
  else
    let found := (paths disk (pieces pattern) [[]]).filter (hasEntry disk)
    if found = [] then [field.text]
    else found.mergeSort fun a b => Octets.toBytes a ≤ Octets.toBytes b

end Glob

end WorkerLint.Shell
