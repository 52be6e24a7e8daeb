import WorkerLint.Text.Bytes

namespace WorkerLint.Terminal

inductive Header
  | entry
  | parameters
  | intermediate
  deriving DecidableEq, Repr

/-- Where a reader of terminal output stands: in plain text, behind an escape character, behind
its intermediate characters, in the parameters of a control sequence, in the header or the body of
a device control string, or in a command for the operating system. The other kinds of strings are
read like the body of a device control string. -/
inductive Mode
  | ground
  | escape
  | intermediate
  | parameters
  | header (part : Header)
  | body
  | command
  deriving DecidableEq, Repr

def isSpacing (c : Char) : Bool :=
  c = '\t' || c = '\n' || c = '\x0c' || c = '\r'

def Mode.shows (mode : Mode) (c : Char) : Bool :=
  match mode with
  | .ground => isSpacing c || ('\x20' ≤ c && c ≠ '\x7f')
  | .escape | .intermediate | .parameters => isSpacing c
  | .header _ | .body | .command => false

def introduced (c : Char) : Mode :=
  if c < '\x20' ∨ '\x7e' < c then .escape
  else if c < '0' then .intermediate
  else if c = '[' then .parameters
  else if c = ']' then .command
  else if c = 'P' then .header .entry
  else if c = 'X' ∨ c = '^' ∨ c = '_' then .body
  else .ground

def hasTerminator (c : Char) : Bool :=
  (Utf8.encode [c]).any (· = 0x9C)

/-- The mode after a character of a header. A letter opens the body, and so does a parameter that
comes too late. -/
def Header.next (part : Header) (c : Char) : Mode :=
  if '@' ≤ c ∧ c ≤ '\x7e' then .body
  else if '\x20' ≤ c ∧ c < '0' then .header .intermediate
  else if '0' ≤ c ∧ c < '@' then
    match part with
    | .entry => .header .parameters
    | .parameters => if c < '<' then .header .parameters else .body
    | .intermediate => .body
  else .header part

/-- The mode after a character that is not shown. Cancel and substitute end every sequence, and
escape begins one. -/
def Mode.next (mode : Mode) (c : Char) : Mode :=
  if c = '\x18' ∨ c = '\x1a' then .ground
  else if c = '\x1b' then .escape
  else
    match mode with
    | .ground => .ground
    | .escape => introduced c
    | .intermediate => if '0' ≤ c ∧ c ≤ '\x7e' then .ground else .intermediate
    | .parameters => if '@' ≤ c ∧ c ≤ '\x7e' then .ground else .parameters
    | .header part => part.next c
    | .body => if hasTerminator c then .ground else .body
    | .command => if c = '\x07' then .ground else .command

/-- The shown characters of a text. Once a character is shown, those after it are read as plain
text until one is not; a sequence that was open before that goes on there, unless a character
beyond ASCII came in between. -/
def plainFrom : Mode → Bool → Text → Text
  | _, _, [] => []
  | mode, showing, c :: rest =>
    if (if showing then Mode.ground else mode).shows c then
      c :: plainFrom (if c.toNat < 0x80 then mode else .ground) true rest
    else plainFrom (mode.next c) false rest

def plain (text : Text) : Text :=
  plainFrom .ground false text

end WorkerLint.Terminal
