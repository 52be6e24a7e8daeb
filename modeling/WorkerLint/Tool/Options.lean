import WorkerLint.Text

/-! Options and operands of programs. Options may stand anywhere before a double dash, and the long
ones may be cut short. -/

namespace WorkerLint.Tool

inductive Need
  | none
  | required
  | optional
  deriving DecidableEq, Repr

structure LongName where
  name : String
  letter : Char
  need : Need
  deriving DecidableEq, Repr

structure OptionTable where
  plain : List Char
  valued : List Char
  long : List LongName

inductive BadOption
  | unknown (letter : Char)
  | unknownLong (text : Text)
  | ambiguous (text : Text) (names : List Text)
  | noValue (letter : Char)
  | noLongValue (name : Text)
  | unwantedValue (name : Text)
  deriving DecidableEq, Repr

def BadOption.message : BadOption → Text
  | .unknown letter => "invalid option -- '".toList ++ letter :: "'\n".toList
  | .unknownLong text => "unrecognized option '--".toList ++ text ++ "'\n".toList
  | .ambiguous text names =>
    "option '--".toList ++ text ++ "' is ambiguous; possibilities:".toList ++
      names.flatMap (fun name => " '--".toList ++ name ++ ['\'']) ++ ['\n']
  | .noValue letter => "option requires an argument -- '".toList ++ letter :: "'\n".toList
  | .noLongValue name => "option '--".toList ++ name ++ "' requires an argument\n".toList
  | .unwantedValue name => "option '--".toList ++ name ++ "' doesn't allow an argument\n".toList

structure Chosen where
  letter : Char
  value : Option Text
  /-- How many words had been read before the one it stands in. -/
  word : Nat
  deriving DecidableEq, Repr

structure Arguments where
  options : List Chosen
  operands : List Text
  bad : Option BadOption
  deriving DecidableEq, Repr

namespace Arguments

def has (arguments : Arguments) (letter : Char) : Bool :=
  arguments.options.any (·.letter = letter)

end Arguments

namespace OptionTable

def cluster (table : OptionTable) (word : Nat) :
    Text → List Chosen × Option Char × Option BadOption
  | [] => ([], none, none)
  | letter :: rest =>
    if table.plain.elem letter then
      let (more, pending, bad) := cluster table word rest
      (⟨letter, none, word⟩ :: more, pending, bad)
    else if table.valued.elem letter then
      if rest = [] then ([], some letter, none) else ([⟨letter, some rest, word⟩], none, none)
    else ([], none, some (.unknown letter))

/-- The long name that a text means: the name itself, or the only one that starts with it. Names
for the same thing count as one. -/
def longName (table : OptionTable) (text whole : Text) : Except BadOption LongName :=
  match table.long.find? (·.name.toList = text) with
  | some found => .ok found
  | none =>
    match table.long.filter fun entry => text.isPrefixOf entry.name.toList with
    | [] => .error (.unknownLong whole)
    | first :: others =>
      match others.filter fun entry => entry.letter ≠ first.letter || entry.need ≠ first.need with
      | [] => .ok first
      | different => .error (.ambiguous whole ((first :: different).map (·.name.toList)))

def readFrom (table : OptionTable) : Nat → List Text → Arguments
  | _, [] => ⟨[], [], none⟩
  | count, word :: rest =>
    let stop (bad : BadOption) : Arguments := ⟨[], [], some bad⟩
    let goOn (options : List Chosen) : Arguments :=
      let found := readFrom table (count + 1) rest
      { found with options := options ++ found.options }
    let goOnWith (options : List Chosen) (letter : Char) (missing : BadOption) : Arguments :=
      match rest with
      | [] => { stop missing with options }
      | value :: rest =>
        let found := readFrom table (count + 2) rest
        { found with options := options ++ ⟨letter, some value, count⟩ :: found.options }
    match word with
    | ['-', '-'] => ⟨[], rest, none⟩
    | '-' :: '-' :: whole =>
      let name := whole.takeWhile (· ≠ '=')
      match table.longName name whole, whole.drop name.length with
      | .error bad, _ => stop bad
      | .ok found, [] =>
        if found.need = .required then
          goOnWith [] found.letter (.noLongValue found.name.toList)
        else goOn [⟨found.letter, none, count⟩]
      | .ok found, _ :: value =>
        if found.need = .none then stop (.unwantedValue found.name.toList)
        else goOn [⟨found.letter, some value, count⟩]
    | '-' :: letter :: more =>
      match table.cluster count (letter :: more) with
      | (options, _, some bad) => { stop bad with options }
      | (options, some letter, none) => goOnWith options letter (.noValue letter)
      | (options, none, none) => goOn options
    | _ =>
      let found := readFrom table (count + 1) rest
      { found with operands := word :: found.operands }

def read (table : OptionTable) (words : List Text) : Arguments :=
  table.readFrom 0 words

end OptionTable

end WorkerLint.Tool
