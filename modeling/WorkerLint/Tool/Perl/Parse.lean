import WorkerLint.Tool.Perl.Class

namespace WorkerLint.Tool.Perl

def count? (text : Text) : Option (Except Fault (Nat × Option Nat × Text)) :=
  let low := text.takeWhile Char.isDigit
  let after := text.drop low.length
  if low = [] then none
  else
    let least := Text.digitsValue low
    let check (most : Option Nat) (rest : Text) : Except Fault (Nat × Option Nat × Text) :=
      if 65535 < least ∨ most.any (65535 < ·) then .error .countTooLarge
      else if most.any (· < least) then .error .countOrder
      else .ok (least, most, rest)
    match after with
    | '\x7d' :: rest => some (check (some least) rest)
    | ',' :: after =>
      let high := after.takeWhile Char.isDigit
      match after.drop high.length with
      | '\x7d' :: rest =>
        some (check (if high = [] then none else some (Text.digitsValue high)) rest)
      | _ => none
    | _ => none

def quantifier? : Text → Option (Except Fault (Nat × Option Nat × Text))
  | '*' :: rest => some (.ok (0, none, rest))
  | '+' :: rest => some (.ok (1, none, rest))
  | '?' :: rest => some (.ok (0, some 1, rest))
  | '\x7b' :: rest => count? rest
  | _ => none

def repetition (settings : Settings) (body : Perl) (least : Nat) (most : Option Nat) :
    Text → Perl × Text
  | '?' :: rest => (.times body least most (if settings.reluctant then .most else .fewest), rest)
  | '+' :: rest => (.atomic (.times body least most .most), rest)
  | rest => (.times body least most (if settings.reluctant then .fewest else .most), rest)

def skipBlanks (settings : Settings) : Text → Text
  | [] => []
  | c :: rest =>
    if !settings.extended then c :: rest
    else if CharSet.asciiBlank c then skipBlanks settings rest
    else if c = '#' then
      skipComment rest
    else c :: rest
where
  skipComment : Text → Text
    | [] => []
    | '\n' :: rest => skipBlanks settings rest
    | _ :: rest => skipComment rest

def afterComment? : Text → Option Text
  | [] => none
  | ')' :: rest => some rest
  | _ :: rest => afterComment? rest

def readName (close : Char) (text : Text) : Except Fault (Text × Text) :=
  let name := text.takeWhile CharSet.asciiWord
  match name with
  | [] => .error .nameExpected
  | c :: _ =>
    if c.isDigit then .error .nameStart
    else if 32 < name.length then .error .nameTooLong
    else
      match text.drop name.length with
      | d :: rest => if d = close then .ok (name, rest) else .error .nameSyntax
      | [] => .error .nameSyntax

def relative? (count : Nat) (text : Text) : Option (Except Fault Nat × Text) :=
  let (sign, digits) : Option Char × Text :=
    match text with
    | '-' :: rest => (some '-', rest)
    | '+' :: rest => (some '+', rest)
    | _ => (none, text)
  let number := digits.takeWhile Char.isDigit
  let value := Text.digitsValue number
  if number = [] then none
  else
    let result : Except Fault Nat :=
      if 65535 < value then .error .groupTooLarge
      else
        match sign with
        | some '-' =>
          if value = 0 then .error .relativeZero
          else if count < value then .error .noGroup
          else .ok (count - value + 1)
        | some _ => if value = 0 then .error .relativeZero else .ok (count + value)
        | none => .ok value
    some (result, digits.drop number.length)

/-- How many characters an expression takes, if it is always the same number. -/
def size? : Perl → Option Nat
  | .empty => some 0
  | .never => some 0
  | .chars _ => some 1
  | .edge _ => some 0
  | .seq first second => do some ((← first.size?) + (← second.size?))
  | .alt first second => do
    let size ← first.size?
    if (← second.size?) = size then some size else none
  | .times body least (some most) _ => do
    if least = most then some (least * (← body.size?)) else none
  | .times _ _ none _ => none
  | .group _ body => body.size?
  | .back _ _ => none
  | .ahead _ _ => some 0
  | .retreat _ => some 0
  | .atomic body => body.size?
  | .keep => some 0
  | .call _ => none
  | .isSet _ => some 0
  | .choice _ yes no => do
    let size ← yes.size?
    if (← no.size?) = size then some size else none
  | .accept => some 0

/-- An expression that has to end where it is tried. Each of its branches has a size of its own. -/
def behind? : Perl → Option Perl
  | .alt first second => do
    let size ← first.size?
    some (.alt (.seq (.retreat size) first) (← second.behind?))
  | perl => do some (.seq (.retreat (← perl.size?)) perl)

def lineBreaks : Perl :=
  .atomic (.alt (.seq (.chars (.single '\r')) (.chars (.single '\n'))) (.chars lineBreak))

def letterEdge? : Char → Option PerlEdge
  | 'A' => some .textStart
  | 'z' => some .textEnd
  | 'Z' => some .lastLineEnd
  | 'b' => some .wordEdge
  | 'B' => some .noWordEdge
  | 'G' => some .searchStart
  | _ => none

structure Item where
  perl : Perl
  canRepeat : Bool

def groupEscape (count : Nat) (text : Text) : Except Fault (Bool × GroupRef × Text) :=
  let finish (isCall : Bool) (close : Char) (text : Text) :
      Except Fault (Bool × GroupRef × Text) :=
    match relative? count text with
    | some (number, after) => do
      let number ← number
      match after with
      | d :: rest =>
        if d = close then .ok (isCall, .number number, rest) else .error .badGroupEscape
      | [] => .error .badGroupEscape
    | none => do
      let (name, rest) ← readName close text
      .ok (isCall, .name name, rest)
  match text with
  | '\x7b' :: rest => finish false '\x7d' rest
  | '<' :: rest => finish true '>' rest
  | '\'' :: rest => finish true '\'' rest
  | _ =>
    match relative? count text with
    | some (number, rest) => do .ok (false, .number (← number), rest)
    | none => .error .badGroupEscape

def nameEscape (text : Text) : Except Fault (Text × Text) :=
  match text with
  | '\x7b' :: rest => readName '\x7d' rest
  | '<' :: rest => readName '>' rest
  | '\'' :: rest => readName '\'' rest
  | _ => .error .badNameEscape

def numberEscape (count : Nat) (ignoreCase : Bool) (settings : Settings) (text : Text) :
    Except Fault (Perl × Text) :=
  let digits := text.takeWhile Char.isDigit
  let value := Text.digitsValue digits
  let isOctal := (text.head?.map isOctalDigit).getD false
  if value < 10 ∨ ¬isOctal ∨ value ≤ count then
    if 65535 < value then .error .groupTooLarge
    else .ok (.back (.number value) ignoreCase, text.drop digits.length)
  else (octalCode text).map fun (c, rest) => (single settings c, rest)

structure Reading where
  rest : Text
  settings : Settings
  count : Nat
  names : List (Text × Nat)
  inQuotation : Bool
  isVariable : Bool
  deriving DecidableEq, Repr

abbrev Read := StateT Reading (Except Fault)

def fault (fault : Fault) : Read α :=
  throw fault

def setRest (rest : Text) : Read Unit :=
  modify fun reading => { reading with rest }

def readEscape (reading : Reading) (text : Text) : Except Fault (Item × Text) :=
  let settings := reading.settings
  let item (perl : Perl) (rest : Text) : Except Fault (Item × Text) := .ok (⟨perl, true⟩, rest)
  match escapedChar? text with
  | some (.ok (c, rest)) => item (single settings c) rest
  | some (.error fault) => .error fault
  | none =>
    match text with
    | [] => .error .endsWithBackslash
    | 'p' :: rest => do
      let (set, after) ← property false rest
      item (.chars (fold settings set)) after
    | 'P' :: rest => do
      let (set, after) ← property true rest
      item (.chars set) after
    | 'R' :: rest => item lineBreaks rest
    | 'X' :: rest =>
      item (.atomic (.alt (.seq (.chars (.single '\r')) (.chars (.single '\n')))
        (.chars fun _ => true))) rest
    | 'C' :: rest => item (.chars fun _ => true) rest
    | 'N' :: rest =>
      if rest.head? = some '\x7b' ∧ (count? rest.tail).isNone then .error .caseEscape
      else item (.chars fun c => c != '\n') rest
    | 'K' :: rest => .ok (⟨.keep, false⟩, rest)
    | 'E' :: rest => .ok (⟨.empty, false⟩, rest)
    | 'g' :: rest => do
      let (isCall, ref, after) ← groupEscape reading.count rest
      item (if isCall then .call ref else .back ref settings.ignoreCase) after
    | 'k' :: rest => do
      let (name, after) ← nameEscape rest
      item (.back (.name name) settings.ignoreCase) after
    | c :: rest =>
      if c.isDigit then do
        let (perl, after) ← numberEscape reading.count settings.ignoreCase settings text
        item perl after
      else
        match letterSet? c, letterEdge? c with
        | some set, _ => item (.chars set) rest
        | none, some kind => .ok (⟨.edge kind, false⟩, rest)
        | none, none => .error .unknownEscape

/-- Letters that set options, up to a colon or a bracket; `on` tells whether they switch them on. -/
def readOptions : Nat → Bool → Settings → Text → Except Fault (Settings × Text)
  | 0, _, _, _ => .error .openGroup
  | fuel + 1, on, settings, text =>
    match text with
    | [] => .error .openGroup
    | ')' :: _ => .ok (settings, text)
    | ':' :: _ => .ok (settings, text)
    | '-' :: rest => if on then readOptions fuel false settings rest else .error .badHyphen
    | 'J' :: rest => readOptions fuel on { settings with repeatedNames := on } rest
    | 'U' :: rest => readOptions fuel on { settings with reluctant := on } rest
    | 'i' :: rest => readOptions fuel on { settings with ignoreCase := on } rest
    | 'm' :: rest => readOptions fuel on { settings with multiLine := on } rest
    | 'n' :: rest => readOptions fuel on { settings with unnumbered := on } rest
    | 's' :: rest => readOptions fuel on { settings with dotAll := on } rest
    | 'x' :: 'x' :: rest =>
      readOptions fuel on { settings with extended := on, extendedMore := on } rest
    | 'x' :: rest =>
      readOptions fuel on { settings with extended := on, extendedMore := false } rest
    | _ => .error .unknownOption

def wordedGroup? (name : Text) : Option (String × Bool) :=
  [("pla", "ahead", false), ("positive_lookahead", "ahead", false),
    ("nla", "ahead", true), ("negative_lookahead", "ahead", true),
    ("plb", "behind", false), ("positive_lookbehind", "behind", false),
    ("nlb", "behind", true), ("negative_lookbehind", "behind", true),
    ("napla", "ahead", false), ("non_atomic_positive_lookahead", "ahead", false),
    ("naplb", "behind", false), ("non_atomic_positive_lookbehind", "behind", false),
    ("atomic", "atomic", false), ("sr", "plain", false), ("script_run", "plain", false),
    ("asr", "atomic", false), ("atomic_script_run", "atomic", false)].findSome?
      fun (word, kind, negated) => if word.toList = name then some (kind, negated) else none

/-- What a word after a star does. Those that only cut the search short are passed over. -/
def verb? (name : Text) : Option Perl :=
  match String.ofList name with
  | "F" => some .never
  | "FAIL" => some .never
  | "ACCEPT" => some .accept
  | "COMMIT" => some .empty
  | "PRUNE" => some .empty
  | "SKIP" => some .empty
  | "THEN" => some .empty
  | _ => none

def openingWords : List Text :=
  ["UTF", "UCP", "CR", "LF", "CRLF", "ANY", "NUL", "ANYCRLF", "BSR_ANYCRLF", "BSR_UNICODE",
    "NOTEMPTY", "NOTEMPTY_ATSTART", "NO_AUTO_POSSESS", "NO_DOTSTAR_ANCHOR", "NO_JIT",
    "NO_START_OPT"].map String.toList

def dropOpening : Nat → Text → Text
  | 0, text => text
  | fuel + 1, text =>
    match text with
    | '(' :: '*' :: rest =>
      let name := rest.takeWhile (· ≠ ')')
      if openingWords.contains name then dropOpening fuel (rest.drop (name.length + 1)) else text
    | _ => text

namespace Reading

def closeGroup (before : Settings) : Read Unit := do
  match (← get).rest with
  | ')' :: rest => modify fun reading => { reading with rest, settings := before }
  | _ => fault .openGroup

def callNamed (text : Text) : Read Item := do
  match readName ')' text with
  | .ok (name, rest) =>
    setRest rest
    pure ⟨.call (.name name), true⟩
  | .error bad => fault bad

mutual

def branches : Nat → Read Perl
  | 0 => pure .empty
  | fuel + 1 => do
    let first ← items fuel
    match (← get).rest with
    | '|' :: rest =>
      setRest rest
      pure (.alt first (← branches fuel))
    | _ => pure first

def alikeBranches : Nat → Nat → Nat → Read Perl
  | 0, _, _ => pure .empty
  | fuel + 1, start, most => do
    modify fun reading => { reading with count := start }
    let first ← items fuel
    let most := max most (← get).count
    match (← get).rest with
    | '|' :: rest =>
      setRest rest
      pure (.alt first (← alikeBranches fuel start most))
    | _ =>
      modify fun reading => { reading with count := most }
      pure first

def items : Nat → Read Perl
  | 0 => pure .empty
  | fuel + 1 => do
    let reading ← get
    if !reading.inQuotation then setRest (skipBlanks reading.settings reading.rest)
    match (← get).rest with
    | [] => pure .empty
    | c :: rest =>
      if reading.inQuotation then
        match c, rest with
        | '\\', 'E' :: rest =>
          set { reading with rest, inQuotation := false }
          items fuel
        | _, _ =>
          setRest rest
          -- A quantifier may follow the end of the quotation.
          let ended : Option Text :=
            match rest with
            | '\\' :: 'E' :: after => some after
            | _ => none
          match ended with
          | some after =>
            modify fun reading => { reading with rest := after, inQuotation := false }
            let first ← repeated fuel ⟨single reading.settings c, true⟩
            pure (.seq first (← items fuel))
          | none => pure (.seq (single reading.settings c) (← items fuel))
      else
        match c, rest with
        | '|', _ => pure .empty
        | ')', _ => pure .empty
        | '\\', 'Q' :: rest =>
          modify fun reading => { reading with rest, inQuotation := true }
          items fuel
        | _, _ =>
          let item ← item fuel
          let first ← repeated fuel item
          pure (.seq first (← items fuel))

def repeated : Nat → Item → Read Perl
  | 0, item => pure item.perl
  | fuel + 1, item => do
    let reading ← get
    let rest := skipBlanks reading.settings reading.rest
    match rest with
    | '(' :: '?' :: '#' :: comment =>
      match afterComment? comment with
      | some after =>
        setRest after
        repeated fuel item
      | none => fault .openComment
    | '\\' :: 'E' :: after =>
      setRest after
      repeated fuel item
    | '\\' :: 'Q' :: '\\' :: 'E' :: after =>
      setRest after
      repeated fuel item
    | _ =>
      match quantifier? rest with
      | none =>
        setRest rest
        pure item.perl
      | some (.error bad) => fault bad
      | some (.ok (least, most, after)) =>
        if !item.canRepeat then fault .nothingToRepeat
        let (result, after) := repetition reading.settings item.perl least most after
        setRest after
        -- Nothing that was repeated can be repeated once more.
        match quantifier? (skipBlanks reading.settings after) with
        | some (.ok _) => fault .nothingToRepeat
        | some (.error bad) => fault bad
        | none => pure result

def item : Nat → Read Item
  | 0 => pure ⟨.empty, false⟩
  | fuel + 1 => do
    let reading ← get
    let settings := reading.settings
    match reading.rest with
    | [] => pure ⟨.empty, false⟩
    | '\\' :: rest =>
      match readEscape reading rest with
      | .ok (found, after) =>
        setRest after
        pure found
      | .error bad => fault bad
    | '.' :: rest =>
      setRest rest
      pure ⟨.chars (if settings.dotAll then fun _ => true else fun c => c != '\n'), true⟩
    | '^' :: rest =>
      setRest rest
      pure ⟨.edge (if settings.multiLine then .lineStart else .textStart), false⟩
    | '$' :: rest =>
      setRest rest
      pure ⟨.edge (if settings.multiLine then .lineEnd else .textEnd), false⟩
    | '[' :: rest =>
      match bareClass? rest with
      | some bad => fault bad
      | none =>
        match readClass settings rest with
        | .ok (set, after) =>
          setRest after
          pure ⟨.chars set, true⟩
        | .error bad => fault bad
    | '(' :: rest =>
      setRest rest
      group fuel
    | c :: rest =>
      match quantifier? (c :: rest) with
      | some (.ok _) => fault .nothingToRepeat
      | some (.error bad) => fault bad
      | none =>
        setRest rest
        pure ⟨single settings c, true⟩

def inside : Nat → Read Perl
  | 0 => pure .empty
  | fuel + 1 => do
    let before := (← get).settings
    let body ← branches fuel
    closeGroup before
    pure body

def numbered : Nat → Option Text → Read Item
  | 0, _ => pure ⟨.empty, false⟩
  | fuel + 1, name => do
    let reading ← get
    let number := reading.count + 1
    match name with
    | some name =>
      if reading.names.any (fun entry => entry.1 == name && entry.2 != number) &&
          !reading.settings.repeatedNames then
        fault .repeatedName
      set { reading with count := number, names := reading.names ++ [(name, number)] }
    | none => set { reading with count := number }
    let body ← inside fuel
    pure ⟨.group number body, true⟩

def lookBehind : Nat → Bool → Read Item
  | 0, _ => pure ⟨.empty, false⟩
  | fuel + 1, negated => do
    let body ← inside fuel
    match body.behind? with
    | some behind => pure ⟨.ahead negated behind, true⟩
    | none =>
      modify fun reading => { reading with isVariable := true }
      pure ⟨.empty, true⟩

def group : Nat → Read Item
  | 0 => pure ⟨.empty, false⟩
  | fuel + 1 => do
    let reading ← get
    match reading.rest with
    | '?' :: rest => extendedGroup fuel rest
    | '*' :: rest => starGroup fuel rest
    | _ =>
      if reading.settings.unnumbered then pure ⟨← inside fuel, true⟩ else numbered fuel none

def starGroup : Nat → Text → Read Item
  | 0, _ => pure ⟨.empty, false⟩
  | fuel + 1, text => do
    let name := text.takeWhile CharSet.asciiWord
    let after := text.drop name.length
    let isLower := (name.head?.map fun c => 'a' ≤ c && c ≤ 'z').getD false
    match after with
    | ':' :: rest =>
      if isLower then
        match wordedGroup? name with
        | none => fault .unknownAssertion
        | some (kind, negated) =>
          setRest rest
          match kind with
          | "ahead" => pure ⟨.ahead negated (← inside fuel), true⟩
          | "behind" => lookBehind fuel negated
          | "atomic" => pure ⟨.atomic (← inside fuel), true⟩
          | _ => pure ⟨← inside fuel, true⟩
      else
        let argument := rest.takeWhile (· ≠ ')')
        match rest.drop argument.length with
        | [] => fault .badVerb
        | _ :: left =>
          if name = "MARK".toList then
            setRest left
            pure ⟨.empty, false⟩
          else
            match verb? name with
            | some perl =>
              setRest left
              pure ⟨perl, false⟩
            | none => fault .badVerb
    | ')' :: rest =>
      if isLower then fault .unknownAssertion
      match verb? name with
      | some perl =>
        setRest rest
        pure ⟨perl, false⟩
      | none => fault .badVerb
    | _ => fault (if isLower then .unknownAssertion else .badVerb)

def extendedGroup : Nat → Text → Read Item
  | 0, _ => pure ⟨.empty, false⟩
  | fuel + 1, text => do
    let reading ← get
    let go (rest : Text) : Read Unit := setRest rest
    match text with
    | [] => fault .openGroup
    | '#' :: rest =>
      match afterComment? rest with
      | some after =>
        go after
        pure ⟨.empty, false⟩
      | none => fault .openComment
    | ':' :: rest =>
      go rest
      pure ⟨← inside fuel, true⟩
    | '|' :: rest =>
      go rest
      let before := reading.settings
      let body ← alikeBranches fuel reading.count reading.count
      closeGroup before
      pure ⟨body, true⟩
    | '>' :: rest =>
      go rest
      pure ⟨.atomic (← inside fuel), true⟩
    | '=' :: rest =>
      go rest
      pure ⟨.ahead false (← inside fuel), true⟩
    | '*' :: rest =>
      go rest
      pure ⟨.ahead false (← inside fuel), true⟩
    | '!' :: rest =>
      go rest
      pure ⟨.ahead true (← inside fuel), true⟩
    | '<' :: '=' :: rest =>
      go rest
      lookBehind fuel false
    | '<' :: '*' :: rest =>
      go rest
      lookBehind fuel false
    | '<' :: '!' :: rest =>
      go rest
      lookBehind fuel true
    | '<' :: rest => named fuel '>' rest
    | '\'' :: rest => named fuel '\'' rest
    | 'P' :: '<' :: rest => named fuel '>' rest
    | 'P' :: '=' :: rest =>
      match readName ')' rest with
      | .ok (name, after) =>
        go after
        pure ⟨.back (.name name) reading.settings.ignoreCase, true⟩
      | .error bad => fault bad
    | 'P' :: '>' :: rest => callNamed rest
    | ['P'] => fault .openGroup
    | 'P' :: _ => fault .unknownNamed
    | '&' :: rest => callNamed rest
    | 'R' :: ')' :: rest =>
      go rest
      pure ⟨.call (.number 0), true⟩
    | 'R' :: _ => fault .badRecursion
    | 'C' :: rest =>
      let digits := rest.takeWhile Char.isDigit
      match rest.drop digits.length with
      | ')' :: after =>
        go after
        pure ⟨.empty, false⟩
      | _ => fault .openGroup
    | '(' :: rest => conditional fuel rest
    | '^' :: rest => switch fuel { Settings.none with
        repeatedNames := reading.settings.repeatedNames
        reluctant := reading.settings.reluctant } rest
    | _ =>
      match relative? reading.count text with
      | some (number, ')' :: after) =>
        match number with
        | .ok number =>
          go after
          pure ⟨.call (.number number), true⟩
        | .error bad => fault bad
      | some (_, _) => fault .badRecursion
      | none =>
        match text with
        | '+' :: _ => fault .digitExpected
        | '-' :: c :: _ =>
          if c.isAlpha || c == ')' || c == ':' then switch fuel reading.settings text
          else fault .unknownOption
        | _ => switch fuel reading.settings text

def switch : Nat → Settings → Text → Read Item
  | 0, _, _ => pure ⟨.empty, false⟩
  | fuel + 1, base, text => do
    let before := (← get).settings
    match readOptions (text.length + 1) true base text with
    | .error bad => fault bad
    | .ok (settings, ')' :: rest) =>
      modify fun reading => { reading with rest, settings }
      pure ⟨.empty, false⟩
    | .ok (settings, _ :: rest) =>
      modify fun reading => { reading with rest, settings }
      let body ← branches fuel
      closeGroup before
      pure ⟨body, true⟩
    | .ok (_, []) => fault .openGroup

def named : Nat → Char → Text → Read Item
  | 0, _, _ => pure ⟨.empty, false⟩
  | fuel + 1, close, text => do
    match readName close text with
    | .ok (name, rest) =>
      setRest rest
      numbered fuel (some name)
    | .error bad => fault bad

def condition : Nat → Text → Read Perl
  | 0, _ => pure .empty
  | fuel + 1, text => do
    let reading ← get
    let named (close : Char) (text : Text) : Read Perl := do
      match readName close text with
      | .error bad => fault bad
      | .ok (name, rest) =>
        if close = ')' then
          setRest rest
          pure (.isSet (.name name))
        else
          match rest with
          | ')' :: rest =>
            setRest rest
            pure (.isSet (.name name))
          | _ => fault .openCondition
    match text with
    | '?' :: rest =>
      match rest with
      | '=' :: _ => assertion fuel text
      | '!' :: _ => assertion fuel text
      | '*' :: _ => assertion fuel text
      | '<' :: '=' :: _ => assertion fuel text
      | '<' :: '!' :: _ => assertion fuel text
      | _ => fault .assertionExpected
    | '*' :: _ => assertion fuel text
    | '<' :: rest => named '>' rest
    | '\'' :: rest => named '\'' rest
    | 'R' :: ')' :: rest =>
      setRest rest
      pure .never
    | _ =>
      match relative? reading.count text with
      | some (number, after) =>
        match number, after with
        | .error bad, _ => fault bad
        | .ok number, ')' :: rest =>
          setRest rest
          pure (.isSet (.number number))
        | .ok _, _ => fault .openCondition
      | none =>
        match Text.after? "DEFINE)".toList text with
        | some rest =>
          setRest rest
          pure .never
        | none => named ')' text

def assertion : Nat → Text → Read Perl
  | 0, _ => pure .empty
  | fuel + 1, text => do
    setRest text
    let found ← group fuel
    pure found.perl

def conditional : Nat → Text → Read Item
  | 0, _ => pure ⟨.empty, false⟩
  | fuel + 1, text => do
    let test ← condition fuel text
    let before := (← get).settings
    let body ← branches fuel
    closeGroup before
    match body with
    | .alt yes (.alt _ _) => do
      discard (pure yes)
      fault .tooManyBranches
    | .alt yes no => pure ⟨.choice test yes no, true⟩
    | yes => pure ⟨.choice test yes .empty, true⟩

end

end Reading

def refs : Perl → List GroupRef
  | .seq first second => first.refs ++ second.refs
  | .alt first second => first.refs ++ second.refs
  | .times body _ _ _ => body.refs
  | .group _ body => body.refs
  | .back ref _ => [ref]
  | .ahead _ body => body.refs
  | .atomic body => body.refs
  | .call ref => [ref]
  | .isSet ref => [ref]
  | .choice condition yes no => condition.refs ++ yes.refs ++ no.refs
  | _ => []

structure Parsed where
  perl : Perl
  names : List (Text × Nat)

def parse (ignoreCase wholeLines : Bool) (text : Text) : Except Fault Parsed := do
  let text := dropOpening text.length text
  let start : Reading := ⟨text, { Settings.none with ignoreCase }, 0, [], false, false⟩
  let (perl, reading) ← (Reading.branches (4 * text.length + 8)).run start
  match reading.rest with
  | _ :: _ => .error .unmatchedClose
  | [] =>
    let isThere : GroupRef → Bool
      | .number number => number ≤ reading.count
      | .name name => reading.names.any (·.1 == name)
    let perl := if wholeLines then .seq (.edge .textStart) (.seq perl (.edge .textEnd)) else perl
    if reading.isVariable then .error .variableBehind
    else if perl.keepsAhead then .error .keepInside
    else if perl.refs.all isThere then .ok ⟨perl, reading.names⟩
    else .error .noGroup

end WorkerLint.Tool.Perl
