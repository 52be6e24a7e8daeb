import WorkerLint.Shell.Scan

/-! Commands read from a source, one complete command at a time. -/

namespace WorkerLint.Shell

def specialBuiltins : List Text :=
  [".", ":", "break", "continue", "eval", "exec", "exit", "export", "local", "readonly",
    "return", "set", "shift", "times", "trap", "unset"].map String.toList

namespace Parser

def named (text : String) : Option Text :=
  some ('"' :: text.toList ++ ['"'])

def listWants (whole : Bool) : Wants :=
  if whole then .keyword else .command

def inBackground : Command → Command
  | .pipe stages _ => .pipe stages true
  | .redirected line command redirects => .subshell line command redirects true
  | command => .subshell 0 command [] true

def followedBy : Option Command → Command → Command
  | none, second => second
  | some first, second => .sequence first second

def awaitLines (fd : Nat) (dropTabs : Bool) : Parser Redirect := do
  let state ← get
  let number := state.nextText
  let doc : HereDoc := ⟨number, state.word.unquoted, dropTabs, state.isQuoted⟩
  set { state with nextText := number + 1, waiting := state.waiting ++ [doc] }
  pure (.fromText fd number)

def isWord : Token → Bool
  | .word => true
  | _ => false

def words (inner : Parser Command) : Nat → Parser (List Word)
  | 0 => pure []
  | fuel + 1 => do
    if isWord (← nextToken inner fuel) then
      let word := (← get).word
      pure (word :: (← words inner fuel))
    else pure []

def redirectTarget (inner : Parser Command) (fuel fd : Nat) (op : RedirectOp) :
    Parser Redirect := do
  match op with
  | .lines _ => want { Wants.nothing with endMark := true }
  | _ => pure ()
  if !isWord (← nextToken inner fuel) then unexpected none
  match op with
  | .lines dropTabs => awaitLines fd dropTabs
  | .copy => pure (.copy fd (← get).word)
  | .toFile mode => pure (.toFile fd mode (← get).word)

def redirects (inner : Parser Command) : Nat → Parser (List Redirect)
  | 0 => pure []
  | fuel + 1 => do
    match ← nextToken inner fuel with
    | .redirect fd op =>
      let first ← redirectTarget inner fuel fd op
      pure (first :: (← redirects inner fuel))
    | _ =>
      putBack
      pure []

structure Simple where
  assigns : List (Text × Word)
  words : List Word
  redirects : List Redirect

def functionName? (word : Word) : Option Text :=
  match word.bare? with
  | some name => if isName name && !specialBuiltins.contains name then some name else none
  | none => none

def withRedirects (line : Nat) (command : Command) (redirects : List Redirect) : Command :=
  match redirects, command with
  | [], command => command
  | _, .subshell line body _ false => .subshell line body redirects false
  | _, command => .redirected line command redirects

mutual

/-- Commands up to a token that ends them. A whole command ends with its line. -/
def list : Nat → (whole mayBeEmpty : Bool) → Option Command → Parser (Option Command)
  | 0, _, _, sofar => pure sofar
  | fuel + 1, whole, mayBeEmpty, sofar => do
    let inner := innerList fuel
    want (listWants whole)
    let token ← nextToken inner fuel
    match token with
    | .newline =>
      hereDocs inner fuel
      pure (some (sofar.getD .nothing))
    | .finish => listEnd fuel sofar
    | _ =>
      putBack
      if mayBeEmpty && !whole && token.closesList then pure sofar
      else
        let second ← andOr fuel
        let token ← nextToken inner fuel
        let second := if token.isOp "&" then inBackground second else second
        let sofar := followedBy sofar second
        if token.isOp "&" || token.isOp ";" then list fuel whole true (some sofar)
        else
          match token with
          | .finish => listEnd fuel (some sofar)
          | .newline =>
            putBack
            list fuel whole true (some sofar)
          | _ =>
            if whole then unexpected none
            putBack
            pure (some sofar)

def listEnd : Nat → Option Command → Parser (Option Command)
  | 0, sofar => pure sofar
  | fuel + 1, sofar => do
    hereDocs (innerList fuel) fuel
    discard (setToken .finish)
    putBack
    pure sofar

def innerList : Nat → Parser Command
  | 0 => pure .nothing
  | fuel + 1 => do
    pure ((← list fuel false true none).getD .nothing)

def body : Nat → Parser Command
  | 0 => pure .nothing
  | fuel + 1 => do
    pure ((← list fuel false false none).getD .nothing)

def andOr : Nat → Parser Command
  | 0 => pure .nothing
  | fuel + 1 => do
    let first ← pipeline fuel
    joined fuel first

def joined : Nat → Command → Parser Command
  | 0, first => pure first
  | fuel + 1, first => do
    let token ← nextToken (innerList fuel) fuel
    if token.isOp "&&" || token.isOp "||" then
      want .command
      let second ← pipeline fuel
      joined fuel (if token.isOp "&&" then .both first second else .either first second)
    else
      putBack
      pure first

def pipeline : Nat → Parser Command
  | 0 => pure .nothing
  | fuel + 1 => do
    let inner := innerList fuel
    let negated := (← nextToken inner fuel).isKeyword "!"
    if negated then want .keyword else putBack
    let first ← command fuel
    let found ←
      if (← nextToken inner fuel).isOp "|" then
        let rest ← stages fuel
        pure (.pipe (first :: rest) false)
      else pure first
    putBack
    pure (if negated then .negated found else found)

def stages : Nat → Parser (List Command)
  | 0 => pure []
  | fuel + 1 => do
    want .command
    let first ← command fuel
    if (← nextToken (innerList fuel) fuel).isOp "|" then
      pure (first :: (← stages fuel))
    else pure [first]

def expect : Nat → (Token → Bool) → String → Parser Unit
  | 0, _, _ => pure ()
  | fuel + 1, accepts, name => do
    if !accepts (← nextToken (innerList fuel) fuel) then unexpected (named name)

def command : Nat → Parser Command
  | 0 => pure .nothing
  | fuel + 1 => do
    let inner := innerList fuel
    let line := (← get).source.line
    let token ← nextToken inner fuel
    match token with
    | .word =>
      putBack
      simple fuel
    | .redirect _ _ =>
      putBack
      simple fuel
    | _ =>
      let found ←
        if token.isKeyword "if" then branch fuel
        else if token.isKeyword "while" || token.isKeyword "until" then
          let condition ← body fuel
          expect fuel (·.isKeyword "do") "do"
          let steps ← body fuel
          expect fuel (·.isKeyword "done") "done"
          pure (.repeated (token.isKeyword "until") condition steps)
        else if token.isKeyword "for" then forEach fuel line
        else if token.isKeyword "case" then select fuel line
        else if token.isOp "(" then
          let inside ← body fuel
          expect fuel (·.isOp ")") ")"
          pure (.subshell line inside [] false)
        else if token.isKeyword "\x7b" then
          let inside ← body fuel
          expect fuel (·.isKeyword "\x7d") "\x7d"
          pure inside
        else unexpected none
      want .keyword
      pure (withRedirects line found (← redirects inner fuel))

def branch : Nat → Parser Command
  | 0 => pure .nothing
  | fuel + 1 => do
    let (condition, yes) ← arm fuel
    let no ← otherwise fuel
    expect fuel (·.isKeyword "fi") "fi"
    pure (.branch condition yes no)

def arm : Nat → Parser (Command × Command)
  | 0 => pure (.nothing, .nothing)
  | fuel + 1 => do
    let condition ← body fuel
    expect fuel (·.isKeyword "then") "then"
    pure (condition, ← body fuel)

def otherwise : Nat → Parser Command
  | 0 => pure .nothing
  | fuel + 1 => do
    let token ← nextToken (innerList fuel) fuel
    if token.isKeyword "elif" then
      let (condition, yes) ← arm fuel
      pure (.branch condition yes (← otherwise fuel))
    else if token.isKeyword "else" then body fuel
    else
      putBack
      pure .nothing

def forEach : Nat → Nat → Parser Command
  | 0, _ => pure .nothing
  | fuel + 1, line => do
    let inner := innerList fuel
    let token ← nextToken inner fuel
    let state ← get
    match if isWord token && !state.isQuoted then state.word.bare? else none with
    | none => fail "Bad for loop variable".toList
    | some name =>
      if !isName name then fail "Bad for loop variable".toList
      want .command
      let token ← nextToken inner fuel
      let items ←
        if token.isKeyword "in" then
          let items ← words inner fuel
          let ended := (← get).token
          if !(ended == .newline || ended.isOp ";") then unexpected none
          pure items
        else
          if !token.isOp ";" then putBack
          pure [[.edge, .param ['@'] (.value false) [], .edge]]
      want .command
      expect fuel (·.isKeyword "do") "do"
      let steps ← body fuel
      expect fuel (·.isKeyword "done") "done"
      pure (.forEach line name items steps)

def select : Nat → Nat → Parser Command
  | 0, _ => pure .nothing
  | fuel + 1, line => do
    if !isWord (← nextToken (innerList fuel) fuel) then unexpected (some "word".toList)
    let subject := (← get).word
    want .command
    expect fuel (·.isKeyword "in") "in"
    pure (.select line subject (← arms fuel))

def arms : Nat → Parser (List (List Word × Command))
  | 0 => pure []
  | fuel + 1 => do
    let inner := innerList fuel
    want ⟨true, true, false, false⟩
    let token ← nextToken inner fuel
    if token.isKeyword "esac" then pure []
    else
      if token.isOp "(" then discard (nextToken inner fuel)
      let patterns ← patterns fuel
      if !(← get).token.isOp ")" then unexpected (named ")")
      let inside ← list fuel false true none
      want ⟨true, true, false, false⟩
      let token ← nextToken inner fuel
      let first := (patterns, inside.getD .nothing)
      if token.isKeyword "esac" then pure [first]
      else
        if !token.isOp ";;" then unexpected (named ";;")
        pure (first :: (← arms fuel))

def patterns : Nat → Parser (List Word)
  | 0 => pure []
  | fuel + 1 => do
    let inner := innerList fuel
    let first := (← get).word
    if (← nextToken inner fuel).isOp "|" then
      discard (nextToken inner fuel)
      pure (first :: (← patterns fuel))
    else pure [first]

def simple : Nat → Parser Command
  | 0 => pure .nothing
  | fuel + 1 => do
    let line := (← get).source.line
    simpleFrom fuel line ⟨[], [], []⟩

def simpleFrom : Nat → Nat → Simple → Parser Command
  | 0, _, _ => pure .nothing
  | fuel + 1, line, sofar => do
    let inner := innerList fuel
    want { Wants.nothing with aliases := sofar.words.isEmpty }
    let token ← nextToken inner fuel
    let finish : Parser Command := do
      putBack
      pure (.simple line sofar.assigns.reverse sofar.words.reverse sofar.redirects.reverse)
    match token with
    | .word =>
      let word := (← get).word
      match if sofar.words.isEmpty then word.assignment? else none with
      | some found => simpleFrom fuel line { sofar with assigns := found :: sofar.assigns }
      | none => simpleFrom fuel line { sofar with words := word :: sofar.words }
    | .redirect fd op =>
      let found ← redirectTarget inner fuel fd op
      simpleFrom fuel line { sofar with redirects := found :: sofar.redirects }
    | _ =>
      match token.isOp "(", sofar with
      | true, ⟨[], [word], []⟩ =>
        expect fuel (·.isOp ")") ")"
        match functionName? word with
        | none => fail "Bad function name".toList
        | some name =>
          want .command
          let line := (← get).source.line
          pure (.define line name (← command fuel))
      | _, _ => finish

end

end Parser

structure Parsed where
  command : Option Command
  source : Source
  texts : List (Nat × Word)
  nextText : Nat
  isLast : Bool

structure ParseContext where
  aliases : List (Text × Text)
  nextText : Nat

def ParseContext.start (context : ParseContext) (source : Source) : ParseState where
  source := source
  aliases := context.aliases
  token := .newline
  again := false
  word := []
  isQuoted := false
  wants := .nothing
  waiting := []
  texts := []
  nextText := context.nextText

def parseFuel : Nat := 1000000

def parseCommand (context : ParseContext) (source : Source) :
    Except (SyntaxFault × Source) Parsed :=
  match (Parser.list parseFuel true false none).run (context.start source) with
  | .ok (command, state) =>
    .ok ⟨command, state.source, state.texts, state.nextText, state.again && state.token == .finish⟩
  | .error fault => .error (fault, source)

def parsePrompt (context : ParseContext) (text : Text) : Except SyntaxFault Word :=
  let read : Parser Word := do
    let draft ← Parser.draftFrom (Parser.innerList parseFuel) .prompt parseFuel
      (.start .double (← Parser.next))
    Parser.checkClosed .prompt draft
    pure draft.word
  match read.run (context.start (Source.ofText 1 text)) with
  | .ok (word, _) => .ok word
  | .error fault => .error fault

end WorkerLint.Shell
