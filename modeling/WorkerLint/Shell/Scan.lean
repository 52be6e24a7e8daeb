import WorkerLint.Shell.Token

/-! Tokens read from a source. Commands inside words are read by a parser that is handed in. -/

namespace WorkerLint.Shell

structure SyntaxFault where
  line : Nat
  message : Text
  deriving DecidableEq, Repr

structure Wants where
  anyLine : Bool
  keywords : Bool
  aliases : Bool
  endMark : Bool
  deriving DecidableEq, Repr

namespace Wants

def nothing : Wants := ⟨false, false, false, false⟩

def keyword : Wants := ⟨false, true, true, false⟩

def command : Wants := ⟨true, true, true, false⟩

end Wants

structure HereDoc where
  number : Nat
  mark : Text
  dropTabs : Bool
  literal : Bool
  deriving DecidableEq, Repr

structure ParseState where
  source : Source
  aliases : List (Text × Text)
  token : Token
  again : Bool
  word : Word
  isQuoted : Bool
  wants : Wants
  waiting : List HereDoc
  texts : List (Nat × Word)
  nextText : Nat

abbrev Parser := StateT ParseState (Except SyntaxFault)

namespace Parser

def fail (message : Text) : Parser α := fun state =>
  .error ⟨state.source.line, message⟩

def next : Parser (Option Char) := fun state =>
  let (c, source) := state.source.next
  .ok (c, { state with source })

def back (c : Option Char) : Parser Unit :=
  match c with
  | some c => modify fun state => { state with source := state.source.back c }
  | none => pure ()

def newLine : Parser Unit :=
  modify fun state => { state with source := state.source.newLine }

def nextJoined : Nat → Parser (Option Char)
  | 0 => next
  | fuel + 1 => do
    let c ← next
    if c = some '\\' then
      let d ← next
      if d = some '\n' then
        newLine
        nextJoined fuel
      else
        back d
        pure c
    else pure c

def putBack : Parser Unit :=
  modify fun state => { state with again := true }

def want (wants : Wants) : Parser Unit :=
  modify fun state =>
    { state with wants, source := { state.source with aliasNext := false } }

def setToken (token : Token) : Parser Token := do
  modify fun state => { state with token }
  pure token

def unexpected (wanted : Option Text) : Parser α := do
  let state ← get
  let wish :=
    match wanted with
    | some text => " (expecting ".toList ++ text ++ ")".toList
    | none => []
  fail (state.token.name ++ " unexpected".toList ++ wish)

end Parser

inductive Purpose
  | word
  | lines (mark : Text) (dropTabs : Bool)
  | prompt
  deriving DecidableEq, Repr

structure Draft where
  current : Option Char
  frame : Frame
  outer : List Frame
  marks : List Mark
  isQuoted : Bool

namespace Draft

def start (reading : Reading) (current : Option Char) : Draft :=
  ⟨current, Frame.start reading, [], [], false⟩

def put (draft : Draft) (mark : Mark) : Draft :=
  { draft with marks := mark :: draft.marks }

def inQuotes (draft : Draft) : Bool :=
  draft.frame.isDouble || draft.frame.reading = .single

def putChar (draft : Draft) (c : Char) : Draft :=
  draft.put (.part (if draft.inQuotes then .quoted c else .plain c))

def putQuoted (draft : Draft) (c : Char) : Draft :=
  draft.put (.part (.quoted c))

def push (draft : Draft) (frame : Frame) : Draft :=
  { draft with frame, outer := draft.frame :: draft.outer }

def pop (draft : Draft) : Draft :=
  match draft.outer with
  | frame :: outer => { draft with frame, outer }
  | [] => draft

/-- Quotes open or close here. In lines they are characters like others. -/
def edge (draft : Draft) (purpose : Purpose) : Draft :=
  if purpose = .word then draft.put (.part .edge) else draft

def toggle (draft : Draft) : Draft :=
  if 0 < draft.frame.braces then
    { draft with frame := { draft.frame with innerDouble := !draft.frame.innerDouble } }
  else draft

def word (draft : Draft) : Word :=
  Mark.word draft.marks.reverse

end Draft

def useOf? (emptyToo : Bool) (c : Option Char) : Option ParamUse :=
  match c with
  | some '\x7d' => some (.value emptyToo)
  | some '-' => some (.orElse emptyToo)
  | some '+' => some (.ifPresent emptyToo)
  | some '?' => some (.orFail emptyToo)
  | some '=' => some (.orAssign emptyToo)
  | _ => none

def isSpecialParam (c : Char) : Bool :=
  "$!#?*@-".toList.elem c

namespace Parser

def nameFrom (accepts : Char → Bool) : Nat → Option Char → Parser (Text × Option Char)
  | 0, c => pure ([], c)
  | fuel + 1, some c =>
    if accepts c then do
      let (rest, after) ← nameFrom accepts fuel (← nextJoined fuel)
      pure (c :: rest, after)
    else pure ([], some c)
  | _, none => pure ([], none)

def paramIn (fuel : Nat) (c : Option Char) : Parser (Text × ParamUse) := do
  match c with
  | none => bad []
  | some c =>
    if isNameStart c then
      let (name, after) ← nameFrom isNameChar fuel (some c)
      use name after
    else if c.isDigit then
      let (name, after) ← nameFrom Char.isDigit fuel (some c)
      use name after
    else if c = '\x7d' then
      back (some c)
      bad []
    else
      let after ← nextJoined fuel
      if c = '#' then
        match after with
        | some d =>
          if isNameChar d then
            let (name, after) ←
              nameFrom (if d.isDigit then Char.isDigit else isNameChar) fuel after
            length name after
          else
            let later ← nextJoined fuel
            if d = '\x7d' ∨ later ≠ some '\x7d' then
              back later
              use ['#'] after
            else if isSpecialParam d then length [d] later
            else
              back later
              bad []
        | none => use ['#'] none
      else if isSpecialParam c then use [c] after
      else
        back after
        bad []
where
  bad (name : Text) : Parser (Text × ParamUse) :=
    pure (name, .wrong)
  length (name : Text) (after : Option Char) : Parser (Text × ParamUse) := do
    back after
    if after = some '\x7d' then pure (name, .length) else bad name
  use (name : Text) (after : Option Char) : Parser (Text × ParamUse) := do
    match after with
    | some ':' => pure (name, (useOf? true (← nextJoined fuel)).getD .wrong)
    | some '%' =>
      let later ← nextJoined fuel
      if later = after then pure (name, .withoutEnd true)
      else
        back later
        pure (name, .withoutEnd false)
    | some '#' =>
      let later ← nextJoined fuel
      if later = after then pure (name, .withoutStart true)
      else
        back later
        pure (name, .withoutStart false)
    | _ => pure (name, (useOf? false after).getD .wrong)

def isTrim : ParamUse → Bool
  | .withoutStart _ => true
  | .withoutEnd _ => true
  | _ => false

def enter (draft : Draft) (use : ParamUse) : Draft :=
  let reading : Reading :=
    if isTrim use then .base
    else if draft.frame.reading = .sum then .double
    else draft.frame.reading
  let draft :=
    if reading ≠ draft.frame.reading ∨ draft.frame.innerDouble then
      draft.push { Frame.start reading with ofBraces := true, isDouble := reading ≠ .base }
    else draft
  let frame := draft.frame
  { draft with
    frame :=
      { frame with
        braces := frame.braces + 1
        doubleBraces := if frame.isDouble then frame.doubleBraces + 1 else frame.doubleBraces } }

/-- The text of a command between backquotes. A backslash keeps its meaning before some signs
only. -/
def backquoted (isDouble : Bool) : Nat → Parser Text
  | 0 => pure []
  | fuel + 1 => do
    match ← nextJoined fuel with
    | none => fail "EOF in backquote substitution".toList
    | some '\x60' => pure []
    | some '\\' =>
      match ← next with
      | some c =>
        let rest ← backquoted isDouble fuel
        if "\\\x60$".toList.elem c || (isDouble && c == '"') then pure (c :: rest)
        else pure ('\\' :: c :: rest)
      | none => fail "EOF in backquote substitution".toList
    | some '\n' =>
      newLine
      pure ('\n' :: (← backquoted isDouble fuel))
    | some c => pure (c :: (← backquoted isDouble fuel))

def bracketed (inner : Parser Command) : Parser Command := do
  let waiting := (← get).waiting
  modify fun state => { state with waiting := [] }
  let command ← inner
  let token := (← get).token
  if !token.isOp ")" then unexpected (some "\")\"".toList)
  modify fun state => { state with waiting, again := false }
  pure command

/-- A command between backquotes. Its lines count from one, and what follows its end is ignored. -/
def oldStyle (inner : Parser Command) (isDouble : Bool) (fuel : Nat) : Parser Command := do
  let text ← backquoted isDouble fuel
  let saved ← get
  set { saved with source := Source.ofText 1 text, waiting := [] }
  let command ← inner
  modify fun state =>
    { state with source := saved.source, waiting := saved.waiting, again := false }
  pure command

def dollar (inner : Parser Command) (fuel : Nat) (draft : Draft) : Parser Draft := do
  let c ← nextJoined fuel
  let plain : Parser Draft := do
    back c
    pure (draft.putChar '$')
  if (← get).wants.endMark then plain
  else
    match c with
    | none => plain
    | some '(' =>
      let d ← nextJoined fuel
      if d = some '(' then pure ((draft.put .openSum).push (Frame.start .sum))
      else
        back d
        pure (draft.put (.part (.output (← bracketed inner))))
    | some '\x7b' =>
      let (name, use) ← paramIn fuel (← nextJoined fuel)
      let opened := draft.put (.openParam name use)
      pure (if use = .value false then opened else enter opened use)
    | some d =>
      if isNameStart d then
        let (name, after) ← nameFrom isNameChar fuel c
        back after
        pure (draft.put (.openParam name (.value false)))
      else if d.isDigit ∨ isSpecialParam d then
        pure (draft.put (.openParam [d] (.value false)))
      else plain

def skipTabs : Nat → Option Char → Parser (Option Char)
  | fuel + 1, some '\t' => do skipTabs fuel (← next)
  | _, c => pure c

/-- Reads a mark and the end of its line. If the line is another one, all of it but its first
character is put back. -/
def matchesMark : Text → Option Char → Parser Bool
  | [], c => do
    if c = some '\n' ∨ c = none then
      newLine
      pure true
    else pure false
  | m :: mark, c =>
    if c = some m then do
      let d ← next
      if ← matchesMark mark d then pure true
      else
        back d
        pure false
    else pure false

def lineStart (purpose : Purpose) (fuel : Nat) (c : Option Char) : Parser (Option Char) := do
  match purpose with
  | .lines mark dropTabs =>
    let c ← if dropTabs then skipTabs fuel c else pure c
    pure (if ← matchesMark mark c then none else c)
  | _ => pure c

def backslash (purpose : Purpose) (draft : Draft) : Parser Draft := do
  match ← next with
  | none => pure (draft.putQuoted '\\')
  | some '\n' =>
    newLine
    pure draft
  | some c =>
    let frame := draft.frame
    let stays := frame.isDouble && !"\\\x60$".toList.elem c &&
      (c != '"' || (purpose ≠ .word && frame.braces == 0)) && (c != '\x7d' || frame.braces == 0)
    let draft := if stays then draft.putQuoted '\\' else draft
    pure { draft.putQuoted c with isQuoted := true }

def endQuote (purpose : Purpose) (c : Char) (draft : Draft) : Draft :=
  if purpose ≠ .word ∧ draft.frame.braces = 0 then draft.putChar c
  else
    let draft :=
      if draft.frame.doubleBraces = 0 then
        { draft with frame := { draft.frame with reading := .base, isDouble := false } }
      else draft
    let draft := if c = '"' then draft.toggle else draft
    { draft.edge purpose with isQuoted := true }

def endBrace (c : Char) (draft : Draft) : Draft :=
  let frame := draft.frame
  if frame.innerDouble ∨ frame.braces = 0 then draft.putChar c
  else
    let draft := { draft with frame := { frame with braces := frame.braces - 1 } }
    let draft :=
      if frame.braces = 1 ∧ frame.ofBraces then draft.pop
      else if 0 < frame.doubleBraces then
        { draft with frame := { draft.frame with doubleBraces := frame.doubleBraces - 1 } }
      else draft
    draft.put .closeParam

def closeParen (fuel : Nat) (c : Char) (draft : Draft) : Parser Draft := do
  let frame := draft.frame
  if 0 < frame.parens then
    pure ({ draft with frame := { frame with parens := frame.parens - 1 } }.putChar c)
  else
    let d ← nextJoined fuel
    if d = some ')' then pure (draft.pop.put .closeSum)
    else
      back d
      pure (draft.putChar c)

/-- Reads the character that a draft looks at, but does not look at the next one. There is no
draft if the word ends before it. -/
def takeChar (inner : Parser Command) (purpose : Purpose) (fuel : Nat) (c : Char)
    (draft : Draft) : Parser (Option Draft) := do
  let frame := draft.frame
  match frame.reading.role c with
  | .ordinary => pure (some (draft.putChar c))
  | .newline =>
    if frame.reading = .base ∧ frame.braces = 0 then pure none
    else
      newLine
      pure (some (draft.putChar c))
  | .backslash => some <$> backslash purpose draft
  | .singleQuote =>
    pure (some ({ draft with frame := { frame with reading := .single } }.edge purpose))
  | .doubleQuote =>
    let draft := { draft with frame := { frame with reading := .double, isDouble := true } }
    pure (some (draft.toggle.edge purpose))
  | .endQuote => pure (some (endQuote purpose c draft))
  | .dollar => some <$> dollar inner fuel draft
  | .endBrace => pure (some (endBrace c draft))
  | .openParen =>
    pure (some ({ draft with frame := { frame with parens := frame.parens + 1 } }.putChar c))
  | .closeParen => some <$> closeParen fuel c draft
  | .backquote =>
    if (← get).wants.endMark then pure (some { draft.putChar c with isQuoted := true })
    else
      let command ← oldStyle inner frame.isDouble fuel
      pure (some (draft.put (.part (.output command))))
  | .special =>
    pure (if frame.braces = 0 then none else some (draft.putChar c))

def draftFrom (inner : Parser Command) (purpose : Purpose) : Nat → Draft → Parser Draft
  | 0, draft => pure draft
  | fuel + 1, draft => do
    match draft.current with
    | none => pure draft
    | some c =>
      match ← takeChar inner purpose fuel c draft with
      | none => pure draft
      | some draft =>
        let following ← if draft.frame.reading = .single then next else nextJoined fuel
        let current ← if c = '\n' then lineStart purpose fuel following else pure following
        draftFrom inner purpose fuel { draft with current }

def checkClosed (purpose : Purpose) (draft : Draft) : Parser Unit := do
  if draft.frame.reading = .sum then fail "Missing '))'".toList
  else if draft.frame.reading ≠ .base ∧ purpose = .word then
    fail "Unterminated quoted string".toList
  else if draft.frame.braces ≠ 0 then fail "Missing '\x7d'".toList

def descriptor? (draft : Draft) (standard : Nat) : Option Nat :=
  if draft.isQuoted then none
  else
    match draft.marks with
    | [] => some standard
    | [.part (.plain c)] => if c.isDigit then some (c.toNat - '0'.toNat) else none
    | _ => none

def redirectOp (fuel : Nat) (c : Char) : Parser RedirectOp := do
  let d ← nextJoined fuel
  if c = '>' then
    match d with
    | some '>' => pure (.toFile .append)
    | some '|' => pure (.toFile .write)
    | some '&' => pure .copy
    | _ =>
      back d
      pure (.toFile .create)
  else
    match d with
    | some '<' =>
      let e ← nextJoined fuel
      if e = some '-' then pure (.lines true)
      else
        back e
        pure (.lines false)
    | some '&' => pure .copy
    | some '>' => pure (.toFile .readWrite)
    | _ =>
      back d
      pure (.toFile .read)

def wordToken (inner : Parser Command) (fuel : Nat) (c : Option Char) : Parser Token := do
  let draft ← draftFrom inner .word fuel (.start .base c)
  checkClosed .word draft
  let keep : Parser Token := do
    back draft.current
    modify fun state => { state with word := draft.word, isQuoted := draft.isQuoted }
    setToken .word
  match draft.current with
  | some sign =>
    if sign = '<' ∨ sign = '>' then
      match descriptor? draft (if sign = '<' then 0 else 1) with
      | some fd => setToken (.redirect fd (← redirectOp fuel sign))
      | none => keep
    else keep
  | none => keep

def skipComment : Nat → Parser Unit
  | 0 => pure ()
  | fuel + 1 => do
    match ← next with
    | none => pure ()
    | some '\n' => back (some '\n')
    | some _ => skipComment fuel

def doubledOp (fuel : Nat) (c : Char) : Parser Token := do
  let d ← nextJoined fuel
  if d = some c then setToken (.op [c, c])
  else
    back d
    setToken (.op [c])

def rawToken (inner : Parser Command) : Nat → Parser Token
  | 0 => setToken .finish
  | fuel + 1 => do
    let state ← get
    if state.again then
      set { state with again := false }
      pure state.token
    else
      let c ← nextJoined fuel
      match c with
      | none => setToken .finish
      | some ' ' => rawToken inner fuel
      | some '\t' => rawToken inner fuel
      | some '#' =>
        skipComment fuel
        rawToken inner fuel
      | some '\n' =>
        newLine
        setToken .newline
      | some '&' => doubledOp fuel '&'
      | some '|' => doubledOp fuel '|'
      | some ';' => doubledOp fuel ';'
      | some '(' => setToken (.op ['('])
      | some ')' => setToken (.op [')'])
      | _ => wordToken inner fuel c

def hereDocs (inner : Parser Command) (fuel : Nat) : Parser Unit := do
  let waiting := (← get).waiting
  modify fun state => { state with waiting := [] }
  readAll waiting
where
  readAll : List HereDoc → Parser Unit
    | [] => pure ()
    | doc :: rest => do
      let purpose := .lines doc.mark doc.dropTabs
      let first ← if doc.literal then next else nextJoined fuel
      let current ← lineStart purpose fuel first
      let draft ← draftFrom inner purpose fuel
        (.start (if doc.literal then .single else .double) current)
      checkClosed purpose draft
      modify fun state =>
        { state with
          word := draft.word
          isQuoted := draft.isQuoted
          token := .word
          texts := (doc.number, draft.word) :: state.texts }
      readAll rest

def lineToken (inner : Parser Command) : Nat → Bool → Parser Token
  | 0, _ => setToken .finish
  | fuel + 1, anyLine => do
    let token ← rawToken inner fuel
    if anyLine && token == .newline then
      hereDocs inner fuel
      want .nothing
      lineToken inner fuel anyLine
    else pure token

def tokenFor (inner : Parser Command) : Nat → Wants → Parser Token
  | 0, _ => setToken .finish
  | fuel + 1, wants => do
    let token ← lineToken inner fuel wants.anyLine
    let state ← get
    let aliases := wants.aliases || state.source.aliasNext || state.wants.aliases
    let wants := { wants with aliases }
    want .nothing
    match token with
    | .word =>
      match if state.isQuoted then none else state.word.bare? with
      | none => pure token
      | some text =>
        if wants.keywords && keywords.contains text then setToken (.keyword text)
        else
          let found := if aliases then state.aliases.find? (·.1 == text) else none
          match found with
          | some (_, value) =>
            if state.source.isInUse text then pure token
            else
              modify fun state => { state with source := state.source.push text value }
              tokenFor inner fuel wants
          | none => pure token
    | _ => pure token

def nextToken (inner : Parser Command) (fuel : Nat) : Parser Token := do
  tokenFor inner fuel (← get).wants

end Parser

end WorkerLint.Shell
