import WorkerLint.CommandLine

/-! The words of a command, by the rules of quoting. A text is read word by word up to a place
between words; what remains there is nothing but perhaps a comment, or it is a word that never
ends. Every text is of one of these two kinds, and the scan tells them apart. -/

namespace WorkerLint.Words

inductive Doubled : Text → Text → Prop
  | nil : Doubled [] []
  | plain {spelled meant : Text} (c : Char) (open' : c ≠ '"') (other : c ≠ '\\')
      (rest : Doubled spelled meant) : Doubled (c :: spelled) (c :: meant)
  | escaped {spelled meant : Text} (c : Char) (special : c ∈ doubleEscapes)
      (rest : Doubled spelled meant) : Doubled ('\\' :: c :: spelled) (c :: meant)
  | joined {spelled meant : Text} (rest : Doubled spelled meant) :
      Doubled ('\\' :: '\n' :: spelled) meant
  | kept {spelled meant : Text} (c : Char) (ordinary : c ∉ doubleEscapes) (other : c ≠ '\n')
      (rest : Doubled spelled meant) : Doubled ('\\' :: c :: spelled) ('\\' :: c :: meant)

inductive Piece : Text → Text → Prop
  | bare (c : Char) (solid : isGap c = false) (plain : c ∉ ['"', '\'', '\\']) : Piece [c] [c]
  | escaped (c : Char) (other : c ≠ '\n') : Piece ['\\', c] [c]
  | joined : Piece ['\\', '\n'] []
  | single (body : Text) (closed : '\'' ∉ body) : Piece ('\'' :: body ++ ['\'']) body
  | double {spelled meant : Text} (inner : Doubled spelled meant) :
      Piece ('"' :: spelled ++ ['"']) meant

inductive Pieces : Text → Text → Prop
  | nil : Pieces [] []
  | cons {first own more others : Text} (piece : Piece first own) (rest : Pieces more others) :
      Pieces (first ++ more) (own ++ others)

inductive Unclosed : Text → Prop
  | backslash : Unclosed ['\\']
  | single (body : Text) (closed : '\'' ∉ body) : Unclosed ('\'' :: body)
  | double {spelled meant : Text} (inner : Doubled spelled meant) : Unclosed ('"' :: spelled)
  | doubleBackslash {spelled meant : Text} (inner : Doubled spelled meant) :
      Unclosed ('"' :: spelled ++ ['\\'])

def Parted (rest : Text) : Prop :=
  ∀ c ∈ rest.head?, isGap c = true

/-- The words stand at the front of the text, and the rest of it starts between words. -/
inductive Reads : Text → List Text → Text → Prop
  | here (rest : Text) : Reads rest [] rest
  | gap {text rest : Text} {words : List Text} (c : Char) (blank : isGap c = true)
      (behind : Reads text words rest) : Reads (c :: text) words rest
  | comment {text rest : Text} {words : List Text} (body : Text) (flat : '\n' ∉ body)
      (behind : Reads text words rest) : Reads ('#' :: body ++ '\n' :: text) words rest
  | word {spelled word text rest : Text} {words : List Text} (pieces : Pieces spelled word)
      (filled : spelled ≠ []) (start : spelled.head? ≠ some '#') (parted : Parted text)
      (behind : Reads text words rest) : Reads (spelled ++ text) (word :: words) rest

def Ended (rest : Text) : Prop :=
  rest = [] ∨ ∃ body, rest = '#' :: body ∧ '\n' ∉ body

def Dangling (rest : Text) : Prop :=
  ∃ spelled meant tail, rest = spelled ++ tail ∧ Pieces spelled meant ∧
    spelled.head? ≠ some '#' ∧ Unclosed tail

def Splits (text : Text) (words : List Text) : Prop :=
  ∃ rest, Reads text words rest ∧ Ended rest

def Broken (text : Text) : Prop :=
  ∃ words rest, Reads text words rest ∧ Dangling rest

section

variable (c : Char) (word rest : Text)

theorem scan_gap (blank : isGap c = true) : scan .between (c :: rest) = scan .between rest :=
  if_pos blank

@[simp]
theorem scan_hash : scan .between ('#' :: rest) = scan .comment rest :=
  rfl

theorem scan_start (solid : isGap c = false) (plain : c ≠ '#') :
    scan .between (c :: rest) = scan (.plain []) (c :: rest) := by
  have inside : ¬ isGap c = true := by simp [solid]
  calc
    scan .between (c :: rest) = if c = '#' then scan .comment rest else scan (extend [] c) rest :=
      if_neg inside
    _ = scan (extend [] c) rest := if_neg plain
    _ = scan (.plain []) (c :: rest) := (if_neg inside).symm

theorem scan_comment_of_ne (other : c ≠ '\n') :
    scan .comment (c :: rest) = scan .comment rest :=
  congrArg (scan · rest) (if_neg other)

@[simp]
theorem scan_comment_end : scan .comment ('\n' :: rest) = scan .between rest :=
  rfl

theorem scan_plain_gap (blank : isGap c = true) :
    scan (.plain word) (c :: rest) = (scan .between rest).map (word :: ·) :=
  if_pos blank

theorem scan_bare (solid : isGap c = false) (plain : c ∉ ['"', '\'', '\\']) :
    scan (.plain word) (c :: rest) = scan (.plain (word ++ [c])) rest := by
  have inside : ¬ isGap c = true := by simp [solid]
  have extended : extend word c = .plain (word ++ [c]) := by
    simp only [List.mem_cons, List.not_mem_nil, or_false, not_or] at plain
    simp [extend, plain]
  rw [← extended]
  exact if_neg inside

@[simp]
theorem scan_single_open : scan (.plain word) ('\'' :: rest) = scan (.single word) rest :=
  rfl

@[simp]
theorem scan_double_open : scan (.plain word) ('"' :: rest) = scan (.double word) rest :=
  rfl

@[simp]
theorem scan_escape : scan (.plain word) ('\\' :: rest) = scan (.escaped word) rest :=
  rfl

theorem scan_escaped_of_ne (other : c ≠ '\n') :
    scan (.escaped word) (c :: rest) = scan (.plain (word ++ [c])) rest :=
  congrArg (fun read => scan (.plain read) rest) (if_neg other)

@[simp]
theorem scan_joined : scan (.escaped word) ('\n' :: rest) = scan (.plain word) rest :=
  rfl

theorem scan_single_of_ne (other : c ≠ '\'') :
    scan (.single word) (c :: rest) = scan (.single (word ++ [c])) rest :=
  congrArg (scan · rest) (if_neg other)

@[simp]
theorem scan_single_close : scan (.single word) ('\'' :: rest) = scan (.plain word) rest :=
  rfl

theorem scan_double_of_ne (open' : c ≠ '"') (other : c ≠ '\\') :
    scan (.double word) (c :: rest) = scan (.double (word ++ [c])) rest :=
  congrArg (scan · rest) ((if_neg open').trans (if_neg other))

@[simp]
theorem scan_double_close : scan (.double word) ('"' :: rest) = scan (.plain word) rest :=
  rfl

@[simp]
theorem scan_double_escape :
    scan (.double word) ('\\' :: rest) = scan (.doubleEscaped word) rest :=
  rfl

theorem scan_doubleEscaped_of_mem (special : c ∈ doubleEscapes) :
    scan (.doubleEscaped word) (c :: rest) = scan (.double (word ++ [c])) rest :=
  congrArg (fun read => scan (.double read) rest) (if_pos special)

@[simp]
theorem scan_double_joined :
    scan (.doubleEscaped word) ('\n' :: rest) = scan (.double word) rest :=
  rfl

theorem scan_doubleEscaped_of_not_mem (ordinary : c ∉ doubleEscapes) (other : c ≠ '\n') :
    scan (.doubleEscaped word) (c :: rest) = scan (.double (word ++ ['\\', c])) rest :=
  congrArg (fun read => scan (.double read) rest) ((if_neg ordinary).trans (if_neg other))

end

theorem scan_single (body word rest : Text) (closed : '\'' ∉ body) :
    scan (.single word) (body ++ rest) = scan (.single (word ++ body)) rest := by
  induction body generalizing word with
  | nil => simp
  | cons c body ih =>
      have other : c ≠ '\'' := fun same => closed (same ▸ List.mem_cons_self)
      have below := ih (word ++ [c]) fun member => closed (List.mem_cons_of_mem c member)
      rw [List.cons_append, scan_single_of_ne c word _ other, below, List.append_assoc,
        List.singleton_append]

theorem scan_comment (body rest : Text) (flat : '\n' ∉ body) :
    scan .comment (body ++ rest) = scan .comment rest := by
  induction body with
  | nil => rfl
  | cons c body ih =>
      have other : c ≠ '\n' := fun same => flat (same ▸ List.mem_cons_self)
      rw [List.cons_append, scan_comment_of_ne c _ other]
      exact ih fun member => flat (List.mem_cons_of_mem c member)

theorem Doubled.scan {spelled meant : Text} (inner : Doubled spelled meant) (word rest : Text) :
    Words.scan (.double word) (spelled ++ rest) = Words.scan (.double (word ++ meant)) rest := by
  induction inner generalizing word with
  | nil => simp
  | plain c open' other _ ih => simp [scan_double_of_ne c word _ open' other, ih]
  | escaped c special _ ih => simp [scan_doubleEscaped_of_mem c word _ special, ih]
  | joined _ ih => simp [ih]
  | kept c ordinary other _ ih =>
      simp [scan_doubleEscaped_of_not_mem c word _ ordinary other, ih]

theorem Piece.scan {spelled meant : Text} (piece : Piece spelled meant) (word rest : Text) :
    Words.scan (.plain word) (spelled ++ rest) = Words.scan (.plain (word ++ meant)) rest := by
  cases piece with
  | bare c solid plain => exact scan_bare c word rest solid plain
  | escaped c other => exact scan_escaped_of_ne c word rest other
  | joined => simp
  | single _ closed => simp [scan_single meant word _ closed]
  | double inner => simp [inner.scan]

theorem Pieces.scan {spelled meant : Text} (pieces : Pieces spelled meant) (word rest : Text) :
    Words.scan (.plain word) (spelled ++ rest) = Words.scan (.plain (word ++ meant)) rest := by
  induction pieces generalizing word with
  | nil => simp
  | cons piece _ ih => rw [List.append_assoc, piece.scan, ih, List.append_assoc]

theorem Unclosed.scan {tail : Text} (dangling : Unclosed tail) (word : Text) :
    Words.scan (.plain word) tail = none := by
  cases dangling with
  | backslash => rfl
  | single body closed =>
      have alone := scan_single body word [] closed
      rw [List.append_nil] at alone
      rw [scan_single_open, alone]
      rfl
  | double inner =>
      have alone := inner.scan word []
      rw [List.append_nil] at alone
      rw [scan_double_open, alone]
      rfl
  | doubleBackslash inner =>
      rw [List.cons_append, scan_double_open, inner.scan]
      rfl

theorem Piece.head {spelled meant : Text} (piece : Piece spelled meant) :
    ∃ c tail, spelled = c :: tail ∧ isGap c = false := by
  cases piece with
  | bare c solid _ => exact ⟨c, [], rfl, solid⟩
  | escaped c _ => exact ⟨'\\', [c], rfl, rfl⟩
  | joined => exact ⟨'\\', ['\n'], rfl, rfl⟩
  | single _ _ => exact ⟨'\'', meant ++ ['\''], rfl, rfl⟩
  | double _ => exact ⟨'"', _, rfl, rfl⟩

theorem Pieces.head {spelled meant : Text} (pieces : Pieces spelled meant) :
    ∀ c ∈ spelled.head?, isGap c = false := by
  cases pieces with
  | nil => simp
  | cons piece _ =>
      obtain ⟨c, tail, rfl, solid⟩ := piece.head
      simpa using solid

theorem Unclosed.head {tail : Text} (dangling : Unclosed tail) :
    ∃ c more, tail = c :: more ∧ isGap c = false ∧ c ≠ '#' := by
  cases dangling with
  | backslash => exact ⟨'\\', [], rfl, by decide⟩
  | single body _ => exact ⟨'\'', body, rfl, by decide⟩
  | double _ => exact ⟨'"', _, rfl, by decide⟩
  | doubleBackslash _ => exact ⟨'"', _, rfl, by decide⟩

theorem Pieces.scan_between {spelled word : Text} (pieces : Pieces spelled word) (tail : Text)
    (start : ∃ c more, spelled ++ tail = c :: more ∧ isGap c = false ∧ c ≠ '#') :
    Words.scan .between (spelled ++ tail) = Words.scan (.plain word) tail := by
  obtain ⟨c, more, whole, solid, plain⟩ := start
  rw [whole, scan_start c more solid plain, ← whole, pieces.scan, List.nil_append]

theorem scan_parted (word rest : Text) (parted : Parted rest) :
    scan (.plain word) rest = (scan .between rest).map (word :: ·) := by
  cases rest with
  | nil => rfl
  | cons c rest =>
      have blank := parted c rfl
      rw [scan_plain_gap c word rest blank, scan_gap c rest blank]

theorem Reads.scan {text rest : Text} {words : List Text} (reads : Reads text words rest) :
    Words.scan .between text = (Words.scan .between rest).map (words ++ ·) := by
  induction reads with
  | here rest => simp
  | gap c blank _ ih => rw [scan_gap c _ blank, ih]
  | comment body flat _ ih =>
      rw [List.cons_append, scan_hash, scan_comment body _ flat, scan_comment_end, ih]
  | @word spelled word text _ _ pieces filled start parted _ ih =>
      have begun : ∃ c more, spelled ++ text = c :: more ∧ isGap c = false ∧ c ≠ '#' := by
        obtain ⟨c, more, rfl⟩ := List.exists_cons_of_ne_nil filled
        exact ⟨c, more ++ text, rfl, pieces.head c rfl, fun same => start (congrArg some same)⟩
      rw [pieces.scan_between text begun, scan_parted word text parted, ih, Option.map_map]
      rfl

theorem Ended.scan {rest : Text} (ended : Ended rest) : Words.scan .between rest = some [] := by
  rcases ended with rfl | ⟨body, rfl, flat⟩
  · rfl
  · have passed := scan_comment body [] flat
    rw [List.append_nil] at passed
    rw [scan_hash, passed]
    rfl

theorem Dangling.scan {rest : Text} (dangling : Dangling rest) :
    Words.scan .between rest = none := by
  obtain ⟨spelled, meant, tail, rfl, pieces, start, unclosed⟩ := dangling
  have begun : ∃ c more, spelled ++ tail = c :: more ∧ isGap c = false ∧ c ≠ '#' := by
    cases spelled with
    | nil => exact unclosed.head
    | cons c more =>
        exact ⟨c, more ++ tail, rfl, pieces.head c rfl, fun same => start (congrArg some same)⟩
  rw [pieces.scan_between tail begun, unclosed.scan]

theorem exists_doubled (text : Text) :
    ∃ spelled meant rest, text = spelled ++ rest ∧ Doubled spelled meant ∧
      (rest = [] ∨ rest = ['\\'] ∨ ∃ tail, rest = '"' :: tail) := by
  -- by length, since an escape takes two characters at once
  induction size : text.length using Nat.strongRecOn generalizing text with
  | _ size ih =>
      subst size
      match text with
      | [] => exact ⟨[], [], [], rfl, .nil, .inl rfl⟩
      | c :: text =>
          by_cases open' : c = '"'
          · exact ⟨[], [], c :: text, rfl, .nil, .inr (.inr ⟨text, by rw [open']⟩)⟩
          by_cases other : c = '\\'
          · subst other
            match text with
            | [] => exact ⟨[], [], ['\\'], rfl, .nil, .inr (.inl rfl)⟩
            | d :: text =>
                obtain ⟨spelled, meant, rest, rfl, inner, stop⟩ :=
                  ih text.length (by simp only [List.length_cons]; omega) text rfl
                have behind : ∃ meant', Doubled ('\\' :: d :: spelled) meant' := by
                  by_cases special : d ∈ doubleEscapes
                  · exact ⟨_, .escaped d special inner⟩
                  by_cases line : d = '\n'
                  · subst line
                    exact ⟨_, .joined inner⟩
                  exact ⟨_, .kept d special line inner⟩
                obtain ⟨meant', longer⟩ := behind
                exact ⟨'\\' :: d :: spelled, meant', rest, rfl, longer, stop⟩
          · obtain ⟨spelled, meant, rest, rfl, inner, stop⟩ :=
              ih text.length (by simp) text rfl
            exact ⟨c :: spelled, c :: meant, rest, rfl, .plain c open' other inner, stop⟩

theorem exists_until (stop : Char) (text : Text) :
    ∃ body rest, text = body ++ rest ∧ stop ∉ body ∧ (rest = [] ∨ ∃ tail, rest = stop :: tail) := by
  induction text with
  | nil => exact ⟨[], [], rfl, List.not_mem_nil, .inl rfl⟩
  | cons c text ih =>
      obtain ⟨body, rest, rfl, clear, behind⟩ := ih
      by_cases here : c = stop
      · exact ⟨[], c :: (body ++ rest), rfl, List.not_mem_nil, .inr ⟨_, by rw [here]⟩⟩
      · refine ⟨c :: body, rest, rfl, ?_, behind⟩
        simp only [List.mem_cons, not_or]
        exact ⟨Ne.symm here, clear⟩

theorem exists_piece (c : Char) (text : Text) (solid : isGap c = false) :
    (∃ first own rest, c :: text = first ++ rest ∧ Piece first own) ∨ Unclosed (c :: text) := by
  by_cases plain : c ∉ ['"', '\'', '\\']
  · exact .inl ⟨[c], [c], text, rfl, .bare c solid plain⟩
  simp only [List.mem_cons, List.not_mem_nil, or_false, Decidable.not_not] at plain
  rcases plain with rfl | rfl | rfl
  · obtain ⟨spelled, meant, rest, rfl, inner, rfl | rfl | ⟨tail, rfl⟩⟩ := exists_doubled text
    · exact .inr (by simpa using Unclosed.double inner)
    · exact .inr (.doubleBackslash inner)
    · exact .inl ⟨'"' :: spelled ++ ['"'], meant, tail, by simp, .double inner⟩
  · obtain ⟨body, rest, rfl, closed, rfl | ⟨tail, rfl⟩⟩ := exists_until '\'' text
    · exact .inr (by simpa using Unclosed.single body closed)
    · exact .inl ⟨'\'' :: body ++ ['\''], body, tail, by simp, .single body closed⟩
  · cases text with
    | nil => exact .inr .backslash
    | cons d text =>
        by_cases line : d = '\n'
        · subst line
          exact .inl ⟨['\\', '\n'], [], text, rfl, .joined⟩
        · exact .inl ⟨['\\', d], [d], text, rfl, .escaped d line⟩

theorem exists_pieces (text : Text) :
    ∃ spelled meant rest, text = spelled ++ rest ∧ Pieces spelled meant ∧
      (Parted rest ∨ Unclosed rest) := by
  induction size : text.length using Nat.strongRecOn generalizing text with
  | _ size ih =>
      subst size
      match text with
      | [] => exact ⟨[], [], [], rfl, .nil, .inl (by simp [Parted])⟩
      | c :: text =>
          by_cases blank : isGap c = true
          · exact ⟨[], [], c :: text, rfl, .nil, .inl (by simpa [Parted] using blank)⟩
          rcases exists_piece c text (by simpa using blank) with
            ⟨first, own, behind, same, piece⟩ | unclosed
          · rw [same] at ih ⊢
            obtain ⟨d, more, filled, _⟩ := piece.head
            have shorter : behind.length < (first ++ behind).length := by
              simp only [filled, List.length_append, List.length_cons]
              omega
            obtain ⟨spelled, meant, rest, rfl, pieces, stop⟩ := ih behind.length shorter behind rfl
            exact ⟨first ++ spelled, own ++ meant, rest, by simp, .cons piece pieces, stop⟩
          · exact ⟨[], [], c :: text, rfl, .nil, .inr unclosed⟩

theorem exists_reads (text : Text) :
    ∃ words rest, Reads text words rest ∧ (Ended rest ∨ Dangling rest) := by
  induction size : text.length using Nat.strongRecOn generalizing text with
  | _ size ih =>
      subst size
      match text with
      | [] => exact ⟨[], [], .here [], .inl (.inl rfl)⟩
      | c :: text =>
          by_cases blank : isGap c = true
          · obtain ⟨words, rest, behind, stop⟩ := ih text.length (by simp) text rfl
            exact ⟨words, rest, .gap c blank behind, stop⟩
          by_cases hash : c = '#'
          · subst hash
            obtain ⟨body, rest, rfl, flat, rfl | ⟨tail, rfl⟩⟩ := exists_until '\n' text
            · exact ⟨[], _, .here _, .inl (.inr ⟨body, by simp, flat⟩)⟩
            · have shorter : tail.length < ('#' :: (body ++ '\n' :: tail)).length := by
                simp only [List.length_cons, List.length_append]
                omega
              obtain ⟨words, rest, behind, stop⟩ := ih tail.length shorter tail rfl
              exact ⟨words, rest, .comment body flat behind, stop⟩
          -- a word starts here, for `c` is neither a gap nor a hash mark
          obtain ⟨spelled, word, rest, same, pieces, stop⟩ := exists_pieces (c :: text)
          have start : spelled.head? ≠ some '#' := by
            intro first
            cases spelled with
            | nil => cases first
            | cons d spelled =>
                cases first
                exact hash (List.cons.inj same).1
          rcases stop with parted | unclosed
          · have filled : spelled ≠ [] := by
              rintro rfl
              rw [List.nil_append] at same
              subst same
              exact blank (parted c rfl)
            rw [same] at ih ⊢
            have shorter : rest.length < (spelled ++ rest).length := by
              have := List.length_pos_iff.mpr filled
              simp only [List.length_append]
              omega
            obtain ⟨words, last, behind, stop⟩ := ih rest.length shorter rest rfl
            exact ⟨word :: words, last, .word pieces filled start parted behind, stop⟩
          · have dangling : Dangling (c :: text) :=
              ⟨spelled, word, rest, same, pieces, start, unclosed⟩
            exact ⟨[], c :: text, .here _, .inr dangling⟩

theorem Splits.split? {text : Text} {words : List Text} (splits : Splits text words) :
    Words.split? text = some words := by
  obtain ⟨rest, reads, ended⟩ := splits
  rw [Words.split?, reads.scan, ended.scan, Option.map_some, List.append_nil]

theorem Broken.split? {text : Text} (broken : Broken text) : Words.split? text = none := by
  obtain ⟨words, rest, reads, dangling⟩ := broken
  rw [Words.split?, reads.scan, dangling.scan, Option.map_none]

theorem split?_eq_some_iff {text : Text} {words : List Text} :
    split? text = some words ↔ Splits text words := by
  refine ⟨fun split => ?_, Splits.split?⟩
  obtain ⟨read, rest, reads, ended | dangling⟩ := exists_reads text
  · have splits : Splits text read := ⟨rest, reads, ended⟩
    rw [splits.split?, Option.some.injEq] at split
    exact split ▸ splits
  · have broken : Broken text := ⟨read, rest, reads, dangling⟩
    rw [broken.split?] at split
    cases split

theorem split?_eq_none_iff {text : Text} : split? text = none ↔ Broken text := by
  refine ⟨fun split => ?_, Broken.split?⟩
  obtain ⟨read, rest, reads, ended | dangling⟩ := exists_reads text
  · have splits : Splits text read := ⟨rest, reads, ended⟩
    rw [splits.split?] at split
    cases split
  · exact ⟨read, rest, reads, dangling⟩

end WorkerLint.Words
