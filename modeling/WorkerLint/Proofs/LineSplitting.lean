import WorkerLint.Proofs.PreparedLines

namespace WorkerLint.Text

/-- A text is flat, or it is a line with its line feed and a shorter text. -/
theorem lineInduction {motive : Text → Prop} (flat : ∀ text, '\n' ∉ text → motive text)
    (line : ∀ body rest, '\n' ∉ body → motive rest → motive (body ++ '\n' :: rest))
    (text : Text) : motive text := by
  induction size : text.length using Nat.strongRecOn generalizing text with
  | ind n ih =>
      by_cases ends : '\n' ∈ text
      · obtain ⟨body, rest, rfl, fresh⟩ := List.eq_append_cons_of_mem ends
        refine line body rest fresh (ih rest.length ?_ rest rfl)
        simp only [List.length_append, List.length_cons] at size
        omega
      · exact flat text ends

section

variable [DecidableEq α] (sep : α)

theorem pieces_append (front back : List α) :
    pieces sep (front ++ sep :: back) = pieces sep front ++ pieces sep back := by
  induction front with
  | nil => simp [pieces]
  | cons c rest ih =>
      by_cases same : c = sep
      · simp [pieces, same, ih]
      · obtain ⟨piece, more, cut⟩ := List.exists_cons_of_ne_nil (pieces_ne_nil sep rest)
        simp [pieces, same, ih, cut]

theorem pieces_append_of_flat (front rest piece : List α) (more : List (List α))
    (flat : sep ∉ front) (cut : pieces sep rest = piece :: more) :
    pieces sep (front ++ rest) = (front ++ piece) :: more := by
  induction front with
  | nil => exact cut
  | cons c front ih =>
      have other : c ≠ sep := fun same => flat (same ▸ List.mem_cons_self)
      have below : sep ∉ front := fun member => flat (List.mem_cons_of_mem c member)
      simp [pieces, other, ih below]

theorem pieces_of_flat (text : List α) (flat : sep ∉ text) : pieces sep text = [text] := by
  have alone := pieces_append_of_flat sep text [] [] [] flat rfl
  rwa [List.append_nil] at alone

theorem pieces_append_sep (body rest : List α) (flat : sep ∉ body) :
    pieces sep (body ++ sep :: rest) = body :: pieces sep rest := by
  rw [pieces_append, pieces_of_flat sep body flat]
  rfl

end

theorem splitLines_of_flat (text : Text) (filled : text ≠ []) (flat : '\n' ∉ text) :
    splitLines text = [text] := by
  induction text with
  | nil => exact absurd rfl filled
  | cons c rest ih =>
      have other : c ≠ '\n' := fun same => flat (same ▸ List.mem_cons_self)
      have below : '\n' ∉ rest := fun member => flat (List.mem_cons_of_mem c member)
      by_cases vacant : rest = []
      · simp [splitLines, other, vacant]
      · simp [splitLines, other, ih vacant below]

theorem splitLines_append_lineFeed (body rest : Text) (flat : '\n' ∉ body) :
    splitLines (body ++ '\n' :: rest) = (body ++ ['\n']) :: splitLines rest := by
  induction body with
  | nil => simp [splitLines]
  | cons c body ih =>
      have other : c ≠ '\n' := fun same => flat (same ▸ List.mem_cons_self)
      have below : '\n' ∉ body := fun member => flat (List.mem_cons_of_mem c member)
      simp [splitLines, other, ih below]

def bodies (text : Text) : List Text :=
  if (pieces '\n' text).getLast? = some [] then (pieces '\n' text).dropLast else pieces '\n' text

theorem bodies_nil : bodies [] = [] := rfl

theorem bodies_of_flat (text : Text) (filled : text ≠ []) (flat : '\n' ∉ text) :
    bodies text = [text] := by
  simp [bodies, pieces_of_flat '\n' text flat, filled]

theorem bodies_append_lineFeed (body rest : Text) (flat : '\n' ∉ body) :
    bodies (body ++ '\n' :: rest) = body :: bodies rest := by
  have present := pieces_ne_nil '\n' rest
  rw [bodies, bodies, pieces_append_sep '\n' body rest flat, List.getLast?_cons_of_ne_nil present,
    List.dropLast_cons_of_ne_nil present]
  split <;> rfl

theorem bodies_flat (text : Text) : ∀ body ∈ bodies text, '\n' ∉ body := by
  induction text using lineInduction with
  | flat text flat =>
      by_cases vacant : text = []
      · simp [vacant, bodies_nil]
      · simpa [bodies_of_flat text vacant flat] using flat
  | line body rest flat ih =>
      rw [bodies_append_lineFeed body rest flat]
      intro other member
      rcases List.mem_cons.mp member with rfl | member
      · exact flat
      · exact ih other member

theorem length_bodies_le (text : Text) : (bodies text).length ≤ text.length := by
  induction text using lineInduction with
  | flat text flat =>
      by_cases vacant : text = []
      · simp [vacant, bodies_nil]
      · rw [bodies_of_flat text vacant flat]
        exact List.length_pos_iff.mpr vacant
  | line body rest flat ih =>
      rw [bodies_append_lineFeed body rest flat]
      simp only [List.length_append, List.length_cons]
      omega

theorem head?_bodies (text : Text) (filled : text ≠ []) :
    (bodies text).head? = (pieces '\n' text).head? := by
  induction text using lineInduction with
  | flat text flat => rw [bodies_of_flat text filled flat, pieces_of_flat '\n' text flat]
  | line body rest flat _ =>
      rw [bodies_append_lineFeed body rest flat, pieces_append_sep '\n' body rest flat]
      rfl

theorem bodies_flatten (lines : List Text) (flat : ∀ body ∈ lines, '\n' ∉ body) :
    bodies (lines.map (· ++ ['\n'])).flatten = lines := by
  induction lines with
  | nil => rfl
  | cons body lines ih =>
      have below : ∀ other ∈ lines, '\n' ∉ other :=
        fun other member => flat other (List.mem_cons_of_mem body member)
      have cut := bodies_append_lineFeed body (lines.map (· ++ ['\n'])).flatten
        (flat body List.mem_cons_self)
      rw [ih below] at cut
      simpa using cut

end WorkerLint.Text

namespace WorkerLint.Script

theorem endLastLine_cons_ended (body : Text) (rest : List Text) :
    endLastLine ((body ++ ['\n']) :: rest) = (body ++ ['\n']) :: endLastLine rest := by
  cases rest with
  | nil => simp [endLastLine, endLine]
  | cons line rest => rfl

theorem endLastLine_splitLines (text : Text) :
    endLastLine (Text.splitLines text) = (Text.bodies text).map (· ++ ['\n']) := by
  induction text using Text.lineInduction with
  | flat text flat =>
      by_cases vacant : text = []
      · subst vacant
        rfl
      · have unended : text.getLast? ≠ some '\n' := fun last => flat (List.mem_of_getLast? last)
        simp [Text.splitLines_of_flat text vacant flat, Text.bodies_of_flat text vacant flat,
          endLastLine, endLine, unended]
  | line body rest flat ih =>
      rw [Text.splitLines_append_lineFeed body rest flat,
        Text.bodies_append_lineFeed body rest flat, endLastLine_cons_ended, ih, List.map_cons]

def closerBody : Text :=
  "\x7d());".toList

def preparedBodies (text : Text) : List Text :=
  if isStrict (Text.splitLines text) then
    match Text.bodies text with
    | [] => []
    | first :: rest => (scopeOpener ++ first) :: rest ++ [closerBody]
  else Text.bodies text

theorem prepare_splitLines (text : Text) :
    prepare (Text.splitLines text) = (preparedBodies text).map (· ++ ['\n']) := by
  rw [prepare, preparedBodies, ← isStrict_endLastLine, endLastLine_splitLines]
  cases strict : isStrict ((Text.bodies text).map (· ++ ['\n'])) with
  | false => exact scopeStrict_of_sloppy _ strict
  | true =>
      cases lines : Text.bodies text with
      | nil => simp [lines, isStrict_nil] at strict
      | cons first rest =>
          rw [lines] at strict
          have ended : closerBody ++ ['\n'] = scopeCloser := rfl
          rw [List.map_cons, scopeStrict_of_strict _ _ strict]
          simp [ended]

theorem preparedBodies_flat (text : Text) : ∀ body ∈ preparedBodies text, '\n' ∉ body := by
  have flat := Text.bodies_flat text
  rw [preparedBodies]
  split
  · split
    · simp
    · rename_i first rest lines
      rw [lines] at flat
      have opener : '\n' ∉ scopeOpener := by decide
      have closer : '\n' ∉ closerBody := by decide
      intro body member
      rw [List.cons_append, List.mem_cons, List.mem_append, List.mem_singleton] at member
      rcases member with rfl | member | rfl
      · simp [opener, flat first List.mem_cons_self]
      · exact flat body (List.mem_cons_of_mem first member)
      · exact closer
  · exact flat

end WorkerLint.Script
