import WorkerLint.Path
import WorkerLint.Proofs.LineSplitting
import Mathlib.Data.List.Induction
import Mathlib.Tactic.ByContra

namespace WorkerLint

namespace Text

variable {α : Type} [DecidableEq α]

theorem pieces_flat (sep : α) (text : List α) : ∀ piece ∈ pieces sep text, sep ∉ piece := by
  induction text with
  | nil => simp [pieces]
  | cons c rest ih =>
      obtain ⟨first, more, cut⟩ := List.exists_cons_of_ne_nil (pieces_ne_nil sep rest)
      rw [cut] at ih
      by_cases same : c = sep
      · simpa [pieces, same, cut] using ih
      · simpa [pieces, same, cut, Ne.symm same] using ih

theorem pieces_join (sep : α) (first : List α) (rest : List (List α))
    (flat : ∀ piece ∈ first :: rest, sep ∉ piece) :
    pieces sep (join [sep] (first :: rest)) = first :: rest := by
  induction rest generalizing first with
  | nil => exact pieces_of_flat sep first (flat first List.mem_cons_self)
  | cons second rest ih =>
      have below := ih second fun piece member => flat piece (List.mem_cons_of_mem first member)
      have spelled : join [sep] (first :: second :: rest) =
          first ++ sep :: join [sep] (second :: rest) := by
        simp [join]
      rw [spelled, pieces_append_sep sep _ _ (flat first List.mem_cons_self), below]

theorem pieces_eq_singleton_nil_iff (sep : α) (text : List α) :
    pieces sep text = [[]] ↔ text = [] := by
  constructor
  · intro alone
    rw [← join_pieces sep text, alone]
    rfl
  · rintro rfl
    rfl

end Text

namespace Path

theorem eq_of_component? {piece : Bytes} {component : Component}
    (means : component? piece = some component) : component = .up ∨ component = .name piece := by
  rw [component?] at means
  split at means
  · cases means
  · split at means
    · cases means
      exact Or.inl rfl
    · cases means
      exact Or.inr rfl

theorem leading_of_filled (first : Bytes) (filled : first ≠ []) (alone : Bool) :
    ∃ component, component ≠ .root ∧ leading first alone = [component] := by
  by_cases here : first = [dot]
  · exact ⟨.here, by simp, by simp [leading, here]⟩
  · by_cases up : first = [dot, dot]
    · exact ⟨.up, by simp, by simp [leading, component?, up]⟩
    · exact ⟨.name first, by simp, by simp [leading, component?, filled, here, up]⟩

theorem leading_eq (first : Bytes) (filled : first ≠ []) (alone alone' : Bool) :
    leading first alone = leading first alone' := by
  simp [leading, filled]

theorem components_eq (path : Path) (first : Bytes) (rest : List Bytes)
    (cut : path.pieces = first :: rest) :
    path.components = leading first rest.isEmpty ++ rest.filterMap component? := by
  rw [components, cut]

theorem exists_pieces (path : Path) : ∃ first rest, path.pieces = first :: rest :=
  List.exists_cons_of_ne_nil (Text.pieces_ne_nil separator path.bytes)

theorem components_eq_nil_iff (path : Path) : path.components = [] ↔ path.bytes = [] := by
  constructor
  · intro none
    obtain ⟨first, rest, cut⟩ := path.exists_pieces
    rw [components_eq path first rest cut, List.append_eq_nil_iff] at none
    by_cases filled : first = []
    · cases rest with
      | nil =>
          rw [filled] at cut
          exact (Text.pieces_eq_singleton_nil_iff separator path.bytes).mp cut
      | cons second rest => simp [leading, filled] at none
    · obtain ⟨component, _, lead⟩ := leading_of_filled first filled rest.isEmpty
      rw [lead] at none
      cases none.1
  · intro vacant
    obtain ⟨spelling⟩ := path
    cases vacant
    rfl

def below (name : Bytes) : List Component :=
  (Text.pieces separator name).filterMap component?

theorem pieces_slash (front back first : Bytes) (rest : List Bytes)
    (cut : pieces ⟨front⟩ = first :: rest) :
    pieces ⟨front ++ separator :: back⟩ = first :: (rest ++ Text.pieces separator back) := by
  rw [pieces, Text.pieces_append, ← List.cons_append, ← cut, pieces]

theorem components_slash (front back : Bytes) :
    components ⟨front ++ separator :: back⟩ = components ⟨front ++ [separator]⟩ ++ below back := by
  obtain ⟨first, rest, cut⟩ := exists_pieces ⟨front⟩
  have more : ∀ tail : Bytes, (rest ++ Text.pieces separator tail).isEmpty = false := by
    intro tail
    simp [List.isEmpty_eq_false_iff, Text.pieces_ne_nil]
  rw [components_eq _ _ _ (pieces_slash front back first rest cut),
    components_eq _ _ _ (pieces_slash front [] first rest cut), more, more, below]
  simp [Text.pieces, component?]

theorem components_slash_end (front : Bytes) (filled : front ≠ []) :
    components ⟨front ++ [separator]⟩ = components ⟨front⟩ := by
  obtain ⟨first, rest, cut⟩ := exists_pieces ⟨front⟩
  have lead : leading first (rest ++ [[]]).isEmpty = leading first rest.isEmpty := by
    by_cases vacant : first = []
    · cases rest with
      | nil =>
          rw [vacant] at cut
          exact absurd ((Text.pieces_eq_singleton_nil_iff separator front).mp cut) filled
      | cons second rest => rfl
    · exact leading_eq first vacant _ _
  rw [components_eq _ _ _ (pieces_slash front [] first rest cut), components_eq _ _ _ cut, ← lead]
  simp [Text.pieces, component?]

theorem components_join (dir : Path) (name : Bytes) (relative : isAbsolute ⟨name⟩ = false)
    (filled : dir.bytes ≠ []) :
    (dir.join name).components = dir.components ++ below name := by
  have stays : ¬ (isAbsolute ⟨name⟩ = true ∨ dir.bytes = []) := by simp [relative, filled]
  rw [join, if_neg stays]
  split
  · rename_i ended
    obtain ⟨front, spelled⟩ := List.getLast?_eq_some_iff.mp ended
    have whole : dir.bytes ++ name = front ++ separator :: name := by simp [spelled]
    have same : dir = ⟨front ++ [separator]⟩ := by rw [← spelled]
    rw [whole, components_slash, ← same]
  · rw [components_slash, components_slash_end dir.bytes filled]

theorem join_of_absolute (dir : Path) (name : Bytes) (absolute : isAbsolute ⟨name⟩ = true) :
    dir.join name = ⟨name⟩ := by
  simp [join, absolute]

theorem join_of_empty (dir : Path) (name : Bytes) (vacant : dir.bytes = []) :
    dir.join name = ⟨name⟩ := by
  simp [join, vacant]

theorem same_join (dir dir' : Path) (name : Bytes) (same : dir.same dir' = true) :
    (dir.join name).same (dir'.join name) = true := by
  rw [same_iff] at same ⊢
  cases absolute : isAbsolute ⟨name⟩ with
  | true => rw [join_of_absolute dir name absolute, join_of_absolute dir' name absolute]
  | false =>
      by_cases vacant : dir.bytes = []
      · have vacant' : dir'.bytes = [] := by
          rw [← components_eq_nil_iff, ← same, components_eq_nil_iff]
          exact vacant
        rw [join_of_empty dir name vacant, join_of_empty dir' name vacant']
      · have filled' : dir'.bytes ≠ [] := by
          rw [ne_eq, ← components_eq_nil_iff, ← same, components_eq_nil_iff]
          exact vacant
        rw [components_join dir name absolute vacant, components_join dir' name absolute filled',
          same]

theorem filterMap_dropIdleEnd (pieces : List Bytes) :
    (dropIdleEnd pieces).filterMap component? = pieces.filterMap component? := by
  induction pieces using List.reverseRecOn with
  | nil => rfl
  | append_singleton front last ih =>
      rw [dropIdleEnd, List.reverse_append, List.reverse_singleton, List.singleton_append,
        List.dropWhile_cons]
      split
      · rename_i idle
        rw [← dropIdleEnd, ih]
        simp [Option.isNone_iff_eq_none.mp idle]
      · simp

theorem dropIdleEnd_eq_nil_or (pieces : List Bytes) :
    dropIdleEnd pieces = [] ∨ ∃ front last component, dropIdleEnd pieces = front ++ [last] ∧
      component? last = some component := by
  induction pieces using List.reverseRecOn with
  | nil => exact Or.inl rfl
  | append_singleton front last ih =>
      rw [dropIdleEnd, List.reverse_append, List.reverse_singleton, List.singleton_append,
        List.dropWhile_cons]
      split
      · exact ih
      · rename_i busy
        obtain ⟨component, found⟩ : ∃ component, component? last = some component := by
          simpa [Option.isNone_iff_eq_none, Option.ne_none_iff_exists'] using busy
        exact Or.inr ⟨front, last, component, by simp, found⟩

theorem dropIdleEnd_subset (pieces : List Bytes) : dropIdleEnd pieces ⊆ pieces := by
  intro piece member
  rw [dropIdleEnd, List.mem_reverse] at member
  exact List.mem_reverse.mp ((List.dropWhile_sublist _).subset member)

theorem component?_ne_root (piece : Bytes) : component? piece ≠ some .root := by
  intro means
  rcases eq_of_component? means with up | named
  · cases up
  · cases named

theorem leading_above (first : Bytes) (above : List Bytes) (some : first ≠ [] ∨ above ≠ []) :
    leading first above.isEmpty = leading first false := by
  rcases some with filled | more
  · exact leading_eq first filled _ _
  · rw [List.isEmpty_eq_false_iff.mpr more]

theorem components_above (first : Bytes) (front : List Bytes)
    (flat : ∀ piece ∈ first :: front, separator ∉ piece) :
    (if first = [] ∧ dropIdleEnd front = [] then some ⟨[separator]⟩
      else some ⟨Text.join [separator] (first :: dropIdleEnd front)⟩ : Option Path).map components =
      some (leading first false ++ front.filterMap component?) := by
  by_cases top : first = [] ∧ dropIdleEnd front = []
  · have none : front.filterMap component? = [] := by
      rw [← filterMap_dropIdleEnd, top.2]
      rfl
    rw [if_pos top, none, top.1]
    rfl
  · have some : first ≠ [] ∨ dropIdleEnd front ≠ [] := by
      by_cases vacant : first = []
      · exact Or.inr fun none => top ⟨vacant, none⟩
      · exact Or.inl vacant
    have inner : ∀ piece ∈ first :: dropIdleEnd front, separator ∉ piece := by
      intro piece member
      exact flat piece (List.cons_subset_cons first (dropIdleEnd_subset front) member)
    have above := components_eq ⟨Text.join [separator] (first :: dropIdleEnd front)⟩ first
      (dropIdleEnd front) (Text.pieces_join separator first _ inner)
    rw [if_neg top, Option.map_some, above, leading_above first _ some, filterMap_dropIdleEnd]

theorem filterMap_concat (first : Bytes) (front : List Bytes) (last : Bytes) (component : Component)
    (found : component? last = some component) :
    let whole := leading first false ++ (front ++ [last]).filterMap component?
    ¬ (whole = [] ∨ whole = [.root]) ∧
      whole.dropLast = leading first false ++ front.filterMap component? := by
  intro whole
  have proper : component ≠ .root := fun is => component?_ne_root last (is ▸ found)
  have shape : whole = leading first false ++ front.filterMap component? ++ [component] := by
    simp [whole, found]
  rw [shape]
  refine ⟨?_, List.dropLast_concat⟩
  rintro (none | root)
  · simp at none
  · rw [← List.nil_append [Component.root], List.append_singleton_inj] at root
    exact proper root.2

/-- The parent of a path has all components but the last one; the root and the empty path have
none. -/
theorem components_parent? (path : Path) :
    path.parent?.map components =
      if path.components = [] ∨ path.components = [.root] then none
      else some path.components.dropLast := by
  obtain ⟨first, rest, cut⟩ := path.exists_pieces
  rw [parent?, cut, components_eq path first rest cut, ← filterMap_dropIdleEnd rest]
  dsimp only
  rcases dropIdleEnd_eq_nil_or rest with none | ⟨front, last, component, body, found⟩
  · rw [if_pos none, none]
    by_cases vacant : first = []
    · cases rest <;> simp [vacant, leading]
    · obtain ⟨component, proper, lead⟩ := leading_of_filled first vacant rest.isEmpty
      rw [if_neg vacant, lead]
      simpa [proper] using (components_eq_nil_iff ⟨[]⟩).mpr rfl
  · have more : rest.isEmpty = false := by
      rw [List.isEmpty_eq_false_iff]
      rintro rfl
      simp [dropIdleEnd] at body
    have flat : ∀ piece ∈ first :: front, separator ∉ piece := by
      have kept : first :: front ⊆ first :: rest :=
        List.cons_subset_cons first fun piece member =>
          dropIdleEnd_subset rest (body ▸ List.mem_append_left [last] member)
      intro piece member
      apply Text.pieces_flat separator path.bytes
      rw [← pieces, cut]
      exact kept member
    obtain ⟨proper, above⟩ := filterMap_concat first front last component found
    rw [more, body, if_neg proper, above, List.dropLast_concat, if_neg (by simp)]
    exact components_above first front flat

theorem map_parent?_eq (path path' : Path) (same : path.same path' = true) :
    path.parent?.map components = path'.parent?.map components := by
  rw [same_iff] at same
  rw [components_parent?, components_parent?, same]

theorem isAbsolute_iff (path : Path) (first : Bytes) (rest : List Bytes)
    (cut : path.pieces = first :: rest) : path.isAbsolute = true ↔ first = [] ∧ rest ≠ [] := by
  rw [isAbsolute, beq_iff_eq]
  rw [pieces] at cut
  cases spelled : path.bytes with
  | nil =>
      rw [spelled, Text.pieces, List.cons.injEq] at cut
      simp [← cut.2]
  | cons c more =>
      obtain ⟨piece, others, below⟩ :=
        List.exists_cons_of_ne_nil (Text.pieces_ne_nil separator more)
      rw [spelled, Text.pieces, below] at cut
      by_cases slash : c = separator
      · rw [if_pos slash, List.cons.injEq] at cut
        simp [slash, ← cut.1, ← cut.2]
      · rw [if_neg slash, List.cons.injEq] at cut
        simp [slash, ← cut.1]

theorem components_relative (name : Bytes) (relative : isAbsolute ⟨name⟩ = false) :
    components ⟨name⟩ = below name ∨ components ⟨name⟩ = .here :: below name := by
  obtain ⟨first, rest, cut⟩ := exists_pieces ⟨name⟩
  have parted : Text.pieces separator name = first :: rest := cut
  rw [components_eq _ first rest cut, below, parted]
  by_cases vacant : first = []
  · have alone : rest = [] := by
      by_contra more
      have absolute := (isAbsolute_iff ⟨name⟩ first rest cut).mpr ⟨vacant, more⟩
      rw [relative] at absolute
      cases absolute
    left
    simp [vacant, alone, leading, component?]
  · by_cases here : first = [dot]
    · right
      simp [here, leading, component?]
    · left
      rw [leading, if_neg vacant, if_neg here]
      cases found : component? first <;> simp [found]

theorem below_subset (name : Bytes) (relative : isAbsolute ⟨name⟩ = false) :
    below name ⊆ components ⟨name⟩ := by
  intro component member
  rcases components_relative name relative with same | dotted
  · rw [same]
    exact member
  · rw [dotted]
    exact List.mem_cons_of_mem _ member

theorem filterMap_name? (names : List Bytes) :
    (names.map Component.name).filterMap Component.name? = names := by
  simp [List.filterMap_map, Function.comp_def, Component.name?]

theorem map_filterMap_name? (components : List Component)
    (named : ∀ component ∈ components, ∃ text, component = .name text) :
    (components.filterMap Component.name?).map .name = components := by
  induction components with
  | nil => rfl
  | cons component rest ih =>
      obtain ⟨text, rfl⟩ := named component List.mem_cons_self
      have tail := ih fun other member => named other (List.mem_cons_of_mem _ member)
      simpa [Component.name?] using tail

theorem names_relative (name : Bytes) (relative : isAbsolute ⟨name⟩ = false) :
    names ⟨name⟩ = (below name).filterMap Component.name? := by
  rw [names]
  rcases components_relative name relative with plain | dotted
  · rw [plain]
  · rw [dotted]
    rfl

theorem below_eq_names (name : Bytes) (relative : isAbsolute ⟨name⟩ = false)
    (level : Component.up ∉ components ⟨name⟩) : below name = (names ⟨name⟩).map .name := by
  have named : ∀ component ∈ below name, ∃ text, component = .name text := by
    intro component member
    obtain ⟨piece, _, means⟩ := List.mem_filterMap.mp member
    rcases eq_of_component? means with rfl | rfl
    · exact absurd (below_subset name relative member) level
    · exact ⟨piece, rfl⟩
  rw [names_relative name relative, map_filterMap_name? _ named]

end Path

end WorkerLint
