import WorkerLint.Proofs.Places
import WorkerLint.Proofs.ScriptSearch

/-! Paths below a directory. A path that is spelled from a directory on is followed to the directory
first, and from there by what stands below it. Where no step leads up and no link is met, nothing
else in the tree takes part. -/

namespace WorkerLint

namespace Path

def slash (dir : Path) : Bytes :=
  if dir.bytes.getLast? = some separator then [] else [separator]

section

variable (dir : Path) (filled : dir.bytes ≠ [])

include filled

theorem join_relative (name : Bytes) (relative : isAbsolute ⟨name⟩ = false) :
    dir.join name = ⟨dir.bytes ++ dir.slash ++ name⟩ := by
  rw [join, if_neg (by simp [relative, filled]), slash]
  split <;> simp

theorem join_injective (name name' : Bytes) (relative : isAbsolute ⟨name⟩ = false)
    (relative' : isAbsolute ⟨name'⟩ = false) :
    dir.join name = dir.join name' ↔ name = name' := by
  rw [join_relative dir filled name relative, join_relative dir filled name' relative',
    Path.ofBytes.injEq, List.append_cancel_left_eq]

theorem isAbsolute_join (name : Bytes) (relative : isAbsolute ⟨name⟩ = false) :
    (dir.join name).isAbsolute = dir.isAbsolute := by
  obtain ⟨c, rest, spelled⟩ := List.exists_cons_of_ne_nil filled
  rw [join_relative dir filled name relative, isAbsolute, isAbsolute, spelled]
  rfl

theorem foldl_join (first : Name) (rest : List Name)
    (proper : ∀ name ∈ first :: rest, FileTree.ProperName name) :
    isAbsolute ⟨Text.join [separator] (first :: rest)⟩ = false ∧
      (first :: rest).foldl join dir = dir.join (Text.join [separator] (first :: rest)) := by
  induction rest generalizing dir first with
  | nil =>
      have here := proper first List.mem_cons_self
      exact ⟨here.relative, rfl⟩
  | cons second rest ih =>
      have here := proper first List.mem_cons_self
      have present : first ≠ [] := here.ne_nil
      obtain ⟨relative, below⟩ := ih (dir.join first) (join_ne_nil dir first present)
        second fun name member => proper name (List.mem_cons_of_mem first member)
      have spelled : Text.join [separator] (first :: second :: rest) =
          first ++ separator :: Text.join [separator] (second :: rest) := by
        simp [Text.join]
      have relative' : isAbsolute
          ⟨first ++ separator :: Text.join [separator] (second :: rest)⟩ = false := by
        obtain ⟨c, more, cut⟩ := List.exists_cons_of_ne_nil present
        have start := here.relative
        rw [cut, isAbsolute] at start
        rw [cut, isAbsolute]
        exact start
      have unended : (dir.join first).slash = [separator] := by
        have last : (dir.bytes ++ dir.slash ++ first).getLast? ≠ some separator := by
          rw [List.getLast?_append, List.getLast?_eq_some_getLast present, Option.some_or]
          exact fun ended => here.1 (Option.some_inj.mp ended ▸ List.getLast_mem present)
        rw [slash, join_relative dir filled first here.relative, if_neg last]
      refine ⟨by rw [spelled]; exact relative', ?_⟩
      rw [List.foldl_cons, below, spelled, join_relative dir filled _ relative',
        join_relative _ (join_ne_nil dir first present) _ relative, unended,
        join_relative dir filled first here.relative]
      simp

end

end Path

def Step.name? : Step → Option Name
  | .enter name => some name
  | _ => none

namespace Step

theorem ofPiece_name? (piece : Bytes) :
    (ofPiece piece).name? = (Path.component? piece).bind Component.name? := by
  by_cases idle : piece = [] ∨ piece = [Path.dot]
  · simp [ofPiece, Path.component?, idle, Step.name?]
  · by_cases up : piece = [Path.dot, Path.dot]
    · simp [ofPiece, Path.component?, up, Step.name?, Component.name?]
    · simp [ofPiece, Path.component?, idle, up, Step.name?, Component.name?]

theorem filterMap_name?_ofPath (name : Bytes) (relative : Path.isAbsolute ⟨name⟩ = false) :
    (ofPath ⟨name⟩).filterMap Step.name? = Path.names ⟨name⟩ := by
  rw [Path.names_relative name relative, Path.below, List.filterMap_filterMap, ofPath,
    List.filterMap_map]
  exact congrArg (List.filterMap · _) (funext ofPiece_name?)

theorem ofPath_level (name : Bytes) (relative : Path.isAbsolute ⟨name⟩ = false)
    (level : Component.up ∉ Path.components ⟨name⟩) : Step.up ∉ ofPath ⟨name⟩ := by
  intro member
  obtain ⟨piece, present, up⟩ := List.mem_map.mp member
  have means : Path.component? piece = some .up := by
    rw [ofPiece] at up
    split at up
    · cases up
    · rename_i busy
      split at up
      · rename_i dots
        rw [Path.component?, if_neg busy, if_pos dots]
      · cases up
  exact level (Path.below_subset name relative (List.mem_filterMap.mpr ⟨piece, present, means⟩))

theorem ofPath_slash (front back : Bytes) :
    ofPath ⟨front ++ Path.separator :: back⟩ = ofPath ⟨front⟩ ++ ofPath ⟨back⟩ := by
  rw [ofPath, Path.pieces, Text.pieces_append, List.map_append]
  rfl

theorem ofPath_join (dir : Path) (name : Bytes) (relative : Path.isAbsolute ⟨name⟩ = false)
    (filled : dir.bytes ≠ []) :
    ofPath (dir.join name) = ofPath dir ++ ofPath ⟨name⟩ ∨
      ∃ front, ofPath dir = front ++ [.stay] ∧ ofPath (dir.join name) = front ++ ofPath ⟨name⟩ := by
  rw [Path.join_relative dir filled name relative, Path.slash]
  split
  · rename_i ended
    obtain ⟨front, spelled⟩ := List.getLast?_eq_some_iff.mp ended
    have own : dir = ⟨front ++ [Path.separator]⟩ := by rw [← spelled]
    right
    refine ⟨ofPath ⟨front⟩, ?_, ?_⟩
    · rw [own, ofPath_slash]
      rfl
    · rw [spelled, List.append_nil, List.append_assoc, List.singleton_append, ofPath_slash]
  · left
    rw [List.append_assoc, List.singleton_append, ofPath_slash]

end Step

namespace Disk

section

variable {root : FileTree} {intent : Intent} {place final : Place}
  {onLink onLink' : Place → Path → List Step → Except Cause Place}

def linked (root : FileTree) (intent : Intent) :
    Nat → Place → Path → List Step → Except Cause Place
  | 0, _, _, _ => .error .linkLoop
  | links + 1, place, target, rest =>
    followLinks root intent links (origin place target) (Step.ofPath target ++ rest)

theorem followLinks_eq (links : Nat) :
    followLinks root intent links = follow root intent (linked root intent links) := by
  cases links <;> rfl

theorem follow_append (steps more : List Step)
    (led : follow root .target onLink place steps = .ok final) :
    follow root .target onLink place (steps ++ more) = follow root .target onLink final more ∨
      ∃ holder target rest, onLink holder target rest = .ok final ∧
        follow root .target onLink place (steps ++ more) = onLink holder target (rest ++ more) := by
  induction steps generalizing place with
  | nil =>
      cases led
      exact Or.inl rfl
  | cons step rest ih =>
      by_cases clear : Passable root place
      · rw [follow_passable clear] at led
        rw [List.cons_append, follow_passable clear]
        cases step with
        | stay => exact ih led
        | up => exact ih led
        | enter name =>
            by_cases long : maxNameBytes < name.length
            · simp [long] at led
            · cases met : root.get? (place ++ [name]) with
              | none => simp [long, met] at led
              | some tree =>
                  cases tree with
                  | link target =>
                      -- The induction ends here: all that is left is handed on with the link.
                      simp only [long, met] at led ⊢
                      exact Or.inr ⟨place, target, rest, by simpa using led, by simp⟩
                  | file | dir | special =>
                      simp only [long, met] at led ⊢
                      exact ih led
      · rw [follow_impassable clear] at led
        cases led

theorem followLinks_append (links : Nat) (steps more : List Step)
    (led : followLinks root .target links place steps = .ok final) :
    ∃ left, followLinks root .target links place (steps ++ more) =
      followLinks root .target left final more := by
  induction links generalizing place steps with
  | zero =>
      rw [followLinks_eq] at led ⊢
      rcases follow_append steps more led with onward | ⟨_, _, _, stopped, _⟩
      · exact ⟨0, by rw [onward, followLinks_eq]⟩
      · cases stopped
  | succ links ih =>
      rw [followLinks_eq] at led ⊢
      rcases follow_append steps more led with onward | ⟨holder, target, rest, below, above⟩
      · exact ⟨links + 1, by rw [onward, followLinks_eq]⟩
      · obtain ⟨left, onward⟩ := ih _ below
        rw [List.append_assoc] at onward
        exact ⟨left, above.trans onward⟩

theorem follow_stay (steps : List Step) (more : List Step) (some : more ≠ [])
    (idle : ∀ holder target rest,
      onLink holder target (rest ++ .stay :: more) = onLink holder target (rest ++ more)) :
    follow root intent onLink place (steps ++ .stay :: more) =
      follow root intent onLink place (steps ++ more) := by
  induction steps generalizing place with
  | nil =>
      by_cases clear : Passable root place
      · exact follow_passable clear .stay more
      · obtain ⟨next, others, rfl⟩ := List.exists_cons_of_ne_nil some
        rw [List.nil_append, List.nil_append, follow_impassable clear, follow_impassable clear]
  | cons step rest ih =>
      rw [List.cons_append, List.cons_append]
      by_cases clear : Passable root place
      · rw [follow_passable clear, follow_passable clear]
        cases step with
        | stay | up => exact ih
        | enter name => simp [ih, idle, some]
      · rw [follow_impassable clear, follow_impassable clear]

theorem followLinks_stay (links : Nat) (steps more : List Step) (some : more ≠ []) :
    followLinks root intent links place (steps ++ .stay :: more) =
      followLinks root intent links place (steps ++ more) := by
  induction links generalizing place steps with
  | zero =>
      rw [followLinks_eq]
      exact follow_stay steps more some fun _ _ _ => rfl
  | succ links ih =>
      rw [followLinks_eq]
      refine follow_stay steps more some ?_
      intro holder target rest
      simp only [linked, ← List.append_assoc]
      exact ih _

theorem follow_target_of_entry (solid : ∀ target, root.get? final ≠ some (.link target))
    (same : ∀ holder target rest, onLink holder target rest = .ok final →
      onLink' holder target rest = .ok final) (steps : List Step)
    (led : follow root .entry onLink place steps = .ok final) :
    follow root .target onLink' place steps = .ok final := by
  induction steps generalizing place with
  | nil => exact led
  | cons step rest ih =>
      by_cases clear : Passable root place
      · rw [follow_passable clear] at led ⊢
        cases step with
        | stay => exact ih led
        | up => exact ih led
        | enter name =>
            by_cases long : maxNameBytes < name.length
            · simp [long] at led
            · cases met : root.get? (place ++ [name]) with
              | none => simp [long, met] at led
              | some tree =>
                  cases tree with
                  | link target =>
                      simp only [long, met] at led ⊢
                      -- At the end of the path the entry would be the link itself.
                      by_cases last : rest = []
                      · simp only [last, and_self, if_true, if_false] at led
                        cases led
                        exact absurd met (solid target)
                      · simp only [last, and_false, if_false] at led
                        simpa using same _ _ _ led
                  | file | dir | special =>
                      simp only [long, met] at led ⊢
                      exact ih led
      · rw [follow_impassable clear] at led
        cases led

theorem followLinks_target_of_entry (solid : ∀ target, root.get? final ≠ some (.link target))
    (links : Nat) (steps : List Step)
    (led : followLinks root .entry links place steps = .ok final) :
    followLinks root .target links place steps = .ok final := by
  induction links generalizing place steps with
  | zero =>
      rw [followLinks_eq] at led ⊢
      refine follow_target_of_entry solid ?_ steps led
      intro _ _ _ stopped
      cases stopped
  | succ links ih =>
      rw [followLinks_eq] at led ⊢
      exact follow_target_of_entry solid (fun _ _ _ below => ih _ below) steps led

/-- Steps that lead nowhere up and meet no link are taken below a place as they are taken in the
tree that stands there. -/
theorem follow_below {tree : FileTree} (stands : root.get? place = some tree) (steps : List Step)
    (reached : Place) (level : Step.up ∉ steps)
    (plain : ∀ front, front <+: steps.filterMap Step.name? →
      ∀ target, tree.get? (reached ++ front) ≠ some (.link target)) :
    follow root .target onLink (place ++ reached) steps =
      (follow tree .target onLink' reached steps).map (place ++ ·) := by
  have inside := FileTree.get?_below stands
  induction steps generalizing reached with
  | nil => rfl
  | cons step rest ih =>
      have below := fun member => level (List.mem_cons_of_mem step member)
      have alike : Passable root (place ++ reached) ↔ Passable tree reached := by
        rw [Passable, Passable, inside]
      by_cases clear : Passable tree reached
      · rw [follow_passable (alike.mpr clear), follow_passable clear]
        cases step with
        | stay => exact ih reached below plain
        | up => exact absurd List.mem_cons_self level
        | enter name =>
            have next : ∀ front, front <+: rest.filterMap Step.name? →
                ∀ target, tree.get? (reached ++ [name] ++ front) ≠ some (.link target) := by
              intro front start
              rw [List.append_assoc]
              exact plain (name :: front) (List.prefix_cons_inj name |>.mpr start)
            by_cases long : maxNameBytes < name.length
            · simp [long, Except.map]
            · have onward := ih (reached ++ [name]) below next
              simp only [long, List.append_assoc, inside] at onward ⊢
              cases met : tree.get? (reached ++ [name]) with
              | none => simp [Except.map]
              | some child =>
                  cases child with
                  | link target => exact absurd met (plain [name] (by simp [Step.name?]) target)
                  | file | dir | special => exact onward
      · rw [follow_impassable (fun open' => clear (alike.mp open')), follow_impassable clear]
        rfl

end

theorem StartsFrom.lookup_target {disk : Disk} {dir : Path} {tree : FileTree}
    (starts : disk.StartsFrom dir tree) : disk.lookup .target dir = .ok tree := by
  cases starts with
  | link _ led _ => exact led
  | entry found solid =>
      obtain ⟨place, resolved, stands⟩ := (disk.lookup_eq_ok_iff .entry dir tree).mp found
      refine (disk.lookup_eq_ok_iff .target dir tree).mpr ⟨place, ?_, stands⟩
      have free : ∀ target, disk.root.get? place ≠ some (.link target) := by
        intro target met
        rw [stands, Option.some_inj] at met
        exact solid target met
      rw [resolve_eq_ok_iff] at resolved ⊢
      obtain ⟨clean, filled, fits, led⟩ := resolved
      exact ⟨clean, filled, fits, followLinks_target_of_entry free maxLinks _ led⟩

theorem resolve_join (disk : Disk) (dir : Path) (name : Bytes)
    (relative : Path.isAbsolute ⟨name⟩ = false) (place : Place)
    (led : disk.resolve .target dir = .ok place) :
    ∃ left, disk.resolve .target (dir.join name) =
      if 0 ∈ name then .error .nulInPath
      else if !(dir.join name).fits then .error .nameTooLong
      else followLinks disk.root .target left place (Step.ofPath ⟨name⟩) := by
  obtain ⟨clean, filled, _, steps⟩ := (disk.resolve_eq_ok_iff .target dir place).mp led
  obtain ⟨left, onward⟩ := followLinks_append maxLinks _ (Step.ofPath ⟨name⟩) steps
  have start : origin disk.here (dir.join name) = origin disk.here dir := by
    rw [origin, origin, Path.isAbsolute_join dir filled name relative]
  have nul : 0 ∈ (dir.join name).bytes ↔ 0 ∈ name := by
    have apart : (0 : UInt8) ≠ Path.separator := by decide
    rw [Path.join_relative dir filled name relative, Path.slash]
    split <;> simp [clean, apart]
  have joined : followLinks disk.root .target maxLinks (origin disk.here dir)
      (Step.ofPath (dir.join name)) =
      followLinks disk.root .target maxLinks (origin disk.here dir)
        (Step.ofPath dir ++ Step.ofPath ⟨name⟩) := by
    rcases Step.ofPath_join dir name relative filled with plain | ⟨front, own, whole⟩
    · rw [plain]
    · have some : Step.ofPath ⟨name⟩ ≠ [] := by simp [Step.ofPath, Path.pieces, Text.pieces_ne_nil]
      rw [own, whole, List.append_assoc, List.singleton_append, followLinks_stay _ _ _ some]
  have vacant : ¬ (dir.join name).bytes = [] := by
    rw [Path.join_relative dir filled name relative]
    simp [filled]
  refine ⟨left, ?_⟩
  rw [resolve, if_neg vacant, start, joined, onward]
  simp only [nul]

end Disk

def FileTree.hasFile (tree : FileTree) (name : Bytes) : Bool :=
  match Disk.follow tree .target (fun _ _ _ => .error .linkLoop) [] (Step.ofPath ⟨name⟩) with
  | .ok place => (tree.get? place).any (·.isFile)
  | .error _ => false

namespace Disk

/-- A name that leads down and meets no link leads to a regular file below a directory exactly if
it does in the tree that stands there. -/
theorem hasFile_join (disk : Disk) (dir : Path) (tree : FileTree)
    (starts : disk.StartsFrom dir tree) (name : Bytes) (relative : Path.isAbsolute ⟨name⟩ = false)
    (level : Component.up ∉ Path.components ⟨name⟩)
    (plain : ∀ front, front <+: Path.names ⟨name⟩ →
      ∀ target, tree.get? front ≠ some (.link target)) :
    disk.hasFile (dir.join name) =
      (decide (0 ∉ name) && (dir.join name).fits && tree.hasFile name) := by
  obtain ⟨place, led, stands⟩ :=
    (disk.lookup_eq_ok_iff .target dir tree).mp starts.lookup_target
  obtain ⟨left, resolved⟩ := disk.resolve_join dir name relative place led
  have onward : follow disk.root .target (linked disk.root .target left) (place ++ [])
      (Step.ofPath ⟨name⟩) =
        (follow tree .target (fun _ _ _ => .error .linkLoop) [] (Step.ofPath ⟨name⟩)).map
          (place ++ ·) :=
    follow_below stands (Step.ofPath ⟨name⟩) [] (Step.ofPath_level name relative level)
      (by simpa [Step.filterMap_name?_ofPath name relative] using plain)
  rw [List.append_nil, ← followLinks_eq] at onward
  have inside := FileTree.get?_below stands
  rw [hasFile, lookup, resolved, onward, FileTree.hasFile]
  by_cases nul : 0 ∈ name
  · simp [nul]
  · by_cases fits : (dir.join name).fits = true
    · cases below : follow tree .target (fun _ _ _ => .error .linkLoop) []
          (Step.ofPath ⟨name⟩) with
      | error cause => simp [nul, fits, Except.map]
      | ok names =>
          simp only [nul, fits, Except.map, if_false, Bool.not_true, Bool.false_eq_true, inside]
          cases tree.get? names <;> simp
    · simp [nul, fits]

end Disk

end WorkerLint
