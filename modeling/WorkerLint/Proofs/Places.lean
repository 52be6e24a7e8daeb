import WorkerLint.Disk
import WorkerLint.Proofs.TreeWalk

namespace WorkerLint

namespace FileTree

inductive LinkFree : FileTree → Prop
  | file (content : Bytes) : LinkFree (.file content)
  | special (kind : Special) : LinkFree (.special kind)
  | dir (entries : List (Name × FileTree)) (below : ∀ entry ∈ entries, LinkFree entry.2) :
      LinkFree (.dir entries)

theorem mem_of_find? {entries : List (Name × FileTree)} {name : Name} {child : FileTree}
    (found : find? name entries = some child) : (name, child) ∈ entries := by
  induction entries with
  | nil => cases found
  | cons entry rest ih =>
      obtain ⟨other, tree⟩ := entry
      rw [find?] at found
      split at found
      · rename_i same
        cases found
        rw [same]
        exact List.mem_cons_self
      · exact List.mem_cons_of_mem _ (ih found)

theorem LinkFree.get? {tree child : FileTree} (free : tree.LinkFree) {names : List Name}
    (found : tree.get? names = some child) : child.LinkFree := by
  induction names generalizing tree with
  | nil =>
      cases found
      exact free
  | cons name rest ih =>
      rw [FileTree.get?] at found
      split at found
      · rename_i next entered
        cases free with
        | dir entries below => exact ih (below _ (mem_of_find? entered)) found
        | file | special => cases entered
      · cases found

theorem LinkFree.get?_ne_link {tree : FileTree} (free : tree.LinkFree) (names : List Name)
    (target : Path) : tree.get? names ≠ some (.link target) := by
  intro found
  cases free.get? found

theorem get?_append (tree : FileTree) (front back : List Name) :
    tree.get? (front ++ back) = (tree.get? front).bind (·.get? back) := by
  induction front generalizing tree with
  | nil => rfl
  | cons name rest ih =>
      rw [List.cons_append, get?, get?]
      cases find? name tree.entries with
      | none => rfl
      | some child => exact ih child

theorem get?_below {tree child : FileTree} {place : List Name}
    (stands : tree.get? place = some child) (names : List Name) :
    tree.get? (place ++ names) = child.get? names := by
  rw [get?_append, stands, Option.bind_some]

theorem exists_dir_of_append (tree : FileTree) (front back : List Name)
    (stands : ∃ entries, tree.get? (front ++ back) = some (.dir entries)) :
    ∃ entries, tree.get? front = some (.dir entries) := by
  cases back with
  | nil =>
      rw [List.append_nil] at stands
      exact stands
  | cons name rest =>
      obtain ⟨entries, found⟩ := stands
      rw [get?_append] at found
      obtain ⟨above, there, below⟩ := Option.bind_eq_some_iff.mp found
      cases above with
      | dir others => exact ⟨others, there⟩
      | file | link | special => cases below

theorem exists_dir_of_dropLast (tree : FileTree) (place : List Name)
    (stands : ∃ entries, tree.get? place = some (.dir entries)) :
    ∃ entries, tree.get? place.dropLast = some (.dir entries) := by
  rcases place.eq_nil_or_concat with rfl | ⟨front, name, rfl⟩
  · exact stands
  · rw [List.concat_eq_append] at stands ⊢
    rw [List.dropLast_concat]
    exact tree.exists_dir_of_append front [name] stands

end FileTree

def Step.lead (place : Place) : Step → Place
  | .stay => place
  | .up => place.dropLast
  | .enter name => place ++ [name]

def Component.lead (place : Place) : Component → Place
  | .root => []
  | .here => place
  | .up => place.dropLast
  | .name text => place ++ [text]

theorem Component.lead_names (place : Place) (names : List Name) :
    (names.map Component.name).foldl Component.lead place = place ++ names := by
  induction names generalizing place with
  | nil => simp
  | cons name rest ih => simp [ih, Component.lead]

namespace Path

theorem lead_component? (piece : Bytes) (place : Place) :
    (component? piece).toList.foldl Component.lead place =
      Step.lead place (Step.ofPiece piece) := by
  by_cases idle : piece = [] ∨ piece = [dot]
  · simp [component?, Step.ofPiece, idle, Step.lead]
  · by_cases up : piece = [dot, Path.dot]
    · simp [component?, Step.ofPiece, up, Step.lead, Component.lead]
    · simp [component?, Step.ofPiece, idle, up, Step.lead, Component.lead]

theorem lead_pieces (pieces : List Bytes) (place : Place) :
    (pieces.filterMap component?).foldl Component.lead place =
      (pieces.map Step.ofPiece).foldl Step.lead place := by
  induction pieces generalizing place with
  | nil => rfl
  | cons piece rest ih =>
      rw [List.map_cons, List.foldl_cons, ← lead_component?, ← ih, ← List.foldl_append]
      congr 1
      cases found : component? piece <;> simp [found]

theorem lead_components (path : Path) (dir : Place) :
    path.components.foldl Component.lead dir =
      (Step.ofPath path).foldl Step.lead (Disk.origin dir path) := by
  obtain ⟨first, rest, cut⟩ := path.exists_pieces
  have start : (leading first rest.isEmpty).foldl Component.lead dir =
      Step.lead (Disk.origin dir path) (Step.ofPiece first) := by
    rw [Disk.origin]
    by_cases absolute : path.isAbsolute = true
    · obtain ⟨vacant, more⟩ := (path.isAbsolute_iff first rest cut).mp absolute
      simp [absolute, vacant, more, leading, Step.ofPiece, Step.lead, Component.lead]
    · rw [if_neg absolute]
      by_cases vacant : first = []
      · have alone : rest = [] := by
          by_contra more
          exact absolute ((path.isAbsolute_iff first rest cut).mpr ⟨vacant, more⟩)
        simp [vacant, alone, leading, Step.ofPiece, Step.lead]
      · by_cases here : first = [dot]
        · simp [here, leading, Step.ofPiece, Step.lead, Component.lead]
        · rw [leading, if_neg vacant, if_neg here, lead_component?]
  rw [components_eq path first rest cut, List.foldl_append, start, lead_pieces, Step.ofPath, cut,
    List.map_cons, List.foldl_cons]

theorem components_of_last_enter (path : Path) (front : List Step) (name : Name)
    (steps : Step.ofPath path = front ++ [.enter name]) :
    ∃ above, path.components = above ++ [.name name] := by
  obtain ⟨before, after, cut, _, ended⟩ := List.map_eq_append_iff.mp steps
  obtain ⟨last, rfl, enters⟩ := List.map_eq_singleton_iff.mp ended
  have means : last ≠ [dot] ∧ last ≠ [] ∧ component? last = some (.name name) := by
    rw [Step.ofPiece] at enters
    split at enters
    · cases enters
    · rename_i busy
      split at enters
      · cases enters
      · rename_i straight
        cases enters
        refine ⟨fun dot => busy (Or.inr dot), fun vacant => busy (Or.inl vacant), ?_⟩
        rw [component?, if_neg busy, if_neg straight]
  cases before with
  | nil =>
      refine ⟨[], ?_⟩
      rw [components_eq path last [] cut, leading, if_neg means.2.1, if_neg means.1, means.2.2]
      rfl
  | cons first rest =>
      refine ⟨leading first (rest ++ [last]).isEmpty ++ rest.filterMap component?, ?_⟩
      rw [components_eq path first (rest ++ [last]) cut]
      simp [means.2.2]

end Path

namespace Disk

/-- A tree without links, and a working directory that stands in it. -/
structure Linkless (disk : Disk) : Prop where
  free : disk.root.LinkFree
  here : ∃ entries, disk.root.get? disk.here = some (.dir entries)

def placeOf (disk : Disk) (path : Path) : Place :=
  path.components.foldl Component.lead disk.here

section

variable {root : FileTree} {intent : Intent}
  {onLink : Place → Path → List Step → Except Cause Place} {place : Place}

def Passable (root : FileTree) (place : Place) : Prop :=
  ∀ tree, root.get? place = some tree → tree.isDir = true

theorem follow_impassable (shut : ¬ Passable root place) (step : Step) (rest : List Step) :
    follow root intent onLink place (step :: rest) = .error .notDirectory := by
  rw [Passable, not_forall] at shut
  obtain ⟨tree, shut⟩ := shut
  obtain ⟨stands, solid⟩ := Classical.not_imp.mp shut
  cases tree with
  | dir => exact absurd rfl solid
  | file | link | special => simp [follow, stands]

theorem passable_iff :
    Passable root place ↔
      root.get? place = none ∨ ∃ entries, root.get? place = some (.dir entries) := by
  rw [Passable]
  cases root.get? place with
  | none => simp
  | some tree => cases tree <;> simp [FileTree.isDir]

theorem follow_passable (clear : Passable root place) (step : Step) (rest : List Step) :
    follow root intent onLink place (step :: rest) =
      match step with
      | .stay => follow root intent onLink place rest
      | .up => follow root intent onLink place.dropLast rest
      | .enter name =>
        if maxNameBytes < name.length then .error .nameTooLong
        else
          match root.get? (place ++ [name]) with
          | some (.link target) =>
            if intent = .entry ∧ rest = [] then .ok (place ++ [name])
            else onLink place target rest
          | some _ => follow root intent onLink (place ++ [name]) rest
          | none =>
            if intent = .landing ∧ rest = [] then .ok (place ++ [name]) else .error .noEntry := by
  have open_or_missing := passable_iff.mp clear
  cases step with
  | stay | up =>
      rcases open_or_missing with stands | ⟨entries, stands⟩ <;> simp [follow, stands]
  | enter name =>
      cases met : root.get? (place ++ [name]) with
      | none =>
          rcases open_or_missing with stands | ⟨entries, stands⟩ <;> simp [follow, stands, met]
      | some child =>
          rcases open_or_missing with stands | ⟨entries, stands⟩ <;> cases child <;>
            simp [follow, stands, met]

theorem passable_of_dir {entries : List (Name × FileTree)}
    (stands : root.get? place = some (.dir entries)) : Passable root place :=
  passable_iff.mpr (Or.inr ⟨entries, stands⟩)

theorem follow_enter_eq_ok (free : root.LinkFree) (name : Name) (rest : List Step) (final : Place)
    (led : follow root intent onLink place (.enter name :: rest) = .ok final) :
    (∃ tree, root.get? (place ++ [name]) = some tree ∧
      follow root intent onLink (place ++ [name]) rest = .ok final) ∨
    (rest = [] ∧ final = place ++ [name]) := by
  by_cases clear : Passable root place
  · rw [follow_passable clear] at led
    dsimp only at led
    split at led
    · cases led
    · split at led
      · rename_i target met
        exact absurd met (free.get?_ne_link _ target)
      · rename_i tree _ stands
        exact Or.inl ⟨tree, stands, led⟩
      · split at led
        · rename_i last
          cases led
          exact Or.inr ⟨last.2, rfl⟩
        · cases led
  · rw [follow_impassable clear] at led
    cases led

theorem follow_eq_lead (free : root.LinkFree) (final : Place) (steps : List Step)
    (led : follow root intent onLink place steps = .ok final) :
    final = steps.foldl Step.lead place := by
  induction steps generalizing place with
  | nil =>
      cases led
      rfl
  | cons step rest ih =>
      by_cases clear : Passable root place
      · cases step with
        | stay =>
            rw [follow_passable clear] at led
            exact ih led
        | up =>
            rw [follow_passable clear] at led
            exact ih led
        | enter name =>
            rcases follow_enter_eq_ok free name rest final led with ⟨_, _, onward⟩ | ⟨rfl, rfl⟩
            · exact ih onward
            · rfl
      · rw [follow_impassable clear] at led
        cases led

theorem follow_last (free : root.LinkFree)
    (start : ∃ entries, root.get? place = some (.dir entries)) (final : Place) (steps : List Step)
    (led : follow root intent onLink place steps = .ok final) :
    (∃ entries, root.get? final = some (.dir entries)) ∨
      ∃ front name, steps = front ++ [.enter name] := by
  induction steps generalizing place with
  | nil =>
      cases led
      exact Or.inl start
  | cons step rest ih =>
      obtain ⟨entries, stands⟩ := start
      have onward : ∀ next, (∃ entries, root.get? next = some (.dir entries)) →
          follow root intent onLink next rest = .ok final →
          (∃ entries, root.get? final = some (.dir entries)) ∨
            ∃ front name, step :: rest = front ++ [.enter name] := by
        intro next isDir below
        rcases ih isDir below with isDir | ⟨front, name, rfl⟩
        · exact Or.inl isDir
        · exact Or.inr ⟨step :: front, name, rfl⟩
      cases step with
      | stay =>
          rw [follow_passable (passable_of_dir stands)] at led
          exact onward place ⟨entries, stands⟩ led
      | up =>
          rw [follow_passable (passable_of_dir stands)] at led
          exact onward _ (root.exists_dir_of_dropLast place ⟨entries, stands⟩) led
      | enter name =>
          by_cases last : rest = []
          · exact Or.inr ⟨[], name, by rw [last]; rfl⟩
          · rcases follow_enter_eq_ok free name rest final led with ⟨tree, found, below⟩ | ⟨none, _⟩
            · obtain ⟨second, more, rfl⟩ := List.exists_cons_of_ne_nil last
              have clear : Passable root (place ++ [name]) := by
                by_contra shut
                rw [follow_impassable shut] at below
                cases below
              have isDir := clear tree found
              cases tree with
              | dir others => exact onward _ ⟨others, found⟩ below
              | file | link | special => cases isDir
            · exact absurd none last

end

theorem resolve_eq_ok_iff (disk : Disk) (intent : Intent) (path : Path) (place : Place) :
    disk.resolve intent path = .ok place ↔
      0 ∉ path.bytes ∧ path.bytes ≠ [] ∧ path.fits = true ∧
        followLinks disk.root intent maxLinks (origin disk.here path) (Step.ofPath path) =
          .ok place := by
  rw [resolve]
  by_cases nul : 0 ∈ path.bytes
  · simp [nul]
  · by_cases vacant : path.bytes = []
    · simp [vacant]
    · by_cases fits : path.fits = true <;> simp [nul, vacant, fits]

theorem resolve_eq_follow (disk : Disk) (intent : Intent) (path : Path) (place : Place)
    (resolved : disk.resolve intent path = .ok place) :
    ∃ onLink, follow disk.root intent onLink (origin disk.here path) (Step.ofPath path) =
      .ok place := by
  obtain ⟨_, _, _, led⟩ := (disk.resolve_eq_ok_iff intent path place).mp resolved
  exact ⟨_, led⟩

theorem Linkless.resolve_eq_placeOf {disk : Disk} (linkless : disk.Linkless) {intent : Intent}
    {path : Path} {place : Place} (resolved : disk.resolve intent path = .ok place) :
    place = disk.placeOf path := by
  obtain ⟨onLink, led⟩ := disk.resolve_eq_follow intent path place resolved
  rw [placeOf, Path.lead_components]
  exact follow_eq_lead linkless.free place _ led

theorem lookup_eq_ok_iff (disk : Disk) (intent : Intent) (path : Path) (tree : FileTree) :
    disk.lookup intent path = .ok tree ↔
      ∃ place, disk.resolve intent path = .ok place ∧ disk.root.get? place = some tree := by
  rw [lookup]
  cases disk.resolve intent path with
  | error cause => simp
  | ok place => cases found : disk.root.get? place <;> simp [found]

theorem Linkless.components_of_file {disk : Disk} (linkless : disk.Linkless) {path : Path}
    {content : Bytes} (stands : disk.lookup .target path = .ok (.file content)) :
    ∃ above name, path.components = above ++ [.name name] := by
  obtain ⟨place, resolved, found⟩ := (disk.lookup_eq_ok_iff .target path _).mp stands
  obtain ⟨onLink, led⟩ := disk.resolve_eq_follow .target path place resolved
  have start : ∃ entries, disk.root.get? (origin disk.here path) = some (.dir entries) := by
    rw [origin]
    split
    · exact disk.root.exists_dir_of_append [] disk.here linkless.here
    · exact linkless.here
  rcases follow_last linkless.free start place _ led with ⟨entries, isDir⟩ | ⟨front, name, steps⟩
  · rw [found] at isDir
    cases isDir
  · obtain ⟨above, ended⟩ := path.components_of_last_enter front name steps
    exact ⟨above, name, ended⟩

end Disk

end WorkerLint
