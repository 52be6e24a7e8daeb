import WorkerLint.Disk.Search
import WorkerLint.Proofs.TreeWalk

namespace WorkerLint

theorem FileTree.ProperName.relative {name : Name} (proper : FileTree.ProperName name) :
    Path.isAbsolute ⟨name⟩ = false := by
  rw [Path.isAbsolute, beq_eq_false_iff_ne]
  exact fun first => proper.1 (List.mem_of_head? first)

theorem FileTree.ProperName.ne_nil {name : Name} (proper : FileTree.ProperName name) :
    name ≠ [] := by
  rintro rfl
  simp [FileTree.ProperName, Path.component?] at proper

namespace Path

theorem join_ne_nil (dir : Path) (name : Bytes) (filled : name ≠ []) :
    (dir.join name).bytes ≠ [] := by
  rw [join]
  split
  · exact filled
  · split <;> simp [filled]

theorem components_join_proper (dir : Path) (name : Name) (filled : dir.bytes ≠ [])
    (proper : FileTree.ProperName name) :
    (dir.join name).components = dir.components ++ [.name name] := by
  obtain ⟨flat, means⟩ := proper
  rw [components_join dir name (FileTree.ProperName.relative ⟨flat, means⟩) filled, below,
    Text.pieces_of_flat separator name flat]
  simp [means]

theorem components_foldl_join (root : Path) (names : List Name) (filled : root.bytes ≠ [])
    (proper : ∀ name ∈ names, FileTree.ProperName name) :
    (names.foldl join root).components = root.components ++ names.map .name := by
  induction names generalizing root with
  | nil => simp
  | cons name rest ih =>
      have here := proper name List.mem_cons_self
      rw [List.foldl_cons, ih (root.join name) (join_ne_nil root name here.ne_nil)
        fun other member => proper other (List.mem_cons_of_mem name member),
        components_join_proper root name filled here]
      simp

theorem names_foldl_join (root : Path) (names : List Name) (filled : root.bytes ≠ [])
    (proper : ∀ name ∈ names, FileTree.ProperName name) :
    (names.foldl join root).names = root.names ++ names := by
  rw [Path.names, components_foldl_join root names filled proper, List.filterMap_append,
    filterMap_name?, Path.names]

end Path

namespace Disk

/-- The tree that a search of a path starts from: what stands there, or the directory that a link
there leads to. -/
inductive StartsFrom (disk : Disk) (root : Path) : FileTree → Prop
  | entry {tree : FileTree} (found : disk.lookup .entry root = .ok tree)
      (solid : ∀ target, tree ≠ .link target) : StartsFrom disk root tree
  | link {target : Path} {tree : FileTree} (found : disk.lookup .entry root = .ok (.link target))
      (led : disk.lookup .target root = .ok tree) (isDir : tree.isDir = true) :
      StartsFrom disk root tree

/-- A regular file in reach of a search: it stands below the start, behind no link, and at most so
deep. -/
structure Reaches (disk : Disk) (depth : Nat) (root : Path) (names : List Name) : Prop where
  stands : ∃ start content, disk.StartsFrom root start ∧
    start.get? names = some (.file content)
  near : names.length ≤ depth

/-- A file in reach whose path, from the root of the search on, is shown with the wanted names at
its end. -/
def Matches (disk : Disk) (depth : Nat) (root : Path) (wanted : List Text) (names : List Name) :
    Prop :=
  disk.Reaches depth root names ∧ wanted <:+ (root.names ++ names).map Utf8.decodeLossy

def IsFirst (p : List Name → Prop) (names : List Name) : Prop :=
  p names ∧ ∀ other, p other → other ≠ names → FileTree.Precedes names other

def reached (disk : Disk) (depth : Nat) (root : Path) : List (List Name) :=
  match disk.searchRoot? root with
  | none => []
  | some start => (start.files depth).filter (opens root)

theorem searchRoot?_eq_some_iff (disk : Disk) (root : Path) (tree : FileTree) :
    disk.searchRoot? root = some tree ↔ disk.StartsFrom root tree := by
  rw [searchRoot?]
  constructor
  · intro found
    split at found
    · cases found
    · rename_i target entered
      split at found
      · rename_i led
        split at found
        · rename_i isDir
          cases found
          exact .link entered led isDir
        · cases found
      · cases found
    · rename_i other solid entered
      cases found
      exact .entry entered solid
  · rintro (⟨found, solid⟩ | ⟨found, led, isDir⟩)
    · rw [found]
      cases tree with
      | link target => exact absurd rfl (solid target)
      | file | dir | special => rfl
    · simp [found, led, isDir]

theorem lookup_wellFormed (disk : Disk) (formed : disk.root.WellFormed) (intent : Intent)
    (path : Path) (tree : FileTree) (found : disk.lookup intent path = .ok tree) :
    tree.WellFormed := by
  rw [lookup] at found
  split at found
  · cases found
  · split at found
    · rename_i stands
      cases found
      exact (formed.get? stands).1
    · cases found

theorem StartsFrom.wellFormed {disk : Disk} (formed : disk.root.WellFormed) {root : Path}
    {tree : FileTree} (starts : disk.StartsFrom root tree) : tree.WellFormed := by
  cases starts with
  | entry found _ => exact disk.lookup_wellFormed formed .entry root tree found
  | link _ led _ => exact disk.lookup_wellFormed formed .target root tree led

theorem filesBelow_eq (disk : Disk) (depth : Nat) (root : Path) :
    disk.filesBelow depth root = (disk.reached depth root).map (·.foldl Path.join root) := by
  rw [filesBelow, reached]
  cases disk.searchRoot? root <;> rfl

theorem StartsFrom.unique {disk : Disk} {root : Path} {tree tree' : FileTree}
    (starts : disk.StartsFrom root tree) (starts' : disk.StartsFrom root tree') : tree = tree' := by
  rw [← searchRoot?_eq_some_iff] at starts starts'
  rw [starts] at starts'
  cases starts'
  rfl

theorem mem_reached_iff (disk : Disk) (formed : disk.root.WellFormed) (depth : Nat) (root : Path)
    (names : List Name) :
    names ∈ disk.reached depth root ↔ disk.Reaches depth root names ∧ opens root names = true := by
  rw [reached]
  cases found : disk.searchRoot? root with
  | none =>
      have nowhere : ¬ disk.Reaches depth root names := by
        rintro ⟨⟨start, _, starts, _⟩, _⟩
        rw [(disk.searchRoot?_eq_some_iff root start).mpr starts] at found
        cases found
      simp [nowhere]
  | some start =>
      have starts := (disk.searchRoot?_eq_some_iff root start).mp found
      rw [List.mem_filter, (starts.wellFormed formed).mem_files_iff]
      constructor
      · rintro ⟨⟨⟨content, stands⟩, near⟩, opened⟩
        exact ⟨⟨⟨start, content, starts, stands⟩, near⟩, opened⟩
      · rintro ⟨⟨⟨start', content, starts', stands⟩, near⟩, opened⟩
        rw [starts'.unique starts] at stands
        exact ⟨⟨⟨content, stands⟩, near⟩, opened⟩

theorem reached_ordered (disk : Disk) (formed : disk.root.WellFormed) (depth : Nat) (root : Path) :
    (disk.reached depth root).Pairwise FileTree.Precedes := by
  rw [reached]
  cases found : disk.searchRoot? root with
  | none => exact List.Pairwise.nil
  | some start =>
      have starts := (disk.searchRoot?_eq_some_iff root start).mp found
      exact ((starts.wellFormed formed).files_ordered depth).filter _

theorem Reaches.proper {disk : Disk} (formed : disk.root.WellFormed) {depth : Nat} {root : Path}
    {names : List Name} (reaches : disk.Reaches depth root names) :
    ∀ name ∈ names, FileTree.ProperName name := by
  obtain ⟨start, content, starts, stands⟩ := reaches.stands
  exact ((starts.wellFormed formed).get? stands).2

theorem endsWith_iff (root : Path) (wanted : List Text) (names : List Name)
    (filled : root.bytes ≠ []) (proper : ∀ name ∈ names, FileTree.ProperName name) :
    endsWith wanted (names.foldl Path.join root) = true ↔
      wanted <:+ (root.names ++ names).map Utf8.decodeLossy := by
  rw [endsWith, List.isSuffixOf_iff_suffix, Path.shownNames,
    Path.names_foldl_join root names filled proper]

theorem find?_ordered {items : List α} {before : α → α → Prop} (ordered : items.Pairwise before)
    (p : α → Bool) {first : α} (found : items.find? p = some first) :
    first ∈ items ∧ p first = true ∧ ∀ other ∈ items, p other = true → other ≠ first →
      before first other := by
  obtain ⟨holds, front, back, rfl, fails⟩ := List.find?_eq_some_iff_append.mp found
  refine ⟨by simp, holds, ?_⟩
  intro other member right differ
  rcases List.mem_append.mp member with early | late
  · have wrong := fails other early
    rw [right] at wrong
    cases wrong
  · have behind := (List.pairwise_cons.mp (List.pairwise_append.mp ordered).2.1).1
    rcases List.mem_cons.mp late with same | late
    · exact absurd same differ
    · exact behind other late

theorem rootOf_filled (dir : Path) : (rootOf dir).bytes ≠ [] := by
  rw [rootOf]
  split
  · simp
  · assumption

theorem matches_iff (disk : Disk) (formed : disk.root.WellFormed) (depth : Nat) (root : Path)
    (filled : root.bytes ≠ []) (wanted : List Text) (names : List Name) :
    disk.Matches depth root wanted names ∧ opens root names = true ↔
      names ∈ disk.reached depth root ∧ endsWith wanted (names.foldl Path.join root) = true := by
  rw [Matches, disk.mem_reached_iff formed, and_right_comm]
  apply and_congr_right
  intro reaches
  rw [endsWith_iff root wanted names filled (reaches.1.proper formed)]

def search? (disk : Disk) (depth : Nat) (root : Path) (wanted : List Text) :
    Option (List Name) :=
  (disk.reached depth root).find? fun names => endsWith wanted (names.foldl Path.join root)

section

variable (disk : Disk) (formed : disk.root.WellFormed) (depth : Nat) (root : Path)
  (filled : root.bytes ≠ []) (wanted : List Text)

include formed filled

theorem not_matches_of_search? (none : disk.search? depth root wanted = none)
    (names : List Name) : ¬ (disk.Matches depth root wanted names ∧ opens root names = true) := by
  intro found
  obtain ⟨member, right⟩ := (disk.matches_iff formed depth root filled wanted names).mp found
  exact List.find?_eq_none.mp none names member right

theorem isFirst_of_search? (names : List Name)
    (found : disk.search? depth root wanted = some names) :
    IsFirst (fun names => disk.Matches depth root wanted names ∧ opens root names = true)
      names := by
  obtain ⟨member, right, least⟩ := find?_ordered (disk.reached_ordered formed depth root) _ found
  refine ⟨(disk.matches_iff formed depth root filled wanted names).mpr ⟨member, right⟩, ?_⟩
  intro other here differ
  obtain ⟨present, ends⟩ := (disk.matches_iff formed depth root filled wanted other).mp here
  exact least other present ends differ

end

section

variable (disk : Disk) (depth : Nat) (dir : Path) (name : Text)

theorem locate_of_present (present : disk.hasFile (dir.join name) = true) :
    disk.locate depth dir name = .ok (dir.join name) := by
  rw [locate, if_pos present]

variable (absent : disk.hasFile (dir.join name) = false)

include absent

theorem locate_of_nameless (nameless : Path.shownNames ⟨name⟩ = []) :
    disk.locate depth dir name = .error (.missing name dir) := by
  rw [locate, if_neg (by simp [absent]), if_pos nameless]

theorem locate_of_absent (wanted : Path.shownNames ⟨name⟩ ≠ []) :
    disk.locate depth dir name =
      match disk.search? depth (rootOf dir) (Path.shownNames ⟨name⟩) with
      | none => .error (.missing name dir)
      | some names => .ok (names.foldl Path.join (rootOf dir)) := by
  have found : (disk.filesBelow depth (rootOf dir)).find? (endsWith (Path.shownNames ⟨name⟩)) =
      (disk.search? depth (rootOf dir) (Path.shownNames ⟨name⟩)).map
        (·.foldl Path.join (rootOf dir)) := by
    rw [filesBelow_eq, List.find?_map]
    rfl
  rw [locate, if_neg (by simp [absent]), if_neg wanted, found]
  cases disk.search? depth (rootOf dir) (Path.shownNames ⟨name⟩) <;> rfl

end

theorem hasFile_iff (disk : Disk) (path : Path) :
    disk.hasFile path = true ↔ ∃ content, disk.lookup .target path = .ok (.file content) := by
  rw [hasFile]
  cases found : disk.lookup .target path with
  | error cause => simp
  | ok tree => cases tree <;> simp [FileTree.isFile]

end Disk

end WorkerLint
