import WorkerLint.Proofs.Descent
import Mathlib.Data.List.Find
import Mathlib.Tactic.Push

/-! The search below a directory. What a name means there depends on the tree below the directory
alone, with three exceptions. Names that end the path of the directory itself can make up the start
of the wanted name; a link on the way of the name can lead out of the tree; and the path of the
directory can make paths below it too long for the system. -/

namespace WorkerLint

theorem suffix_append_iff (wanted own below : List α) :
    wanted <:+ own ++ below ↔
      wanted <:+ below ∨ ∃ front, front ≠ [] ∧ wanted = front ++ below ∧ front <:+ own := by
  constructor
  · rintro ⟨before, spelled⟩
    rcases List.append_eq_append_iff.mp spelled with ⟨front, own', wanted'⟩ | ⟨before', _, below'⟩
    · by_cases none : front = []
      · rw [none, List.nil_append] at wanted'
        exact Or.inl (wanted' ▸ List.suffix_refl below)
      · exact Or.inr ⟨front, none, wanted', before, own'.symm⟩
    · exact Or.inl ⟨before', below'.symm⟩
  · rintro (inside | ⟨front, _, rfl, before, rfl⟩)
    · exact List.suffix_append_of_suffix inside
    · exact ⟨before, by simp⟩

namespace Disk

variable {disk disk' : Disk} {depth : Nat} {dir dir' : Path} {tree : FileTree} {name : Text}

theorem StartsFrom.filled (starts : disk.StartsFrom dir tree) : dir.bytes ≠ [] := by
  intro vacant
  have led := starts.lookup_target
  rw [lookup, resolve, vacant] at led
  simp at led

theorem StartsFrom.reached_eq (starts : disk.StartsFrom dir tree) (depth : Nat) :
    disk.reached depth dir = (tree.files depth).filter (opens dir) := by
  rw [reached, (disk.searchRoot?_eq_some_iff dir tree).mpr starts]

theorem locate_ne_ok (starts : disk.StartsFrom dir tree) (formed : tree.WellFormed)
    (absent : disk.hasFile (dir.join name) = false)
    (none : ∀ names content, tree.get? names = some (.file content) → opens dir names = true →
      ¬ Path.shownNames ⟨name⟩ <:+ (dir.names ++ names).map Utf8.decodeLossy)
    (path : Path) : disk.locate depth dir name ≠ .ok path := by
  by_cases wanted : Path.shownNames ⟨name⟩ = []
  · rw [disk.locate_of_nameless depth dir name absent wanted]
    simp
  · have nowhere : disk.search? depth dir (Path.shownNames ⟨name⟩) = .none := by
      rw [search?, starts.reached_eq, List.find?_eq_none]
      intro names member ends
      rw [List.mem_filter, formed.mem_files_iff] at member
      obtain ⟨⟨⟨content, stands⟩, _⟩, opened⟩ := member
      rw [endsWith_iff dir _ names starts.filled (formed.get? stands).2] at ends
      exact none names content stands opened ends
    rw [disk.locate_of_absent depth dir name absent wanted, rootOf, if_neg starts.filled, nowhere]
    simp

structure TwoRoots (disk disk' : Disk) (dir dir' : Path) (tree : FileTree) (name : Text) :
    Prop where
  formed : tree.WellFormed
  isDir : tree.isDir = true
  starts : disk.StartsFrom dir tree
  starts' : disk'.StartsFrom dir' tree
  relative : Path.isAbsolute ⟨name⟩ = false
  level : Component.up ∉ Path.components ⟨name⟩

/-- Names that come in the wanted one before the names of a file end both paths or neither. As in
the search, names count as they are shown. -/
def EndedAlike (dir dir' : Path) (tree : FileTree) (name : Text) : Prop :=
  ∀ front back content, Path.shownNames ⟨name⟩ = front ++ back.map Utf8.decodeLossy → front ≠ [] →
    tree.get? back = some (.file content) → (front <:+ dir.shownNames ↔ front <:+ dir'.shownNames)

/-- If a link stands on the way, the name leads to a regular file from both directories or from
neither. -/
def LinkedAlike (disk disk' : Disk) (dir dir' : Path) (tree : FileTree) (name : Text) : Prop :=
  ∀ front target, front <+: Path.names ⟨name⟩ → tree.get? front = some (.link target) →
    disk.hasFile (dir.join name) = disk'.hasFile (dir'.join name)

/-- The same paths are too long below both: the one of the name, and those that hold files. -/
structure ShortAlike (depth : Nat) (dir dir' : Path) (tree : FileTree) (name : Text) : Prop where
  fits : (dir.join name).fits = (dir'.join name).fits
  opened : ∀ names content, tree.get? names = some (.file content) → names.length ≤ depth →
    opens dir names = opens dir' names

def FoundAlike (disk disk' : Disk) (depth : Nat) (dir dir' : Path) (name : Text) : Prop :=
  ∀ below : Bytes, Path.isAbsolute ⟨below⟩ = false →
    (disk.locate depth dir name = .ok (dir.join below) ↔
      disk'.locate depth dir' name = .ok (dir'.join below))

section

variable (roots : TwoRoots disk disk' dir dir' tree name)

include roots

theorem hasFile_alike (linked : LinkedAlike disk disk' dir dir' tree name)
    (short : ShortAlike depth dir dir' tree name) :
    disk.hasFile (dir.join name) = disk'.hasFile (dir'.join name) := by
  by_cases plain : ∀ front, front <+: Path.names ⟨name⟩ →
      ∀ target, tree.get? front ≠ some (.link target)
  · rw [disk.hasFile_join dir tree roots.starts name roots.relative roots.level plain,
      disk'.hasFile_join dir' tree roots.starts' name roots.relative roots.level plain, short.fits]
  · push Not at plain
    obtain ⟨front, start, target, met⟩ := plain
    exact linked front target start met

theorem search?_alike (ended : EndedAlike dir dir' tree name)
    (short : ShortAlike depth dir dir' tree name) :
    disk.search? depth dir (Path.shownNames ⟨name⟩) =
      disk'.search? depth dir' (Path.shownNames ⟨name⟩) := by
  rw [search?, search?, roots.starts.reached_eq, roots.starts'.reached_eq, List.find?_filter,
    List.find?_filter]
  -- Both walks come by the same files in the same order, so the tests decide.
  apply List.find?_congr
  intro names member
  obtain ⟨⟨content, stands⟩, near⟩ := (roots.formed.mem_files_iff depth names).mp member
  have proper := (roots.formed.get? stands).2
  have ends : endsWith (Path.shownNames ⟨name⟩) (names.foldl Path.join dir) =
      endsWith (Path.shownNames ⟨name⟩) (names.foldl Path.join dir') := by
    rw [Bool.eq_iff_iff, endsWith_iff dir _ names roots.starts.filled proper,
      endsWith_iff dir' _ names roots.starts'.filled proper, List.map_append, List.map_append,
      suffix_append_iff, suffix_append_iff]
    refine or_congr_right (exists_congr fun front => ?_)
    refine and_congr_right fun some => and_congr_right fun whole => ?_
    exact ended front names content whole some stands
  rw [short.opened names content stands near, ends]

theorem locate_alike (ended : EndedAlike dir dir' tree name)
    (linked : LinkedAlike disk disk' dir dir' tree name)
    (short : ShortAlike depth dir dir' tree name) :
    (∃ below : Bytes, Path.isAbsolute ⟨below⟩ = false ∧
      disk.locate depth dir name = .ok (dir.join below) ∧
      disk'.locate depth dir' name = .ok (dir'.join below)) ∨
    (disk.locate depth dir name = .error (.missing name dir) ∧
      disk'.locate depth dir' name = .error (.missing name dir')) := by
  have meet := hasFile_alike roots linked short
  by_cases beside : disk'.hasFile (dir'.join name) = true
  · left
    refine ⟨name, roots.relative, ?_, ?_⟩
    · exact disk.locate_of_present depth dir name (meet.trans beside)
    · exact disk'.locate_of_present depth dir' name beside
  · rw [Bool.not_eq_true] at beside
    by_cases wanted : Path.shownNames ⟨name⟩ = []
    · right
      constructor
      · exact disk.locate_of_nameless depth dir name (meet.trans beside) wanted
      · exact disk'.locate_of_nameless depth dir' name beside wanted
    · rw [disk.locate_of_absent depth dir name (meet.trans beside) wanted,
        disk'.locate_of_absent depth dir' name beside wanted, rootOf, rootOf,
        if_neg roots.starts.filled, if_neg roots.starts'.filled, search?_alike roots ended short]
      cases found : disk'.search? depth dir' (Path.shownNames ⟨name⟩) with
      | none => exact Or.inr ⟨rfl, rfl⟩
      | some names =>
          have member := List.mem_of_find?_eq_some found
          rw [roots.starts'.reached_eq, List.mem_filter, roots.formed.mem_files_iff] at member
          obtain ⟨⟨⟨content, stands⟩, _⟩, _⟩ := member
          have proper := (roots.formed.get? stands).2
          cases names with
          | nil =>
              -- The top of the tree is no file.
              have isDir := roots.isDir
              cases stands
              cases isDir
          | cons first rest =>
              obtain ⟨below, spelled⟩ := Path.foldl_join dir roots.starts.filled first rest proper
              obtain ⟨_, spelled'⟩ := Path.foldl_join dir' roots.starts'.filled first rest proper
              exact Or.inl ⟨_, below, congrArg Except.ok spelled, congrArg Except.ok spelled'⟩

end

end Disk

def FileTree.lone (bottom : FileTree) : List Name → FileTree
  | [] => bottom
  | name :: rest => .dir [(name, lone bottom rest)]

namespace FileTree

theorem lone_wellFormed {bottom : FileTree} (formed : bottom.WellFormed) (way : List Name)
    (proper : ∀ name ∈ way, ProperName name) : (lone bottom way).WellFormed := by
  induction way with
  | nil => exact formed
  | cons name rest ih =>
      have below := ih fun other member => proper other (List.mem_cons_of_mem name member)
      refine .dir _ (by simp) ?_ ?_
      · simpa using proper name List.mem_cons_self
      · simpa using below

theorem get?_lone {bottom child : FileTree} (solid : bottom.isDir = false) (way names : List Name)
    (found : (lone bottom way).get? names = some child) (leaf : child.isDir = false) :
    names = way ∧ child = bottom := by
  induction way generalizing names with
  | nil =>
      cases names with
      | nil =>
          cases found
          exact ⟨rfl, rfl⟩
      | cons name more =>
          cases bottom with
          | dir => cases solid
          | file | link | special => cases found
  | cons name rest ih =>
      cases names with
      | nil =>
          cases found
          cases leaf
      | cons other more =>
          rw [lone, get?, entries, find?] at found
          by_cases same : name = other
          · rw [if_pos same] at found
            obtain ⟨rfl, rfl⟩ := ih more found
            exact ⟨by rw [same], rfl⟩
          · rw [if_neg same] at found
            cases found

end FileTree

namespace Disk

theorem twoRoots_lone {disk disk' : Disk} {dir dir' : Path} {bottom : FileTree} {name : Text}
    (formed : bottom.WellFormed) (first : Name) (rest : List Name)
    (proper : ∀ name ∈ first :: rest, FileTree.ProperName name)
    (found : disk.lookup .entry dir = .ok (.lone bottom (first :: rest)))
    (found' : disk'.lookup .entry dir' = .ok (.lone bottom (first :: rest)))
    (relative : Path.isAbsolute ⟨name⟩ = false) (level : Component.up ∉ Path.components ⟨name⟩) :
    TwoRoots disk disk' dir dir' (.lone bottom (first :: rest)) name where
  formed := FileTree.lone_wellFormed formed _ proper
  isDir := rfl
  starts := .entry found fun _ link => by cases link
  starts' := .entry found' fun _ link => by cases link
  relative := relative
  level := level

theorem shortAlike_lone (depth : Nat) (dir dir' : Path) (name : Text) (content : Bytes)
    (way : List Name) (fits : (dir.join name).fits = (dir'.join name).fits)
    (opened : opens dir way = opens dir' way) :
    ShortAlike depth dir dir' (.lone (.file content) way) name := by
  refine ⟨fits, ?_⟩
  intro names content' stands _
  rw [(FileTree.get?_lone rfl way names stands rfl).1]
  exact opened

theorem linkedAlike_lone (disk disk' : Disk) (dir dir' : Path) (name : Text) (content : Bytes)
    (way : List Name) : LinkedAlike disk disk' dir dir' (.lone (.file content) way) name := by
  intro front target _ met
  cases (FileTree.get?_lone rfl way front met rfl).2

structure PlainDir (disk : Disk) (dir : Path) : Prop where
  relative : dir.isAbsolute = false
  unlinked : ∃ place,
    followLinks disk.root .target 0 (origin disk.here dir) (Step.ofPath dir) = .ok place

theorem ended_matters :
    let tree : FileTree := .lone (.file []) ["x.js".toList]
    let disk : Disk := ⟨.dir [("lib".toList, tree), ("src".toList, tree)], []⟩
    let dir : Path := ⟨"lib".toList⟩
    let dir' : Path := ⟨"src".toList⟩
    let name := "lib/x.js".toList
    TwoRoots disk disk dir dir' tree name ∧ PlainDir disk dir ∧ PlainDir disk dir' ∧
      LinkedAlike disk disk dir dir' tree name ∧ ShortAlike 3 dir dir' tree name ∧
      ¬ FoundAlike disk disk 3 dir dir' name := by
  intro tree disk dir dir' name
  have roots : TwoRoots disk disk dir dir' tree name :=
    twoRoots_lone (.file []) _ _ (by decide) rfl rfl (by decide) (by decide)
  refine ⟨roots, ⟨rfl, _, rfl⟩, ⟨rfl, _, rfl⟩, linkedAlike_lone _ _ _ _ _ [] _,
    shortAlike_lone 3 _ _ _ [] _ (by decide) (by decide), ?_⟩
  intro same
  have here : disk.locate 3 dir name = .ok (dir.join "x.js".toList) := by decide +kernel
  have there : disk.locate 3 dir' name = .error (.missing name dir') := by decide +kernel
  have found := (same "x.js".toList (by decide)).mp here
  rw [there] at found
  cases found

theorem linked_matters :
    let tree : FileTree := .lone (.link ⟨"../s.js".toList⟩) ["x.js".toList]
    let disk : Disk := ⟨.dir [("a".toList, .dir [("d".toList, tree), ("s.js".toList, .file [])]),
      ("b".toList, .dir [("d".toList, tree)])], []⟩
    let dir : Path := ⟨"a/d".toList⟩
    let dir' : Path := ⟨"b/d".toList⟩
    let name := "x.js".toList
    TwoRoots disk disk dir dir' tree name ∧ PlainDir disk dir ∧ PlainDir disk dir' ∧
      EndedAlike dir dir' tree name ∧ ShortAlike 3 dir dir' tree name ∧
      ¬ FoundAlike disk disk 3 dir dir' name := by
  intro tree disk dir dir' name
  have roots : TwoRoots disk disk dir dir' tree name :=
    twoRoots_lone (.link _) _ _ (by decide) rfl rfl (by decide) (by decide)
  have fileless : ∀ names content, tree.get? names ≠ some (.file content) := by
    intro names content stands
    cases (FileTree.get?_lone rfl _ names stands rfl).2
  refine ⟨roots, ⟨rfl, _, rfl⟩, ⟨rfl, _, rfl⟩, ?_, ⟨by decide, ?_⟩, ?_⟩
  · exact fun _ back content _ _ stands => absurd stands (fileless back content)
  · exact fun names content stands => absurd stands (fileless names content)
  · intro same
    have here : disk.locate 3 dir name = .ok (dir.join name) := by decide +kernel
    have there : disk.hasFile (dir'.join name) = false := by decide +kernel
    refine locate_ne_ok roots.starts' roots.formed there ?_ _ ((same name (by decide)).mp here)
    exact fun names content stands => absurd stands (fileless names content)

end Disk

theorem Path.components_slashes (front : Bytes) (filled : front ≠ []) (count : Nat) :
    Path.components ⟨front ++ List.replicate count Path.separator⟩ = Path.components ⟨front⟩ := by
  induction count with
  | zero => simp
  | succ count ih =>
      rw [List.replicate_succ', ← List.append_assoc, Path.components_slash_end _ (by simp [filled]),
        ih]

theorem Step.ofPath_slashes (front : Bytes) (count : Nat) :
    Step.ofPath ⟨front ++ List.replicate count Path.separator⟩ =
      Step.ofPath ⟨front⟩ ++ List.replicate count .stay := by
  induction count generalizing front with
  | zero => simp
  | succ count ih =>
      rw [List.replicate_succ, ofPath_slash,
        ← List.nil_append (List.replicate count Path.separator), ih []]
      rfl

theorem Path.fits_slashes (front back : Bytes) (count : Nat) :
    Path.fits ⟨front ++ List.replicate count Path.separator ++ back⟩ =
      decide (front.length + count + back.length ≤ 4095) := by
  simp [Path.fits, Nat.add_assoc]

namespace Disk

theorem followLinks_slashes (root : FileTree) (intent : Intent) (links : Nat) (place : Place)
    (front : Bytes) (count : Nat) :
    followLinks root intent links place
        (Step.ofPath ⟨front ++ List.replicate (count + 1) Path.separator⟩) =
      followLinks root intent links place (Step.ofPath ⟨front ++ [Path.separator]⟩) := by
  rw [Step.ofPath_slashes, Step.ofPath_slash]
  induction count with
  | zero => rfl
  | succ count ih =>
      rw [← ih, List.replicate_succ]
      exact followLinks_stay links _ _ (by simp)

def slashed (count : Nat) : Path :=
  ⟨Utf8.encode "d".toList ++ List.replicate (count + 1) Path.separator⟩

theorem slashed_filled (count : Nat) : (slashed count).bytes ≠ [] :=
  List.append_ne_nil_of_left_ne_nil (by decide) _

theorem fits_slashed (count : Nat) (near : count ≤ 4093) : (slashed count).fits = true := by
  rw [slashed, ← List.append_nil (_ ++ _), Path.fits_slashes, decide_eq_true_eq]
  change 1 + (count + 1) + 0 ≤ 4095
  omega

theorem fits_slashed_join (count : Nat) (name : Bytes)
    (relative : Path.isAbsolute ⟨name⟩ = false) :
    ((slashed count).join name).fits = decide (count + 2 + name.length ≤ 4095) := by
  have ended : (slashed count).slash = [] := by
    rw [Path.slash, slashed, List.replicate_succ', ← List.append_assoc,
      if_pos List.getLast?_concat]
  have width : (Utf8.encode "d".toList).length = 1 := by decide
  rw [Path.join_relative _ (slashed_filled count) name relative, ended, List.append_nil, slashed,
    Path.fits_slashes, width, Nat.add_comm 1, Nat.add_assoc count]

theorem lookup_slashed (entries : List (Name × FileTree)) (count : Nat) (near : count ≤ 4093) :
    Disk.lookup ⟨.dir [("d".toList, .dir entries)], []⟩ .entry (slashed count) =
      .ok (.dir entries) := by
  have clean : 0 ∉ (slashed count).bytes := by
    intro nul
    rcases List.mem_append.mp nul with early | late
    · exact absurd early (by decide)
    · exact absurd (List.eq_of_mem_replicate late) (by decide)
  rw [lookup, resolve, if_neg clean, if_neg (slashed_filled count),
    if_neg (by simp [fits_slashed count near]), slashed, followLinks_slashes]
  rfl

theorem plainDir_slashed (entries : List (Name × FileTree)) (count : Nat) :
    PlainDir ⟨.dir [("d".toList, .dir entries)], []⟩ (slashed count) := by
  refine ⟨rfl, ["d".toList], ?_⟩
  rw [slashed, followLinks_slashes]
  rfl

theorem shownNames_slashed (count : Nat) : (slashed count).shownNames = ["d".toList] := by
  rw [Path.shownNames, Path.names, slashed, Path.components_slashes _ (by decide)]
  rfl

def deepTree : FileTree :=
  .lone (.file []) ["a".toList, "x.js".toList]

def deepDisk : Disk :=
  ⟨.dir [("d".toList, deepTree)], []⟩

def deepName : Text :=
  "a/x.js".toList

theorem twoRoots_deep :
    TwoRoots deepDisk deepDisk ⟨"d".toList⟩ (slashed 4093) deepTree deepName :=
  twoRoots_lone (.file []) _ _ (by decide) rfl (lookup_slashed _ 4093 (Nat.le_refl _))
    (by decide) (by decide)

theorem opens_deep : opens (slashed 4093) ["a".toList, "x.js".toList] = false := by
  have above : ∀ root : Path,
      opens root ["a".toList, "x.js".toList] = (root.join "a".toList).fits := fun _ => rfl
  rw [above, fits_slashed_join _ _ (by decide)]
  decide

theorem hasFile_deep : deepDisk.hasFile ((slashed 4093).join deepName) = false := by
  have long : ((slashed 4093).join deepName).fits = false := by
    rw [fits_slashed_join _ _ twoRoots_deep.relative]
    decide
  rw [deepDisk.hasFile_join _ deepTree twoRoots_deep.starts' deepName twoRoots_deep.relative
    twoRoots_deep.level, long]
  · simp
  · intro front _ target met
    cases (FileTree.get?_lone rfl _ front met rfl).2

theorem locate_deep_ne_ok (path : Path) :
    deepDisk.locate 3 (slashed 4093) deepName ≠ .ok path := by
  refine locate_ne_ok twoRoots_deep.starts' twoRoots_deep.formed hasFile_deep ?_ path
  intro names content stands opened
  rw [(FileTree.get?_lone rfl _ names stands rfl).1, opens_deep] at opened
  cases opened

theorem short_matters :
    TwoRoots deepDisk deepDisk ⟨"d".toList⟩ (slashed 4093) deepTree deepName ∧
      PlainDir deepDisk ⟨"d".toList⟩ ∧ PlainDir deepDisk (slashed 4093) ∧
      EndedAlike ⟨"d".toList⟩ (slashed 4093) deepTree deepName ∧
      LinkedAlike deepDisk deepDisk ⟨"d".toList⟩ (slashed 4093) deepTree deepName ∧
      ¬ FoundAlike deepDisk deepDisk 3 ⟨"d".toList⟩ (slashed 4093) deepName := by
  refine ⟨twoRoots_deep, ⟨rfl, _, rfl⟩, plainDir_slashed _ 4093, ?_,
    linkedAlike_lone _ _ _ _ _ [] _, ?_⟩
  · intro front back content _ _ _
    rw [shownNames_slashed]
    rfl
  · intro same
    have beside : deepDisk.locate 3 ⟨"d".toList⟩ deepName =
        .ok (Path.join ⟨"d".toList⟩ deepName) := by
      decide +kernel
    exact locate_deep_ne_ok _ ((same deepName (by decide)).mp beside)

end Disk

end WorkerLint
