import WorkerLint.Proofs.Encoding
import WorkerLint.Proofs.SearchBelow

namespace WorkerLint.Disk

def Beside (disk : Disk) (dir : Path) (name : Text) : Prop :=
  ∃ content, disk.lookup .target (dir.join name) = .ok (.file content)

/-- The path of the directory that holds the file is short enough for the system. -/
def ShortEnough (root : Path) (names : List Name) : Prop :=
  (names.dropLast.foldl Path.join root).bytes.length ≤ 4095

/-- What a name has to mean if of the files in reach those count that have the property: the file
beside; else nothing, for a name without components; else the first of the files that count and
whose paths end with the name, in the order of the names below the root. -/
structure FindsFirst (disk : Disk) (depth : Nat) (dir : Path) (name : Text)
    (counts : List Name → Prop) : Prop where
  beside : disk.Beside dir name → disk.locate depth dir name = .ok (dir.join name)
  nameless : ¬ disk.Beside dir name → Path.shownNames ⟨name⟩ = [] →
    disk.locate depth dir name = .error (.missing name dir)
  missing : ¬ disk.Beside dir name →
    (¬ ∃ names, disk.Matches depth (rootOf dir) (Path.shownNames ⟨name⟩) names ∧ counts names) →
      disk.locate depth dir name = .error (.missing name dir)
  first : ¬ disk.Beside dir name → Path.shownNames ⟨name⟩ ≠ [] →
    (∃ names, disk.Matches depth (rootOf dir) (Path.shownNames ⟨name⟩) names ∧ counts names) →
      ∃ names, IsFirst (fun names =>
          disk.Matches depth (rootOf dir) (Path.shownNames ⟨name⟩) names ∧ counts names) names ∧
        disk.locate depth dir name = .ok (names.foldl Path.join (rootOf dir))

variable {disk : Disk} {depth : Nat} {dir : Path} {name : Text}

theorem hasFile_of_not_beside (alone : ¬ disk.Beside dir name) :
    disk.hasFile (dir.join name) = false := by
  rw [Bool.eq_false_iff, ne_eq, hasFile_iff]
  exact alone

theorem FindsFirst.congr {counts counts' : List Name → Prop}
    (same : ∀ names, disk.Reaches depth (rootOf dir) names → (counts names ↔ counts' names))
    (finds : disk.FindsFirst depth dir name counts) :
    disk.FindsFirst depth dir name counts' := by
  have alike : (fun names => disk.Matches depth (rootOf dir) (Path.shownNames ⟨name⟩) names ∧
      counts names) = fun names =>
        disk.Matches depth (rootOf dir) (Path.shownNames ⟨name⟩) names ∧ counts' names := by
    funext names
    exact propext (and_congr_right fun found => same names found.1)
  refine ⟨finds.beside, finds.nameless, ?_, ?_⟩
  · intro alone none
    exact finds.missing alone (by simpa only [congrFun alike] using none)
  · intro alone some found
    rw [← alike]
    exact finds.first alone some (by simpa only [congrFun alike] using found)

theorem findsFirst_shortEnough (formed : disk.root.WellFormed) :
    disk.FindsFirst depth dir name (ShortEnough (rootOf dir)) := by
  have filled := rootOf_filled dir
  have opened : ∀ names, opens (rootOf dir) names = true ↔ ShortEnough (rootOf dir) names :=
    fun names => decide_eq_true_iff
  refine ⟨?_, ?_, ?_, ?_⟩
  · intro present
    exact disk.locate_of_present depth dir name ((disk.hasFile_iff _).mpr present)
  · intro alone vacant
    exact disk.locate_of_nameless depth dir name (hasFile_of_not_beside alone) vacant
  · intro alone none
    by_cases vacant : Path.shownNames ⟨name⟩ = []
    · exact disk.locate_of_nameless depth dir name (hasFile_of_not_beside alone) vacant
    · rw [locate_of_absent disk depth dir name (hasFile_of_not_beside alone) vacant]
      cases found : disk.search? depth (rootOf dir) (Path.shownNames ⟨name⟩) with
      | none => rfl
      | some names =>
          have first := disk.isFirst_of_search? formed depth _ filled _ names found
          exact absurd ⟨names, first.1.1, (opened names).mp first.1.2⟩ none
  · intro alone some present
    rw [locate_of_absent disk depth dir name (hasFile_of_not_beside alone) some]
    cases found : disk.search? depth (rootOf dir) (Path.shownNames ⟨name⟩) with
    | none =>
        obtain ⟨names, ends, short⟩ := present
        exact absurd ⟨ends, (opened names).mpr short⟩
          (disk.not_matches_of_search? formed depth _ filled _ found names)
    | some names =>
        have first := disk.isFirst_of_search? formed depth _ filled _ names found
        simp only [opened] at first
        exact ⟨names, first, rfl⟩

/-- Names are compared as they are shown. For paths of texts that is the comparison of the names
themselves. -/
theorem matches_iff_of_texts (depth : Nat) (root : Path) (name : Text) (names : List Name)
    (texts : ∀ own ∈ root.names ++ names, ∃ text, own = Utf8.encode text) :
    disk.Matches depth root (Path.shownNames ⟨name⟩) names ↔
      disk.Reaches depth root names ∧ Path.names ⟨name⟩ <:+ root.names ++ names := by
  rw [Matches, Path.shownNames, Path.shown_suffix_iff]
  intro own member
  rcases List.mem_append.mp member with wanted | present
  · exact Path.names_of_text name own wanted
  · exact texts own present

/-- A name means the regular file beside the script that imports it; failing that, the first of the
files in reach that the system can come by and whose paths end with the name. Where no path in
reach is too long that is the first of all. -/
theorem locate_first (disk : Disk) (formed : disk.root.WellFormed) (depth : Nat) (dir : Path)
    (name : Text) :
    disk.FindsFirst depth dir name (ShortEnough (rootOf dir)) ∧
    ((∀ names, disk.Reaches depth (rootOf dir) names → ShortEnough (rootOf dir) names) →
      disk.FindsFirst depth dir name fun _ => True) ∧
    ∀ names, (∀ own ∈ (rootOf dir).names ++ names, ∃ text, own = Utf8.encode text) →
      (disk.Matches depth (rootOf dir) (Path.shownNames ⟨name⟩) names ↔
        disk.Reaches depth (rootOf dir) names ∧
          Path.names ⟨name⟩ <:+ (rootOf dir).names ++ names) := by
  have finds : disk.FindsFirst depth dir name (ShortEnough (rootOf dir)) :=
    findsFirst_shortEnough formed
  refine ⟨finds, ?_, matches_iff_of_texts depth (rootOf dir) name⟩
  intro short
  exact finds.congr fun names reaches => iff_true_intro (short names reaches)

def sampleTree : FileTree :=
  .dir [("c".toList, .dir [("x.js".toList, .file [])]), ("a".toList, .link ⟨"b".toList⟩),
    ("b".toList, .dir [("x.js".toList, .file [])])]

theorem sampleTree_wellFormed : sampleTree.WellFormed := by
  have holder : FileTree.WellFormed (.dir [("x.js".toList, .file [])]) :=
    .dir _ (by decide) (by simp [FileTree.ProperName]; decide) (by simp; exact .file [])
  refine .dir _ (by decide) (by simp [FileTree.ProperName]; decide) ?_
  simp only [List.forall_mem_cons, List.not_mem_nil]
  exact ⟨holder, .link _, holder, by simp⟩

theorem locate_first_sample :
    let disk : Disk := ⟨sampleTree, []⟩
    let root : Path := ⟨".".toList⟩
    ∃ names, IsFirst (fun names =>
        disk.Matches 2 root ["x.js".toList] names ∧ ShortEnough root names) names ∧
      disk.locate 2 ⟨[]⟩ "x.js".toList = .ok (names.foldl Path.join root) := by
  intro disk root
  have finds := (locate_first disk sampleTree_wellFormed 2 ⟨[]⟩ "x.js".toList).1
  have absent : disk.hasFile (Path.join ⟨[]⟩ "x.js".toList) = false := by decide
  have starts : disk.StartsFrom root sampleTree := .entry rfl (by simp [sampleTree])
  have reaches : disk.Reaches 2 root ["c".toList, "x.js".toList] :=
    ⟨⟨sampleTree, [], starts, rfl⟩, by decide⟩
  have short : ShortEnough root ["c".toList, "x.js".toList] := Nat.le_of_ble_eq_true rfl
  refine finds.first ?_ (by decide) ⟨_, ⟨reaches, by decide⟩, short⟩
  intro beside
  rw [(disk.hasFile_iff _).mpr beside] at absent
  cases absent

example :
    Disk.locate ⟨.dir [("b".toList, .dir [([0xFF], .file [])])], []⟩ 3 ⟨[]⟩ "\uFFFD".toList =
      .ok ⟨Utf8.encode "./b/".toList ++ [0xFF]⟩ := by
  decide +kernel

theorem locate_not_first :
    ¬ ∀ (disk : Disk), disk.root.WellFormed → ∀ (depth : Nat) (dir : Path) (name : Text),
      disk.FindsFirst depth dir name fun _ => True := by
  intro all
  have formed : deepDisk.root.WellFormed :=
    FileTree.lone_wellFormed (.file []) ["d".toList, "a".toList, "x.js".toList] (by decide)
  have finds := all deepDisk formed 3 (slashed 4093) deepName
  have alone : ¬ deepDisk.Beside (slashed 4093) deepName := by
    rw [Beside, ← hasFile_iff, hasFile_deep]
    decide
  have root : rootOf (slashed 4093) = slashed 4093 := if_neg (slashed_filled 4093)
  have reaches : deepDisk.Reaches 3 (slashed 4093) ["a".toList, "x.js".toList] :=
    ⟨⟨deepTree, [], twoRoots_deep.starts', rfl⟩, by decide⟩
  have found : deepDisk.Matches 3 (rootOf (slashed 4093)) (Path.shownNames ⟨deepName⟩)
      ["a".toList, "x.js".toList] := by
    rw [root]
    refine ⟨reaches, ?_⟩
    rw [List.map_append]
    exact List.suffix_append_of_suffix (by decide)
  obtain ⟨names, -, found⟩ := finds.first alone (by decide) ⟨_, found, trivial⟩
  exact locate_deep_ne_ok _ found

end WorkerLint.Disk
