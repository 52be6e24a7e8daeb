import WorkerLint.Proofs.BundleLayout
import WorkerLint.Proofs.Places
import WorkerLint.Proofs.ScriptSearch

namespace WorkerLint

namespace Disk

/-- The import is found, and what is found is the primary script's own file. -/
def FindsSelf (disk : Disk) (depth : Nat) (primary : Path) (name : Text) (path : Path) : Prop :=
  disk.locate depth (Bundle.importDir primary) name = .ok path ∧
    ∃ place, disk.resolve .target path = .ok place ∧ disk.resolve .target primary = .ok place

theorem locate_cases (disk : Disk) (depth : Nat) (dir : Path) (name : Text) (path : Path)
    (located : disk.locate depth dir name = .ok path) :
    path = dir.join name ∨
      ∃ names ∈ disk.reached depth (rootOf dir), path = names.foldl Path.join (rootOf dir) := by
  by_cases beside : disk.hasFile (dir.join name) = true
  · left
    rw [disk.locate_of_present depth dir name beside] at located
    cases located
    rfl
  · right
    rw [Bool.not_eq_true] at beside
    by_cases wanted : Path.shownNames ⟨name⟩ = []
    · rw [disk.locate_of_nameless depth dir name beside wanted] at located
      cases located
    · rw [disk.locate_of_absent depth dir name beside wanted] at located
      split at located
      · cases located
      · rename_i names found
        cases located
        exact ⟨names, List.mem_of_find?_eq_some found, rfl⟩

theorem locate_components (disk : Disk) (formed : disk.root.WellFormed) (depth : Nat) (dir : Path)
    (name : Text) (relative : Path.isAbsolute ⟨name⟩ = false)
    (level : Component.up ∉ Path.components ⟨name⟩) (path : Path)
    (located : disk.locate depth dir name = .ok path) :
    (∃ names : List Name, path.components = dir.components ++ names.map .name) ∨
      dir.bytes = [] ∧ ∃ names : List Name, path.components = .here :: names.map .name := by
  have down := Path.below_eq_names name relative level
  by_cases vacant : dir.bytes = []
  · have top : dir.components = [] := (Path.components_eq_nil_iff dir).mpr vacant
    rcases disk.locate_cases depth dir name path located with rfl | ⟨names, met, rfl⟩
    · rw [Path.join_of_empty dir name vacant]
      rcases Path.components_relative name relative with plain | dotted
      · exact Or.inl ⟨Path.names ⟨name⟩, by rw [top, List.nil_append, plain, down]⟩
      · exact Or.inr ⟨vacant, Path.names ⟨name⟩, by rw [dotted, down]⟩
    · have proper := ((disk.mem_reached_iff formed depth _ names).mp met).1.proper formed
      right
      refine ⟨vacant, names, ?_⟩
      rw [Path.components_foldl_join _ names (rootOf_filled dir) proper, rootOf, if_pos vacant]
      rfl
  · left
    rcases disk.locate_cases depth dir name path located with rfl | ⟨names, met, rfl⟩
    · exact ⟨Path.names ⟨name⟩, by rw [Path.components_join dir name relative vacant, down]⟩
    · have proper := ((disk.mem_reached_iff formed depth _ names).mp met).1.proper formed
      refine ⟨names, ?_⟩
      rw [Path.components_foldl_join _ names (rootOf_filled dir) proper, rootOf, if_neg vacant]

theorem readText_of_resolve (disk : Disk) (path other : Path)
    (same : disk.resolve .target path = disk.resolve .target other) (text : Text)
    (readable : disk.readText other = .ok text) : disk.readText path = .ok text := by
  have found : disk.readBytes path = disk.readBytes other := by
    rw [readBytes, readBytes, lookup, lookup, same]
  rw [readText] at readable ⊢
  rw [found]
  split at readable
  · cases readable
  · split at readable
    · exact readable
    · cases readable

end Disk

namespace Bundle

theorem components_importDir (primary : Path) (above : List Component) (name : Name)
    (ended : primary.components = above ++ [.name name]) :
    (importDir primary).components = above := by
  have parent := Path.components_parent? primary
  have proper : ¬ (primary.components = [] ∨ primary.components = [.root]) := by
    rw [ended]
    rintro (none | root)
    · simp at none
    · rw [← List.nil_append [Component.root], List.append_singleton_inj] at root
      cases root.2
  rw [if_neg proper, ended, List.dropLast_concat, Option.map_eq_some_iff] at parent
  obtain ⟨dir, found, same⟩ := parent
  rw [importDir, found]
  exact same

section

variable {disk : Disk} (formed : disk.root.WellFormed) (linkless : disk.Linkless) {primary : Path}
  {content : Bytes} (stands : disk.lookup .target primary = .ok (.file content)) {depth : Nat}
  {name : Text} {path : Path} (self : disk.FindsSelf depth primary name path)

include linkless stands self

theorem same_of_names (names : List Name)
    (down : path.components = (importDir primary).components ++ names.map .name) :
    path.same primary = true := by
  obtain ⟨_, place, led, own⟩ := self
  obtain ⟨above, last, ended⟩ := linkless.components_of_file stands
  have dir := components_importDir primary above last ended
  have meet : disk.placeOf path = disk.placeOf primary := by
    rw [← linkless.resolve_eq_placeOf led, ← linkless.resolve_eq_placeOf own]
  have ended' : primary.components = above ++ [last].map .name := ended
  rw [Disk.placeOf, Disk.placeOf, down, dir, ended', List.foldl_append, List.foldl_append,
    Component.lead_names, Component.lead_names, List.append_cancel_left_eq] at meet
  rw [Path.same_iff, down, dir, ended', meet]

include formed

theorem same_iff_of_level (relative : Path.isAbsolute ⟨name⟩ = false)
    (level : Component.up ∉ Path.components ⟨name⟩) :
    path.same primary = true ↔
      ((importDir primary).bytes = [] → path.components.head? ≠ some .here) := by
  have located := self.1
  rcases disk.locate_components formed depth _ name relative level path located with
    ⟨names, down⟩ | ⟨bare, names, dotted⟩
  · refine iff_of_true (same_of_names linkless stands self names down) ?_
    intro bare
    rw [down, (Path.components_eq_nil_iff _).mpr bare]
    cases names <;> simp
  · refine iff_of_false ?_ ?_
    · obtain ⟨above, last, ended⟩ := linkless.components_of_file stands
      have dir := components_importDir primary above last ended
      rw [(Path.components_eq_nil_iff _).mpr bare] at dir
      rw [Path.same_iff, dotted, ended, ← dir]
      simp
    · rw [dotted]
      exact fun none => none bare rfl

end

theorem importedScript?_of_self {disk : Disk} {depth : Nat} {primary : Path} {name : Text}
    {path : Path} (self : disk.FindsSelf depth primary name path) {text : Text}
    (readable : disk.readText primary = .ok text) :
    importedScript? (disk.reader depth) primary name =
      if path.same primary = true ∨ text = [] then none
      else some ⟨path, Text.splitLines text⟩ := by
  obtain ⟨located, place, led, own⟩ := self
  have found : disk.readText path = .ok text :=
    disk.readText_of_resolve path primary (led.trans own.symm) text readable
  have read : (disk.reader depth).readLines (importDir primary) name =
      .ok (path, Text.splitLines text) := by
    simp [readLinesBy, Disk.reader, located, found]
  simp [importedScript?, read, Text.splitLines_eq_nil_iff]

theorem assemble_ne_of_brought (reader : Reader) (primary : Path) (before after : List Text)
    (name : Text) (script : Script) (brought : importedScript? reader primary name = some script) :
    (assemble reader primary (before ++ name :: after)).value ≠
      (assemble reader primary (before ++ after)).value := by
  intro same
  have member : script ∈ keptImports reader primary [name] := by simp [keptImports, brought]
  have space := script.prepared_length_pos (keptImports_filled reader primary [name] script member)
  have heights := congrArg (fun bundle : Bundle => bundle.lines.length) same
  simp only [assemble_value, length_ofScripts, keptScripts, keptImports, List.filterMap_append,
    List.filterMap_cons, brought, height_append, height_cons] at heights
  omega

section

variable {disk : Disk} {depth : Nat} {primary : Path} {text : Text}
  (readable : disk.readText primary = .ok text)

include readable

theorem assemble_insert_iff {name : Text} {path : Path}
    (self : disk.FindsSelf depth primary name path) (before after : List Text) :
    (assemble (disk.reader depth) primary (before ++ name :: after)).value =
        (assemble (disk.reader depth) primary (before ++ after)).value ↔
      path.same primary = true ∨ text = [] := by
  have brought := importedScript?_of_self self readable
  by_cases idle : path.same primary = true ∨ text = []
  · rw [if_pos idle] at brought
    refine iff_of_true ?_ idle
    rw [assemble_value, assemble_value, keptScripts_insert _ primary before after name brought]
  · rw [if_neg idle] at brought
    exact iff_of_false (assemble_ne_of_brought _ primary before after name _ brought) idle

theorem keptImports_apart_iff {place : Place} (own : disk.resolve .target primary = .ok place)
    (imports : List Text) :
    (∀ script ∈ keptImports (disk.reader depth) primary imports,
      disk.resolve .target script.path ≠ disk.resolve .target primary) ↔
    text = [] ∨ ∀ name ∈ imports, ∀ path, disk.FindsSelf depth primary name path →
      path.same primary = true := by
  constructor
  · intro apart
    -- An empty script never enters a bundle, so nothing can stand in its place.
    by_cases vacant : text = []
    · exact Or.inl vacant
    · right
      intro name member path self
      by_contra other
      have brought := importedScript?_of_self self readable
      rw [if_neg (by simp [other, vacant])] at brought
      obtain ⟨_, place, led, own⟩ := self
      exact apart _ (List.mem_filterMap.mpr ⟨name, member, brought⟩) (led.trans own.symm)
  · intro taken script member meet
    obtain ⟨name, present, brought⟩ := List.mem_filterMap.mp member
    obtain ⟨path, text', located, found, other, filled, rfl⟩ :=
      (importedScript?_eq_some_iff _ (disk.reader_plain depth) primary name script).mp brought
    have self : disk.FindsSelf depth primary name path := ⟨located, place, meet.trans own, own⟩
    -- What stands at the place of the script has its text, so it is kept unless left out.
    have alike := disk.readText_of_resolve path primary meet text readable
    rw [show disk.readText path = .ok text' from found, Except.ok.injEq] at alike
    rcases taken with vacant | same
    · exact filled (alike.trans vacant)
    · rw [same name present path self] at other
      cases other

end

/-- An import of the script by itself can be left out exactly if its path is taken for the script's
or the script is empty. For a name that leads down this fails only where the script was asked for
by its bare name and is found under a path that starts with a dot. The other scripts of a bundle
stand in other files exactly if all imports of the script by itself are taken for it. -/
theorem assemble_self_import (disk : Disk) (formed : disk.root.WellFormed)
    (linkless : disk.Linkless) (depth : Nat) (primary : Path) (content : Bytes) (text : Text)
    (stands : disk.lookup .target primary = .ok (.file content))
    (decoded : Utf8.decode? content = some text) :
    let bundle := fun imports => (assemble (disk.reader depth) primary imports).value
    (∀ name path, disk.FindsSelf depth primary name path → ∀ before after,
      bundle (before ++ name :: after) = bundle (before ++ after) ↔
        path.same primary = true ∨ text = []) ∧
    (∀ name path, disk.FindsSelf depth primary name path → Path.isAbsolute ⟨name⟩ = false →
      Component.up ∉ Path.components ⟨name⟩ →
      (path.same primary = true ↔
        ((importDir primary).bytes = [] → path.components.head? ≠ some .here))) ∧
    ∀ imports,
      (∀ script ∈ keptImports (disk.reader depth) primary imports,
        disk.resolve .target script.path ≠ disk.resolve .target primary) ↔
      text = [] ∨ ∀ name ∈ imports, ∀ path, disk.FindsSelf depth primary name path →
        path.same primary = true := by
  intro bundle
  have readable : disk.readText primary = .ok text := by
    simp [Disk.readText, Disk.readBytes, stands, decoded]
  obtain ⟨place, own, _⟩ := (disk.lookup_eq_ok_iff .target primary _).mp stands
  refine ⟨?_, ?_, ?_⟩
  · intro name path self before after
    exact assemble_insert_iff readable self before after
  · intro name path self relative level
    exact same_iff_of_level formed linkless stands self relative level
  · intro imports
    exact keptImports_apart_iff readable own imports

def sampleSelf : FileTree :=
  .file (Utf8.encode "b;\n".toList)

theorem assemble_self_import_sample :
    let disk : Disk := ⟨.dir [("w".toList, .dir [("b.js".toList, sampleSelf)])], []⟩
    let primary : Path := ⟨"w/b.js".toList⟩
    disk.FindsSelf 3 primary "./b.js".toList ⟨"w/./b.js".toList⟩ ∧
      (assemble (disk.reader 3) primary ["./b.js".toList]).value =
        (assemble (disk.reader 3) primary []).value := by
  intro disk primary
  have formed : disk.root.WellFormed := by
    refine .dir _ (by decide) (by decide) ?_
    simp only [List.forall_mem_cons, List.not_mem_nil]
    exact ⟨.dir _ (by decide) (by decide) (by simp; exact .file _), by simp⟩
  have linkless : disk.Linkless := by
    refine ⟨.dir _ ?_, ⟨_, rfl⟩⟩
    simp only [List.forall_mem_cons, List.not_mem_nil]
    exact ⟨.dir _ (by simp; exact .file _), by simp⟩
  have self : disk.FindsSelf 3 primary "./b.js".toList ⟨"w/./b.js".toList⟩ :=
    ⟨rfl, ["w".toList, "b.js".toList], rfl, rfl⟩
  obtain ⟨left_out, _, _⟩ := assemble_self_import disk formed linkless 3 primary
    (Utf8.encode "b;\n".toList) "b;\n".toList rfl (by decide)
  exact ⟨self, (left_out _ _ self [] []).mpr (Or.inl (by decide))⟩

theorem assemble_self_import_twice :
    ¬ ∀ (disk : Disk) (depth : Nat) (primary : Path) (content : Bytes) (text : Text),
      disk.root.WellFormed → disk.Linkless →
      disk.lookup .target primary = .ok (.file content) → Utf8.decode? content = some text →
      ∀ name path, disk.FindsSelf depth primary name path → ∀ before after,
        (assemble (disk.reader depth) primary (before ++ name :: after)).value =
          (assemble (disk.reader depth) primary (before ++ after)).value := by
  intro left_out
  let disk : Disk := ⟨.dir [("b.js".toList, sampleSelf)], []⟩
  have formed : disk.root.WellFormed :=
    .dir _ (by decide) (by decide) (by simp; exact .file _)
  have linkless : disk.Linkless := ⟨.dir _ (by simp; exact .file _), ⟨_, rfl⟩⟩
  have self : disk.FindsSelf 3 ⟨"b.js".toList⟩ "./b.js".toList ⟨"./b.js".toList⟩ :=
    ⟨rfl, ["b.js".toList], rfl, rfl⟩
  have once := left_out disk 3 ⟨"b.js".toList⟩ (Utf8.encode "b;\n".toList) "b;\n".toList formed
    linkless rfl (by decide) "./b.js".toList ⟨"./b.js".toList⟩ self [] []
  revert once
  decide

end Bundle

end WorkerLint
