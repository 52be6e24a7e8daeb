import WorkerLint.Bundle
import WorkerLint.Proofs.PreparedLines

namespace WorkerLint

namespace Bundle

def importedScript? (reader : Reader) (primary : Path) (name : Text) : Option Script :=
  match reader.readLines (importDir primary) name with
  | .error _ => none
  | .ok (path, lines) => if path.same primary ∨ lines = [] then none else some ⟨path, lines⟩

def primaryScript? (reader : Reader) (primary : Path) : Option Script :=
  match reader.read primary with
  | .error _ => none
  | .ok text => if text = [] then none else some ⟨primary, Text.splitLines text⟩

def keptImports (reader : Reader) (primary : Path) (imports : List Text) : List Script :=
  imports.filterMap (importedScript? reader primary)

def keptScripts (reader : Reader) (primary : Path) (imports : List Text) : List Script :=
  keptImports reader primary imports ++ (primaryScript? reader primary).toList

def height : List Script → Nat
  | [] => 0
  | script :: rest => script.prepared.length + height rest

def startOf (scripts : List Script) (index : Nat) : Nat :=
  1 + height (scripts.take index)

def spansFrom : Nat → List Script → List Span
  | _, [] => []
  | start, script :: rest =>
    ⟨start, script.path, 1⟩ :: spansFrom (start + script.prepared.length) rest

def ofScripts (scripts : List Script) : Bundle where
  lines := (scripts.map Script.prepared).flatten
  map := ⟨spansFrom 1 scripts⟩

/-- An import that brings nothing: it is missing, unreadable, the primary script, or empty. -/
def Idle (reader : Reader) (primary : Path) (name : Text) : Prop :=
  (∃ fault, reader.locate (importDir primary) name = .error fault) ∨
    ∃ path, reader.locate (importDir primary) name = .ok path ∧
      ((∃ fault, reader.read path = .error fault) ∨ path.same primary = true ∨
        reader.read path = .ok [])

@[simp]
theorem height_nil : height [] = 0 := rfl

@[simp]
theorem height_cons (script : Script) (scripts : List Script) :
    height (script :: scripts) = script.prepared.length + height scripts := rfl

@[simp]
theorem height_append (front back : List Script) :
    height (front ++ back) = height front + height back := by
  induction front with
  | nil => simp
  | cons script rest ih => simp [ih, Nat.add_assoc]

theorem length_ofScripts (scripts : List Script) :
    (ofScripts scripts).lines.length = height scripts := by
  induction scripts with
  | nil => rfl
  | cons script rest ih =>
      simp only [ofScripts] at ih
      simp [ofScripts, ih]

theorem spansFrom_append (start : Nat) (front back : List Script) :
    spansFrom start (front ++ back) =
      spansFrom start front ++ spansFrom (start + height front) back := by
  induction front generalizing start with
  | nil => simp [spansFrom]
  | cons script rest ih =>
      simp [spansFrom, ih, Nat.add_assoc]

theorem getElem?_spansFrom (start : Nat) (scripts : List Script) (index : Nat) :
    (spansFrom start scripts)[index]? =
      scripts[index]?.map fun script =>
        ⟨start + height (scripts.take index), script.path, 1⟩ := by
  induction scripts generalizing start index with
  | nil => simp [spansFrom]
  | cons script rest ih =>
      cases index with
      | zero => simp [spansFrom]
      | succ index => simp [spansFrom, ih, Nat.add_assoc]

theorem getElem?_spans_ofScripts (scripts : List Script) (index : Nat) :
    (ofScripts scripts).map.spans[index]? =
      scripts[index]?.map fun script => ⟨startOf scripts index, script.path, 1⟩ :=
  getElem?_spansFrom 1 scripts index

theorem spansFrom_bounds (start : Nat) (scripts : List Script)
    (filled : ∀ script ∈ scripts, script.lines ≠ []) :
    ∀ span ∈ spansFrom start scripts, start ≤ span.start ∧ span.start < start + height scripts := by
  induction scripts generalizing start with
  | nil =>
      intro span member
      cases member
  | cons script rest ih =>
      intro span member
      have space := script.prepared_length_pos (filled script (by simp))
      rw [spansFrom, List.mem_cons] at member
      rcases member with rfl | member
      · simp only [height_cons]
        omega
      · have bounds := ih (start + script.prepared.length)
          (fun next present => filled next (List.mem_cons_of_mem _ present)) span member
        simp only [height_cons]
        omega

theorem spansFrom_increasing (start : Nat) (scripts : List Script)
    (filled : ∀ script ∈ scripts, script.lines ≠ []) :
    (spansFrom start scripts).Pairwise (·.start < ·.start) := by
  induction scripts generalizing start with
  | nil => exact List.Pairwise.nil
  | cons script rest ih =>
      have space := script.prepared_length_pos (filled script (by simp))
      have others : ∀ next ∈ rest, next.lines ≠ [] :=
        fun next present => filled next (List.mem_cons_of_mem _ present)
      refine List.Pairwise.cons ?_ (ih _ others)
      intro span member
      have bounds := spansFrom_bounds _ rest others span member
      simp only
      omega

namespace Draft

def ofScripts (scripts : List Script) : Draft :=
  ⟨Bundle.ofScripts scripts, 1 + height scripts⟩

@[simp]
theorem toBundle_ofScripts (scripts : List Script) :
    (ofScripts scripts).toBundle = Bundle.ofScripts scripts := rfl

theorem next_ofScripts (scripts : List Script) :
    (ofScripts scripts).next = (ofScripts scripts).lines.length + 1 := by
  rw [ofScripts, length_ofScripts, Nat.add_comm]

theorem ofScripts_admits (scripts : List Script)
    (filled : ∀ script ∈ scripts, script.lines ≠ []) (script : Script) :
    (ofScripts scripts).map.admits ((ofScripts scripts).spanFor script) = true := by
  rw [LineMap.admits, Option.all_eq_true]
  intro span last
  have bounds := spansFrom_bounds 1 scripts filled span (List.mem_of_getLast? last)
  exact decide_eq_true bounds.2

theorem add_ofScripts (scripts : List Script) (script : Script) (filled : script.lines ≠ []) :
    ((ofScripts scripts).add script).value = ofScripts (scripts ++ [script]) := by
  have present : script.prepared ≠ [] :=
    fun vanished => filled ((Script.prepare_eq_nil_iff script.lines).mp vanished)
  rw [add, if_neg present]
  simp [ofScripts, Bundle.ofScripts, LineMap.push, spanFor, spansFrom_append, spansFrom,
    Nat.add_assoc]

theorem add_of_empty (draft : Draft) (script : Script) (vacant : script.lines = []) :
    (draft.add script).value = draft := by
  have vanished : script.prepared = [] := (Script.prepare_eq_nil_iff script.lines).mpr vacant
  rw [add, if_pos vanished]
  rfl

end Draft

theorem addImport_ofScripts (reader : Reader) (primary : Path) (scripts : List Script)
    (name : Text) :
    (addImport reader primary (.ofScripts scripts) name).value =
      .ofScripts (scripts ++ (importedScript? reader primary name).toList) := by
  rw [addImport, importedScript?]
  cases found : reader.readLines (importDir primary) name with
  | error fault => simp
  | ok script =>
      obtain ⟨path, lines⟩ := script
      by_cases self : path.same primary = true
      · simp [self]
      · by_cases vacant : lines = []
        · simp [self, vacant, Draft.add_of_empty]
        · simp [self, vacant, Draft.add_ofScripts]

theorem addImports_ofScripts (reader : Reader) (primary : Path) (scripts : List Script)
    (imports : List Text) :
    (addImports reader primary (.ofScripts scripts) imports).value =
      .ofScripts (scripts ++ keptImports reader primary imports) := by
  induction imports generalizing scripts with
  | nil => simp [addImports, keptImports]
  | cons name rest ih =>
      rw [addImports, Traced.value_bind, addImport_ofScripts, ih, List.append_assoc]
      cases brought : importedScript? reader primary name <;> simp [keptImports, brought]

theorem addImports_empty (reader : Reader) (primary : Path) (imports : List Text) :
    (addImports reader primary .empty imports).value =
      .ofScripts (keptImports reader primary imports) :=
  addImports_ofScripts reader primary [] imports

theorem assemble_value (reader : Reader) (primary : Path) (imports : List Text) :
    (assemble reader primary imports).value = ofScripts (keptScripts reader primary imports) := by
  rw [assemble, readPrimary, keptScripts, primaryScript?]
  cases found : reader.read primary with
  | error fault => simp [addImports_empty]
  | ok text =>
      by_cases vacant : text = []
      · simp [addImports_empty, vacant, Draft.add_of_empty, Text.splitLines]
      · have filled : Text.splitLines text ≠ [] :=
          fun none => vacant ((Text.splitLines_eq_nil_iff text).mp none)
        simp [addImports_empty, vacant, Draft.add_ofScripts, filled]

theorem importedScript?_eq_some_iff (reader : Reader) (plain : reader.Plain) (primary : Path)
    (name : Text) (script : Script) :
    importedScript? reader primary name = some script ↔
      ∃ path text, reader.locate (importDir primary) name = .ok path ∧
        reader.read path = .ok text ∧ path.same primary = false ∧ text ≠ [] ∧
        script = ⟨path, Text.splitLines text⟩ := by
  rw [importedScript?, plain, readLinesBy]
  cases located : reader.locate (importDir primary) name with
  | error fault => simp
  | ok path =>
      cases found : reader.read path with
      | error fault => simp [found]
      | ok text =>
          by_cases self : path.same primary = true
          · simp [found, self]
          · by_cases vacant : text = []
            · simp [found, vacant, Text.splitLines]
            · simpa [found, self, vacant, Text.splitLines_eq_nil_iff] using eq_comm

theorem primaryScript?_eq_some_iff (reader : Reader) (primary : Path) (script : Script) :
    primaryScript? reader primary = some script ↔
      ∃ text, reader.read primary = .ok text ∧ text ≠ [] ∧
        script = ⟨primary, Text.splitLines text⟩ := by
  rw [primaryScript?]
  cases found : reader.read primary with
  | error fault => simp
  | ok text =>
      by_cases vacant : text = []
      · simp [vacant]
      · simpa [vacant] using eq_comm

theorem keptScripts_of_readable (reader : Reader) (primary : Path) (imports : List Text)
    (text : Text) (readable : reader.read primary = .ok text) (filled : text ≠ []) :
    keptScripts reader primary imports =
      keptImports reader primary imports ++ [⟨primary, Text.splitLines text⟩] := by
  have own : primaryScript? reader primary = some ⟨primary, Text.splitLines text⟩ :=
    (primaryScript?_eq_some_iff reader primary _).mpr ⟨text, readable, filled, rfl⟩
  rw [keptScripts, own]
  rfl

theorem keptScripts_of_absent (reader : Reader) (primary : Path) (imports : List Text)
    (absent : ¬ ∃ text, reader.read primary = .ok text ∧ text ≠ []) :
    keptScripts reader primary imports = keptImports reader primary imports := by
  have own : primaryScript? reader primary = none := by
    apply Option.eq_none_iff_forall_ne_some.mpr
    intro script present
    obtain ⟨text, readable, filled, _⟩ :=
      (primaryScript?_eq_some_iff reader primary script).mp present
    exact absent ⟨text, readable, filled⟩
  rw [keptScripts, own]
  exact List.append_nil _

theorem keptImports_spec (reader : Reader) (primary : Path) (imports : List Text)
    (script : Script) (member : script ∈ keptImports reader primary imports) :
    script.path.same primary = false ∧ script.lines ≠ [] := by
  obtain ⟨name, _, brought⟩ := List.mem_filterMap.mp member
  rw [importedScript?] at brought
  split at brought
  · cases brought
  · split at brought
    · cases brought
    · rename_i kept
      cases brought
      exact ⟨Bool.eq_false_iff.mpr fun self => kept (Or.inl self),
        fun vacant => kept (Or.inr vacant)⟩

theorem keptImports_filled (reader : Reader) (primary : Path) (imports : List Text) :
    ∀ script ∈ keptImports reader primary imports, script.lines ≠ [] :=
  fun script member => (keptImports_spec reader primary imports script member).2

theorem keptImports_foreign (reader : Reader) (primary : Path) (imports : List Text) :
    ∀ script ∈ keptImports reader primary imports, script.path.same primary = false :=
  fun script member => (keptImports_spec reader primary imports script member).1

theorem keptScripts_filled (reader : Reader) (primary : Path) (imports : List Text) :
    ∀ script ∈ keptScripts reader primary imports, script.lines ≠ [] := by
  intro script member
  rcases List.mem_append.mp member with member | member
  · exact keptImports_filled reader primary imports script member
  · obtain ⟨text, _, vacant, rfl⟩ :=
      (primaryScript?_eq_some_iff reader primary script).mp (Option.mem_toList.mp member)
    exact fun none => vacant ((Text.splitLines_eq_nil_iff text).mp none)

theorem Idle.importedScript?_eq_none {reader : Reader} {primary : Path} {name : Text}
    (idle : Idle reader primary name) (plain : reader.Plain) :
    importedScript? reader primary name = none := by
  apply Option.eq_none_iff_forall_ne_some.mpr
  intro script brought
  obtain ⟨path, text, located, found, other, filled, _⟩ :=
    (importedScript?_eq_some_iff reader plain primary name script).mp brought
  rcases idle with ⟨fault, lost⟩ | ⟨path', located', reason⟩
  · rw [lost] at located
    cases located
  · rw [located'] at located
    cases located
    rcases reason with ⟨fault, unread⟩ | self | vacant
    · rw [unread] at found
      cases found
    · rw [self] at other
      cases other
    · rw [vacant] at found
      cases found
      exact filled rfl

theorem keptScripts_insert (reader : Reader) (primary : Path) (before after : List Text)
    (name : Text) (nothing : importedScript? reader primary name = none) :
    keptScripts reader primary (before ++ name :: after) =
      keptScripts reader primary (before ++ after) := by
  simp [keptScripts, keptImports, nothing]

/-- The lines of a bundle are the prepared lines of the scripts it keeps, and its map has a span
for each of these, one after another. A span is only ever pushed behind all others, and an import
that brings nothing can be left out. -/
theorem assemble_layout (reader : Reader) (plain : reader.Plain) (primary : Path)
    (imports : List Text) :
    let kept := keptScripts reader primary imports
    let bundle := (assemble reader primary imports).value
    (∀ name script, importedScript? reader primary name = some script ↔
      ∃ path text, reader.locate (importDir primary) name = .ok path ∧
        reader.read path = .ok text ∧ path.same primary = false ∧ text ≠ [] ∧
        script = ⟨path, Text.splitLines text⟩) ∧
    (∀ script, primaryScript? reader primary = some script ↔
      ∃ text, reader.read primary = .ok text ∧ text ≠ [] ∧
        script = ⟨primary, Text.splitLines text⟩) ∧
    bundle.lines = (kept.map Script.prepared).flatten ∧
    (∀ index : Nat, bundle.map.spans[index]? =
      kept[index]?.map fun script => ⟨startOf kept index, script.path, 1⟩) ∧
    bundle.map.spans.Pairwise (·.start < ·.start) ∧
    (∀ span, bundle.map.spans.head? = some span → span.start = 1) ∧
    (∀ before, before <+: imports → ∀ script,
      let reached := (addImports reader primary .empty before).value
      reached.next = reached.lines.length + 1 ∧
        reached.map.admits (reached.spanFor script) = true) ∧
    (∀ before name after, imports = before ++ after → Idle reader primary name →
      (assemble reader primary (before ++ name :: after)).value = bundle) := by
  intro kept bundle
  have filled := keptScripts_filled reader primary imports
  have layout : bundle = ofScripts kept := assemble_value reader primary imports
  refine ⟨importedScript?_eq_some_iff reader plain primary,
    primaryScript?_eq_some_iff reader primary, ?_, ?_, ?_, ?_, ?_, ?_⟩
  · rw [layout, ofScripts]
  · intro index
    rw [layout, getElem?_spans_ofScripts]
  · rw [layout]
    exact spansFrom_increasing 1 kept filled
  · intro span first
    rw [layout, List.head?_eq_getElem?, getElem?_spans_ofScripts] at first
    obtain ⟨script, _, rfl⟩ := Option.map_eq_some_iff.mp first
    rfl
  · intro before _ script
    rw [addImports_empty]
    exact ⟨Draft.next_ofScripts _,
      Draft.ofScripts_admits _ (keptImports_filled reader primary before) script⟩
  · intro before name after split idle
    have unchanged := keptScripts_insert reader primary before after name
      (idle.importedScript?_eq_none plain)
    rw [layout, assemble_value, unchanged, ← split]

def sampleShelf : Shelf :=
  ⟨[(⟨"w/a.js".toList⟩, some "'use strict'".toList), (⟨"w/e.js".toList⟩, some []),
    (⟨"w/b.js".toList⟩, some "b;\nc;\n".toList)]⟩

def samplePath : Path :=
  ⟨"w/b.js".toList⟩

theorem sample_idle : Idle sampleShelf.reader samplePath "e.js".toList :=
  Or.inr ⟨⟨"w/e.js".toList⟩, rfl, Or.inr (Or.inr rfl)⟩

theorem assemble_layout_sample :
    let bundle := (assemble sampleShelf.reader samplePath ["a.js".toList]).value
    bundle.map.spans[1]? = some ⟨3, samplePath, 1⟩ ∧
      (assemble sampleShelf.reader samplePath ["a.js".toList, "e.js".toList]).value = bundle := by
  obtain ⟨_, _, _, spans, _, _, _, idle⟩ :=
    assemble_layout sampleShelf.reader sampleShelf.reader_plain samplePath ["a.js".toList]
  exact ⟨spans 1, idle ["a.js".toList] "e.js".toList [] rfl sample_idle⟩

end Bundle

end WorkerLint
