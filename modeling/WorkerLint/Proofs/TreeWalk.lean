import WorkerLint.FileTree
import WorkerLint.Proofs.PathSpelling

namespace WorkerLint

namespace FileTree

/-- A name that an entry of a directory can have: one that a path can be spelled with and that
means the entry there. -/
def ProperName (name : Name) : Prop :=
  Path.separator ∉ name ∧ Path.component? name = some (.name name)

instance (name : Name) : Decidable (ProperName name) :=
  inferInstanceAs (Decidable (_ ∧ _))

inductive WellFormed : FileTree → Prop
  | file (content : Bytes) : WellFormed (.file content)
  | link (target : Path) : WellFormed (.link target)
  | special (kind : Special) : WellFormed (.special kind)
  | dir (entries : List (Name × FileTree)) (distinct : (entries.map Prod.fst).Nodup)
      (proper : ∀ entry ∈ entries, ProperName entry.1)
      (below : ∀ entry ∈ entries, WellFormed entry.2) : WellFormed (.dir entries)

/-- A path comes before another in the order of its names, which are compared by their bytes. -/
def Precedes (names names' : List Name) : Prop :=
  names < names'

theorem find?_eq_some_iff (entries : List (Name × FileTree))
    (distinct : (entries.map Prod.fst).Nodup) (name : Name) (child : FileTree) :
    find? name entries = some child ↔ (name, child) ∈ entries := by
  induction entries with
  | nil => simp [find?]
  | cons entry rest ih =>
      obtain ⟨other, tree⟩ := entry
      rw [List.map_cons, List.nodup_cons] at distinct
      rw [find?, List.mem_cons]
      split
      · rename_i same
        subst same
        have absent : (other, child) ∉ rest :=
          fun member => distinct.1 (List.mem_map.mpr ⟨_, member, rfl⟩)
        simp [absent, eq_comm]
      · rename_i differ
        rw [ih distinct.2]
        simp [Ne.symm differ]

theorem WellFormed.get? {tree child : FileTree} (formed : tree.WellFormed) {names : List Name}
    (found : tree.get? names = some child) :
    child.WellFormed ∧ ∀ name ∈ names, ProperName name := by
  induction names generalizing tree with
  | nil =>
      cases found
      exact ⟨formed, by simp⟩
  | cons name rest ih =>
      rw [FileTree.get?] at found
      split at found
      · rename_i next entered
        cases formed with
        | dir entries distinct proper below =>
            have member := (find?_eq_some_iff entries distinct name next).mp entered
            obtain ⟨last, others⟩ := ih (below _ member) found
            refine ⟨last, ?_⟩
            intro other present
            rcases List.mem_cons.mp present with rfl | present
            · exact proper _ member
            · exact others other present
        | file | link | special => cases entered
      · cases found

theorem mem_files_dir (depth : Nat) (entries : List (Name × FileTree)) (names : List Name) :
    names ∈ files (depth + 1) (.dir entries) ↔
      ∃ name child rest, (name, child) ∈ entries ∧ rest ∈ files depth child ∧
        names = name :: rest := by
  simp only [files, List.mem_flatMap, List.mem_mergeSort, List.mem_map]
  constructor
  · rintro ⟨_, ⟨⟨name, child⟩, member, rfl⟩, rest, inside, rfl⟩
    exact ⟨name, child, rest, member, inside, rfl⟩
  · rintro ⟨name, child, rest, member, inside, rfl⟩
    exact ⟨(name, files depth child), ⟨(name, child), member, rfl⟩, rest, inside, rfl⟩

theorem WellFormed.mem_files_iff {tree : FileTree} (formed : tree.WellFormed) (depth : Nat)
    (names : List Name) :
    names ∈ files depth tree ↔
      (∃ content, tree.get? names = some (.file content)) ∧ names.length ≤ depth := by
  induction names generalizing tree depth with
  | nil =>
      cases formed with
      | dir entries distinct proper below =>
          cases depth with
          | zero => simp [files, FileTree.get?]
          | succ depth => simp [mem_files_dir, FileTree.get?]
      | file | link | special => simp [files, FileTree.get?]
  | cons name rest ih =>
      cases formed with
      | dir entries distinct proper below =>
          cases depth with
          | zero => simp [files]
          | succ depth =>
              rw [mem_files_dir]
              simp only [FileTree.get?, FileTree.entries, List.length_cons,
                Nat.add_le_add_iff_right]
              constructor
              · rintro ⟨_, child, _, member, inside, ⟨⟩⟩
                rw [(find?_eq_some_iff entries distinct name child).mpr member]
                exact (ih (below _ member) depth).mp inside
              · rintro ⟨⟨content, found⟩, near⟩
                cases entered : find? name entries with
                | none => simp [entered] at found
                | some child =>
                    have member := (find?_eq_some_iff entries distinct name child).mp entered
                    rw [entered] at found
                    exact ⟨name, child, rest, member,
                      (ih (below _ member) depth).mpr ⟨⟨content, found⟩, near⟩, rfl⟩
      | file | link | special => simp [files, FileTree.get?, FileTree.entries, find?]

theorem nameLe_trans (a b c : Name) (first : nameLe a b = true) (second : nameLe b c = true) :
    nameLe a c = true := by
  simp only [nameLe, decide_eq_true_eq] at first second ⊢
  exact List.le_trans first second

theorem nameLe_total (a b : Name) : (nameLe a b || nameLe b a) = true := by
  simp only [nameLe, Bool.or_eq_true, decide_eq_true_eq]
  exact List.le_total _ _

theorem pairwise_sorted (entries : List (Name × β)) (distinct : (entries.map Prod.fst).Nodup) :
    (entries.mergeSort fun a b => nameLe a.1 b.1).Pairwise fun a b => a.1 < b.1 := by
  have ordered := @List.pairwise_mergeSort _ (fun a b : Name × β => nameLe a.1 b.1)
    (fun a b c => nameLe_trans a.1 b.1 c.1) (fun a b => nameLe_total a.1 b.1) entries
  have apart : (entries.mergeSort fun a b => nameLe a.1 b.1).Pairwise fun a b => a.1 ≠ b.1 := by
    apply List.pairwise_map.mp
    exact ((List.mergeSort_perm entries _).map Prod.fst).nodup_iff.mpr distinct
  refine (ordered.and apart).imp ?_
  rintro a b ⟨below, differ⟩
  exact Std.lt_of_le_of_ne (of_decide_eq_true below) differ

theorem precedes_cons (name : Name) {names names' : List Name} (before : Precedes names names') :
    Precedes (name :: names) (name :: names') :=
  List.cons_lt_cons_iff.mpr (Or.inr ⟨rfl, before⟩)

theorem WellFormed.files_ordered {tree : FileTree} (formed : tree.WellFormed) (depth : Nat) :
    (files depth tree).Pairwise Precedes := by
  induction depth generalizing tree with
  | zero => cases formed <;> simp [files]
  | succ depth ih =>
      cases formed with
      | dir entries distinct proper below =>
          rw [files]
          apply List.pairwise_flatMap.mpr
          constructor
          · rintro ⟨name, paths⟩ member
            obtain ⟨⟨_, child⟩, present, ⟨⟩⟩ := List.mem_map.mp (List.mem_mergeSort.mp member)
            exact List.pairwise_map.mpr ((ih (below _ present)).imp (precedes_cons name))
          · refine (pairwise_sorted _ ?_).imp ?_
            · simpa [Function.comp_def] using distinct
            rintro ⟨name, paths⟩ ⟨name', paths'⟩ before _ inside _ inside'
            obtain ⟨rest, _, rfl⟩ := List.mem_map.mp inside
            obtain ⟨rest', _, rfl⟩ := List.mem_map.mp inside'
            exact List.cons_lt_cons_iff.mpr (Or.inl before)
      | file | link | special => simp [files]

end FileTree

end WorkerLint
