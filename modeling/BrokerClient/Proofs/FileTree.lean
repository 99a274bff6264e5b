import BrokerClient.FileTree
import BrokerClient.Proofs.Fallible
import BrokerClient.Proofs.Fields

/-!
# Reading what was written

A file that has been written is read back as it was written (`FileTree.readBytes_of_write`).  Writing
puts one node into a folder: all folders stay where they are and keep their names, so the walk to
the file is the same as before.
-/

namespace BrokerClient

namespace FileNode

theorem at?_folder_cons (entries : List (String × FileNode)) (name : String) (names : List String) :
    (folder entries).at? (name :: names) = (Fields.find? name entries).bind (·.at? names) := by
  rw [at?]
  cases Fields.find? name entries <;> rfl

theorem at?_append (node : FileNode) (before after : List String) :
    node.at? (before ++ after) = (node.at? before).bind (·.at? after) := by
  induction before generalizing node with
  | nil => rw [List.nil_append, at?, Option.bind_some]
  | cons name before ih =>
      cases node with
      | file content => rfl
      | folder entries =>
          rw [List.cons_append, at?_folder_cons, at?_folder_cons]
          cases Fields.find? name entries with
          | none => rfl
          | some child => exact ih child

/-- On the way to a folder there are only folders. -/
theorem exists_of_at?_cons {node : FileNode} {name : String} {names : List String}
    {entries : List (String × FileNode)} (hat : node.at? (name :: names) = some (folder entries)) :
    ∃ outer child, node = folder outer ∧ Fields.find? name outer = some child ∧
      child.at? names = some (folder entries) := by
  cases node with
  | file content => cases hat
  | folder outer =>
      rw [at?_folder_cons] at hat
      cases hchild : Fields.find? name outer with
      | none => rw [hchild] at hat; cases hat
      | some child => exact ⟨outer, child, rfl, hchild, by rwa [hchild] at hat⟩

/-- The node above a folder is a folder. -/
theorem exists_of_at?_dropLast {node : FileNode} {names : List String}
    {entries : List (String × FileNode)} (hat : node.at? names = some (folder entries)) :
    ∃ outer, node.at? names.dropLast = some (folder outer) := by
  rcases List.eq_nil_or_concat names with rfl | ⟨before, last, rfl⟩
  · exact ⟨entries, hat⟩
  · rw [List.concat_eq_append, at?_append] at hat
    obtain ⟨above, habove, hlast⟩ := Option.bind_eq_some_iff.mp hat
    obtain ⟨outer, _, rfl, -, -⟩ := exists_of_at?_cons hlast
    rw [List.concat_eq_append, List.dropLast_concat]
    exact ⟨outer, habove⟩

/-- What was a folder still is one, with all the names that it had. -/
def Keeps (before after : FileNode) : Prop :=
  ∀ names entries, before.at? names = some (folder entries) →
    ∃ more, after.at? names = some (folder more) ∧
      ∀ name, (Fields.find? name entries).isSome → (Fields.find? name more).isSome

theorem Keeps.refl (node : FileNode) : node.Keeps node :=
  fun _ entries hat => ⟨entries, hat, fun _ hname => hname⟩

/-- A folder stays a folder if the node put into it keeps what was there under its name. -/
theorem keeps_insert {name : String} {new : FileNode} {entries : List (String × FileNode)}
    (hkeeps : ∀ old, Fields.find? name entries = some old → old.Keeps new) :
    (folder entries).Keeps (folder (Fields.insert name new entries)) := by
  intro names inner hat
  cases names with
  | nil =>
      cases hat
      refine ⟨_, rfl, fun other hother => ?_⟩
      rw [Fields.find?_insert]
      split_ifs
      · rfl
      · exact hother
  | cons first names =>
      obtain ⟨_, child, ⟨⟩, hchild, hinner⟩ := exists_of_at?_cons hat
      rw [at?_folder_cons, Fields.find?_insert]
      by_cases hname : name = first
      · subst hname
        rw [if_pos rfl]
        exact hkeeps child hchild names inner hinner
      · rw [if_neg hname, hchild]
        exact Keeps.refl child names inner hinner

section Put

variable {new node : FileNode} {before : List String} {last : String}
  {entries : List (String × FileNode)}

/-- A node that is put into a folder is there. -/
theorem at?_put (hfolder : node.at? before = some (folder entries)) :
    (put new node (before ++ [last])).at? (before ++ [last]) = some new := by
  induction before generalizing node with
  | nil =>
      cases hfolder
      rw [List.nil_append, put, at?_folder_cons, Fields.find?_insert, if_pos rfl]
      rfl
  | cons name before ih =>
      obtain ⟨outer, child, rfl, hchild, hinner⟩ := exists_of_at?_cons hfolder
      rw [List.cons_append, put, at?_folder_cons, Fields.find?_insert, if_pos rfl, hchild]
      exact ih hinner

/-- All folders stay when a node is put into one, unless it takes the place of a folder. -/
theorem keeps_put (hfolder : node.at? before = some (folder entries))
    (hplace : ∀ inner, node.at? (before ++ [last]) ≠ some (folder inner)) :
    node.Keeps (put new node (before ++ [last])) := by
  induction before generalizing node with
  | nil =>
      cases hfolder
      refine keeps_insert fun old hold names inner hat => ?_
      -- the old node is no folder, and there is none below it
      cases old with
      | file content =>
          cases names <;> cases hat
      | folder found =>
          refine absurd ?_ (hplace found)
          rw [List.nil_append, at?_folder_cons, hold]
          rfl
  | cons name before ih =>
      obtain ⟨outer, child, rfl, hchild, hinner⟩ := exists_of_at?_cons hfolder
      rw [List.cons_append, put, hchild]
      refine keeps_insert fun old hold => ?_
      obtain rfl : child = old := Option.some.inj (hchild.symm.trans hold)
      refine ih hinner fun inner hat => hplace inner ?_
      rw [List.cons_append, at?_folder_cons, hchild]
      exact hat

end Put

end FileNode

namespace FileTree

variable {tree tree' : FileTree}

/-- Is the working folder there, and a folder? -/
def HasWorkFolder (tree : FileTree) : Prop :=
  ∃ entries, tree.root.at? tree.workFolder = some (.folder entries)

/-- A path starts at a folder. -/
theorem HasWorkFolder.start (hwork : tree.HasWorkFolder) (path : String) :
    ∃ entries, tree.root.at? (tree.startOf path).1 = some (.folder entries) := by
  rw [startOf]
  split
  · obtain ⟨entries, hat⟩ := hwork
    cases hroot : tree.root with
    | folder entries => exact ⟨entries, rfl⟩
    | file content =>
        rw [hroot] at hat
        cases hnames : tree.workFolder <;> rw [hnames] at hat <;> cases hat
  · exact hwork

theorem walk_append (tree : FileTree) (here before after : List String) :
    tree.walk here (before ++ after) =
      tree.walk here before >>= fun there => tree.walk there after := by
  induction before generalizing here with
  | nil => rfl
  | cons name before ih =>
      rw [List.cons_append, walk, walk]
      cases tree.root.at? here with
      | none => rfl
      | some node =>
          cases node with
          | file content => rfl
          | folder entries =>
              dsimp only
              split_ifs
              · exact ih _
              · rfl
              · rfl
              · exact ih _

/-- A way through folders is a way through them when they have been kept. -/
theorem walk_of_keeps (hkeeps : tree.root.Keeps tree'.root) {here names there : List String}
    (hwalk : tree.walk here names = .ok there) : tree'.walk here names = .ok there := by
  induction names generalizing here with
  | nil => exact hwalk
  | cons name names ih =>
      rw [walk] at hwalk ⊢
      cases hat : tree.root.at? here with
      | none => rw [hat] at hwalk; cases hwalk
      | some node =>
          cases node with
          | file content => rw [hat] at hwalk; cases hwalk
          | folder entries =>
              obtain ⟨more, hmore, hnames⟩ := hkeeps here entries hat
              rw [hat] at hwalk
              rw [hmore]
              dsimp only at hwalk ⊢
              by_cases hup : name == ".."
              · rw [if_pos hup] at hwalk ⊢
                exact ih hwalk
              · rw [if_neg hup] at hwalk ⊢
                by_cases hlong : nameLimit < name.utf8ByteSize
                · rw [if_pos hlong] at hwalk
                  cases hwalk
                · rw [if_neg hlong] at hwalk ⊢
                  by_cases hnone : (Fields.find? name entries).isNone
                  · rw [if_pos hnone] at hwalk
                    cases hwalk
                  · have hthere := hnames name (by simpa [Option.isSome_iff_ne_none] using hnone)
                    rw [if_neg hnone] at hwalk
                    rw [if_neg (by simpa [Option.isSome_iff_ne_none] using hthere)]
                    exact ih hwalk

/-- The places that a new node can have: the start of the path, the folder above another, or a
name in a folder. -/
theorem newPlace_cases {path : String} {place : List String}
    (hplace : tree.newPlace path = .ok place) :
    checkPath path = .ok () ∧
      ((tree.startOf path).2 = [] ∧ place = (tree.startOf path).1 ∨
      ∃ before last folder entries, (tree.startOf path).2 = before ++ [last] ∧
        tree.walk (tree.startOf path).1 before = .ok folder ∧
        tree.root.at? folder = some (.folder entries) ∧
        (place = folder.dropLast ∨
          last ≠ ".." ∧ ¬ nameLimit < last.utf8ByteSize ∧ place = folder ++ [last])) := by
  rw [newPlace] at hplace
  obtain ⟨_, hcheck, hplace⟩ := bind_eq_ok.mp hplace
  refine ⟨hcheck, ?_⟩
  dsimp only at hplace
  split at hplace
  · rename_i hnames
    cases hplace
    exact .inl ⟨List.reverse_eq_nil_iff.mp hnames, rfl⟩
  · rename_i last before hnames
    obtain ⟨folder, hwalk, hplace⟩ := bind_eq_ok.mp hplace
    split at hplace
    · rename_i entries hat
      refine .inr ⟨before.reverse, last, folder, entries, ?_, hwalk, hat, ?_⟩
      · rw [← List.reverse_reverse (tree.startOf path).2, hnames, List.reverse_cons]
      · split_ifs at hplace with hup hlong
        · cases hplace
          exact .inl rfl
        · cases hplace
          exact .inr ⟨by simpa using hup, hlong, rfl⟩
    · cases hplace
    · cases hplace

/-- A name in a folder is found by way of the folder. -/
theorem find_of_walk {path : String} {before folder : List String} {last : String}
    {entries : List (String × FileNode)} {content : Bytes} (hcheck : checkPath path = .ok ())
    (hnames : (tree.startOf path).2 = before ++ [last])
    (hwalk : tree.walk (tree.startOf path).1 before = .ok folder)
    (hat : tree.root.at? folder = some (.folder entries)) (hup : last ≠ "..")
    (hlong : ¬ nameLimit < last.utf8ByteSize)
    (hthere : tree.root.at? (folder ++ [last]) = some (.file content))
    (hslash : ¬ endsInSlash path = true) : tree.find path = .ok (.file content) := by
  have hlast : tree.walk folder [last] = .ok (folder ++ [last]) := by
    have hsome : ¬ (Fields.find? last entries).isNone = true := by
      intro hnone
      rw [FileNode.at?_append, hat, Option.bind_some, FileNode.at?_folder_cons,
        Option.isNone_iff_eq_none.mp hnone] at hthere
      cases hthere
    rw [walk, hat]
    simp only [beq_iff_eq, hup, hlong, hsome, if_false]
    rfl
  have hway : tree.walk (tree.startOf path).1 (tree.startOf path).2 = .ok (folder ++ [last]) := by
    rw [hnames, walk_append, hwalk]
    exact hlast
  simp only [find, hcheck, bind, Except.bind, hway, hthere, hslash]
  rfl

/-- A file is written to a place that is no folder. -/
theorem write_cases {path : String} {content : Bytes}
    (hwrite : tree.write path content = .ok tree') :
    ∃ place, tree.newPlace path = .ok place ∧ ¬ endsInSlash path = true ∧
      (∀ inner, tree.root.at? place ≠ some (.folder inner)) ∧
      tree' = { tree with root := FileNode.put (.file content) tree.root place } := by
  rw [write] at hwrite
  obtain ⟨place, hplace, hwrite⟩ := bind_eq_ok.mp hwrite
  split_ifs at hwrite with hslash
  refine ⟨place, hplace, hslash, ?_⟩
  split at hwrite
  · cases hwrite
  · rename_i hfree
    cases hwrite
    exact ⟨hfree, rfl⟩

/-- A file that has been written holds what was written. -/
theorem readBytes_of_write (hwork : tree.HasWorkFolder) {path : String} {content : Bytes}
    (hwrite : tree.write path content = .ok tree') : tree'.readBytes path = .ok content := by
  obtain ⟨place, hplace, hslash, hfree, rfl⟩ := write_cases hwrite
  -- a start of a path and a folder above one are folders, where nothing is written
  obtain ⟨hcheck, ⟨-, rfl⟩ | ⟨before, last, folder, entries, hnames, hwalk, hat, hlast⟩⟩ :=
    newPlace_cases hplace
  · obtain ⟨inner, hat⟩ := hwork.start path
    exact absurd hat (hfree inner)
  · rcases hlast with rfl | ⟨hup, hlong, rfl⟩
    · obtain ⟨outer, houter⟩ := FileNode.exists_of_at?_dropLast hat
      exact absurd houter (hfree outer)
    · have hkeeps : tree.root.Keeps (FileNode.put (.file content) tree.root (folder ++ [last])) :=
        FileNode.keeps_put hat hfree
      obtain ⟨more, hmore, -⟩ := hkeeps _ _ hat
      have hthere : (FileNode.put (.file content) tree.root (folder ++ [last])).at?
          (folder ++ [last]) = some (.file content) := FileNode.at?_put hat
      have hfind : FileTree.find { tree with
          root := FileNode.put (.file content) tree.root (folder ++ [last]) } path =
            .ok (.file content) :=
        find_of_walk hcheck hnames (walk_of_keeps hkeeps hwalk) hmore hup hlong hthere hslash
      rw [readBytes, hfind]
      rfl

end FileTree

end BrokerClient
