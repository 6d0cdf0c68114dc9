import ContainerLaunch.Proofs.Shell.Reader
import ContainerLaunch.Script.Basic
/-!
# Reading a launch script back

A shell that reads a launch script finds the commands that were meant and no others, whatever the
values, paths, link names and words of the command are made of. Each call that adds to a script adds
whole lines, so the statement is carried from call to call by `Reads`: the lines up to here are read as
these commands.
-/

namespace ContainerLaunch.Script

open Shell

/-! ## The commands that are meant -/

/-- The words of the command that exports a variable. -/
def exportCommand (m : String × Json) : List String := ["export", m.1 ++ "=" ++ m.2.text]

/-- Makes the directory of a link, if its name has one, and then the link. -/
def linkCommands (path link : String) : List (List String) :=
  (if Path.directory link = "" then [] else [["mkdir", "-p", Path.directory link]]) ++
    [["ln", "-sf", path, link]]

/-- The words of the commands that link a resource. -/
def resourceCommands (m : String × List Json) : List (List String) :=
  m.2.flatMap fun link => linkCommands m.1 link.text

/-- The words of the command that runs the workload. -/
def execCommand (words : List String) : List String :=
  ["exec", "/bin/bash", "-c", String.intercalate " " words]

/-! ## Lines -/

theorem plain_of_isIdentifier {key : String} (h : isIdentifier key) :
    key ≠ "" ∧ ∀ c ∈ key.toList, isPlain c := by
  unfold isIdentifier at h
  split at h
  · cases h
  · next c rest hkey =>
    refine ⟨fun e => by simp [e] at hkey, fun d hd => ?_⟩
    rw [hkey] at hd
    simp only [Bool.and_eq_true, Bool.or_eq_true, List.all_eq_true, beq_iff_eq] at h
    rcases List.mem_cons.1 hd with rfl | hd
    · rcases h.1 with h | rfl
      · simp [isPlain, Char.isAlphanum, h]
      · decide
    · rcases h.2 d hd with h | rfl
      · simp [isPlain, h]
      · decide

theorem holds_exportLine {key : String} (h : isIdentifier key) (value : String) :
    Holds (("export " ++ key ++ "=" ++ quote value).toList ++ ['\n'])
      [["export", key ++ "=" ++ value]] := by
  obtain ⟨hne, hplain⟩ := plain_of_isIdentifier h
  have hname : Spells (key.toList ++ "=".toList) (key ++ "=") :=
    (spells_plain key hne (List.all_eq_true.2 hplain)).append (spells_plain "=" (by decide) (by decide))
  have hline := holds_line (spells_plain "export" (by decide) (by decide))
    (.cons (hname.append (spells_quote value)) .nil)
  simpa using hline

theorem holds_makeDirectoryLine (directory : String) :
    Holds ((makeDirectoryLine directory).toList ++ ['\n']) [["mkdir", "-p", directory]] := by
  have hline := holds_line (spells_plain "mkdir" (by decide) (by decide))
    (.cons (spells_plain "-p" (by decide) (by decide)) (.cons (spells_quote directory) .nil))
  simpa [makeDirectoryLine] using hline

theorem holds_linkLine (path link : String) :
    Holds (("ln -sf " ++ quote path ++ " " ++ quote link).toList ++ ['\n'])
      [["ln", "-sf", path, link]] := by
  have hline := holds_line (spells_plain "ln" (by decide) (by decide))
    (.cons (spells_plain "-sf" (by decide) (by decide))
      (.cons (spells_quote path) (.cons (spells_quote link) .nil)))
  simpa using hline

theorem holds_execLine (text : String) :
    Holds (("exec /bin/bash -c " ++ quote text).toList ++ ['\n'])
      [["exec", "/bin/bash", "-c", text]] := by
  have hline := holds_line (spells_plain "exec" (by decide) (by decide))
    (.cons (spells_plain "/bin/bash" (by decide) (by decide))
      (.cons (spells_plain "-c" (by decide) (by decide)) (.cons (spells_quote text) .nil)))
  simpa using hline

/-! ## Scripts -/

/-- A shell reads the lines of the script as these commands, and then starts on a new one. -/
structure Reads (s : Script) (commands : List (List String)) : Prop where
  begun : s.lines ≠ []
  holds : Holds s.render.toList commands

section Reads
variable {s : Script} {commands : List (List String)}

theorem render_push (h : s.lines ≠ []) (line : String) :
    (s.push line).render = s.render ++ (line ++ "\n") := by
  simp [render, push, String.intercalate_append_of_ne_nil h, String.append_assoc]

theorem Reads.push {line : String} {added : List (List String)} (h : s.Reads commands)
    (hl : Holds (line.toList ++ ['\n']) added) : (s.push line).Reads (commands ++ added) := by
  refine ⟨by simp [Script.push], ?_⟩
  rw [render_push h.begun]
  simpa using h.holds.append hl

theorem reads_empty : empty.Reads [] := by
  refine ⟨by simp [empty], ?_⟩
  have hcomment : Holds ('#' :: "!/bin/bash".toList ++ ['\n']) [] := holds_comment (by decide)
  exact hcomment.append holds_empty

theorem reads_env (h : s.Reads commands) {key : String} (hk : isIdentifier key) (value : String) :
    ∃ s', s.env (.str key) (.str value) = (s', none) ∧
      s'.Reads (commands ++ [["export", key ++ "=" ++ value]]) :=
  ⟨_, rfl, h.push (holds_exportLine hk value)⟩

theorem reads_makeParent (h : s.Reads commands) (link : String) :
    (s.makeParent link).Reads
      (commands ++ if Path.directory link = "" then [] else [["mkdir", "-p", Path.directory link]]) := by
  unfold makeParent
  by_cases hd : Path.directory link = ""
  · simpa [hd] using h
  · have hne : (Path.directory link).isEmpty = false := by simpa using hd
    simp only [hne, hd, if_false, Bool.false_eq_true]
    exact h.push (holds_makeDirectoryLine _)

theorem reads_symlink (h : s.Reads commands) (path link : String) :
    ∃ s', s.symlink (.str path) (.str link) = (s', none) ∧
      s'.Reads (commands ++ linkCommands path link) := by
  refine ⟨_, rfl, ?_⟩
  rw [linkCommands, ← List.append_assoc]
  exact (reads_makeParent h link).push (holds_linkLine path link)

theorem reads_exportAll {vars : List (String × Json)} (h : s.Reads commands)
    (hk : ∀ m ∈ vars, isIdentifier m.1) :
    ∃ s', exportAll s vars = (s', none) ∧ s'.Reads (commands ++ vars.map exportCommand) := by
  induction vars generalizing s commands with
  | nil => exact ⟨s, rfl, by simpa using h⟩
  | cons m vars ih =>
    obtain ⟨s₁, hs₁, h₁⟩ := reads_env h (hk m (by simp)) m.2.text
    obtain ⟨s₂, hs₂, h₂⟩ := ih h₁ fun m' hm' => hk m' (List.mem_cons_of_mem _ hm')
    refine ⟨s₂, ?_, by simpa [exportCommand] using h₂⟩
    rw [exportAll, hs₁]
    exact hs₂

theorem reads_linkAll (h : s.Reads commands) (path : String) (links : List Json) :
    ∃ s', linkAll s path links = (s', none) ∧
      s'.Reads (commands ++ links.flatMap fun link => linkCommands path link.text) := by
  induction links generalizing s commands with
  | nil => exact ⟨s, rfl, by simpa using h⟩
  | cons link links ih =>
    obtain ⟨s₁, hs₁, h₁⟩ := reads_symlink h path link.text
    obtain ⟨s₂, hs₂, h₂⟩ := ih h₁
    refine ⟨s₂, ?_, by simpa using h₂⟩
    rw [linkAll, hs₁]
    exact hs₂

/-- Resources as the loosely typed members that a script is built from. -/
def members (resources : List (String × List Json)) : List (String × Json) :=
  resources.map fun m => (m.1, .arr m.2)

theorem reads_linkResources (h : s.Reads commands) (resources : List (String × List Json)) :
    ∃ s', linkResources s (members resources) = (s', none) ∧
      s'.Reads (commands ++ resources.flatMap resourceCommands) := by
  induction resources generalizing s commands with
  | nil => exact ⟨s, rfl, by simpa using h⟩
  | cons m resources ih =>
    obtain ⟨s₁, hs₁, h₁⟩ := reads_linkAll h m.1 m.2
    obtain ⟨s₂, hs₂, h₂⟩ := ih h₁
    refine ⟨s₂, ?_, by simpa [resourceCommands] using h₂⟩
    show andThen (linkAll s m.1 m.2) (fun s => linkResources s (members resources)) = _
    rw [hs₁]
    exact hs₂

theorem wordsFrom_str (index : Nat) (words : List String) :
    wordsFrom index (words.map .str) = .ok words := by
  induction words generalizing index with
  | nil => rfl
  | cons word words ih => simp [wordsFrom, ih, Except.map]

theorem commandText_str (words : List String) :
    commandText (.arr (words.map .str)) = .ok (String.intercalate " " words) := by
  simp [commandText, items, wordsFrom_str, Except.map]

theorem reads_command (h : s.Reads commands) (words : List String) :
    ∃ s', s.command (.arr (words.map .str)) = (s', none) ∧
      s'.Reads (commands ++ [execCommand words]) := by
  refine ⟨s.push ("exec /bin/bash -c " ++ quote (String.intercalate " " words)), ?_, ?_⟩
  · simp only [command, commandText_str]
  · exact h.push (holds_execLine _)

end Reads

/-! ## The whole script -/

section Order
variable {α : Type}

/-- The members in the order of their keys. -/
def inOrder (ms : List (String × α)) : List (String × α) := ms.mergeSort fun a b => a.1 ≤ b.1

theorem inOrder_perm (ms : List (String × α)) : (inOrder ms).Perm ms := List.mergeSort_perm ms _

theorem pairwise_inOrder (ms : List (String × α)) : (inOrder ms).Pairwise fun a b => a.1 ≤ b.1 := by
  refine (List.pairwise_mergeSort ?_ ?_ ms).imp fun h => by simpa using h
  · intro a b c hab hbc
    exact decide_eq_true (String.le_trans (of_decide_eq_true hab) (of_decide_eq_true hbc))
  · intro a b
    simpa using String.le_total a.1 b.1

theorem sortMembers_members (resources : List (String × List Json)) :
    sortMembers (members resources) = members (inOrder resources) := by
  rw [sortMembers, members, members, inOrder, List.map_mergeSort]
  exact fun _ _ _ _ => rfl

end Order

theorem reads_build {environment : List (String × Json)} {excluded : List String}
    (resources : List (String × List Json)) (words : List String)
    (hk : ∀ m ∈ environment, m.1 ∉ excluded → isIdentifier m.1) :
    ∃ s, build environment (members resources) (.arr (words.map .str)) excluded = .ok s ∧
      s.Reads (((inOrder environment).filter fun m => m.1 ∉ excluded).map exportCommand ++
        (inOrder resources).flatMap resourceCommands ++ [execCommand words]) := by
  have hkeys : ∀ m ∈ (inOrder environment).filter (fun m => m.1 ∉ excluded), isIdentifier m.1 := by
    intro m hm
    obtain ⟨hm, hne⟩ := List.mem_filter.1 hm
    exact hk m ((inOrder_perm environment).mem_iff.1 hm) (by simpa using hne)
  obtain ⟨s₁, hs₁, h₁⟩ := reads_exportAll reads_empty hkeys
  obtain ⟨s₂, hs₂, h₂⟩ := reads_linkResources h₁ (inOrder resources)
  obtain ⟨s₃, hs₃, h₃⟩ := reads_command h₂ words
  refine ⟨s₃, ?_, by simpa using h₃⟩
  have hfilter : (sortMembers environment).filter (fun m => !excluded.contains m.1) =
      (inOrder environment).filter fun m => m.1 ∉ excluded := by
    simp [sortMembers, inOrder]
  simp only [build, hfilter, hs₁, sortMembers_members, andThen, hs₂, hs₃]

/-- A shell that reads the script of a launch finds an export for each variable that is not excluded, in
ascending order of the names, then the links of each resource, in ascending order of the paths and for
each path in the given order, and last the command of the launch; and nothing else. -/
theorem read_render_build (environment : List (String × Json)) (resources : List (String × List Json))
    (words excluded : List String) (hk : ∀ m ∈ environment, m.1 ∉ excluded → isIdentifier m.1) :
    ∃ (script : Script) (exported : List (String × Json)) (linked : List (String × List Json)),
      build environment (members resources) (.arr (words.map .str)) excluded = .ok script ∧
      exported.Perm (environment.filter fun m => m.1 ∉ excluded) ∧
      exported.Pairwise (fun a b => a.1 ≤ b.1) ∧
      linked.Perm resources ∧ linked.Pairwise (fun a b => a.1 ≤ b.1) ∧
      Shell.read script.render = some
        (exported.map exportCommand ++ linked.flatMap resourceCommands ++ [execCommand words]) := by
  obtain ⟨s, hs, h⟩ := reads_build resources words hk
  refine ⟨s, _, _, hs, ?_, ?_, inOrder_perm resources, pairwise_inOrder resources, read_eq_some h.holds⟩
  · exact (inOrder_perm environment).filter _
  · exact (pairwise_inOrder environment).filter _

/-- Quotes, line ends and dollar signs stay inside their words, and an excluded name need not be one that
a shell can assign to. -/
theorem read_render_build_hostile :
    (∀ m ∈ [("no name", Json.null), ("GREETING", .str "it's\n# $HOME")],
      m.1 ∉ ["no name"] → isIdentifier m.1) ∧
    ∃ script,
      build [("no name", .null), ("GREETING", .str "it's\n# $HOME")]
        (members [("/cache/a b", [.str "-d/'x"])]) (.arr (["echo", "'", ""].map .str)) ["no name"] =
          .ok script ∧
      Shell.read script.render = some
        [["export", "GREETING=it's\n# $HOME"], ["mkdir", "-p", "-d"],
          ["ln", "-sf", "/cache/a b", "-d/'x"], ["exec", "/bin/bash", "-c", "echo ' "]] := by
  have hk : ∀ m ∈ [("no name", Json.null), ("GREETING", .str "it's\n# $HOME")],
      m.1 ∉ ["no name"] → isIdentifier m.1 := by
    simp [isIdentifier]
  obtain ⟨s, exported, linked, hs, he, -, hl, -, h⟩ := read_render_build
    [("no name", .null), ("GREETING", .str "it's\n# $HOME")] [("/cache/a b", [.str "-d/'x"])]
    ["echo", "'", ""] ["no name"] hk
  have hexported : exported = [("GREETING", .str "it's\n# $HOME")] := List.perm_singleton.1 (by simpa using he)
  have hlinked : linked = [("/cache/a b", [.str "-d/'x"])] := List.perm_singleton.1 hl
  refine ⟨hk, s, hs, ?_⟩
  rw [h, hexported, hlinked]
  rfl

end ContainerLaunch.Script
