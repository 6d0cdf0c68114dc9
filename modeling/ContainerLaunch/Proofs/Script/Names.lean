import ContainerLaunch.Proofs.Helper.Options
import ContainerLaunch.Proofs.Script.Canonical
import ContainerLaunch.Proofs.Text.Pieces
/-!
# What the names in a launch script can do

The words of a command are not all there is to it: its utility takes some of them for options and some for
operands, and an assignment is cut at its first equals sign. `Instruction.ofWords?` says what the utilities of a
launch script make of their words.

The names of variables stand in the script as they are given. Paths and the names of links are quoted, but they
stand where an option may stand. So the script of a launch is read as the instructions that are meant exactly
if each exported name is one that a shell can assign to and no path or name of a link begins with a hyphen
(`instructions_render_build_iff`).
-/

namespace ContainerLaunch

/-! ## Instructions -/

namespace Shell

open Helper (isOption)

/-- What a command of a launch script has done. -/
inductive Instruction where
  | assign (name value : String)
  | makeDirectory (directory : String)
  | link (path name : String)
  | become (command : String)
  deriving DecidableEq, Repr

namespace Instruction

/-- What comes before the first equals sign is assigned to, if a shell can assign to it. -/
def ofAssignment? (word : String) : Option Instruction :=
  match Text.cut '=' word.toList with
  | (name, some value) =>
    if isIdentifier (String.ofList name) then
      some (.assign (String.ofList name) (String.ofList value))
    else none
  | (_, none) => none

/-- An option may stand anywhere among the operands. Only `exec` leaves what follows its first operand to the
command that it runs. -/
def ofWords? : List String → Option Instruction
  | ["exec", "/bin/bash", "-c", command] => some (.become command)
  | utility :: words =>
    match utility, words.filter isOption, words.filter (!isOption ·) with
    | "export", [], [word] => ofAssignment? word
    | "mkdir", ["-p"], [directory] => some (.makeDirectory directory)
    | "ln", ["-sf"], [path, name] => some (.link path name)
    | _, _, _ => none
  | [] => none

/-- The words of the command that is written for an instruction. -/
def words : Instruction → List String
  | .assign name value => ["export", name ++ "=" ++ value]
  | .makeDirectory directory => ["mkdir", "-p", directory]
  | .link path name => ["ln", "-sf", path, name]
  | .become command => ["exec", "/bin/bash", "-c", command]

/-- A shell can assign to the name, and an operand is not taken for an option. -/
def Sound : Instruction → Prop
  | .assign name _ => isIdentifier name
  | .makeDirectory directory => isOption directory = false
  | .link path name => isOption path = false ∧ isOption name = false
  | .become _ => True

theorem equals_notMem_of_isIdentifier {name : String} (h : isIdentifier name) : '=' ∉ name.toList := by
  intro hmem
  unfold isIdentifier at h
  split at h
  · cases h
  · next c rest hname =>
    rw [hname] at hmem
    simp only [Bool.and_eq_true, Bool.or_eq_true, List.all_eq_true, beq_iff_eq] at h
    rcases List.mem_cons.1 hmem with rfl | hmem
    · exact absurd h.1 (by decide)
    · exact absurd (h.2 _ hmem) (by decide)

theorem not_isOption_assignment {name : String} (h : isIdentifier name) (value : String) :
    isOption (name ++ "=" ++ value) = false := by
  unfold isIdentifier at h
  split at h
  · cases h
  · next c rest hname =>
    have hc : c ≠ '-' := by
      rintro rfl
      exact absurd (Bool.and_eq_true_iff.1 h).1 (by decide)
    simp [isOption, hname, hc]

theorem ofAssignment?_append {name : String} (h : isIdentifier name) (value : String) :
    ofAssignment? (name ++ "=" ++ value) = some (.assign name value) := by
  have hword : (name ++ "=" ++ value).toList = name.toList ++ '=' :: value.toList := by simp
  rw [ofAssignment?, hword, Text.cut_append_of_notMem (equals_notMem_of_isIdentifier h)]
  simp [h]

theorem sound_of_ofAssignment? {i : Instruction} {word : String} (h : ofAssignment? word = some i) : i.Sound := by
  unfold ofAssignment? at h
  split at h
  · split at h
    · next hname =>
      cases h
      exact hname
    · cases h
  · cases h

theorem ofWords?_words {i : Instruction} (h : i.Sound) : ofWords? i.words = some i := by
  cases i with
  | assign name value => simp [words, ofWords?, not_isOption_assignment h, ofAssignment?_append h]
  | makeDirectory directory =>
    have hp : isOption "-p" = true := by decide
    have hd : isOption directory = false := h
    simp [words, ofWords?, hp, hd]
  | link path name =>
    have hsf : isOption "-sf" = true := by decide
    simp [words, ofWords?, hsf, h.1, h.2]
  | become command => rfl

theorem sound_of_ofWords? {i : Instruction} {words : List String} (h : ofWords? words = some i) : i.Sound := by
  have hoperand : ∀ {operands : List String}, words.tail.filter (!isOption ·) = operands →
      ∀ word ∈ operands, isOption word = false := by
    rintro _ rfl word hword
    simpa using List.of_mem_filter hword
  unfold ofWords? at h
  split at h
  · cases h
    trivial
  · split at h
    · exact sound_of_ofAssignment? h
    · next ho _ =>
      cases h
      exact hoperand ho _ (by simp)
    · next ho _ =>
      cases h
      exact ⟨hoperand ho _ (by simp), hoperand ho _ (by simp)⟩
    · cases h
  · cases h

theorem sound_of_mapM {commands : List (List String)} {found : List Instruction}
    (h : commands.mapM ofWords? = some found) : ∀ i ∈ found, i.Sound := by
  induction commands generalizing found with
  | nil =>
    cases h
    simp
  | cons words commands ih =>
    simp only [List.mapM_cons, Option.bind_eq_bind, Option.bind_eq_some_iff, Option.pure_def, Option.some.injEq] at h
    obtain ⟨i, hi, rest, hrest, rfl⟩ := h
    exact List.forall_mem_cons.2 ⟨sound_of_ofWords? hi, ih hrest⟩

theorem mapM_words {is : List Instruction} (h : ∀ i ∈ is, i.Sound) : (is.map words).mapM ofWords? = some is := by
  induction is with
  | nil => rfl
  | cons i is ih =>
    obtain ⟨hi, his⟩ := List.forall_mem_cons.1 h
    simp [ofWords?_words hi, ih his]

end Instruction

/-- The instructions of a text, if there is nothing else in it. -/
def instructions (text : String) : Option (List Instruction) :=
  (read text).bind fun commands => commands.mapM Instruction.ofWords?

theorem sound_of_instructions {text : String} {found : List Instruction} (h : instructions text = some found) :
    ∀ i ∈ found, i.Sound := by
  obtain ⟨commands, -, h⟩ := Option.bind_eq_some_iff.1 h
  exact Instruction.sound_of_mapM h

theorem instructions_of_read {text : String} {is : List Instruction}
    (h : read text = some (is.map Instruction.words)) (hs : ∀ i ∈ is, i.Sound) : instructions text = some is := by
  rw [instructions, h, Option.bind_some, Instruction.mapM_words hs]

end Shell

/-! ## The directory of a link -/

namespace Path

theorem head_isPrefix (path : List Char) : head path <+: path := by
  have h := List.dropWhile_suffix (l := path.reverse) (· != '/')
  rw [← List.reverse_prefix, List.reverse_reverse] at h
  exact h

theorem directoryChars_isPrefix (path : List Char) : directoryChars path <+: path := by
  have hdrop : Text.dropTrailing '/' (head path) <+: head path := by
    have h := List.dropWhile_suffix (l := (head path).reverse) (· == '/')
    rw [← List.reverse_prefix, List.reverse_reverse] at h
    exact h
  unfold directoryChars
  dsimp only
  split
  · exact head_isPrefix path
  · exact hdrop.trans (head_isPrefix path)

end Path

namespace Script

open Shell (Instruction isIdentifier)
open Helper (isOption)

theorem isOption_of_directory {link : String} (h : isOption (Path.directory link) = true) : isOption link = true := by
  simp only [isOption, Path.directory, String.toList_ofList, beq_iff_eq] at h ⊢
  obtain ⟨rest, hrest⟩ := Path.directoryChars_isPrefix link.toList
  rw [← hrest, List.head?_append, h]
  rfl

/-! ## The instructions that are meant -/

/-- The instruction that a variable asks for. -/
def exportInstruction (m : String × Json) : Instruction := .assign m.1 m.2.text

/-- The instructions that a link asks for: its directory comes first, if it has one. -/
def linkInstructions (path link : String) : List Instruction :=
  (if Path.directory link = "" then [] else [.makeDirectory (Path.directory link)]) ++ [.link path link]

/-- The instructions that a resource asks for. -/
def resourceInstructions (m : String × List Json) : List Instruction :=
  m.2.flatMap fun link => linkInstructions m.1 link.text

/-- What a launch script is meant to have done. -/
def intended (exported : List (String × Json)) (linked : List (String × List Json)) (words : List String) :
    List Instruction :=
  exported.map exportInstruction ++ linked.flatMap resourceInstructions ++
    [.become (String.intercalate " " words)]

theorem map_words_linkInstructions (path link : String) :
    (linkInstructions path link).map Instruction.words = linkCommands path link := by
  unfold linkInstructions linkCommands
  split <;> rfl

theorem map_words_intended (exported : List (String × Json)) (linked : List (String × List Json))
    (words : List String) :
    (intended exported linked words).map Instruction.words =
      exported.map exportCommand ++ linked.flatMap resourceCommands ++ [execCommand words] := by
  have hlinked : (linked.flatMap resourceInstructions).map Instruction.words = linked.flatMap resourceCommands := by
    simp only [List.map_flatMap, resourceInstructions, map_words_linkInstructions]
    rfl
  rw [intended, List.map_append, List.map_append, hlinked, List.map_map]
  rfl

theorem sound_linkInstructions_iff {path link : String} :
    (∀ i ∈ linkInstructions path link, i.Sound) ↔ isOption path = false ∧ isOption link = false := by
  constructor
  · exact fun h => h _ (List.mem_append_right _ (List.mem_singleton_self _))
  · intro h i hi
    rcases List.mem_append.1 hi with hi | hi
    · split at hi
      · cases hi
      · obtain rfl := List.mem_singleton.1 hi
        exact Bool.eq_false_iff.2 fun hd => Bool.eq_false_iff.1 h.2 (isOption_of_directory hd)
    · obtain rfl := List.mem_singleton.1 hi
      exact h

theorem sound_intended_iff {exported : List (String × Json)} {linked : List (String × List Json)}
    {words : List String} :
    (∀ i ∈ intended exported linked words, i.Sound) ↔
      (∀ m ∈ exported, isIdentifier m.1) ∧
        ∀ m ∈ linked, ∀ link ∈ m.2, isOption m.1 = false ∧ isOption link.text = false := by
  simp only [intended, List.forall_mem_append, List.forall_mem_map, List.forall_mem_flatMap,
    resourceInstructions, sound_linkInstructions_iff, List.forall_mem_singleton]
  exact and_iff_left trivial

/-- The script of a launch is read as it is meant exactly if a shell can assign to each exported name, and neither
a path nor the name of a link is taken for an option. -/
theorem instructions_render_build_iff (environment : List (String × Json)) (resources : List (String × List Json))
    (words excluded : List String) :
    ∃ (script : Script) (exported : List (String × Json)) (linked : List (String × List Json)),
      build environment (members resources) (.arr (words.map .str)) excluded = .ok script ∧
      exported.Perm (environment.filter fun m => m.1 ∉ excluded) ∧
      exported.Pairwise (fun a b => a.1 ≤ b.1) ∧
      linked.Perm resources ∧ linked.Pairwise (fun a b => a.1 ≤ b.1) ∧
      (Shell.instructions script.render = some (intended exported linked words) ↔
        (∀ m ∈ environment, m.1 ∉ excluded → isIdentifier m.1) ∧
          ∀ m ∈ resources, ∀ link ∈ m.2, isOption m.1 = false ∧ isOption link.text = false) := by
  obtain ⟨script, hscript⟩ := exists_build environment resources words excluded
  have hexported : ∀ m, m ∈ (inOrder environment).filter (fun m => m.1 ∉ excluded) ↔
      m ∈ environment ∧ m.1 ∉ excluded := by
    intro m
    rw [List.mem_filter, (inOrder_perm environment).mem_iff, decide_eq_true_eq]
  have hsound : (∀ i ∈ intended ((inOrder environment).filter fun m => m.1 ∉ excluded) (inOrder resources) words,
      i.Sound) ↔ (∀ m ∈ environment, m.1 ∉ excluded → isIdentifier m.1) ∧
        ∀ m ∈ resources, ∀ link ∈ m.2, isOption m.1 = false ∧ isOption link.text = false := by
    simp only [sound_intended_iff, hexported, (inOrder_perm resources).mem_iff, and_imp]
  refine ⟨script, _, _, hscript, (inOrder_perm environment).filter _, (pairwise_inOrder environment).filter _,
    inOrder_perm resources, pairwise_inOrder resources, ?_⟩
  rw [← hsound]
  constructor
  · exact Shell.sound_of_instructions
  · intro h
    obtain ⟨script', hscript', hreads⟩ := reads_build resources words (hsound.1 h).1
    obtain rfl : script = script' := Except.ok.inj (hscript.symm.trans hscript')
    refine Shell.instructions_of_read ?_ h
    rw [map_words_intended]
    exact Shell.read_eq_some hreads.holds

/-- A variable is exported without a value, its name runs a command, and the name of a link is taken for an
option. -/
theorem instructions_render_build_injected :
    let environment := [("A\nreboot\nB", .str "1")]
    let resources := [("/x", [.str "-d"])]
    ∃ script, build environment (members resources) (.arr (["true"].map .str)) [] = .ok script ∧
      Shell.read script.render = some
        [["export", "A"], ["reboot"], ["B=1"], ["ln", "-sf", "/x", "-d"], ["exec", "/bin/bash", "-c", "true"]] ∧
      Shell.instructions script.render ≠ some (intended environment resources ["true"]) := by
  intro environment resources
  have hbuild : build environment (members resources) (.arr (["true"].map .str)) [] =
      .ok ⟨["#!/bin/bash", "", "export A\nreboot\nB=1", "ln -sf /x -d", "exec /bin/bash -c true"]⟩ := by
    have henvironment : sortMembers environment = environment := List.mergeSort_singleton _
    have hresources : sortMembers (members resources) = members resources := List.mergeSort_singleton _
    rw [build, henvironment, hresources]
    rfl
  refine ⟨_, hbuild, rfl, fun h => ?_⟩
  have hname : isIdentifier "A\nreboot\nB" = true := Shell.sound_of_instructions h _ List.mem_cons_self
  exact absurd hname (by decide)

end Script

end ContainerLaunch
