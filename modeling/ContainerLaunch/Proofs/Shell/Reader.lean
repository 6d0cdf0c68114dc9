import ContainerLaunch.Shell.Quote
import Mathlib.Data.List.Forall2
/-!
# Reading shell commands

A reader for the part of the shell's grammar in which nothing is expanded: blanks separate words, a
line end outside quotes ends a command, single quotes hold anything but themselves, double quotes hold
a single quote, and a `#` at the start of a word begins a comment. Whatever a shell would expand or
take for an operator makes the reading fail, so a text that can be read has none of it outside quotes.

`spells_quote`: the quoted form of any word is read as that word, wherever it stands. `holds_line`: a
line of such words is read as one command.
-/

namespace ContainerLaunch.Shell

/-- Characters with a meaning of their own outside quotes. -/
def operators : List Char :=
  ['|', '&', ';', '<', '>', '(', ')', '$', '\x60', '\\', '*', '?', '[', ']', '~', '\x7b', '\x7d', '!',
    '^']

/-- Characters with a meaning of their own between double quotes. -/
def expansions : List Char := ['$', '\x60', '\\']

/-- A name that a shell can assign to: a letter or `_`, then letters, digits and `_`. -/
def isIdentifier (name : String) : Bool :=
  match name.toList with
  | [] => false
  | c :: rest => (c.isAlpha || c == '_') && rest.all fun c => c.isAlphanum || c == '_'

/-- What the reader stands in. -/
inductive Quoting where
  | plain | single | double | comment
  deriving DecidableEq, Repr

/-- What has been read: whole commands, the whole words of the next one, and the word that has begun,
which may still be empty. -/
structure Reader where
  commands : List (List String) := []
  words : List String := []
  word? : Option (List Char) := none
  quoting : Quoting := .plain
  deriving DecidableEq, Repr

namespace Reader

def inside (r : Reader) (q : Quoting) : Reader := { r with quoting := q }

def grow (r : Reader) (cs : List Char) : Reader := { r with word? := some (r.word?.getD [] ++ cs) }

def endWord (r : Reader) : Reader :=
  match r.word? with
  | some w => { r with words := r.words ++ [String.ofList w], word? := none }
  | none => r

def endCommand (r : Reader) : Reader :=
  if r.endWord.words.isEmpty then r.endWord
  else { r.endWord with commands := r.commands ++ [r.endWord.words], words := [] }

/-- Takes a character in. What a shell would expand or run on its own is refused. -/
def step (r : Reader) (c : Char) : Option Reader :=
  match r.quoting with
  | .plain =>
    if c = '\n' then some r.endCommand
    else if c = ' ' ∨ c = '\t' then some r.endWord
    else if c = '\x27' then some ((r.grow []).inside .single)
    else if c = '\x22' then some ((r.grow []).inside .double)
    else if c = '#' ∧ r.word? = none then some (r.inside .comment)
    else if c ∈ operators then none
    else some (r.grow [c])
  | .single => some (if c = '\x27' then r.inside .plain else r.grow [c])
  | .double =>
    if c = '\x22' then some (r.inside .plain)
    else if c ∈ expansions then none
    else some (r.grow [c])
  | .comment => some (if c = '\n' then (r.inside .plain).endCommand else r)

/-- Takes a text in. -/
def reads (r : Reader) (text : List Char) : Option Reader := text.foldlM step r

/-- The commands of a text that is over. -/
def finish (r : Reader) : Option (List (List String)) :=
  match r.quoting with
  | .single | .double => none
  | .plain | .comment => some r.endCommand.commands

end Reader

/-- The commands of a text, each as its words. -/
def read (text : String) : Option (List (List String)) :=
  (Reader.reads {} text.toList).bind Reader.finish

namespace Reader
variable {r : Reader} {text text' word word' : List Char} {c : Char}

theorem reads_cons : r.reads (c :: text) = (r.step c).bind fun r' => r'.reads text := rfl

theorem reads_append : r.reads (text ++ text') = (r.reads text).bind fun r' => r'.reads text' :=
  List.foldlM_append

theorem grow_grow : (r.grow word).grow word' = r.grow (word ++ word') := by
  simp [grow, List.append_assoc]

@[simp] theorem inside_inside {q q' : Quoting} : (r.inside q).inside q' = r.inside q' := rfl

theorem inside_self {q : Quoting} (h : r.quoting = q) : r.inside q = r := by
  subst h; rfl

/-! ## Quoted words -/

theorem ne_of_isPlain {d : Char} (hd : isPlain d = false) (h : isPlain c) : c ≠ d := by
  rintro rfl
  rw [hd] at h
  cases h

theorem not_mem_operators (h : isPlain c) : c ∉ operators := by
  intro hc
  have hall : operators.all (!isPlain ·) = true := rfl
  have hc' := List.all_eq_true.1 hall c hc
  rw [h] at hc'
  cases hc'

theorem step_plain (hr : r.quoting = .plain) (h : isPlain c) : r.step c = some (r.grow [c]) := by
  have hne : ∀ d, isPlain d = false → c ≠ d := fun d hd => ne_of_isPlain hd h
  simp only [step, hr, hne '\n' (by decide), hne ' ' (by decide), hne '\t' (by decide),
    hne '\x27' (by decide), hne '\x22' (by decide), hne '#' (by decide), not_mem_operators h, or_self,
    false_and, if_false]

theorem reads_plain (hr : r.quoting = .plain) (hne : word ≠ []) (hw : ∀ c ∈ word, isPlain c) :
    r.reads word = some (r.grow word) := by
  induction word generalizing r with
  | nil => exact absurd rfl hne
  | cons c word ih =>
    rw [reads_cons, step_plain hr (hw c (by simp)), Option.bind_some]
    by_cases hword : word = []
    · subst hword; rfl
    · rw [ih (r := r.grow [c]) hr hword fun d hd => hw d (List.mem_cons_of_mem _ hd), grow_grow]
      rfl

/-- A single quote inside single quotes: they are closed, it is put between double ones, and they are
opened again. -/
theorem reads_quoteSpelling :
    (r.inside .single).reads quoteSpelling = some ((r.grow ['\x27']).inside .single) := by
  simp [quoteSpelling, reads, step, grow, inside, expansions]

theorem reads_quoteChar :
    (r.inside .single).reads (quoteChar c) = some ((r.grow [c]).inside .single) := by
  by_cases hc : c = '\x27'
  · rw [quoteChar, if_pos hc, hc, reads_quoteSpelling]
  · rw [quoteChar, if_neg hc]
    simp [reads, step, grow, inside, hc]

/-- The invariant of the reading between single quotes: the word is what has been read of it. -/
theorem reads_flatMap_quoteChar :
    ((r.grow []).inside .single).reads (word.flatMap quoteChar) =
      some ((r.grow word).inside .single) := by
  induction word generalizing r with
  | nil => rfl
  | cons c word ih =>
    have hrest := ih (r := r.grow [c])
    rw [grow_grow, List.append_nil, grow_grow] at hrest
    rw [List.flatMap_cons, reads_append, reads_quoteChar, Option.bind_some, grow_grow]
    exact hrest

end Reader

open Reader

/-- Wherever a word may go on, the text is read as these characters of it. -/
def Spells (text : List Char) (word : String) : Prop :=
  ∀ r : Reader, r.quoting = .plain → r.reads text = some (r.grow word.toList)

section Spells
variable {text text' : List Char} {word word' : String}

theorem spells_plain (word : String) (hne : word ≠ "") (hw : word.toList.all isPlain) :
    Spells word.toList word :=
  fun _ hr => reads_plain hr (fun e => hne (String.toList_eq_nil_iff.1 e)) (List.all_eq_true.1 hw)

theorem Spells.append (h : Spells text word) (h' : Spells text' word') :
    Spells (text ++ text') (word ++ word') := by
  intro r hr
  rw [reads_append, h r hr, Option.bind_some, h' (r.grow _) hr, grow_grow, String.toList_append]

/-- Between single quotes every character but the quote stands for itself. -/
theorem spells_singleQuoted (word : String) :
    Spells ('\x27' :: word.toList.flatMap quoteChar ++ ['\x27']) word := by
  intro r hr
  have hopen : r.step '\x27' = some ((r.grow []).inside .single) := by simp [step, hr]
  have hclose : ((r.grow word.toList).inside .single).step '\x27' = some (r.grow word.toList) := by
    show some (((r.grow _).inside .single).inside .plain) = _
    rw [inside_inside, inside_self (r := r.grow _) hr]
  rw [List.cons_append, reads_cons, hopen, Option.bind_some, reads_append, reads_flatMap_quoteChar,
    Option.bind_some, reads_cons, hclose]
  rfl

theorem spells_quote (word : String) : Spells (quote word).toList word := by
  rw [quote, String.toList_ofList, quoteChars]
  split
  · next h =>
    have hquoted := spells_singleQuoted word
    rwa [List.isEmpty_iff.1 h] at hquoted
  · next h =>
    split
    · next hplain =>
      exact spells_plain word (fun e => h (by simp [e])) hplain
    · exact spells_singleQuoted word

end Spells

/-! ## Lines -/

def Reader.after (commands : List (List String)) : Reader := { commands }

/-- The text, between two commands, is read as these commands. -/
def Holds (text : List Char) (commands : List (List String)) : Prop :=
  ∀ before, (after before).reads text = some (after (before ++ commands))

section Holds
variable {text text' : List Char} {commands commands' : List (List String)}

theorem Holds.append (h : Holds text commands) (h' : Holds text' commands') :
    Holds (text ++ text') (commands ++ commands') := by
  intro before
  rw [reads_append, h, Option.bind_some, h', List.append_assoc]

theorem read_eq_some {s : String} (h : Holds s.toList commands) : read s = some commands := by
  have hrun : ({} : Reader).reads s.toList = some (after commands) := h []
  rw [read, hrun, Option.bind_some]
  rfl

theorem holds_empty : Holds ['\n'] [] := by
  intro before
  simp [reads, step, after, endCommand, endWord]

theorem holds_comment (hn : '\n' ∉ text) : Holds ('#' :: text ++ ['\n']) [] := by
  have hskip : ∀ r : Reader, r.quoting = .comment → r.reads text = some r := by
    intro r hr
    induction text with
    | nil => rfl
    | cons c text ih =>
      have hc : c ≠ '\n' := fun e => hn (by simp [e])
      have hstep : r.step c = some r := by simp [step, hr, hc]
      rw [reads_cons, hstep, Option.bind_some]
      exact ih fun h => hn (List.mem_cons_of_mem _ h)
  intro before
  have hopen : (after before).step '#' = some ((after before).inside .comment) := by
    simp [step, after]
  rw [List.cons_append, reads_cons, hopen, Option.bind_some, reads_append, hskip _ rfl,
    Option.bind_some, List.append_nil]
  rfl

/-- Further words of a command, up to the end of its line. -/
theorem reads_words {texts : List (List Char)} {words : List String}
    (h : List.Forall₂ Spells texts words) (before : List (List String)) (begun : List String)
    (word : List Char) :
    ({ commands := before, words := begun, word? := some word } : Reader).reads
        (texts.flatMap (' ' :: ·) ++ ['\n']) =
      some (after (before ++ [begun ++ String.ofList word :: words])) := by
  induction h generalizing begun word with
  | nil => simp [reads, step, endCommand, endWord, after]
  | @cons text next texts words hnext _ ih =>
    have hrest := ih (begun ++ [String.ofList word]) next.toList
    rw [String.ofList_toList, List.append_assoc, List.singleton_append] at hrest
    rw [List.flatMap_cons, List.append_assoc, List.cons_append, reads_cons]
    simp only [step, endWord, Char.reduceEq, if_false, true_or, if_true, Option.bind_some]
    rw [reads_append, hnext _ rfl, Option.bind_some]
    exact hrest

theorem holds_line {texts : List (List Char)} {word : String} {words : List String}
    (h : Spells text word) (hs : List.Forall₂ Spells texts words) :
    Holds (text ++ texts.flatMap (' ' :: ·) ++ ['\n']) [word :: words] := by
  intro before
  have hrest := reads_words hs before [] word.toList
  rw [String.ofList_toList, List.nil_append] at hrest
  rw [List.append_assoc, reads_append, h _ rfl, Option.bind_some]
  exact hrest

end Holds

end ContainerLaunch.Shell
