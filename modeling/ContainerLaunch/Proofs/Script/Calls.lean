import ContainerLaunch.Proofs.Script.RoundTrip
import ContainerLaunch.Script.Delivery
/-!
# What a failed call leaves in a script

The calls that add to a script take values of any kind, and what a line needs of a value may fail to come about. A
call is tidy if it leaves the text as it is when it fails, and adds whole lines to its end when it succeeds (`Tidy`).

An export and a command have their line ready before they add it. A link adds the line that makes its directory
before it knows that its own line can be made. So a call is tidy unless it is a link that fails there, and then that
one line is left behind (`tidy_calls_iff`).

`Wording` stands for what comes of values, whatever they are, and `Call.run` goes by it alone. The calls of the
library are its case of JSON values (`Call.perform_eq_run`).
-/

namespace ContainerLaunch.Script

variable {α ε : Type}

/-! ## Values -/

/-- What the lines of a script need of values of some kind. Any of it may fail, for each value in another way. -/
structure Wording (α ε : Type) where
  /-- The value as it stands. -/
  text : α → Except ε String
  /-- The value quoted for a shell. -/
  word : α → Except ε String
  /-- The directory that a path lies in. -/
  directory : α → Except ε α
  /-- Whether a directory has a name. -/
  isGiven : α → Except ε Bool
  /-- The words of a command with single blanks between them. -/
  joined : α → Except ε String

namespace Wording

/-- Values of any kind, which may be refused. -/
def json : Wording Json ScriptError where
  text value := .ok value.text
  word := quoteValue
  directory
    | .str path => .ok (.str (Path.directory path))
    | value => .error (.notPath value.kind)
  isGiven value := .ok value.isTruthy
  joined := commandText

variable (w : Wording α ε)

/-- The line that exports a variable. -/
def exportLine (key value : α) : Except ε String := do
  let name ← w.text key
  let word ← w.word value
  return "export " ++ name ++ "=" ++ word

/-- The line that makes the directory of a link, if its name has one. -/
def directoryLine? (link : α) : Except ε (Option String) := do
  let directory ← w.directory link
  if ← w.isGiven directory then
    let word ← w.word directory
    return some ("mkdir -p " ++ word)
  else return none

/-- The line that makes a link. -/
def linkLine (path link : α) : Except ε String := do
  let word ← w.word path
  let name ← w.word link
  return "ln -sf " ++ word ++ " " ++ name

/-- The line that runs the command. -/
def execLine (argv : α) : Except ε String := do
  let text ← w.joined argv
  return "exec /bin/bash -c " ++ Shell.quote text

end Wording

/-! ## Calls -/

/-- A call on a script under construction. -/
inductive Call (α : Type) where
  | env (key value : α)
  | symlink (path link : α)
  | command (argv : α)
  | write (sink : Sink)

/-- What goes wrong in a call: a value is refused, or the script cannot be written. -/
inductive CallError (ε : Type) where
  | value (e : ε)
  | write (e : DeliveryError)

/-- Adds the line, unless making it went wrong. -/
def add (s : Script) : Except ε String → Script × Option (CallError ε)
  | .ok line => (s.push line, none)
  | .error e => (s, some (.value e))

/-- The outcome of a call that can only fail because of its values. -/
def told (o : Script × Option ε) : Script × Option (CallError ε) := (o.1, o.2.map .value)

namespace Call

/-- The script after a call, and what went wrong in it. -/
def run (w : Wording α ε) (s : Script) : Call α → Script × Option (CallError ε)
  | .env key value => s.add (w.exportLine key value)
  | .symlink path link =>
    match w.directoryLine? link with
    | .ok none => s.add (w.linkLine path link)
    | .ok (some line) => (s.push line).add (w.linkLine path link)
    | .error e => (s, some (.value e))
  | .command argv => s.add (w.execLine argv)
  | .write sink => (s, (s.writeTo sink).2.map .write)

/-- What the library makes of a call on JSON values. -/
def perform (s : Script) : Call Json → Script × Option (CallError ScriptError)
  | .env key value => told (s.env key value)
  | .symlink path link => told (s.symlink path link)
  | .command argv => told (s.command argv)
  | .write sink => (s, (s.writeTo sink).2.map .write)

/-- The lines that a call is made for. -/
def lines (w : Wording α ε) : Call α → Except ε (List String)
  | .env key value => (w.exportLine key value).map ([·])
  | .symlink path link => do
    let directory ← w.directoryLine? link
    let line ← w.linkLine path link
    return directory.toList ++ [line]
  | .command argv => (w.execLine argv).map ([·])
  | .write _ => .ok []

/-- Of the lines of a link, the one that makes its directory can be made, and the other one cannot. -/
def HalfDone (w : Wording α ε) (c : Call α) (line : String) (e : ε) : Prop :=
  ∃ path link, c = .symlink path link ∧ w.directoryLine? link = .ok (some line) ∧ w.linkLine path link = .error e

/-- How a call goes: the lines that it adds, and what it fails with. -/
inductive Course (w : Wording α ε) (s : Script) (c : Call α) : List String → Option (CallError ε) → Prop where
  | done {added} (h : c.lines w = .ok added) : Course w s c added none
  | unmade {e} (h : c.lines w = .error e) : Course w s c [] (some (.value e))
  | unwritten {sink e} (hc : c = .write sink) (he : (s.writeTo sink).2 = some e) : Course w s c [] (some (.write e))
  | halfDone {line e} (h : c.HalfDone w line e) : Course w s c [line] (some (.value e))

end Call

/-! ## Lines at the end -/

def pushAll (s : Script) (added : List String) : Script := ⟨s.lines ++ added⟩

/-- The text of lines, each of them ended. -/
def ended : List String → String
  | [] => ""
  | line :: rest => line ++ "\n" ++ ended rest

theorem pushAll_nil (s : Script) : s.pushAll [] = s := by simp [pushAll]

theorem pushAll_append (s : Script) (added more : List String) :
    s.pushAll (added ++ more) = (s.pushAll added).pushAll more := by simp [pushAll]

theorem render_pushAll {s : Script} (h : s.lines ≠ []) (added : List String) :
    (s.pushAll added).render = s.render ++ ended added := by
  induction added generalizing s with
  | nil => simp [pushAll_nil, ended]
  | cons line added ih =>
    have hpush : (s.push line).lines ≠ [] := by simp [push]
    have hcons : s.pushAll (line :: added) = (s.push line).pushAll added := pushAll_append s [line] added
    rw [hcons, ih hpush, render_push h, ended, String.append_assoc]

/-! ## One call -/

/-- A call that fails leaves the text as it is, and one that succeeds adds whole lines to its end. -/
structure Tidy (s : Script) (o : Script × Option ε) : Prop where
  failed : ∀ e, o.2 = some e → o.1.render = s.render
  succeeded : o.2 = none → ∃ added, o.1.render = s.render ++ ended added

namespace Call

variable {w : Wording α ε} {s : Script} {c : Call α} {line : String} {e : ε}

theorem exists_course_of_add {made : Except ε String} (hl : c.lines w = made.map ([·])) (hr : c.run w s = s.add made) :
    ∃ added failure?, Course w s c added failure? ∧ c.run w s = (s.pushAll added, failure?) := by
  cases made with
  | ok line => exact ⟨_, _, .done hl, hr⟩
  | error e => exact ⟨_, _, .unmade hl, by rw [hr, pushAll_nil]; rfl⟩

theorem exists_course (w : Wording α ε) (s : Script) (c : Call α) :
    ∃ added failure?, Course w s c added failure? ∧ c.run w s = (s.pushAll added, failure?) := by
  cases c with
  | env key value => exact exists_course_of_add rfl rfl
  | command argv => exact exists_course_of_add rfl rfl
  | symlink path link =>
    cases hd : w.directoryLine? link with
    | error e => exact ⟨_, _, .unmade (by rw [lines, hd]; rfl), by rw [run, hd, pushAll_nil]⟩
    | ok directory =>
      cases hl : w.linkLine path link with
      | ok line =>
        refine ⟨directory.toList ++ [line], none, .done (by rw [lines, hd, hl]; rfl), ?_⟩
        rw [run, hd, hl, pushAll_append]
        cases directory with
        | none => rw [Option.toList_none, pushAll_nil]; rfl
        | some first => rfl
      | error e =>
        -- With a directory its line is there by now.
        cases directory with
        | none => exact ⟨_, _, .unmade (by rw [lines, hd, hl]; rfl), by rw [run, hd, hl, pushAll_nil]; rfl⟩
        | some first => exact ⟨_, _, .halfDone ⟨path, link, rfl, hd, hl⟩, by rw [run, hd, hl]; rfl⟩
  | write sink =>
    cases he : (s.writeTo sink).2 with
    | none => exact ⟨_, _, .done rfl, by rw [run, he, pushAll_nil]; rfl⟩
    | some e => exact ⟨_, _, .unwritten rfl he, by rw [run, he, pushAll_nil]; rfl⟩

theorem HalfDone.run_eq (h : c.HalfDone w line e) : c.run w s = (s.push line, some (.value e)) := by
  obtain ⟨path, link, rfl, hd, hl⟩ := h
  rw [run, hd, hl]
  rfl

theorem HalfDone.lines_eq (h : c.HalfDone w line e) : c.lines w = .error e := by
  obtain ⟨path, link, rfl, hd, hl⟩ := h
  rw [lines, hd, hl]
  rfl

theorem HalfDone.render_eq (hs : s.lines ≠ []) (h : c.HalfDone w line e) :
    (c.run w s).1.render = s.render ++ ended [line] := by
  rw [h.run_eq]
  exact render_pushAll hs [line]

theorem run_of_lines_eq_error (h : c.lines w = .error e) : (c.run w s).2 = some (.value e) := by
  obtain ⟨added, failure?, hcourse, hrun⟩ := exists_course w s c
  rw [hrun]
  cases hcourse with
  | done h' => cases h.symm.trans h'
  | unmade h' =>
    cases h.symm.trans h'
    rfl
  | unwritten hc _ =>
    subst hc
    cases h
  | halfDone h' =>
    cases h.symm.trans h'.lines_eq
    rfl

theorem render_of_succeeded (hs : s.lines ≠ []) (h : (c.run w s).2 = none) :
    ∃ added, c.lines w = .ok added ∧ (c.run w s).1.render = s.render ++ ended added := by
  obtain ⟨added, failure?, hcourse, hrun⟩ := exists_course w s c
  rw [hrun] at h ⊢
  cases hcourse with
  | done hl => exact ⟨added, hl, render_pushAll hs added⟩
  | unmade _ | unwritten _ _ | halfDone _ => cases h

theorem tidy_run_iff (hs : s.lines ≠ []) : Tidy s (c.run w s) ↔ ¬ ∃ line e, c.HalfDone w line e := by
  constructor
  · -- The line that is left behind is not empty: it is ended.
    rintro h ⟨line, e, hhalf⟩
    have hsame : s.render ++ ended [line] = s.render :=
      (hhalf.render_eq hs).symm.trans (h.failed (.value e) (by rw [hhalf.run_eq]))
    simp [ended] at hsame
  · intro hno
    refine ⟨fun failure hfailure => ?_, fun h => ?_⟩
    · obtain ⟨added, failure?, hcourse, hrun⟩ := exists_course w s c
      rw [hrun] at hfailure ⊢
      cases hcourse with
      | done _ => cases hfailure
      | unmade _ | unwritten _ _ => rw [pushAll_nil]
      | halfDone h => exact absurd ⟨_, _, h⟩ hno
    · obtain ⟨added, -, hrender⟩ := render_of_succeeded hs h
      exact ⟨added, hrender⟩

end Call

/-! ## Many calls -/

/-- The script after calls, whether they fail or not. -/
def after (s : Script) (step : Script → Call α → Script × Option (CallError ε)) (calls : List (Call α)) : Script :=
  calls.foldl (fun s c => (step s c).1) s

/-- Calls only ever add lines. -/
theorem exists_after_eq (w : Wording α ε) (s : Script) (calls : List (Call α)) :
    ∃ added, s.after (Call.run w) calls = s.pushAll added := by
  induction calls generalizing s with
  | nil => exact ⟨[], (pushAll_nil s).symm⟩
  | cons c calls ih =>
    obtain ⟨first, failure?, -, hrun⟩ := Call.exists_course w s c
    obtain ⟨rest, hrest⟩ := ih (s.pushAll first)
    refine ⟨first ++ rest, ?_⟩
    rw [pushAll_append, ← hrest, after, List.foldl_cons, hrun]
    rfl

theorem lines_after_ne_nil (w : Wording α ε) (calls : List (Call α)) :
    (empty.after (Call.run w) calls).lines ≠ [] := by
  obtain ⟨added, h⟩ := exists_after_eq w empty calls
  rw [h]
  exact List.cons_ne_nil _ _

/-! ## JSON values -/

section Json
variable {s : Script} {value path link : Json} {name : String}

theorem exportLine_json (key value : Json) : Wording.json.exportLine key value =
    (quoteValue value).map fun word => "export " ++ key.text ++ "=" ++ word := by
  cases h : quoteValue value <;>
    simp [Wording.exportLine, Wording.json, h, bind, Except.bind, pure, Except.pure, Except.map]

theorem execLine_json (argv : Json) : Wording.json.execLine argv =
    (commandText argv).map fun text => "exec /bin/bash -c " ++ Shell.quote text := by
  cases h : commandText argv <;>
    simp [Wording.execLine, Wording.json, h, bind, Except.bind, pure, Except.pure, Except.map]

theorem linkLine_json (path : Json) (name : String) : Wording.json.linkLine path (.str name) =
    (quoteValue path).map fun word => "ln -sf " ++ word ++ " " ++ Shell.quote name := by
  cases h : quoteValue path <;>
    simp [Wording.linkLine, Wording.json, h, bind, Except.bind, pure, Except.pure, Except.map]

theorem directoryLine?_json (name : String) : Wording.json.directoryLine? (.str name) =
    .ok (if Path.directory name = "" then none else some (makeDirectoryLine (Path.directory name))) := by
  by_cases h : Path.directory name = "" <;>
    simp [Wording.directoryLine?, Wording.json, Json.isTruthy, h, bind, Except.bind, pure, Except.pure, makeDirectoryLine]

theorem directoryLine?_json_of_ne (h : link.kind ≠ .str) :
    Wording.json.directoryLine? link = .error (.notPath link.kind) := by
  cases link with
  | str name => exact absurd rfl h
  | _ => rfl

theorem symlink_of_ne (h : link.kind ≠ .str) : s.symlink path link = (s, some (.notPath link.kind)) := by
  cases link with
  | str name => exact absurd rfl h
  | _ => rfl

theorem makeParent_eq (s : Script) (name : String) : s.makeParent name =
    if Path.directory name = "" then s else s.push (makeDirectoryLine (Path.directory name)) := by
  simp [makeParent]

theorem told_symlink_str (s : Script) (path : Json) (name : String) :
    told (s.symlink path (.str name)) = (s.makeParent name).add (Wording.json.linkLine path (.str name)) := by
  rw [linkLine_json, Script.symlink]
  generalize s.makeParent name = s'
  cases quoteValue path <;> rfl

theorem Call.perform_eq_run : Call.perform = Call.run .json := by
  funext s c
  cases c with
  | write sink => rfl
  | env key value =>
    rw [perform, run, exportLine_json, Script.env]
    cases quoteValue value <;> rfl
  | command argv =>
    rw [perform, run, execLine_json, Script.command]
    cases commandText argv <;> rfl
  | symlink path link =>
    rw [perform, run]
    by_cases hk : link.kind = .str
    · cases link with
      | str name =>
        rw [told_symlink_str, directoryLine?_json, makeParent_eq]
        by_cases hd : Path.directory name = ""
        · rw [if_pos hd, if_pos hd]
        · rw [if_neg hd, if_neg hd]
      | _ => cases hk
    · rw [symlink_of_ne hk, directoryLine?_json_of_ne hk]
      rfl

theorem quoteValue_of_ne (h : value.kind ≠ .str) :
    quoteValue value = if value.isTruthy then .error (.notText value.kind) else .ok (Shell.quote "") := by
  cases value with
  | str _ => exact absurd rfl h
  | _ => rfl

theorem exists_quoteValue_eq_error_iff : (∃ e, quoteValue value = .error e) ↔ value.kind ≠ .str ∧ value.isTruthy := by
  by_cases hk : value.kind = .str
  · cases value with
    | str _ => simp [hk]
    | _ => cases hk
  · rw [quoteValue_of_ne hk]
    by_cases ht : value.isTruthy <;> simp [hk, ht]

theorem exists_linkLine_json_eq_error_iff :
    (∃ e, Wording.json.linkLine path (.str name) = .error e) ↔ path.kind ≠ .str ∧ path.isTruthy := by
  rw [linkLine_json, ← exists_quoteValue_eq_error_iff]
  cases quoteValue path <;> simp [Except.map]

/-- A link is half done if its name has a directory and its path counts as given, but is no text. -/
theorem exists_halfDone_json_iff {c : Call Json} : (∃ line e, c.HalfDone .json line e) ↔
    ∃ path name, c = .symlink path (.str name) ∧ Path.directory name ≠ "" ∧ path.kind ≠ .str ∧ path.isTruthy := by
  constructor
  · rintro ⟨line, e, path, link, rfl, hd, hl⟩
    by_cases hk : link.kind = .str
    · cases link with
      | str name =>
        refine ⟨path, name, rfl, fun hempty => ?_, exists_linkLine_json_eq_error_iff.1 ⟨e, hl⟩⟩
        rw [directoryLine?_json, if_pos hempty] at hd
        cases hd
      | _ => cases hk
    · rw [directoryLine?_json_of_ne hk] at hd
      cases hd
  · rintro ⟨path, name, rfl, hd, hpath⟩
    obtain ⟨e, hl⟩ := exists_linkLine_json_eq_error_iff.2 hpath
    exact ⟨_, e, path, .str name, rfl, by rw [directoryLine?_json, if_neg hd], hl⟩

end Json

/-! ## What it comes to -/

/-- What a call does to a script. -/
structure Reckoned (w : Wording α ε) (s : Script) (c : Call α) : Prop where
  tidy_iff : Tidy s (c.run w s) ↔ ¬ ∃ line e, c.HalfDone w line e
  /-- What is added are the lines that the call is made for, all of them. -/
  succeeded : (c.run w s).2 = none → ∃ added, c.lines w = .ok added ∧ (c.run w s).1.render = s.render ++ ended added
  unmade : ∀ e, c.lines w = .error e → (c.run w s).2 = some (.value e)
  /-- The one line that is left behind. -/
  halfDone : ∀ line e, c.HalfDone w line e → (c.run w s).1.render = s.render ++ ended [line]
  /-- What is there stays there, whatever is called later. -/
  kept : ∀ later, ∃ added, (s.after (Call.run w) (c :: later)).render = s.render ++ ended added

/-- Whatever has been called before, and whether it failed: a call is tidy unless it leaves a link half done. With the
library's calls on JSON values this is a link into a directory whose path counts as given, but is no text. -/
theorem tidy_calls_iff :
    (∀ (w : Wording α ε) (earlier : List (Call α)) (c : Call α), Reckoned w (empty.after (Call.run w) earlier) c) ∧
      ∀ (earlier : List (Call Json)) (c : Call Json),
        Tidy (empty.after Call.perform earlier) (c.perform (empty.after Call.perform earlier)) ↔
          ¬ ∃ path name, c = .symlink path (.str name) ∧ Path.directory name ≠ "" ∧ path.kind ≠ .str ∧ path.isTruthy := by
  constructor
  · intro w earlier c
    have hs : (empty.after (Call.run w) earlier).lines ≠ [] := lines_after_ne_nil w earlier
    constructor
    case tidy_iff => exact Call.tidy_run_iff hs
    case succeeded => exact Call.render_of_succeeded hs
    case unmade => exact fun e => Call.run_of_lines_eq_error
    case halfDone => exact fun line e h => h.render_eq hs
    case kept =>
      intro later
      obtain ⟨added, h⟩ := exists_after_eq w (empty.after (Call.run w) earlier) (c :: later)
      exact ⟨added, by rw [h, render_pushAll hs]⟩
  · intro earlier c
    rw [Call.perform_eq_run, ← exists_halfDone_json_iff]
    exact Call.tidy_run_iff (lines_after_ne_nil .json earlier)

/-- The line that makes `conf` stays although the call fails. -/
theorem not_tidy_symlink_number : ¬ Tidy empty (empty.symlink (.int 5) (.str "conf/job.xml")) := by
  intro h
  have hsame := h.failed (.notText .int) rfl
  revert hsame
  decide

end ContainerLaunch.Script
