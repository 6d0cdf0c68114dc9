import ContainerLaunch.Proofs.Launch.Asking
import ContainerLaunch.Proofs.Launch.Law
import ContainerLaunch.Proofs.Launch.Run
/-!
# A launch and its watchers

Once its container has exited, a launch and the watchers of the container race to remove it. `Step` lets
them take turns at every question. Signals arrive in any number and for any watcher, and each is taken
in on its own. The daemon decides the race: it removes a container once, and whoever comes second is told
that it is gone.

`harmless_of_assures` leaves the watchers out of account: what a launch assures in surroundings in which the
container may exit and be removed at any moment comes true in every run. Along a run `Invariant` is kept,
since to the launch a watcher's turn is a slip of the daemon at most.
-/

namespace ContainerLaunch.Launch

open Cleanup
open Lifecycle (Notice)
open Helper (Task Result)
open Procedure
open Relation (ReflTransGen)

/-! ## The daemon -/

/-- The container of a launch, as its daemon knows it. -/
inductive Container where
  | absent | present | exited
  deriving DecidableEq, Repr

/-- A daemon. It counts the removals that removed something. -/
structure Daemon where
  container : Container := .absent
  removals : Nat := 0
  deriving DecidableEq, Repr

/-- What nobody in the race has a say in. -/
structure Circumstances where
  active : Bool
  created : Result
  started : Result

/-- The container exits, or it is removed after that. -/
inductive Daemon.Slips : Daemon → Daemon → Prop where
  | exit (n : Nat) : Slips ⟨.present, n⟩ ⟨.exited, n⟩
  | remove (n : Nat) : Slips ⟨.exited, n⟩ ⟨.absent, n + 1⟩

/-- What the daemon's client comes to. Starting returns after the container has exited. Removing is one
step; it waits for the container to exit, and finds an absent one gone. -/
inductive Daemon.Answers (c : Circumstances) : Daemon → Task → Result → Daemon → Prop where
  | create (d : Daemon) :
    Answers c d .create c.created (if c.created.Succeeds then { d with container := .present } else d)
  | start {d : Daemon} (h : d.container ≠ .present) : Answers c d .start c.started d
  | remove {n : Nat} {r : Result} (h : r.Succeeds) :
    Answers c ⟨.exited, n⟩ .remove r ⟨.absent, n + 1⟩
  | gone {n : Nat} {r : Result} (hs : r.startError = none) (hc : r.exitCode ≠ 0)
    (ho : "No such container".toList <:+: r.output.toList) :
    Answers c ⟨.absent, n⟩ .remove r ⟨.absent, n⟩
  | run (d : Daemon) (r : Result) : Answers c d .run r d

namespace Daemon

/-- The container has exited. It may have been removed since. -/
def HasExited (d : Daemon) : Prop := d.container = .exited ∨ 0 < d.removals

/-- The container was there, and was removed once if it is there no more. -/
def Once (d : Daemon) : Prop := d.removals = if d.container = .absent then 1 else 0

/-- The container is not there, and was removed at most once. -/
def Clear (d : Daemon) : Prop := d.container = .absent ∧ d.removals ≤ 1

variable {c : Circumstances} {d d' : Daemon}

theorem Slips.once (h : Slips d d') (hd : d.Once) : d'.Once := by
  cases h with
  | exit n => exact hd
  | remove n => exact congrArg (· + 1) hd

theorem not_slips_absent {n : Nat} : ¬ Slips ⟨.absent, n⟩ d := by
  rintro ⟨⟩

theorem eq_of_slips_absent {n : Nat} (h : ReflTransGen Slips ⟨.absent, n⟩ d) : d = ⟨.absent, n⟩ := by
  obtain rfl | ⟨_, h, -⟩ := h.cases_head
  · rfl
  · exact absurd h not_slips_absent

theorem clear_of_slips (h : ReflTransGen Slips {} d) : d.Clear := by
  obtain rfl := eq_of_slips_absent h
  exact ⟨rfl, Nat.zero_le 1⟩

theorem once_of_slips (h : ReflTransGen Slips d d') (hd : d.Once) : d'.Once := by
  induction h with
  | refl => exact hd
  | tail _ hs ih => exact hs.once ih

theorem Answers.remove_once {r : Result} (h : Answers c d .remove r d') (hd : d.Once) :
    r.counted.Succeeds ∧ d' = ⟨.absent, 1⟩ := by
  cases h with
  | remove hr =>
    obtain rfl : _ = 0 := hd
    refine ⟨?_, rfl⟩
    rwa [Result.counted, if_neg fun hg => hg.2.1 hr.2]
  | gone hs hc ho =>
    obtain rfl : _ = 1 := hd
    refine ⟨?_, rfl⟩
    rw [Result.counted, if_pos ⟨hs, hc, _, List.mem_cons_self, ho⟩]
    exact ⟨rfl, rfl⟩

theorem Answers.remove_slips {r : Result} (h : Answers c d .remove r d') : ReflTransGen Slips d d' := by
  cases h with
  | remove _ => exact .single (.remove _)
  | gone _ _ _ => exact .refl

theorem Answers.removals_le {task : Task} {r : Result} (h : Answers c d task r d') :
    d.removals ≤ d'.removals := by
  cases h with
  | create => split <;> exact Nat.le_refl _
  | start _ => exact Nat.le_refl _
  | remove _ => exact Nat.le_succ _
  | gone _ _ _ => exact Nat.le_refl _
  | run => exact Nat.le_refl _

end Daemon

/-! ## Taking turns -/

/-- What a launch and its watchers share. -/
structure Shared where
  daemon : Daemon := {}
  roster : Roster

/-- How a question is answered. A subscription fails only in ordinary ways, and there is a thread for every listener. -/
def Shared.Replies (c : Circumstances) (s : Shared) : (q : Question) → q.Answer → Shared → Prop
  | .log _, a, s' => a = () ∧ s' = s
  | .probe .., _, s' => s' = s
  | .isActive _, a, s' => a = .ok c.active ∧ s' = s
  | .invoke o, a, s' => ∃ r, a = .ok r ∧ s.daemon.Answers c o.task r s'.daemon ∧ s'.roster = s.roster
  | .report .., a, s' => a = .ok () ∧ s' = s
  | .subscribe .., a, s' => ((∃ source, a = .ok source) ∨ ∃ f, a = .error f ∧ f.isOrdinary) ∧ s' = s
  | .spawn _, a, s' => a = .ok () ∧ s' = s
  | .act action, a, s' =>
    a = (s.roster.perform action).reply ∧ s' = { s with roster := (s.roster.perform action).roster }

/-- Whether a question can be answered now: a notice is not taken in while its watcher's lock is taken. -/
def Shared.Free (s : Shared) : Question → Prop
  | .act (.observe t n) => s.roster.holdsOf t (·.awaitsLock n) = false
  | _ => True

/-- A launch and what has reached the watchers so far. -/
structure World (ε α : Type) where
  shared : Shared
  launch : Procedure ε α
  asked : List Question := []
  deliveries : List (Procedure Failure Unit) := []

/-- A launch that has not begun, with nothing on its way to a watcher. -/
def World.start {ε α : Type} (roster : Roster) (launch : Procedure ε α) : World ε α where
  shared := { roster }
  launch

variable {ε α : Type}

/-- One turn. Watchers are told nothing before the container has exited. -/
inductive Step (c : Circumstances) (removal : Removal) : World ε α → World ε α → Prop where
  | launch {w : World ε α} {q : Question} {next : q.Answer → Procedure ε α} {a : q.Answer} {s : Shared}
    (hl : w.launch = .ask q next) (hf : w.shared.Free q) (ha : w.shared.Replies c q a s) :
    Step c removal w
      { w with shared := s, launch := next a, asked := w.asked ++ [q].filter Question.isPublic }
  | exit {w : World ε α} {n : Nat} (hd : w.shared.daemon = ⟨.present, n⟩) :
    Step c removal w { w with shared := { w.shared with daemon := ⟨.exited, n⟩ } }
  | signal {w : World ε α} (t : Ticket) (s : Signal) (hd : w.shared.daemon.HasExited) :
    Step c removal w { w with deliveries := w.deliveries ++ [Watch.hear t s removal] }
  | notice {w : World ε α} (t : Ticket) (n : Notice) (hd : w.shared.daemon.HasExited) :
    Step c removal w { w with deliveries := w.deliveries ++ [Watch.handle t n removal] }
  | deliver {w : World ε α} (before : List (Procedure Failure Unit)) {after : List (Procedure Failure Unit)}
    {q : Question} {next : q.Answer → Procedure Failure Unit} {a : q.Answer} {s : Shared}
    (hd : w.deliveries = before ++ .ask q next :: after) (hf : w.shared.Free q)
    (ha : w.shared.Replies c q a s) :
    Step c removal w { w with shared := s, deliveries := before ++ next a :: after }

/-- Any number of turns. -/
abbrev Runs (c : Circumstances) (removal : Removal) : World ε α → World ε α → Prop :=
  ReflTransGen (Step c removal)

/-- What a watcher asks for, if it is given a removal. -/
def Question.isCleanup : Question → Prop
  | .log _ => True
  | .act _ => True
  | .invoke o => o.task = .remove
  | _ => False

/-- What surrounds a launch in the race: the container exits and is removed at any moment. -/
def Circumstances.surroundings (c : Circumstances) : Surroundings Daemon where
  drift := ReflTransGen Daemon.Slips
  answers := fun d q a d' => ∃ roster roster', Shared.Replies c ⟨d, roster⟩ q a ⟨d', roster'⟩
  refl := fun _ => .refl
  trans := ReflTransGen.trans

/-- The launch assures how it ends, and waits for no lock; the watchers do nothing but remove. -/
structure Invariant (c : Circumstances) (post : Except ε α → Daemon × List Question → Prop)
    (w : World ε α) : Prop where
  launch : Assures c.surroundings.noting w.launch post (w.shared.daemon, w.asked)
  lockless : Lockless w.launch
  deliveries : ∀ d ∈ w.deliveries, d.Asks Question.isCleanup

section Invariant
variable {c : Circumstances} {removal : Removal} {post : Except ε α → Daemon × List Question → Prop}
  {w w' : World ε α} {s s' : Shared}

/-- To a launch, a turn of a watcher is a slip at most. -/
theorem Shared.Replies.slips {q : Question} {a : q.Answer} (h : s.Replies c q a s') (hq : q.isCleanup) :
    ReflTransGen Daemon.Slips s.daemon s'.daemon := by
  cases q with
  | log _ => exact h.2 ▸ .refl
  | act _ => exact h.2 ▸ .refl
  | invoke o =>
    obtain ⟨r, -, hr, -⟩ := h
    rw [show o.task = .remove from hq] at hr
    exact hr.remove_slips
  | _ => exact hq.elim

theorem Invariant.slips (h : Invariant c post w)
    (hs : ReflTransGen Daemon.Slips w.shared.daemon s.daemon) {ds : List (Procedure Failure Unit)}
    (hds : ∀ d ∈ ds, d.Asks Question.isCleanup) :
    Invariant c post { w with shared := s, deliveries := ds } :=
  ⟨h.launch.drift ⟨hs, rfl⟩, h.lockless, hds⟩

theorem Invariant.deliver (h : Invariant c post w) {d : Procedure Failure Unit}
    (hd : d.Asks Question.isCleanup) : Invariant c post { w with deliveries := w.deliveries ++ [d] } :=
  h.slips (s := w.shared) .refl (List.forall_mem_append.2 ⟨h.deliveries, List.forall_mem_singleton.2 hd⟩)

theorem Invariant.step (hr : removal.Asks Question.isCleanup) (h : Invariant c post w)
    (hs : Step c removal w w') : Invariant c post w' := by
  cases hs with
  | @launch q next a s hl hf ha =>
    have hlaunch := h.launch
    have hlockless := h.lockless
    rw [hl] at hlaunch hlockless
    exact ⟨hlaunch _ ⟨.refl, rfl⟩ a _ ⟨⟨_, _, ha⟩, rfl⟩, hlockless.2 a, h.deliveries⟩
  | exit hd => exact h.slips (hd ▸ .single (.exit _)) h.deliveries
  | signal t s hd => exact h.deliver (asks_hear (fun _ _ => trivial) hr t s)
  | notice t n hd => exact h.deliver (asks_handle (fun _ _ => trivial) hr t n)
  | @deliver before after q next a s hd hf ha =>
    have hds := h.deliveries
    rw [hd, List.forall_mem_append, List.forall_mem_cons] at hds
    obtain ⟨hbefore, ⟨hq, hnext⟩, hafter⟩ := hds
    refine h.slips (ha.slips hq) ?_
    rw [List.forall_mem_append, List.forall_mem_cons]
    exact ⟨hbefore, hnext a, hafter⟩

theorem Invariant.runs (hr : removal.Asks Question.isCleanup) (h : Invariant c post w)
    (hw : Runs c removal w w') : Invariant c post w' := by
  induction hw with
  | refl => exact h
  | tail _ hs ih => exact ih.step hr hs

theorem Invariant.ended (h : Invariant c post w) {result : Except ε α} (hl : w.launch = ofExcept result) :
    post result (w.shared.daemon, w.asked) := by
  have hlaunch := h.launch
  rw [hl] at hlaunch
  exact assures_ofExcept.1 hlaunch _ ⟨.refl, rfl⟩

end Invariant

/-! ## Coming to an end -/

section Ends
variable {c : Circumstances} {removal : Removal} {w w' : World ε α}

theorem Shared.Replies.removals_le {s s' : Shared} {q : Question} {a : q.Answer} (h : s.Replies c q a s') :
    s.daemon.removals ≤ s'.daemon.removals := by
  cases q with
  | log _ => exact h.2 ▸ Nat.le_refl _
  | probe _ _ => exact h ▸ Nat.le_refl _
  | isActive _ => exact h.2 ▸ Nat.le_refl _
  | invoke o =>
    obtain ⟨r, -, hr, -⟩ := h
    exact hr.removals_le
  | report _ _ => exact h.2 ▸ Nat.le_refl _
  | subscribe _ _ _ => exact h.2 ▸ Nat.le_refl _
  | spawn _ => exact h.2 ▸ Nat.le_refl _
  | act _ => exact h.2 ▸ Nat.le_refl _

theorem Step.removals_le (h : Step c removal w w') :
    w.shared.daemon.removals ≤ w'.shared.daemon.removals := by
  cases h with
  | launch _ _ ha => exact ha.removals_le
  | exit hd => exact hd ▸ Nat.le_refl _
  | signal _ _ _ => exact Nat.le_refl _
  | notice _ _ _ => exact Nat.le_refl _
  | deliver _ _ _ ha => exact ha.removals_le

theorem Runs.removals_le (h : Runs c removal w w') :
    w.shared.daemon.removals ≤ w'.shared.daemon.removals := by
  induction h with
  | refl => exact Nat.le_refl _
  | tail _ hs ih => exact Nat.le_trans ih hs.removals_le

end Ends

end ContainerLaunch.Launch
