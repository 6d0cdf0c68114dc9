import ContainerLaunch.Proofs.Lifecycle.Drain
import ContainerLaunch.Proofs.Lifecycle.Journal
import Mathlib.Data.Int.Order.Basic
import Mathlib.Logic.Relation
/-!
# Nothing is missed between requests

A `Hearing` is a session with what was heard so far. Its reader takes one step after the other; the daemon
answers each request from its journal, and may refuse it or cut its reply anywhere. The feed may be closed at
any time. `gapless_of_hears` says what holds of the rounds of any hearing.
-/

namespace ContainerLaunch.Lifecycle

open Relation (ReflTransGen)

universe u

/-- A session and the rounds in which something was heard, the latest first. -/
structure Hearing where
  session : Session
  rounds : List Round := []

namespace Hearing

/-- A feed that nobody has read. -/
def start (feed : Feed) (replies : List Reply) : Hearing where
  session := { feed, replies }

/-- A notice that arrives is heard in the latest round. -/
def heard : Option Arrival → List Round → List Round
  | some (.notice n), r :: rounds => { r with notices := r.notices ++ [n] } :: rounds
  | _, rounds => rounds

/-- The hearing after a step of the reader: each request begins a round. -/
def after (h : Hearing) (p : Progress) : Hearing where
  session := p.session
  rounds := heard p.arrival? (p.requests.map (fun since => ⟨since, []⟩) ++ h.rounds)

variable {α : Type u} [LinearOrder α]

/-- The reply that the reader is about to take is an answer to its request. -/
def Answered (j : Journal α) (s : Session) : Prop :=
  ∀ {begunAt since reply rest}, s.reader = .asking begunAt since → s.replies = reply :: rest →
    j.Answers since reply

theorem answered_of_ne {j : Journal α} {s : Session}
    (hs : ∀ begunAt since, s.reader ≠ .asking begunAt since) : Answered j s :=
  fun hr _ => absurd hr (hs _ _)

/-- The reader takes a step, with a reply from the journal if it asks for one, or the feed is closed. -/
inductive Step (j : Journal α) (h : Hearing) : Hearing → Prop where
  | read (ha : Answered j h.session) : Step j h (h.after (h.session.step j.begunAt))
  | close : Step j h { h with session := h.session.close }

/-- Any number of steps. -/
abbrev Hears (j : Journal α) : Hearing → Hearing → Prop := ReflTransGen (Step j)

/-! ## The invariant -/

/-- What the reader is about to do fits what was heard. -/
def Fits (j : Journal α) (rounds : List Round) : Reader → Prop
  | .fresh => rounds = []
  | .asking begunAt since => begunAt = j.begunAt ∧ j.Resumable rounds since
  | .reading begunAt since lines _ => begunAt = j.begunAt ∧
      j.Resumable rounds (some (since.getD begunAt)) ∧ ∃ r earlier, rounds = r :: earlier ∧
        lines <+: (j.entries.drop (j.start r.since + r.notices.length)).map (·.line)
  | .finished => True

/-- The rounds are lawful, and the reader fits them. -/
structure Inv (j : Journal α) (h : Hearing) : Prop where
  lawful : j.Lawful h.rounds
  fits : Fits j h.rounds h.session.reader

section
variable {j : Journal α} {h h' : Hearing} {s : Session} {rounds : List Round} {begunAt : Binary64}
  {since : Option Binary64}

theorem inv_start (feed : Feed) (replies : List Reply) : Inv j (start feed replies) := ⟨.nil, rfl⟩

theorem inv_finish (hl : j.Lawful rounds) (a : Arrival) : Inv j ⟨(s.finish a).session, rounds⟩ :=
  ⟨hl, trivial⟩

theorem inv_receive {reply : Reply} (hl : j.Lawful rounds) (hr : j.Resumable rounds since)
    (ha : j.Answers since reply) :
    Inv j ⟨(s.receive j.begunAt since reply).session,
      heard (s.receive j.begunAt since reply).arrival? (⟨since, []⟩ :: rounds)⟩ := by
  have hl' : j.Lawful (⟨since, []⟩ :: rounds) := .cons hl hr List.nil_prefix
  cases ha with
  | refused e => cases e with
    | readTimeout => exact ⟨hl', rfl, hr.again⟩
    | other name => exact inv_finish hl' _
  | answered status ending hlines =>
    unfold Session.receive
    dsimp only
    split
    · exact ⟨hl', rfl, hr.again, _, _, rfl, hlines⟩
    · exact inv_finish hl' _

theorem Inv.ask (hv : Inv j h) (hs : h.session.reader = .asking begunAt since)
    (ha : Answered j h.session) : Inv j (h.after (h.session.ask begunAt since)) := by
  obtain ⟨hl, hf⟩ := hv
  rw [hs] at hf
  obtain ⟨rfl, hr⟩ := hf
  unfold Session.ask
  split
  · exact inv_finish hl _
  · split
    · exact inv_finish hl _
    · unfold Session.takeReply
      split
      · exact inv_finish (.cons hl hr List.nil_prefix) .stop
      · next hreplies => exact inv_receive hl hr (ha hs hreplies)

theorem Inv.endBody (hv : Inv j h) {ending : Ending}
    (hs : h.session.reader = .reading begunAt since [] ending) :
    Inv j (h.after (h.session.endBody begunAt since ending)) := by
  obtain ⟨hl, hf⟩ := hv
  rw [hs] at hf
  obtain ⟨rfl, hr, -⟩ := hf
  unfold Session.endBody
  split
  · exact inv_finish hl _
  · exact ⟨hl, rfl, hr⟩
  · exact inv_finish hl _

theorem after_readLine (e : Entry) (lines : List String) (ending : Ending) {r : Round}
    {earlier : List Round} (hr : h.rounds = r :: earlier) :
    h.after (h.session.readLine begunAt since e.line lines ending) =
      ⟨{ h.session with reader := .reading begunAt (some e.notice.time) lines ending },
        { r with notices := r.notices ++ [e.notice] } :: earlier⟩ := by
  have hread : Feed.readLine e.line = (.ok (some e.notice), (Feed.readLine e.line).2) :=
    Prod.ext e.reads rfl
  unfold Session.readLine
  rw [hread]
  simp only [after, Session.moveTo, List.map_nil, List.nil_append, hr, heard]

theorem Inv.readLine (hv : Inv j h) {line : String} {lines : List String} {ending : Ending}
    (hs : h.session.reader = .reading begunAt since (line :: lines) ending) :
    Inv j (h.after (h.session.readLine begunAt since line lines ending)) := by
  obtain ⟨hl, hf⟩ := hv
  rw [hs] at hf
  obtain ⟨rfl, -, r, earlier, hrounds, hlines⟩ := hf
  rw [hrounds] at hl
  obtain ⟨e, he, rfl, hrest⟩ := Journal.exists_entry_of_prefix hlines
  rw [after_readLine e lines ending hrounds]
  refine ⟨hl.heard he, rfl, hl.resumable he, _, _, rfl, ?_⟩
  rw [List.length_append, List.length_singleton, ← Nat.add_assoc]
  exact hrest

theorem Inv.read (hv : Inv j h) (ha : Answered j h.session) :
    Inv j (h.after (h.session.step j.begunAt)) := by
  unfold Session.step
  split
  · next hs =>
    obtain ⟨hl, hf⟩ := hv
    rw [hs] at hf
    exact ⟨hl, rfl, hf ▸ Journal.resumable_nil⟩
  · next hs => exact hv.ask hs ha
  · next hs => exact hv.endBody hs
  · next hs =>
    split
    · exact inv_finish hv.lawful _
    · exact hv.readLine hs
  · exact hv

theorem Inv.step (hv : Inv j h) (hs : Step j h h') : Inv j h' := by
  cases hs with
  | read ha => exact hv.read ha
  | close => exact ⟨hv.lawful, hv.fits⟩

theorem Inv.hears (hv : Inv j h) (hs : Hears j h h') : Inv j h' := by
  induction hs with
  | refl => exact hv
  | tail _ hs ih => exact ih.step hs

end

/-! ## What holds throughout -/

/-- What was heard leaves nothing out. The latest round comes first. -/
structure Gapless (j : Journal α) (rounds : List Round) : Prop where
  /-- In each round the entries are heard one after the other, from where the request asked for them. -/
  faithful : ∀ {r}, r ∈ rounds → r.notices <+: (j.entries.drop (j.start r.since)).map (·.notice)
  /-- When an entry is heard, all those before it were heard, as far as they were made after the feed connected. -/
  covered : ∀ {i p q : Nat}, (j.delivered rounds)[i]? = some q → j.opened ≤ p → p < q →
    ∃ i', i' < i ∧ (j.delivered rounds)[i']? = some p
  /-- So they are heard for the first time in their order. -/
  inOrder : ∀ {p q : Nat}, j.opened ≤ p → p < q → q ∈ j.delivered rounds →
    (j.delivered rounds).idxOf p < (j.delivered rounds).idxOf q
  /-- What a request brings again is not older than its `since`. -/
  recent : ∀ {r}, r ∈ rounds → ∀ {s}, r.since = some s → ∀ n ∈ r.notices, j.clock s ≤ j.clock n.time
  /-- Only the first request is without `since`. -/
  first : ∀ {later r earlier}, rounds = later ++ r :: earlier → r.since = none → earlier = []
  monotone : rounds.Pairwise fun later earlier => j.NotBefore earlier.since later.since
  notBefore : ∀ {r}, r ∈ rounds → ∀ {s}, r.since = some s → j.clock j.begunAt ≤ j.clock s

theorem gapless_of_hears (j : Journal α) (feed : Feed) (replies : List Reply) {h : Hearing}
    (hs : Hears j (start feed replies) h) : Gapless j h.rounds := by
  have hl := ((inv_start feed replies).hears hs).lawful
  exact {
    faithful := fun hr => (hl.of_mem hr).2
    covered := hl.exists_delivered
    inOrder := hl.idxOf_lt_idxOf
    recent := fun hr _ hs _ hn => hl.le_time hr hs hn
    first := fun he hr => (he ▸ hl).eq_nil_of_since_eq_none hr
    monotone := hl.pairwise_since
    notBefore := fun hr => (hl.of_mem hr).1 }

/-! ## Every cut is possible -/

section
variable {j : Journal α} {feed : Feed} {replies : List Reply} {rounds : List Round} {begunAt : Binary64}
  {ending : Ending} {es : List Entry}

/-- The instant of the last of the entries, or the one that was known before. -/
def resumeFrom (since : Option Binary64) (es : List Entry) : Option Binary64 :=
  es.foldl (fun _ e => some e.notice.time) since

theorem hears_lines (hc : feed.closed = false) {s since : Option Binary64} {notices : List Notice} :
    Hears j ⟨⟨feed, .reading begunAt since (es.map (·.line)) ending, replies⟩, ⟨s, notices⟩ :: rounds⟩
      ⟨⟨feed, .reading begunAt (resumeFrom since es) [] ending, replies⟩,
        ⟨s, notices ++ es.map (·.notice)⟩ :: rounds⟩ := by
  induction es generalizing since notices with
  | nil =>
    rw [List.map_nil, List.map_nil, List.append_nil]
    exact .refl
  | cons e es ih =>
    have hs := Step.read (j := j) (h := ⟨⟨feed, .reading begunAt since ((e :: es).map (·.line)) ending,
      replies⟩, ⟨s, notices⟩ :: rounds⟩) (answered_of_ne (by simp))
    rw [Session.step_reading_cons rfl hc, after_readLine e _ _ rfl] at hs
    have h := @ih (some e.notice.time) (notices ++ [e.notice])
    rw [List.append_assoc, List.singleton_append] at h
    exact .head hs h

/-- A round in which some entries are heard before the read gives up. -/
theorem hears_round (hc : feed.closed = false) {since : Option Binary64} {s : Session}
    (hs : s = ⟨feed, .asking begunAt since, .answered 200 (es.map (·.line)) (some .readTimeout) :: replies⟩)
    (ho : s.obstacle? since = none) (hes : es <+: j.entries.drop (j.start since)) :
    Hears j ⟨s, rounds⟩
      ⟨⟨feed, .asking begunAt (some ((resumeFrom since es).getD begunAt)), replies⟩,
        ⟨since, es.map (·.notice)⟩ :: rounds⟩ := by
  have hask : after ⟨s, rounds⟩ (s.step j.begunAt) =
      ⟨⟨feed, .reading begunAt since (es.map (·.line)) (some .readTimeout), replies⟩,
        ⟨since, []⟩ :: rounds⟩ := by
    subst hs
    simp only [Session.step, Session.ask, hc, ho]
    rfl
  refine .head (.read ?_) ?_
  · intro _ _ _ _ hr hreplies
    rw [hs] at hr hreplies
    cases hr
    cases hreplies
    exact .answered 200 _ (hes.map _)
  · rw [hask]
    refine .tail (hears_lines hc) (.read (answered_of_ne (by simp)))

end

/-! ## Two entries at one time -/

def second (n : Int) : Binary64 := (Binary64.ofInt? n).getD default

def born : Entry where
  line := "\x7b\x22status\x22: \x22start\x22, \x22id\x22: \x22c\x22, \x22time\x22: 1\x7d"
  notice := ⟨"c", .started, second 1⟩
  reads := by decide +kernel

def died : Entry where
  line := "\x7b\x22status\x22: \x22die\x22, \x22id\x22: \x22c\x22, \x22time\x22: 2\x7d"
  notice := ⟨"c", .died, second 2⟩
  reads := by decide +kernel

def stopped : Entry where
  line := "\x7b\x22status\x22: \x22stop\x22, \x22id\x22: \x22c\x22, \x22time\x22: 2\x7d"
  notice := ⟨"c", .stopped, second 2⟩
  reads := by decide +kernel

def destroyed : Entry where
  line := "\x7b\x22status\x22: \x22destroy\x22, \x22id\x22: \x22c\x22, \x22time\x22: 3\x7d"
  notice := ⟨"c", .removed, second 3⟩
  reads := by decide +kernel

/-- The feed begins after the container was started. -/
def brief : Journal Int where
  clock t := t.toInt?.getD 0
  entries := [born, died, stopped, destroyed]
  sorted := by decide +kernel
  opened := 1
  begunAt := second 1
  recent := fun {p e} he ho => by
    have hall : ∀ e ∈ [died, stopped, destroyed], (second 1).toInt?.getD 0 ≤ e.notice.time.toInt?.getD 0 := by
      decide +kernel
    refine hall e (List.mem_iff_getElem?.2 ⟨p - 1, ?_⟩)
    obtain ⟨p, rfl⟩ := Nat.exists_eq_add_of_le' ho
    exact he

/-- The first reply is cut between two entries at one time, the second after them. -/
def cutReplies : List Reply :=
  [[died], [died, stopped], [died, stopped, destroyed]].map fun es =>
    .answered 200 (es.map (·.line)) (some .readTimeout)

theorem prefix_brief {since : Option Binary64} {es rest : List Entry} (hs : brief.start since = 1)
    (h : es ++ rest = [died, stopped, destroyed]) : es <+: brief.entries.drop (brief.start since) :=
  ⟨rest, by rw [hs]; exact h⟩

theorem exists_hears_cut :
    ∃ h, Hears brief (start .plain cutReplies) h ∧ brief.delivered h.rounds = [1, 1, 2, 1, 2, 3] := by
  have hbegin : Hears brief (start .plain cutReplies) ⟨⟨{ Feed.plain with begun := true },
      .asking brief.begunAt none, cutReplies⟩, []⟩ := .single (.read (answered_of_ne (by simp [start])))
  have h₁ := hbegin.trans
    (hears_round rfl rfl (by decide +kernel) (prefix_brief (by decide +kernel) (rfl : [died] ++ _ = _)))
  have h₂ := h₁.trans
    (hears_round rfl rfl (by decide +kernel) (prefix_brief (by decide +kernel) (rfl : [died, stopped] ++ _ = _)))
  have h₃ := h₂.trans
    (hears_round rfl rfl (by decide +kernel) (prefix_brief (by decide +kernel) (List.append_nil _)))
  exact ⟨_, h₃, by decide +kernel⟩

theorem gapless_of_hears_cut :
    ∃ h, Hears brief (start .plain cutReplies) h ∧ brief.delivered h.rounds = [1, 1, 2, 1, 2, 3] ∧
      Gapless brief h.rounds := by
  obtain ⟨h, hh, hd⟩ := exists_hears_cut
  exact ⟨h, hh, hd, gapless_of_hears brief .plain cutReplies hh⟩

end Hearing

end ContainerLaunch.Lifecycle
