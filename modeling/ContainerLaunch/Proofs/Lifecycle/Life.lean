import ContainerLaunch.Proofs.Lifecycle.History
/-!
# The life of a feed

A `Life` is a session with what was seen of it. The reader takes its steps, the feed is closed and reading begins
anew in any order (`Move`). `Life.lawful_run` says what holds of all lives; `Life.Inv.move` is the step that
carries it.
-/

namespace ContainerLaunch.Lifecycle

/-! ## Lives -/

/-- The reader takes a step, the feed is closed, or reading begins anew. -/
inductive Move where
  | read (now : Binary64)
  | close
  | restart

/-- A session and what was seen of it. -/
structure Life where
  session : Session
  past : List Event := []

/-- What is seen of a step, the latest first. -/
def Progress.shows (p : Progress) (reply : Reply) : List Event :=
  p.arrival?.toList.map .arrived ++ p.requests.map fun since => .asked since reply

namespace Session

/-- What is seen when the reader takes a step. A reader that is through only says so again. -/
def shows (s : Session) (now : Binary64) : List Event :=
  match s.reader with
  | .fresh => [.began now]
  | .finished => []
  | _ => (s.step now).shows (s.replies.headD .empty)

/-- What is seen when reading begins anew. -/
def leaves (s : Session) : List Event :=
  match s.reader with
  | .fresh | .finished => []
  | _ => [.left]

end Session

namespace Life

/-- A feed that nobody has read. -/
def start (containerId : String) (base : Address) (replies : List Reply) : Life where
  session := { feed := { containerId, base }, replies }

/-- What a move makes of the session, and what is seen of it. -/
def move (l : Life) : Move → Life
  | .read now => ⟨(l.session.step now).session, l.session.shows now ++ l.past⟩
  | .close => ⟨l.session.close, .closed :: l.past⟩
  | .restart => ⟨l.session.restart, l.session.leaves ++ l.past⟩

/-- What moves make of it, one after the other. -/
def run (l : Life) (moves : List Move) : Life := moves.foldl move l

end Life

/-! ## The invariant -/

/-- What the feed knows of its life. -/
structure Knows (f : Feed) (past : List Event) : Prop where
  lawful : Lawful past
  closed : f.closed = true ↔ .closed ∈ past
  begun : f.begun = true ↔ Begun past
  ended : f.connectionClosed = true ↔ Over past

namespace Knows
variable {f : Feed} {past : List Event} {reply : Reply} {seen : List Arrival}

theorem not_stops (h : Knows f past) (hc : f.closed = false) (ho : f.connectionClosed = false) :
    ∀ x ∈ past, ¬ x.Stops := by
  rintro x hx (hends | rfl)
  · exact Bool.eq_false_iff.1 ho (h.ended.2 (.inl ⟨x, hx, hends⟩))
  · exact Bool.eq_false_iff.1 hc (h.closed.2 hx)

theorem began (h : Knows f past) (now : Binary64) : Knows { f with begun := true } (.began now :: past) where
  lawful := h.lawful.cons (fun hs => hs.elim) (fun _ _ he => nomatch he) (fun _ _ hh => nomatch hh)
    fun _ he => nomatch he
  closed := by simpa using h.closed
  begun := by simp [begun_cons]
  ended := by simpa [over_cons, Event.Ends] using h.ended

theorem asked (h : Knows f past) (hc : f.closed = false) (ho : f.connectionClosed = false)
    {since : Option Binary64} (hs : since = dueSince past)
    (ha : Asked past → TimedOut past) (reply : Reply) :
    Knows f (.asked since reply :: past) where
  lawful := by
    refine h.lawful.cons (fun _ => h.not_stops hc ho) ?_ ?_ fun _ he => nomatch he
    · rintro _ _ heq
      cases heq
      exact ⟨hs, ha⟩
    · rintro _ _ heq
      cases heq
      exact .part List.nil_prefix
  closed := by simpa using h.closed
  begun := by simpa [begun_cons] using h.begun
  ended := by simpa [over_cons, Event.Ends] using h.ended

theorem notice (h : Knows f past) (hc : f.closed = false) (ho : f.connectionClosed = false) {n : Notice}
    (hr : heard past = some (reply, seen)) (hn : seen ++ [.notice n] <+: reply.course) :
    Knows f (.arrived (.notice n) :: past) where
  lawful := by
    refine h.lawful.cons (fun _ => h.not_stops hc ho) (fun _ _ he => nomatch he) ?_ ?_
    · rintro _ _ heq
      rw [heard, hr] at heq
      cases heq
      exact .part hn
    · rintro _ - hnone
      rw [hr] at hnone
      cases hnone
  closed := by simpa using h.closed
  begun := by simpa [begun_cons] using h.begun
  ended := by simpa [over_cons, Event.Ends, Arrival.isLast] using h.ended

theorem last (h : Knows f past) {a : Arrival} (ha : a.isLast = true)
    (hyields : ∀ reply seen, heard past = some (reply, seen) → reply.Yields (.closed ∈ past) (seen ++ [a]))
    (hbarred : heard past = none → Barred past a) :
    Knows { f with connectionClosed := true } (.arrived a :: past) where
  lawful := by
    refine h.lawful.cons (fun hs => ?_) (fun _ _ he => nomatch he) ?_ ?_
    · rw [Event.Speaks, ha] at hs
      cases hs
    · intro reply seen heq
      obtain ⟨⟨reply', seen'⟩, hr, heq⟩ := Option.map_eq_some_iff.1 heq
      cases heq
      exact (hyields _ _ hr).mono fun hs => List.mem_cons_of_mem _ hs
    · rintro _ heq
      cases heq
      exact hbarred
  closed := by simpa using h.closed
  begun := by simpa [begun_cons] using h.begun
  ended := by simp [over_cons, Event.Ends, ha]

theorem left (h : Knows f past) : Knows { f with connectionClosed := true } (.left :: past) where
  lawful := h.lawful.cons (fun hs => hs.elim) (fun _ _ he => nomatch he)
    (fun _ _ hr => (h.lawful.yields List.suffix_rfl hr).mono fun hs => List.mem_cons_of_mem _ hs)
    fun _ he => nomatch he
  closed := by simpa using h.closed
  begun := by simpa [begun_cons] using h.begun
  ended := by simp [over_cons, Event.Ends]

theorem close (h : Knows f past) : Knows f.close (.closed :: past) where
  lawful := h.lawful.cons (fun hs => hs.elim) (fun _ _ he => nomatch he)
    (fun _ _ hr => (h.lawful.yields List.suffix_rfl hr).mono fun hs => List.mem_cons_of_mem _ hs)
    fun _ he => nomatch he
  closed := by simp [Feed.close]
  begun := by simpa [begun_cons, Feed.close] using h.begun
  ended := by
    rw [over_cons, ← h.begun, ← h.ended]
    simp [Feed.close, Event.Ends, or_comm]

end Knows

/-- The reader of a reply was given `seen` and has these lines still before it. -/
structure Reply.Leaves (r : Reply) (seen : List Arrival) (lines : List String) (ending : Ending) : Prop where
  body : ∃ status all, r = .answered status all ending ∧ lines <:+ all
  course : r.course = seen ++ bodyCourse lines ending
  going : ∀ a ∈ seen, a.isLast = false

/-- What the reader is about to do fits what was seen. -/
def Fits (f : Feed) (past : List Event) : Reader → Prop
  | .fresh => f.connectionClosed = false → ¬ Asked past
  | .asking begunAt since => f.begun = true ∧ since = dueSince past ∧
      latest? past = some (since.getD begunAt) ∧
      ((heard past = none ∧ (f.connectionClosed = false → ¬ Asked past)) ∨
        (f.connectionClosed = false ∧ TimedOut past))
  | .reading begunAt since lines ending => f.begun = true ∧ f.connectionClosed = false ∧
      latest? past = some (since.getD begunAt) ∧
      ∃ reply seen, heard past = some (reply, seen) ∧ reply.Leaves seen lines ending
  | .finished => f.connectionClosed = true ∧ Through past

/-- The session fits what was seen of it. -/
structure Life.Inv (l : Life) : Prop where
  knows : Knows l.session.feed l.past
  fits : Fits l.session.feed l.past l.session.reader

namespace Life
variable {s : Session} {past : List Event} {begunAt : Binary64} {since : Option Binary64} {reply : Reply}
  {seen : List Arrival}

theorem inv_start (containerId : String) (base : Address) (replies : List Reply) :
    Inv (start containerId base replies) where
  knows := {
    lawful := {
      silent := fun h => nomatch List.suffix_nil.1 h
      since := fun h => nomatch List.suffix_nil.1 h
      again := fun h => nomatch List.suffix_nil.1 h
      yields := fun h hr => by cases List.suffix_nil.1 h; cases hr
      barred := fun h => nomatch List.suffix_nil.1 h }
    closed := by simp [start]
    begun := by simp [start, Begun]
    ended := by simp [start, Over] }
  fits := fun _ => by simp [start, Asked]

theorem Inv.fits_of {reader : Reader} (h : Inv ⟨s, past⟩) (hs : s.reader = reader) : Fits s.feed past reader :=
  hs ▸ h.fits

/-- Between two requests. -/
theorem inv_askAgain (h : Knows s.feed past) (hb : s.feed.begun = true) (ho : s.feed.connectionClosed = false)
    (hl : latest? past = some (since.getD begunAt)) (hr : heard past = some (reply, seen))
    (hc : seen = reply.course) (ht : ∀ a ∈ seen, a.isLast = false) :
    Inv ⟨(s.askAgain begunAt since).session, past⟩ := by
  subst hc
  refine ⟨h, hb, ?_, hl, .inr ⟨ho, reply, hr, reply.timesOut_iff.2 ht⟩⟩
  rw [dueSince, hr, hl]
  rfl

/-- The reply brings its last arrival. -/
theorem inv_last (h : Knows s.feed past) (hr : heard past = some (reply, seen)) {a : Arrival}
    (ha : a.isLast = true) (hc : reply.course = seen ++ [a]) :
    Inv ⟨(s.finish a).session, .arrived a :: past⟩ := by
  refine ⟨h.last ha ?_ fun hnone => ?_, rfl, ha⟩
  · intro reply' seen' hr'
    cases hr.symm.trans hr'
    exact .part (hc ▸ List.prefix_rfl)
  · cases hr.symm.trans hnone

theorem inv_receive (h : Knows s.feed past) (hb : s.feed.begun = true) (ho : s.feed.connectionClosed = false)
    (hl : latest? past = some (since.getD begunAt)) (hr : heard past = some (reply, [])) :
    Inv ⟨(s.receive begunAt since reply).session,
      (s.receive begunAt since reply).arrival?.toList.map .arrived ++ past⟩ := by
  cases reply with
  | refused e => cases e with
    | readTimeout => exact inv_askAgain h hb ho hl hr rfl fun _ ha => nomatch ha
    | other name => exact inv_last h hr rfl rfl
  | answered status lines ending =>
    by_cases hstatus : Feed.isSuccess status
    · simp only [Session.receive, hstatus, if_true]
      exact ⟨h, hb, ho, hl, _, _, hr, ⟨status, lines, rfl, List.suffix_rfl⟩, by simp [Reply.course, hstatus],
        fun _ ha => nomatch ha⟩
    · simp only [Session.receive, hstatus]
      exact inv_last h hr rfl (by simp [Reply.course, hstatus])

theorem eq_of_obstacle? {e : FeedError} (h : s.obstacle? since = some e) :
    (∃ e', e = .address e') ∨ (e = .connectionClosed ∧ s.feed.connectionClosed = true) := by
  unfold Session.obstacle? at h
  split at h
  · cases h
    exact .inl ⟨_, rfl⟩
  · split at h
    · next ho =>
      cases h
      exact .inr ⟨rfl, ho⟩
    · cases h

theorem connected_of_obstacle? (h : s.obstacle? since = none) : s.feed.connectionClosed = false := by
  unfold Session.obstacle? at h
  split at h
  · cases h
  · split at h
    · cases h
    · next ho => exact Bool.eq_false_iff.2 ho

/-- The reader is through before it asks. -/
theorem Inv.barred (h : Inv ⟨s, past⟩) (hs : s.reader = .asking begunAt since) {a : Arrival} (ha : a.isLast = true)
    (hyields : s.feed.connectionClosed = false → ∀ reply : Reply, reply.TimesOut →
      reply.Yields (.closed ∈ past) (reply.course ++ [a]))
    (hbarred : Barred past a) : Inv ⟨(s.finish a).session, .arrived a :: past⟩ := by
  obtain ⟨-, -, -, hlast⟩ := h.fits_of hs
  refine ⟨h.knows.last ha ?_ fun _ => hbarred, rfl, ha⟩
  intro reply seen hr
  obtain ⟨hnone, -⟩ | ⟨ho, reply', hr', ht⟩ := hlast
  · cases hnone.symm.trans hr
  · cases hr'.symm.trans hr
    exact hyields ho reply ht

theorem Inv.takeReply (h : Inv ⟨s, past⟩) (hs : s.reader = .asking begunAt since) (hc : s.feed.closed = false)
    (ho : s.feed.connectionClosed = false) :
    Inv ⟨(s.takeReply begunAt since).session,
      (s.takeReply begunAt since).shows (s.replies.headD .empty) ++ past⟩ := by
  obtain ⟨hb, hsince, hl, hlast⟩ := h.fits_of hs
  have hasked (reply : Reply) : Knows s.feed (.asked since reply :: past) := by
    refine h.knows.asked hc ho hsince (fun ha => ?_) reply
    obtain ⟨-, hnone⟩ | ⟨-, ht⟩ := hlast
    · exact absurd ha (hnone ho)
    · exact ht
  unfold Session.takeReply
  split
  · next hreplies =>
    rw [hreplies]
    exact inv_last (hasked .empty) rfl rfl rfl
  · next reply rest hreplies =>
    rw [hreplies]
    have hi := inv_receive (s := { s with replies := rest }) (hasked reply) hb ho hl rfl
    simpa [Progress.shows] using hi

theorem Inv.ask (h : Inv ⟨s, past⟩) (hs : s.reader = .asking begunAt since) :
    Inv ⟨(s.ask begunAt since).session, (s.ask begunAt since).shows (s.replies.headD .empty) ++ past⟩ := by
  unfold Session.ask
  split
  · next hclosed =>
    have hmem : .closed ∈ past := h.knows.closed.1 hclosed
    exact h.barred hs rfl (fun _ _ ht => .unasked hmem ht) (.closed hmem)
  · next hclosed =>
    split
    · next e hobstacle =>
      obtain ⟨e', rfl⟩ | ⟨rfl, ho⟩ := eq_of_obstacle? hobstacle
      · exact h.barred hs rfl (fun _ _ ht => .unsaid ht e') (.address e')
      · exact h.barred hs rfl (fun ho' => absurd ho (Bool.eq_false_iff.1 ho')) (.over (h.knows.ended.1 ho))
    · next hobstacle => exact h.takeReply hs (Bool.eq_false_iff.2 hclosed) (connected_of_obstacle? hobstacle)

theorem Inv.endBody (h : Inv ⟨s, past⟩) {ending : Ending} (hs : s.reader = .reading begunAt since [] ending) :
    Inv ⟨(s.endBody begunAt since ending).session, (s.endBody begunAt since ending).shows reply ++ past⟩ := by
  have hk := h.knows
  obtain ⟨hb, ho, hl, reply, seen, hr, -, hcourse, hgoing⟩ := h.fits_of hs
  rcases ending with _ | _ | name
  · exact inv_last hk hr rfl hcourse
  · exact inv_askAgain hk hb ho hl hr (hcourse.trans (List.append_nil seen)).symm hgoing
  · exact inv_last hk hr rfl hcourse

theorem Inv.readLine (h : Inv ⟨s, past⟩) {line : String} {lines : List String} {ending : Ending}
    (hs : s.reader = .reading begunAt since (line :: lines) ending) (hc : s.feed.closed = false) :
    Inv ⟨(s.readLine begunAt since line lines ending).session,
      (s.readLine begunAt since line lines ending).shows reply ++ past⟩ := by
  have hk := h.knows
  obtain ⟨hb, ho, hl, reply, seen, hr, ⟨status, all, hreply, hall⟩, hcourse, hgoing⟩ := h.fits_of hs
  have hall := (List.suffix_cons line lines).trans hall
  unfold Session.readLine
  split
  · next e logs hline =>
    exact inv_last hk hr rfl (by rw [hcourse, bodyCourse, hline])
  · next logs hline =>
    rw [bodyCourse, hline] at hcourse
    exact ⟨hk, hb, ho, hl, reply, seen, hr, ⟨status, all, hreply, hall⟩, hcourse, hgoing⟩
  · next n logs hline =>
    rw [bodyCourse, hline, List.append_cons] at hcourse
    refine ⟨hk.notice hc ho hr ⟨_, hcourse.symm⟩, hb, ho, rfl, reply, _, ?_, ⟨status, all, hreply, hall⟩,
      hcourse, ?_⟩
    · exact congrArg _ hr
    · simpa [or_imp, forall_and, Arrival.isLast] using hgoing

theorem Inv.stopped (h : Inv ⟨s, past⟩) {line : String} {lines : List String} {ending : Ending}
    (hs : s.reader = .reading begunAt since (line :: lines) ending) (hc : s.feed.closed = true) :
    Inv ⟨(s.finish .stop).session, .arrived .stop :: past⟩ := by
  have hk := h.knows
  obtain ⟨-, -, -, reply, seen, hr, ⟨status, all, hreply, hall⟩, hcourse, -⟩ := h.fits_of hs
  have hmem : .closed ∈ past := hk.closed.1 hc
  refine ⟨hk.last rfl ?_ fun _ => .closed hmem, rfl, rfl⟩
  intro reply' seen' hr'
  cases hr.symm.trans hr'
  exact .unread hmem hreply hall hcourse

theorem Inv.read (h : Inv ⟨s, past⟩) (now : Binary64) : Inv (move ⟨s, past⟩ (.read now)) := by
  unfold move Session.shows Session.step
  cases hs : s.reader with
  | fresh =>
    refine ⟨h.knows.began now, rfl, rfl, rfl, .inl ⟨rfl, fun ho ha => h.fits_of hs ho ?_⟩⟩
    simpa [Asked] using ha
  | asking begunAt since => exact h.ask hs
  | reading begunAt since lines ending => cases lines with
    | nil => exact h.endBody hs
    | cons line lines =>
      dsimp only
      split
      · next hc => exact h.stopped hs hc
      · next hc => exact h.readLine hs (Bool.eq_false_iff.2 hc)
  | finished => exact h

theorem Inv.close (h : Inv ⟨s, past⟩) : Inv (move ⟨s, past⟩ .close) := by
  refine ⟨h.knows.close, ?_⟩
  show Fits s.feed.close (.closed :: past) s.reader
  cases hs : s.reader with
  | fresh =>
    intro ho
    rw [Feed.close, Bool.or_eq_false_iff] at ho
    simpa [Asked] using h.fits_of hs ho.1
  | asking begunAt since =>
    -- A reader has begun, so the connection is left to it.
    obtain ⟨hb, hsince, hl, hlast⟩ := h.fits_of hs
    exact ⟨hb, hsince, hl, by simpa [Feed.close, hb, heard, Asked, TimedOut] using hlast⟩
  | reading begunAt since lines ending =>
    obtain ⟨hb, ho, hl, hlast⟩ := h.fits_of hs
    exact ⟨hb, by simp [Feed.close, hb, ho], hl, hlast⟩
  | finished =>
    obtain ⟨ho, ht⟩ := h.fits_of hs
    exact ⟨by simp [Feed.close, ho], ht⟩

theorem Inv.restart (h : Inv ⟨s, past⟩) : Inv (move ⟨s, past⟩ .restart) := by
  unfold move Session.restart Session.leaves
  cases hs : s.reader with
  | fresh => exact ⟨h.knows, h.fits_of hs⟩
  | finished => exact ⟨h.knows, fun ho => absurd ((h.fits_of hs).1.symm.trans ho) Bool.noConfusion⟩
  | asking _ _ => exact ⟨h.knows.left, fun ho => nomatch ho⟩
  | reading _ _ _ _ => exact ⟨h.knows.left, fun ho => nomatch ho⟩

theorem Inv.move {l : Life} (h : Inv l) (m : Move) : Inv (l.move m) := by
  cases m with
  | read now => exact Inv.read h now
  | close => exact Inv.close h
  | restart => exact Inv.restart h

theorem Inv.run {l : Life} (h : Inv l) (moves : List Move) : Inv (l.run moves) := by
  induction moves generalizing l with
  | nil => exact h
  | cons m moves ih => exact ih (h.move m)

theorem finished_run_read {l : Life} (h : l.session.reader = .finished) (nows : List Binary64) :
    (l.run (nows.map .read)).session.reader = .finished := by
  induction nows generalizing l with
  | nil => exact h
  | cons now nows ih => exact ih (by simp [move, Session.step, h])

theorem finished_of_weight_le {l : Life} {nows : List Binary64} (h : l.session.weight ≤ nows.length) :
    (l.run (nows.map .read)).session.reader = .finished := by
  induction nows generalizing l with
  | nil =>
    obtain ⟨⟨feed, reader, replies⟩, past⟩ := l
    cases reader <;> simp [Session.weight, Reader.weight, run] at h ⊢
  | cons now nows ih =>
    by_cases hf : l.session.reader = .finished
    · exact finished_run_read hf (now :: nows)
    · have hlt : (l.move (.read now)).session.weight < l.session.weight := l.session.weight_step_lt now hf
      exact ih (Nat.le_of_lt_succ (Nat.lt_of_lt_of_le hlt h))

/-- Whatever the daemon replies, whenever the feed is closed and reading given up: what is seen is lawful, the
connection is closed as soon as reading is over and not before, and a reader that goes on comes to its end. -/
theorem lawful_run (containerId : String) (base : Address) (replies : List Reply) (moves : List Move) :
    let l := (start containerId base replies).run moves
    Lawful l.past ∧ (l.session.feed.connectionClosed = true ↔ Over l.past) ∧
      ∀ nows : List Binary64, l.session.weight ≤ nows.length → Through (l.run (nows.map .read)).past := by
  have h := (inv_start containerId base replies).run moves
  refine ⟨h.knows.lawful, h.knows.ended, fun nows hw => ?_⟩
  have hfits := (h.run (nows.map .read)).fits
  rw [finished_of_weight_le hw] at hfits
  exact hfits.2

/-- A notice comes, then nothing; the next request is refused with a status. -/
example :
    let line := "\x7b\x22status\x22: \x22die\x22, \x22id\x22: \x22c\x22, \x22time\x22: 2\x7d"
    let silence : Reply := .answered 200 [line] (some .readTimeout)
    let refusal : Reply := .answered 500 [] none
    let now := Binary64.ofRatio false 1 1
    let time := Binary64.ofRatio false 2 1
    ((start "c" Feed.plain.base [silence, refusal]).run (.replicate 5 (.read now))).past =
      [.arrived (.failed (.status 500)), .asked (some time) refusal, .arrived (.notice ⟨"c", .died, time⟩),
        .asked none silence, .began now] := by
  decide +kernel

end Life

end ContainerLaunch.Lifecycle
