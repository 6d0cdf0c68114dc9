import ContainerLaunch.Proofs.Lifecycle.Drain
/-!
# What is seen of a feed

An `Event` is what can be seen of a feed: when its reader began, each request with the reply to it, what the
reader was given, and when the feed was closed or its reader left. Histories have the latest event first.

`Lawful past` says what the events have to do with each other. Who speaks does so before anything stopped him; a
request comes again only after a reply that timed out, from the time that is due; and the reader of a reply is
given what it brings (`Reply.course`), unless the feed was closed meanwhile. `Proofs/Lifecycle/Life` shows that
feeds have no other histories.
-/

namespace ContainerLaunch.Lifecycle

/-! ## What a reply brings -/

/-- What the reader of a body is given if nobody closes the feed. -/
def bodyCourse : List String → Ending → List Arrival
  | [], none => [.stop]
  | [], some .readTimeout => []
  | [], some e => [.failed (.transport e)]
  | line :: lines, ending =>
    match (Feed.readLine line).1 with
    | .error e => [.failed e]
    | .ok none => bodyCourse lines ending
    | .ok (some n) => .notice n :: bodyCourse lines ending

namespace Reply

/-- What the reader of a reply is given if nobody closes the feed. -/
def course : Reply → List Arrival
  | .refused .readTimeout => []
  | .refused e => [.failed (.transport e)]
  | .answered status lines ending =>
    if Feed.isSuccess status then bodyCourse lines ending else [.failed (.status status)]

/-- Reading gives up, sooner or later, and no line stands in its way. -/
def TimesOut : Reply → Prop
  | .refused e => e = .readTimeout
  | .answered status lines ending => Feed.isSuccess status = true ∧ ending = some .readTimeout ∧
      ∀ line ∈ lines, ∃ n?, (Feed.readLine line).1 = .ok n?

/-- What the reader of a reply may have been given. `shut` says that the feed was closed meanwhile. -/
inductive Yields (r : Reply) (shut : Prop) : List Arrival → Prop where
  | part {seen} (h : seen <+: r.course) : Yields r shut seen
  | unread {seen status lines ending line rest} (hs : shut) (hr : r = .answered status lines ending)
      (hl : line :: rest <:+ lines) (hc : r.course = seen ++ bodyCourse (line :: rest) ending) :
      Yields r shut (seen ++ [.stop])
  | unasked (hs : shut) (ht : r.TimesOut) : Yields r shut (r.course ++ [.stop])
  | unsaid (ht : r.TimesOut) (e : AddressError) : Yields r shut (r.course ++ [.failed (.address e)])

theorem Yields.mono {r : Reply} {shut shut' : Prop} {seen : List Arrival} (h : r.Yields shut seen)
    (hs : shut → shut') : r.Yields shut' seen := by
  cases h with
  | part h => exact .part h
  | unread h hr hl hc => exact .unread (hs h) hr hl hc
  | unasked h ht => exact .unasked (hs h) ht
  | unsaid ht e => exact .unsaid ht e

end Reply

theorem bodyCourse_going_iff {lines : List String} {ending : Ending} :
    (∀ a ∈ bodyCourse lines ending, a.isLast = false) ↔
      ending = some .readTimeout ∧ ∀ line ∈ lines, ∃ n?, (Feed.readLine line).1 = .ok n? := by
  induction lines with
  | nil =>
    rcases ending with _ | _ | name
    · simp [bodyCourse, Arrival.isLast]
    · simp [bodyCourse]
    · simp [bodyCourse, Arrival.isLast]
  | cons line lines ih =>
    rw [List.forall_mem_cons, bodyCourse]
    rcases (Feed.readLine line).1 with e | _ | n
    · simp [Arrival.isLast]
    · simpa using ih
    · simpa [Arrival.isLast] using ih

/-- A reply times out if and only if it leaves its reader going. -/
theorem Reply.timesOut_iff (r : Reply) : r.TimesOut ↔ ∀ a ∈ r.course, a.isLast = false := by
  cases r with
  | refused e => cases e <;> simp [TimesOut, course, Arrival.isLast]
  | answered status lines ending =>
    by_cases h : Feed.isSuccess status
    · simp only [TimesOut, course, h, if_true, bodyCourse_going_iff, true_and]
    · simp [TimesOut, course, h, Arrival.isLast]

/-! ## What is seen -/

/-- What is seen of a session: its reader begins, asks and is answered, brings something, leaves, and the feed is
closed. -/
inductive Event where
  | began (now : Binary64)
  | asked (since : Option Binary64) (reply : Reply)
  | arrived (a : Arrival)
  | left
  | closed
  deriving DecidableEq

namespace Event

/-- A request or a notice. -/
def Speaks : Event → Prop
  | asked .. => True
  | arrived a => a.isLast = false
  | _ => False

/-- The reader is through, or gives up. -/
def Ends : Event → Prop
  | arrived a => a.isLast = true
  | left => True
  | _ => False

/-- Nothing more is to come after it. -/
def Stops (e : Event) : Prop := e.Ends ∨ e = closed

end Event

/-- The last reply of this iteration, and what it brought so far. -/
def heard : List Event → Option (Reply × List Arrival)
  | [] => none
  | .began _ :: _ => none
  | .asked _ reply :: _ => some (reply, [])
  | .arrived a :: earlier => (heard earlier).map fun (reply, seen) => (reply, seen ++ [a])
  | .left :: earlier => heard earlier
  | .closed :: earlier => heard earlier

/-- When the last notice of this iteration was given, or else when the iteration began. -/
def latest? : List Event → Option Binary64
  | [] => none
  | .began now :: _ => some now
  | .arrived (.notice n) :: _ => some n.time
  | _ :: earlier => latest? earlier

/-- The `since` that the next request is to carry. -/
def dueSince (earlier : List Event) : Option Binary64 :=
  if (heard earlier).isSome then latest? earlier else none

/-- A reader has begun. -/
def Begun (past : List Event) : Prop := ∃ now, .began now ∈ past

/-- A request was sent. -/
def Asked (past : List Event) : Prop := ∃ since reply, .asked since reply ∈ past

/-- A reader is through or has left, or the feed was closed before any began. -/
def Over (past : List Event) : Prop :=
  (∃ e ∈ past, e.Ends) ∨ ∃ earlier, .closed :: earlier <:+ past ∧ ¬ Begun earlier

/-- The last that the reader was given was the last that there is. -/
def Through : List Event → Prop
  | .arrived a :: _ => a.isLast = true
  | .closed :: earlier => Through earlier
  | _ => False

/-- The last reply of this iteration has brought all that it brings, and timed out. -/
def TimedOut (past : List Event) : Prop := ∃ reply, heard past = some (reply, reply.course) ∧ reply.TimesOut

/-- How an iteration ends that has not asked for anything yet. -/
inductive Barred (past : List Event) : Arrival → Prop where
  | closed (h : .closed ∈ past) : Barred past .stop
  | address (e : AddressError) : Barred past (.failed (.address e))
  | over (h : Over past) : Barred past (.failed .connectionClosed)

/-- The laws of a history: what may follow on what. -/
structure Lawful (past : List Event) : Prop where
  /-- Nothing is asked for or brought once the feed was closed, or its reader was through or left. -/
  silent : ∀ {e earlier}, e :: earlier <:+ past → e.Speaks → ∀ x ∈ earlier, ¬ x.Stops
  since : ∀ {since reply earlier}, .asked since reply :: earlier <:+ past → since = dueSince earlier
  /-- Only after a read that gave up is there another request, and then in the same iteration. -/
  again : ∀ {since reply earlier}, .asked since reply :: earlier <:+ past → Asked earlier → TimedOut earlier
  yields : ∀ {earlier reply seen}, earlier <:+ past → heard earlier = some (reply, seen) →
    reply.Yields (.closed ∈ earlier) seen
  barred : ∀ {a earlier}, .arrived a :: earlier <:+ past → heard earlier = none → Barred earlier a

section Histories
variable {e : Event} {past : List Event}

theorem begun_cons : Begun (e :: past) ↔ (∃ now, e = .began now) ∨ Begun past := by
  simp only [Begun, List.mem_cons, exists_or, eq_comm]

theorem over_cons : Over (e :: past) ↔ e.Ends ∨ (e = .closed ∧ ¬ Begun past) ∨ Over past := by
  have hclosed : (∃ earlier, .closed :: earlier <:+ e :: past ∧ ¬ Begun earlier) ↔
      (e = .closed ∧ ¬ Begun past) ∨ ∃ earlier, .closed :: earlier <:+ past ∧ ¬ Begun earlier := by
    constructor
    · rintro ⟨earlier, hsuffix, hb⟩
      rcases List.suffix_cons_iff.1 hsuffix with heq | hsuffix
      · cases heq
        exact .inl ⟨rfl, hb⟩
      · exact .inr ⟨earlier, hsuffix, hb⟩
    · rintro (⟨rfl, hb⟩ | ⟨earlier, hsuffix, hb⟩)
      · exact ⟨past, List.suffix_rfl, hb⟩
      · exact ⟨earlier, hsuffix.trans (List.suffix_cons e past), hb⟩
  unfold Over
  rw [hclosed]
  simp only [List.mem_cons, or_and_right, exists_or, exists_eq_left, or_assoc]
  exact or_congr_right or_left_comm

theorem Lawful.cons (h : Lawful past) (hsilent : e.Speaks → ∀ x ∈ past, ¬ x.Stops)
    (hasked : ∀ since reply, e = .asked since reply → since = dueSince past ∧ (Asked past → TimedOut past))
    (hyields : ∀ reply seen, heard (e :: past) = some (reply, seen) → reply.Yields (.closed ∈ e :: past) seen)
    (hbarred : ∀ a, e = .arrived a → heard past = none → Barred past a) : Lawful (e :: past) where
  silent hsuffix := by
    rcases List.suffix_cons_iff.1 hsuffix with heq | hsuffix
    · cases heq
      exact hsilent
    · exact h.silent hsuffix
  since hsuffix := by
    rcases List.suffix_cons_iff.1 hsuffix with heq | hsuffix
    · cases heq
      exact (hasked _ _ rfl).1
    · exact h.since hsuffix
  again hsuffix := by
    rcases List.suffix_cons_iff.1 hsuffix with heq | hsuffix
    · cases heq
      exact (hasked _ _ rfl).2
    · exact h.again hsuffix
  yields hsuffix := by
    rcases List.suffix_cons_iff.1 hsuffix with rfl | hsuffix
    · exact hyields _ _
    · exact h.yields hsuffix
  barred hsuffix := by
    rcases List.suffix_cons_iff.1 hsuffix with heq | hsuffix
    · cases heq
      exact hbarred _ rfl
    · exact h.barred hsuffix

end Histories

end ContainerLaunch.Lifecycle
