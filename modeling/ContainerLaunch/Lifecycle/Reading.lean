import ContainerLaunch.Lifecycle.Feed
/-!
# Reading a feed

`Session.next` goes on to the next arrival and `Session.drain` to the end. Each step but the last one
makes the session lighter (`weight_step_lt`), so there always is a next arrival
(`isSome_arrival?_next`).
-/

namespace ContainerLaunch.Lifecycle

/-- What a reply weighs: more than a reader that has its lines before it. -/
def Reply.weight : Reply → Nat
  | .refused _ => 2
  | .answered _ lines _ => lines.length + 2

/-- What a reader weighs. -/
def Reader.weight : Reader → Nat
  | .fresh => 2
  | .asking .. => 1
  | .reading _ _ lines _ => lines.length + 2
  | .finished => 0

namespace Session

/-- A bound on the steps that are still to come. -/
def weight (s : Session) : Nat := s.reader.weight + s.replies.foldr (fun r n => r.weight + n) 0

/-- A reply leaves no more than it weighs. -/
theorem weight_receive_le (s : Session) (begunAt : Binary64) (since : Option Binary64) (r : Reply) :
    (s.receive begunAt since r).session.weight ≤ r.weight + s.replies.foldr (fun r n => r.weight + n) 0 := by
  unfold receive
  split <;> (try split) <;> simp [Reply.weight, finish, moveTo, askAgain, weight, Reader.weight]

/-- Every step but the last one makes the session lighter. -/
theorem weight_step_lt (s : Session) (now : Binary64) (h : s.reader ≠ .finished) :
    (s.step now).session.weight < s.weight := by
  obtain ⟨feed, reader, replies⟩ := s
  cases reader with
  | fresh => simp [step, moveTo, weight, Reader.weight]
  | asking begunAt since =>
    simp only [step, ask]
    split
    · simp [finish, weight, Reader.weight]
    · split
      · simp [finish, weight, Reader.weight]
      · cases replies with
        | nil => simp [takeReply, finish, weight, Reader.weight]
        | cons reply rest =>
          have := weight_receive_le { feed, reader := .asking begunAt since, replies := rest }
            begunAt since reply
          simp only [takeReply, weight, List.foldr_cons, Reader.weight] at *
          omega
  | reading begunAt since lines ending =>
    cases lines with
    | nil =>
      simp only [step, endBody]
      split <;> simp [finish, askAgain, moveTo, weight, Reader.weight]
    | cons line rest =>
      simp only [step, readLine]
      split
      · simp [finish, weight, Reader.weight]
      · split <;> simp [finish, moveTo, weight, Reader.weight]
  | finished => exact absurd rfl h

/-- Goes on, at most a number of steps, to the next arrival. -/
def nextWithin : (limit : Nat) → Session → Binary64 → Progress
  | 0, s, _ => { session := s }
  | limit + 1, s, now =>
    let p := s.step now
    match p.arrival? with
    | some _ => p
    | none =>
      let q := nextWithin limit p.session now
      { q with requests := p.requests ++ q.requests, logs := p.logs ++ q.logs }

/-- Goes on to the next arrival. -/
def next (s : Session) (now : Binary64) : Progress := s.nextWithin (s.weight + 1) now

theorem isSome_arrival?_nextWithin {limit : Nat} {s : Session} (now : Binary64)
    (h : s.weight < limit) : (s.nextWithin limit now).arrival?.isSome := by
  induction limit generalizing s with
  | zero => exact absurd h (Nat.not_lt_zero _)
  | succ limit ih =>
    unfold nextWithin
    cases ha : (s.step now).arrival? with
    | some _ => simp [ha]
    | none =>
      have hr : s.reader ≠ .finished := fun hf => by simp [step, hf] at ha
      have hlt := s.weight_step_lt now hr
      simpa [ha] using ih (s := (s.step now).session) (by omega)

/-- Something always arrives. -/
theorem isSome_arrival?_next (s : Session) (now : Binary64) : (s.next now).arrival?.isSome :=
  isSome_arrival?_nextWithin now (Nat.lt_succ_self _)

/-- What reading to the end brings: the notices, and why it broke off. -/
structure Harvest where
  notices : List Notice := []
  failure : Option FeedError := none
  session : Session
  requests : List (Option Binary64) := []
  logs : List LogRecord := []

/-- What is harvested at the end. -/
def Harvest.ofLast (p : Progress) : Harvest where
  failure := match p.arrival? with
    | some (.failed e) => some e
    | _ => none
  session := p.session
  requests := p.requests
  logs := p.logs

/-- What is harvested before the rest. -/
def Harvest.add (p : Progress) (h : Harvest) : Harvest :=
  { h with
    notices := match p.arrival? with
      | some (.notice n) => n :: h.notices
      | _ => h.notices
    requests := p.requests ++ h.requests
    logs := p.logs ++ h.logs }

/-- Goes on, at most a number of steps, to the end. -/
def drainWithin : (limit : Nat) → Session → Binary64 → Harvest
  | 0, s, _ => { session := s }
  | limit + 1, s, now =>
    let p := s.step now
    if p.arrival?.any Arrival.isLast then .ofLast p
    else .add p (drainWithin limit p.session now)

/-- Reads to the end. -/
def drain (s : Session) (now : Binary64) : Harvest := s.drainWithin (s.weight + 1) now

end Session

end ContainerLaunch.Lifecycle
