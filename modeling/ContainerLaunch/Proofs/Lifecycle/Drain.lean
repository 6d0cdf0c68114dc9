import ContainerLaunch.Lifecycle.Reading
/-!
# Reading to the end, step by step

`Session.drain` needs its bound on the number of steps only to end (`drain_eq`): what it brings is what the
steps bring, one after the other.
-/

namespace ContainerLaunch.Lifecycle

instance decidableEqExcept {ε α : Type} [DecidableEq ε] [DecidableEq α] : DecidableEq (Except ε α)
  | .error e, .error e' => decidable_of_iff (e = e') (by rw [Except.error.injEq])
  | .ok a, .ok a' => decidable_of_iff (a = a') (by rw [Except.ok.injEq])
  | .error _, .ok _ => .isFalse (by simp)
  | .ok _, .error _ => .isFalse (by simp)

/-- A feed that can send its requests. -/
def Feed.plain : Feed := ⟨"c", ⟨"http".toList, [], "d".toList, none, [], none, none⟩, false, false, false⟩

namespace Session
variable {s : Session} {now begunAt : Binary64} {since : Option Binary64}

theorem step_reading_cons {line : String} {lines : List String} {ending : Ending}
    (hs : s.reader = .reading begunAt since (line :: lines) ending) (hc : s.feed.closed = false) :
    s.step now = s.readLine begunAt since line lines ending := by
  unfold step
  rw [hs]
  simp only [hc, Bool.false_eq_true, if_false]

/-- Whether reading is over after a step. -/
def ends (s : Session) (now : Binary64) : Bool := (s.step now).arrival?.any Arrival.isLast

theorem weight_step_lt_of_not_ends (h : s.ends now = false) : (s.step now).session.weight < s.weight := by
  refine s.weight_step_lt now fun hf => ?_
  unfold ends step at h
  rw [hf] at h
  cases h

theorem drainWithin_succ (limit : Nat) (s : Session) (now : Binary64) :
    s.drainWithin (limit + 1) now = if s.ends now then .ofLast (s.step now)
      else .add (s.step now) ((s.step now).session.drainWithin limit now) := rfl

theorem drainWithin_eq_drainWithin {limit limit' : Nat} (h : s.weight < limit) (h' : s.weight < limit') :
    s.drainWithin limit now = s.drainWithin limit' now := by
  induction limit generalizing limit' s with
  | zero => exact absurd h (Nat.not_lt_zero _)
  | succ limit ih => cases limit' with
    | zero => exact absurd h' (Nat.not_lt_zero _)
    | succ limit' =>
      rw [drainWithin_succ, drainWithin_succ]
      cases he : s.ends now with
      | true => rfl
      | false =>
        have hlt := weight_step_lt_of_not_ends he
        rw [@ih _ limit' (by omega) (by omega)]

theorem drain_eq (s : Session) (now : Binary64) :
    s.drain now = if s.ends now then .ofLast (s.step now)
      else .add (s.step now) ((s.step now).session.drain now) := by
  rw [drain, drainWithin_succ]
  cases he : s.ends now with
  | true => rfl
  | false => rw [drainWithin_eq_drainWithin (weight_step_lt_of_not_ends he) (Nat.lt_succ_self _), drain]

theorem closed_readLine {line : String} {lines : List String} {ending : Ending} :
    (s.readLine begunAt since line lines ending).session.feed.closed = s.feed.closed := by
  unfold readLine
  split <;> rfl

theorem closed_ask : (s.ask begunAt since).session.feed.closed = s.feed.closed := by
  unfold ask
  split
  · rfl
  · split
    · rfl
    · unfold takeReply
      split
      · rfl
      · unfold receive
        split <;> (try split) <;> rfl

theorem closed_endBody {ending : Ending} :
    (s.endBody begunAt since ending).session.feed.closed = s.feed.closed := by
  unfold endBody
  split <;> rfl

/-- Reading does not close the feed. -/
theorem closed_step : (s.step now).session.feed.closed = s.feed.closed := by
  unfold step
  split
  · rfl
  · exact closed_ask
  · exact closed_endBody
  · split
    · rfl
    · exact closed_readLine
  · rfl

theorem drain_of_step {session : Session} {requests : List (Option Binary64)} {logs : List LogRecord}
    (h : s.step now = { session, requests, logs }) :
    s.drain now = .add { session, requests, logs } (session.drain now) := by
  rw [drain_eq, ends, h]
  rfl

theorem drain_of_last {p : Progress} (h : s.step now = p) (hp : p.arrival?.any Arrival.isLast = true) :
    s.drain now = .ofLast p := by
  rw [drain_eq, ends, h, if_pos hp]

end Session

end ContainerLaunch.Lifecycle
