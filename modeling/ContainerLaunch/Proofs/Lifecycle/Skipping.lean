import ContainerLaunch.Proofs.Lifecycle.Drain
import ContainerLaunch.Proofs.Lifecycle.Payload
/-!
# Lines that hide nothing

A line that is blank, that is not JSON, or whose payload is passed over (`Skipped`) can be taken out of a
reply: the same notices arrive, the same requests are sent, and reading ends as before. To see this, take
all such lines out at once (`Session.thin`); a step of the reader either skips one of them or does the same
as before (`step_thin`).

No other line can be taken out (`hidesNothing_iff_skipped`). It brings a notice, or it breaks the reading
off and hides whatever comes after it.
-/

namespace ContainerLaunch.Lifecycle

/-- Why a line can be skipped: it is blank, no JSON, or an object that is passed over. -/
inductive Skipped (line : String) : Prop where
  | blank (h : Text.isBlankText line = true)
  | malformed (h : Json.parse line = .error .malformed)
  | passedOver {members : List (String × Json)} (h : Json.parse line = .ok (.obj members))
    (hm : Payload.PassedOver members)

namespace Feed
variable {line : String}

theorem readLine_eq_none_iff : (readLine line).1 = .ok none ↔ Skipped line := by
  cases hb : Text.isBlankText line with
  | true => exact iff_of_true (by simp [readLine, hb]) (.blank hb)
  | false =>
    cases hp : Json.parse line with
    | error e => cases e with
      | malformed => exact iff_of_true (by simp [readLine, hb, hp]) (.malformed hp)
      | excess e =>
        refine iff_of_false (by simp [readLine, hb, hp]) ?_
        rintro (h | h | ⟨h, -⟩) <;> simp [hb, hp] at h
    | ok payload =>
      have hread : (readLine line).1 = .ok none ↔ Payload.notice? payload = .ok none := by
        simp only [readLine, hb, hp]
        cases Payload.notice? payload <;> simp
      rw [hread, Payload.notice?_eq_none_iff]
      constructor
      · rintro ⟨members, rfl, hm⟩
        exact .passedOver hp hm
      · rintro (h | h | ⟨h, hm⟩)
        · simp [hb] at h
        · simp [hp] at h
        · exact ⟨_, Except.ok.inj (hp.symm.trans h), hm⟩

/-- Whether something comes of a line. -/
def speaks (line : String) : Bool :=
  match (readLine line).1 with
  | .ok none => false
  | _ => true

theorem speaks_eq_false_iff : speaks line = false ↔ Skipped line := by
  rw [← readLine_eq_none_iff, speaks]
  split
  · next h => simp [h]
  · next h => simpa using h

end Feed

/-! ## Taking lines out -/

/-- The reply without the lines of which nothing comes. -/
def Reply.thin : Reply → Reply
  | .refused e => .refused e
  | .answered status lines ending => .answered status (lines.filter Feed.speaks) ending

/-- The reader with only those lines to come of which something comes. -/
def Reader.thin : Reader → Reader
  | .reading begunAt since lines ending => .reading begunAt since (lines.filter Feed.speaks) ending
  | reader => reader

namespace Session

/-- The session without the lines that are skipped. -/
def thin (s : Session) : Session :=
  { s with reader := s.reader.thin, replies := s.replies.map Reply.thin }

variable {s : Session} {now begunAt : Binary64} {since : Option Binary64}

/-- A step, as it is without the lines of which nothing comes. -/
def thinned (p : Progress) : Progress := { p with session := p.session.thin }

theorem receive_thin (reply : Reply) :
    s.thin.receive begunAt since reply.thin = thinned (s.receive begunAt since reply) := by
  cases reply with
  | refused e => cases e <;> rfl
  | answered status lines ending =>
    unfold receive Reply.thin
    dsimp only
    split <;> rfl

theorem takeReply_thin : s.thin.takeReply begunAt since = thinned (s.takeReply begunAt since) := by
  obtain ⟨feed, reader, replies⟩ := s
  cases replies with
  | nil => rfl
  | cons reply rest =>
    show ({ (thin ⟨feed, reader, rest⟩).receive begunAt since reply.thin with requests := [since] } :
      Progress) = _
    rw [receive_thin]
    rfl

theorem ask_thin : s.thin.ask begunAt since = thinned (s.ask begunAt since) := by
  unfold ask
  simp only [show s.thin.feed = s.feed from rfl, show s.thin.obstacle? since = s.obstacle? since from rfl]
  split
  · rfl
  · cases s.obstacle? since with
    | some e => rfl
    | none => exact takeReply_thin

theorem endBody_thin {ending : Ending} :
    s.thin.endBody begunAt since ending = thinned (s.endBody begunAt since ending) := by
  rcases ending with - | (- | -) <;> rfl

theorem readLine_thin {line : String} {lines : List String} {ending : Ending} :
    s.thin.readLine begunAt since line (lines.filter Feed.speaks) ending =
      thinned (s.readLine begunAt since line lines ending) := by
  unfold readLine
  split <;> rfl

/-- The reader skips a line, or it goes on as it does without the lines that are skipped. -/
theorem step_thin (hc : s.feed.closed = false) :
    (∃ session logs, s.step now = { session, logs } ∧ session.thin = s.thin) ∨
      s.thin.step now = thinned (s.step now) := by
  obtain ⟨feed, reader, replies⟩ := s
  cases reader with
  | fresh => exact .inr rfl
  | asking begunAt since => exact .inr ask_thin
  | reading begunAt since lines ending =>
    cases lines with
    | nil => exact .inr endBody_thin
    | cons line lines =>
      rw [step_reading_cons rfl hc]
      cases hs : Feed.speaks line with
      | true =>
        have hthin : (thin ⟨feed, .reading begunAt since (line :: lines) ending, replies⟩).reader =
            .reading begunAt since (line :: lines.filter Feed.speaks) ending := by
          simp [thin, Reader.thin, hs]
        exact .inr ((step_reading_cons hthin hc).trans readLine_thin)
      | false =>
        have hread : Feed.readLine line = (.ok none, (Feed.readLine line).2) :=
          Prod.ext (Feed.readLine_eq_none_iff.2 (Feed.speaks_eq_false_iff.1 hs)) rfl
        refine .inl ⟨⟨feed, .reading begunAt since lines ending, replies⟩, (Feed.readLine line).2, ?_, ?_⟩
        · unfold readLine
          rw [hread]
          rfl
        · simp [thin, Reader.thin, hs]
  | finished => exact .inr rfl

/-- Two readings that bring the same. What they log may differ. -/
structure Harvest.Agrees (h h' : Harvest) : Prop where
  notices : h.notices = h'.notices
  failure : h.failure = h'.failure
  requests : h.requests = h'.requests

theorem Harvest.Agrees.trans {h h' h'' : Harvest} (ha : h.Agrees h') (ha' : h'.Agrees h'') : h.Agrees h'' :=
  ⟨ha.notices.trans ha'.notices, ha.failure.trans ha'.failure, ha.requests.trans ha'.requests⟩

theorem Harvest.Agrees.symm {h h' : Harvest} (ha : h.Agrees h') : h'.Agrees h :=
  ⟨ha.notices.symm, ha.failure.symm, ha.requests.symm⟩

theorem Harvest.Agrees.add {h h' : Harvest} (ha : h.Agrees h') {p p' : Progress}
    (hn : p.arrival? = p'.arrival?) (hr : p.requests = p'.requests) :
    (Harvest.add p h).Agrees (Harvest.add p' h') where
  notices := by
    unfold Harvest.add
    rw [hn, ha.notices]
  failure := ha.failure
  requests := by
    unfold Harvest.add
    rw [hr, ha.requests]

theorem agrees_drain_thin (s : Session) (now : Binary64) (hc : s.feed.closed = false) :
    (s.thin.drain now).Agrees (s.drain now) := by
  rcases step_thin hc with ⟨session, logs, hstep, hthin⟩ | hstep
  · have hlt : session.weight < s.weight := by
      have he : s.ends now = false := by
        rw [ends, hstep]
        rfl
      have h := weight_step_lt_of_not_ends he
      rwa [hstep] at h
    have hc' : session.feed.closed = false := by
      have h : (s.step now).session.feed.closed = false := closed_step.trans hc
      rwa [hstep] at h
    have ih := agrees_drain_thin session now hc'
    rw [hthin] at ih
    rw [drain_of_step hstep]
    exact ⟨ih.notices, ih.failure, ih.requests⟩
  · have he : s.thin.ends now = s.ends now := by
      rw [ends, hstep]
      rfl
    rw [drain_eq s.thin, drain_eq s, he]
    cases hend : s.ends now with
    | true =>
      rw [hstep]
      exact ⟨rfl, rfl, rfl⟩
    | false =>
      have hlt := weight_step_lt_of_not_ends hend
      have ih := agrees_drain_thin (s.step now).session now (closed_step.trans hc)
      rw [hstep]
      exact ih.add rfl rfl
termination_by s.weight

end Session

/-- Wherever the line stands in a reply, the same is brought with it and without it. -/
def HidesNothing (line : String) : Prop :=
  ∀ (feed : Feed) (earlier later : List Reply) (status : Int) (before after : List String) (ending : Ending)
    (now : Binary64), feed.closed = false →
    (Session.drain
      { feed, replies := earlier ++ .answered status (before ++ line :: after) ending :: later } now).Agrees
    (Session.drain { feed, replies := earlier ++ .answered status (before ++ after) ending :: later } now)

theorem hidesNothing_of_skipped {line : String} (h : Skipped line) : HidesNothing line := by
  intro feed earlier later status before after ending now hc
  have hthin : Session.thin
      { feed, replies := earlier ++ .answered status (before ++ line :: after) ending :: later } =
      Session.thin { feed, replies := earlier ++ .answered status (before ++ after) ending :: later } := by
    simp [Session.thin, Reply.thin, Feed.speaks_eq_false_iff.2 h]
  have hwith := Session.agrees_drain_thin
    { feed, replies := earlier ++ .answered status (before ++ line :: after) ending :: later } now hc
  rw [hthin] at hwith
  exact hwith.symm.trans (Session.agrees_drain_thin _ now hc)

/-! ## All other lines -/

theorem obstacle?_plain (reader : Reader) (replies : List Reply) :
    Session.obstacle? ⟨{ Feed.plain with begun := true }, reader, replies⟩ none = none := by
  have ht : (Feed.target { Feed.plain with begun := true } none).isOk = true := by decide +kernel
  unfold Session.obstacle?
  dsimp only
  generalize Feed.target { Feed.plain with begun := true } none = target at ht
  cases target with
  | error e => cases ht
  | ok target => rfl

/-- What a reply of some lines brings, apart from requests. -/
theorem drain_plain (lines : List String) (now : Binary64) :
    let s : Session := { feed := .plain, replies := [.answered 200 lines none] }
    let s' : Session := ⟨{ Feed.plain with begun := true }, .reading now none lines none, []⟩
    (s.drain now).notices = (s'.drain now).notices ∧ (s.drain now).failure = (s'.drain now).failure := by
  intro s s'
  let asking : Session := ⟨{ Feed.plain with begun := true }, .asking now none, s.replies⟩
  have hask : asking.step now = { session := s', requests := [none] } := by
    show asking.ask now none = _
    unfold Session.ask
    rw [obstacle?_plain]
    rfl
  have hfresh : s.step now = { session := asking } := rfl
  rw [Session.drain_of_step hfresh, Session.drain_of_step hask]
  exact ⟨rfl, rfl⟩

theorem skipped_of_hidesNothing {line : String} (h : HidesNothing line) : Skipped line := by
  have hd := h .plain [] [] 200 [] [] none default rfl
  obtain ⟨hnotices, hfailure⟩ := drain_plain [line] default
  obtain ⟨hnotices', hfailure'⟩ := drain_plain [] default
  have hn := (hnotices.symm.trans hd.notices).trans hnotices'
  have hf := (hfailure.symm.trans hd.failure).trans hfailure'
  let s : Session := ⟨{ Feed.plain with begun := true }, .reading default none [line] none, []⟩
  have hstep : s.step default = s.readLine default none line [] none := Session.step_reading_cons rfl rfl
  have hread : Feed.readLine line = ((Feed.readLine line).1, (Feed.readLine line).2) := rfl
  unfold Session.readLine at hstep
  cases hl : (Feed.readLine line).1 with
  | error e =>
    rw [hread, hl] at hstep
    rw [Session.drain_of_last hstep rfl] at hf
    cases hf
  | ok notice? => cases notice? with
    | some n =>
      rw [hread, hl] at hstep
      rw [Session.drain_eq, Session.ends, hstep] at hn
      cases hn
    | none => exact Feed.readLine_eq_none_iff.1 hl

/-- A line can be taken out of a reply if and only if it is skipped. -/
theorem hidesNothing_iff_skipped (line : String) : HidesNothing line ↔ Skipped line :=
  ⟨skipped_of_hidesNothing, hidesNothing_of_skipped⟩

/-- What an empty array hides: the notice of a death, and how the reply ends. -/
theorem not_hidesNothing_array :
    let death := "\x7b\x22status\x22: \x22die\x22, \x22id\x22: \x22c\x22\x7d"
    let harvest (lines : List String) : Session.Harvest :=
      Session.drain { feed := .plain, replies := [.answered 200 lines none] } default
    (Feed.readLine "[]").1 = .error (.payload (.notObject .arr)) ∧
      (harvest ["[]", death]).notices = [] ∧
      (harvest ["[]", death]).failure = some (.payload (.notObject .arr)) ∧
      (harvest [death]).notices = [⟨"c", .died, .zero false⟩] ∧ (harvest [death]).failure = none ∧
      ¬ HidesNothing "[]" := by
  intro death harvest
  have hwith : (harvest ["[]", death]).notices = [] := by decide +kernel
  have hwithout : (harvest [death]).notices = [⟨"c", .died, .zero false⟩] := by decide +kernel
  refine ⟨by decide +kernel, hwith, by decide +kernel, hwithout, by decide +kernel, fun h => ?_⟩
  have hd := (h .plain [] [] 200 [] [death] none default rfl).notices
  cases hwith.symm.trans (hd.trans hwithout)

end ContainerLaunch.Lifecycle
