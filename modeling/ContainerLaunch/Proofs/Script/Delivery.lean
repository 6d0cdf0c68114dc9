import ContainerLaunch.Proofs.Text.Points
import ContainerLaunch.Script.Delivery
/-!
# All of a script or nothing

However a script is delivered, the sink gets the whole of it in one piece or is not written to at all, and is
closed at last. What goes wrong first on the way there is what the delivery fails with: a sink that cannot be
closed hides nothing and adds nothing (`allOrNothing_deliver`).

`Attempt` lists the ways in which the part before the close can go. Between making a script and writing it lies its
encoding, which a text with a surrogate in it does not have.
-/

namespace ContainerLaunch

/-- Whether a call hands text over. -/
def SinkCall.isWrite : SinkCall → Bool
  | .write _ => true
  | _ => false

namespace Script

open Text (Points)

/-- The calls that come before the close, and what has gone wrong by then. -/
inductive Attempt (built : Except ScriptError Points) (sink : Sink) :
    List SinkCall → Option DeliveryError → Prop where
  | unbuilt {e} (hb : built = .error e) : Attempt built sink [] (some (.build e))
  | unencoded {text e} (hb : built = .ok text) (he : text.encode = .error e) :
    Attempt built sink [] (some (.encode e))
  | unwritten {text bytes f} (hb : built = .ok text) (he : text.encode = .ok bytes)
    (hw : sink.writeFailure = some f) : Attempt built sink [.write bytes] (some (.sink f))
  | written {text bytes} (hb : built = .ok text) (he : text.encode = .ok bytes) (hw : sink.writeFailure = none) :
    Attempt built sink [.write bytes, .flush] (sink.flushFailure.map .sink)

/-- A delivery ends well unless something has gone wrong. -/
def ending : Option DeliveryError → Except DeliveryError Unit
  | some e => .error e
  | none => .ok ()

/-- What goes wrong first: making the script, encoding it, writing it or flushing the sink. -/
def firstFailure (built : Except ScriptError Points) (sink : Sink) : Option DeliveryError :=
  match built with
  | .error e => some (.build e)
  | .ok text =>
    match text.encode with
    | .error e => some (.encode e)
    | .ok _ => (sink.writeFailure <|> sink.flushFailure).map .sink

/-- A sink that got a script, or did not, and what became of the delivery. -/
structure AllOrNothing (built : Except ScriptError Points) (sink : Sink) (d : Delivery) : Prop where
  once : d.calls.countP SinkCall.isWrite ≤ 1
  /-- What is written is the text of the script, the whole of it, in UTF-8. -/
  whole : ∀ bytes, .write bytes ∈ d.calls → ∃ s : String, built = .ok (.ofString s) ∧ bytes = s.toUTF8.data.toList
  flushed : ∀ before after, d.calls = before ++ .flush :: after →
    sink.writeFailure = none ∧ ∃ bytes, .write bytes ∈ before
  closed : ∃ before, d.calls = before ++ [.close] ∧ .close ∉ before
  unbuilt : ∀ e, built = .error e → d.calls = [.close]
  /-- With a surrogate in it the text is not written, and the first one is what the delivery fails with. -/
  unencoded : ∀ (s : String) n after, built = .ok (Points.ofString s ++ .surrogate n :: after) →
    d.calls = [.close] ∧ d.result = .error (.encode ⟨s.length, n, Points.leading after⟩)
  result : d.result = ending (firstFailure built sink)
  delivered : d.result = .ok () →
    ∃ s : String, built = .ok (.ofString s) ∧ d.calls = [.write s.toUTF8.data.toList, .flush, .close]

section
variable {built : Except ScriptError Points} {sink : Sink} {calls : List SinkCall} {failure? : Option DeliveryError}

theorem deliver_error (e : ScriptError) (hclose : ∀ f, sink.closeFailure = some f → f.isOrdinary) :
    (deliver (.error e) sink).calls = [.close] ∧ (deliver (.error e) sink).result = .error (.build e) := by
  cases hc : sink.closeFailure with
  | none => simp [deliver, hc]
  | some f => simp [deliver, hc, hclose f hc]

/-- Closing comes last, and if it fails in an ordinary way, the ending stays as it is. -/
theorem deliver_ok (text : Points) (hclose : ∀ f, sink.closeFailure = some f → f.isOrdinary) :
    (deliver (.ok text) sink).calls = (sink.put text).1 ++ [.close] ∧
      (deliver (.ok text) sink).result = ending (sink.put text).2 := by
  rcases hw : sink.put text with ⟨calls, _ | e⟩ <;> cases hc : sink.closeFailure with
  | none => simp [deliver, hw, hc, ending]
  | some c => simp [deliver, hw, hc, ending, hclose c hc]

theorem exists_attempt (built : Except ScriptError Points)
    (hclose : ∀ f, sink.closeFailure = some f → f.isOrdinary) :
    ∃ calls failure?, Attempt built sink calls failure? ∧
      (deliver built sink).calls = calls ++ [.close] ∧ (deliver built sink).result = ending failure? := by
  rcases built with e | text
  · exact ⟨[], _, .unbuilt rfl, deliver_error e hclose⟩
  · have h := deliver_ok text hclose
    unfold Sink.put at h
    cases he : text.encode with
    | error e =>
      rw [he] at h
      exact ⟨_, _, .unencoded rfl he, h⟩
    | ok bytes =>
      cases hw : sink.writeFailure with
      | some f =>
        rw [he, hw] at h
        exact ⟨_, _, .unwritten rfl he hw, h⟩
      | none =>
        rw [he, hw] at h
        exact ⟨_, _, .written rfl he hw, h⟩

namespace Attempt

theorem failure?_eq (h : Attempt built sink calls failure?) : failure? = firstFailure built sink := by
  cases h with
  | unbuilt hb =>
    rw [hb]
    rfl
  | unencoded hb he => simp [firstFailure, hb, he]
  | unwritten hb he hw => simp [firstFailure, hb, he, hw]
  | written hb he hw => simp [firstFailure, hb, he, hw]

theorem close_notMem (h : Attempt built sink calls failure?) : SinkCall.close ∉ calls := by
  cases h <;> simp

theorem countP_isWrite (h : Attempt built sink calls failure?) : calls.countP SinkCall.isWrite ≤ 1 := by
  cases h with
  | unbuilt _ | unencoded _ _ => exact Nat.zero_le 1
  | unwritten _ _ _ | written _ _ _ => exact Nat.le_refl 1

theorem eq_nil_of_unbuilt (h : Attempt built sink calls failure?) {e : ScriptError} (hb : built = .error e) :
    calls = [] := by
  cases h with
  | unbuilt _ | unencoded _ _ => rfl
  | unwritten hb' _ _ => cases hb.symm.trans hb'
  | written hb' _ _ => cases hb.symm.trans hb'

theorem eq_nil_of_unencoded (h : Attempt built sink calls failure?) {text : Points} {e : Text.EncodeError}
    (hb : built = .ok text) (he : text.encode = .error e) : calls = [] := by
  have hnot {text' bytes} (hb' : built = .ok text') (he' : text'.encode = .ok bytes) : False := by
    obtain rfl := Except.ok.inj (hb.symm.trans hb')
    cases he.symm.trans he'
  cases h with
  | unbuilt _ | unencoded _ _ => rfl
  | unwritten hb' he' _ => exact (hnot hb' he').elim
  | written hb' he' _ => exact (hnot hb' he').elim

theorem exists_of_write_mem (h : Attempt built sink calls failure?) {bytes : List UInt8}
    (hm : .write bytes ∈ calls) : ∃ s : String, built = .ok (.ofString s) ∧ bytes = s.toUTF8.data.toList := by
  have hencoded {text} (hb : built = .ok text) (he : text.encode = .ok bytes) :
      ∃ s : String, built = .ok (.ofString s) ∧ bytes = s.toUTF8.data.toList := by
    obtain ⟨s, rfl, hs⟩ := Points.encode_eq_ok_iff.1 he
    exact ⟨s, hb, hs⟩
  cases h with
  | unbuilt _ | unencoded _ _ => cases hm
  | unwritten hb he _ =>
    obtain rfl := SinkCall.write.inj (List.mem_singleton.1 hm)
    exact hencoded hb he
  | written hb he _ =>
    rcases List.mem_cons.1 hm with hm | hm
    · obtain rfl := SinkCall.write.inj hm
      exact hencoded hb he
    · cases List.mem_singleton.1 hm

theorem written_of_flush (h : Attempt built sink calls failure?) {before after : List SinkCall}
    (hc : calls ++ [.close] = before ++ .flush :: after) :
    sink.writeFailure = none ∧ ∃ bytes, .write bytes ∈ before := by
  have hm : SinkCall.flush ∈ calls ++ [.close] := hc ▸ List.mem_append_right _ List.mem_cons_self
  cases h with
  | unbuilt _ | unencoded _ _ | unwritten _ _ _ => simp at hm
  | @written _ bytes _ _ hw =>
    -- The flush is no first call, and the first one is the write.
    rcases before with _ | ⟨first, before⟩
    · cases hc
    · obtain ⟨rfl, -⟩ := List.cons.inj hc
      exact ⟨hw, bytes, List.mem_cons_self⟩

theorem delivered (h : Attempt built sink calls failure?) (hr : ending failure? = .ok ()) :
    ∃ s : String, built = .ok (.ofString s) ∧ calls = [.write s.toUTF8.data.toList, .flush] := by
  cases h with
  | unbuilt _ | unencoded _ _ | unwritten _ _ _ => cases hr
  | written hb he _ =>
    obtain ⟨s, rfl, rfl⟩ := Points.encode_eq_ok_iff.1 he
    exact ⟨s, hb, rfl⟩

end Attempt

theorem allOrNothing_of_close (built : Except ScriptError Points)
    (hclose : ∀ f, sink.closeFailure = some f → f.isOrdinary) : AllOrNothing built sink (deliver built sink) := by
  obtain ⟨calls, failure?, h, hcalls, hresult⟩ := exists_attempt built hclose
  constructor
  case once => simpa [hcalls, SinkCall.isWrite] using h.countP_isWrite
  case whole =>
    intro bytes hm
    rw [hcalls] at hm
    rcases List.mem_append.1 hm with hm | hm
    · exact h.exists_of_write_mem hm
    · cases List.mem_singleton.1 hm
  case flushed =>
    intro before after hc
    exact h.written_of_flush (hcalls.symm.trans hc)
  case closed => exact ⟨calls, hcalls, h.close_notMem⟩
  case unbuilt =>
    intro e hb
    rw [hcalls, h.eq_nil_of_unbuilt hb]
    rfl
  case unencoded =>
    intro s n after hb
    have he := Points.encode_ofString_append_surrogate s n after
    rw [hcalls, hresult, h.eq_nil_of_unencoded hb he, h.failure?_eq]
    simp [firstFailure, hb, he, ending]
  case result => rw [hresult, h.failure?_eq]
  case delivered =>
    intro hr
    obtain ⟨s, hb, rfl⟩ := h.delivered (hresult.symm.trans hr)
    exact ⟨s, hb, hcalls⟩

end

/-- Whatever making the script comes to, and whatever writing and flushing come to: a sink whose close fails in no
other than an ordinary way gets all of the script or nothing. What is written for values that are strings of
characters is the script that is built from them, and encoding it does not fail. -/
theorem allOrNothing_deliver (sink : Sink) (hclose : ∀ f, sink.closeFailure = some f → f.isOrdinary) :
    (∀ built : Except ScriptError Points, AllOrNothing built sink (deliver built sink)) ∧
      ∀ environment resources argv exclusions : Json,
        let built := do ofValues environment resources argv (← Script.exclusions exclusions)
        (∀ bytes, .write bytes ∈ (deliver (built.map points) sink).calls →
          ∃ script, built = .ok script ∧ bytes = script.render.toUTF8.data.toList) ∧
        ∀ e, (deliver (built.map points) sink).result ≠ .error (.encode e) := by
  refine ⟨fun built => allOrNothing_of_close built hclose, fun environment resources argv exclusions => ?_⟩
  intro built
  have h := allOrNothing_of_close (built.map points) hclose
  constructor
  · intro bytes hm
    obtain ⟨s, hs, hbytes⟩ := h.whole bytes hm
    rcases hbuilt : built with e | script
    · rw [hbuilt] at hs
      cases hs
    · rw [hbuilt] at hs
      have hencode : script.points.encode = .ok bytes := by
        rw [Except.ok.inj hs, Points.encode_ofString, hbytes]
      exact ⟨script, rfl, Except.ok.inj (hencode.symm.trans (Points.encode_ofString script.render))⟩
  · intro e he
    rw [h.result] at he
    rcases hbuilt : built with e' | script
    · rw [hbuilt] at he
      cases he
    · have hencode := Points.encode_ofString script.render
      rw [hbuilt] at he
      simp only [Except.map, firstFailure, points, hencode] at he
      cases hf : (sink.writeFailure <|> sink.flushFailure) <;> rw [hf] at he <;> cases he

/-- What keeps a script from being made or encoded is reported although the sink cannot be closed either. -/
theorem allOrNothing_deliver_unbuilt :
    let sink : Sink := { closeFailure := some ⟨.os, "busy"⟩ }
    let built := do ofValues .null .null (.arr [.str "true"]) (← Script.exclusions (.int 5))
    let text : Points := Points.ofString "export A=" ++ [.surrogate 0x480, .surrogate 0x4ff, .char '\n']
    (∀ f, sink.closeFailure = some f → f.isOrdinary) ∧
      (deliver (built.map points) sink).calls = [.close] ∧
      (deliver (built.map points) sink).result = .error (.build (.notList .int)) ∧
      AllOrNothing (built.map points) sink (deliver (built.map points) sink) ∧
      (deliver (.ok text) sink).calls = [.close] ∧
      (deliver (.ok text) sink).result = .error (.encode ⟨9, 0x480, 1⟩) ∧
      AllOrNothing (.ok text) sink (deliver (.ok text) sink) := by
  intro sink built text
  have hclose : ∀ f, sink.closeFailure = some f → f.isOrdinary := by
    rintro f ⟨⟩
    decide
  have h := allOrNothing_deliver sink hclose
  exact ⟨hclose, rfl, rfl, h.1 _, rfl, rfl, h.1 _⟩

end Script

end ContainerLaunch
