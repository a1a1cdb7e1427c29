import ZModel.Relay.StreamScanner

/-!
# What the data handler is called with

Once, in order, with each payload before the end, if the stream ends by itself. A line that starts
with the marker is cut like a data line: the handler gets the rest of the marker.
-/

namespace ZModel.Relay.Stream

open Lib

def payloads : List String → List String
  | [] => []
  | line :: lines =>
    match classify line with
    | .skipped => payloads lines
    | .marker => []
    | .payload data => data :: payloads lines

def IsBareMarker (line : String) : Prop := line.toList.take 6 = doneMarker

def IsMarker (line : String) : Prop :=
  IsBareMarker line ∨ line.toList.take 5 = dataPrefix ∧ doneMarker.isPrefixOf (dataOf line).toList

instance : DecidablePred IsBareMarker := fun _ => inferInstanceAs (Decidable (_ = _))

instance : DecidablePred IsMarker := fun _ => inferInstanceAs (Decidable (_ ∨ _))

variable (lines : List String)

def expectedPayloads : List String :=
  (lines.takeWhile fun line => ¬IsMarker line).filterMap fun line =>
    if line.toList.take 5 = dataPrefix ∧ dataOf line ≠ "" then some (dataOf line) else none

def MarkerHasPrefix : Prop :=
  ∀ line, lines.find? (fun line => IsMarker line) = some line → ¬IsBareMarker line

theorem classify_bareMarker {line : String} (h : IsBareMarker line) :
    classify line = .payload (dataOf line) := by
  have hline : line.toList = doneMarker ++ line.toList.drop 6 := by
    rw [← h, List.take_append_drop]
  have hcut : line.toList.drop 5 = ']' :: line.toList.drop 6 := by
    rw [hline]
    rfl
  have hlength : ¬line.toList.length < 6 := by
    rw [hline, List.length_append]
    exact Nat.not_lt.mpr (Nat.le_add_right 6 _)
  have hblank : dataOf line ≠ "" := by
    have hcons : (String.ofList (line.toList.drop 5)).toList = ']' :: line.toList.drop 6 := by
      rw [String.toList_ofList, hcut]
    exact of_decide_eq_false (isBlank_of_cons hcons (by decide))
  have hmarker : doneMarker.isPrefixOf (dataOf line).toList = false := by
    rw [Bool.eq_false_iff, ne_eq, List.isPrefixOf_iff_prefix]
    intro hprefix
    have hdata : (dataOf line).toList <+: ']' :: line.toList.drop 6 := by
      rw [dataOf, trimSpace_eq, String.toList_ofList, String.toList_ofList, hcut]
      exact List.rdropWhile_prefix _ _
    obtain ⟨rest, hrest⟩ := hprefix.trans hdata
    cases hrest
  rw [classify, if_neg hlength, if_neg (fun hno => hno.2 h), if_neg hblank, hmarker]
  rfl

theorem classify_of_not_bare {line : String} (h : ¬IsBareMarker line) : classify line =
      if line.toList.take 5 = dataPrefix ∧ dataOf line ≠ "" then
        if IsMarker line then .marker else .payload (dataOf line)
      else .skipped := by
  unfold classify
  by_cases hdata : line.toList.take 5 = dataPrefix
  · by_cases hblank : dataOf line = ""
    · simp only [hblank, ne_eq, not_true, and_false, if_false, if_true, ite_self]
    · have hlength : ¬line.toList.length < 6 := by
        intro hlt
        refine hblank ?_
        rw [dataOf, List.drop_eq_nil_of_le (by omega)]
        rfl
      have hboth : line.toList.take 5 = dataPrefix ∧ dataOf line ≠ "" := ⟨hdata, hblank⟩
      rw [if_neg hlength, if_neg fun hno => hno.1 hdata, if_neg hblank, if_pos hboth]
      exact if_congr ⟨fun hm => .inr ⟨hdata, hm⟩, fun hm => (hm.resolve_left h).2⟩ rfl rfl
  · have hskip : line.toList.take 5 ≠ dataPrefix ∧ line.toList.take 6 ≠ doneMarker := ⟨hdata, h⟩
    rw [if_pos hskip, ite_self, if_neg fun hno => hdata hno.1]

theorem expectedPayloads_cons (line : String) (lines : List String) :
    expectedPayloads (line :: lines) = if IsMarker line then []
      else if line.toList.take 5 = dataPrefix ∧ dataOf line ≠ "" then
        dataOf line :: expectedPayloads lines
      else expectedPayloads lines := by
  unfold expectedPayloads
  by_cases hmarker : IsMarker line
  · simp [hmarker]
  by_cases hdata : line.toList.take 5 = dataPrefix ∧ dataOf line ≠ ""
  · simp [hmarker, hdata]
  · simp [hmarker, hdata]

theorem markerHasPrefix_cons (line : String) (lines : List String) :
    MarkerHasPrefix (line :: lines) ↔
      if IsMarker line then ¬IsBareMarker line else MarkerHasPrefix lines := by
  unfold MarkerHasPrefix
  by_cases hmarker : IsMarker line
  · simp [hmarker]
  · simp [hmarker]

theorem payloads_eq_iff : payloads lines = expectedPayloads lines ↔ MarkerHasPrefix lines := by
  induction lines with
  | nil => exact iff_of_true rfl nofun
  | cons line lines ih =>
    rw [expectedPayloads_cons, markerHasPrefix_cons, payloads]
    by_cases hbare : IsBareMarker line
    · have hmarker : IsMarker line := .inl hbare
      rw [classify_bareMarker hbare, if_pos hmarker, if_pos hmarker]
      exact iff_of_false nofun fun hno => hno hbare
    rw [classify_of_not_bare hbare]
    by_cases hmarker : IsMarker line
    · obtain ⟨hdata, hprefix⟩ := hmarker.resolve_left hbare
      have hne : dataOf line ≠ "" := by
        intro hblank
        rw [hblank] at hprefix
        cases hprefix
      simp [hmarker, hdata, hne, hbare]
    rw [if_neg hmarker, if_neg hmarker, if_neg hmarker]
    by_cases hdata : line.toList.take 5 = dataPrefix ∧ dataOf line ≠ ""
    · rw [if_pos hdata, if_pos hdata]
      simpa using ih
    · rw [if_neg hdata, if_neg hdata]
      exact ih

/-- No timeout, no loss of the client, no stop by the handler and no panic. -/
def Move.quiet : Move → Bool
  | .timeout | .disconnect | .scannerPanic | .pinged .panicked => false
  | .handled h => h = .continued
  | _ => true

def Handler.held : Handler → List String
  | .lock data | .handle data => [data]
  | _ => []

def Scanner.rest : Scanner → List String
  | .scan => payloads lines
  | .hold line => payloads (line :: lines)
  | .offer data => data :: payloads lines
  | _ => []

/-- Nothing is stopped before the handler is done, and what was read is on its way. -/
structure Flow (lines : List String) (s : State) : Prop where
  client : s.clientGone = false
  ping : s.ping ≠ .stop
  stopped : s.stopClosed = true → s.handler = .exited
  cleaning : s.main ≠ .select ∧ s.main ≠ .drain → s.stopClosed = true
  cancelled : s.cancelled = true ∨ s.bodyClosed = true → s.stopClosed = true
  drained : s.handler = .await ∨ s.handler = .stop ∨ s.handler = .exited →
    s.dataClosed = true ∧ s.data = []
  flow : s.handled ++ s.handler.held ++ s.data ++ s.scanner.rest s.lines = payloads lines

variable {lines : List String}

theorem Flow.step {s s' : State} {m : Move} (h : Flow lines s) (hg : Good s)
    (hquiet : m.quiet = true) (hstep : step s m = some s') : Flow lines s' := by
  obtain ⟨hclient, hping, hstopped, hcleaning, hcancelled, hdrained, hflow⟩ := h
  have hdata := hg.dataClosed
  have hawait := hg.await
  clear hg
  cases m <;> simp only [Stream.step, State.finished, State.checked, State.afterCall,
    State.afterPing, State.setEndReason] at hstep <;> (repeat' split at hstep) <;> cases hstep <;>
    constructor <;> dsimp only <;>
    first
    | assumption
    | simp_all [Move.quiet, Handler.held, Scanner.rest, payloads]

theorem Flow.initial (lines : List String) (ending : Ending) (pingEnabled : Bool) :
    Flow lines (initial lines ending pingEnabled) := by
  cases pingEnabled <;> constructor <;> simp [Stream.initial, Handler.held, Scanner.rest]

theorem Flow.run {s s' : State} {moves : List Move} (h : Flow lines s)
    (hg : Good s) (hquiet : ∀ m ∈ moves, m.quiet = true) (hrun : runMoves s moves = some s') :
    Flow lines s' := by
  induction moves generalizing s with
  | nil =>
    cases hrun
    exact h
  | cons m moves ih =>
    obtain ⟨s₁, hstep, hrun⟩ := runMoves_cons hrun
    exact ih (h.step hg (hquiet m (.head _)) hstep) (hg.step hstep)
      (fun m hm => hquiet m (.tail _ hm)) hrun

theorem Flow.handled_eq {s : State} (h : Flow lines s)
    (hscanner : s.scanner = .exited) (hhandler : s.handler = .exited) :
    s.handled = payloads lines := by
  have hflow := h.flow
  rw [hscanner, hhandler, (h.drained (.inr (.inr hhandler))).2] at hflow
  simpa [Handler.held, Scanner.rest] using hflow

/-- A stream that ends by itself: the handler is called with the expected payloads, and with them
only, exactly if the first end marker is not a bare one. -/
theorem delivered_iff (lines : List String) (ending : Ending) (pingEnabled : Bool)
    {moves : List Move} {s : State} (hquiet : ∀ m ∈ moves, m.quiet = true)
    (hrun : runMoves (initial lines ending pingEnabled) moves = some s)
    (hreturned : s.main = .returned) :
    s.handled = expectedPayloads lines ∧ s.handler = .exited ↔ MarkerHasPrefix lines := by
  have hstart := Good.initial lines ending pingEnabled
  have hflow := (Flow.initial lines ending pingEnabled).run hstart hquiet hrun
  obtain ⟨hscanner, hhandler, -⟩ := (hstart.run hrun).returned hreturned
  rw [hflow.handled_eq hscanner hhandler, payloads_eq_iff]
  exact and_iff_left hhandler

theorem delivered_sample :
    ∃ s, runMoves (initial markedLines .eof false) markedRun = some s ∧
      s.handled = expectedPayloads markedLines := by
  have hrun : ∃ s, runMoves (initial markedLines .eof false) markedRun = some s ∧
      s.main = .returned := ⟨_, by rfl, by decide +kernel⟩
  obtain ⟨s, hrun, hmain⟩ := hrun
  have hprefix : MarkerHasPrefix markedLines := (payloads_eq_iff _).mp (by decide +kernel)
  exact ⟨s, hrun, ((delivered_iff _ _ _ (by decide) hrun hmain).mpr hprefix).1⟩

/-- The bare marker does not end the stream, and its last character is delivered. -/
theorem bare_marker_delivered :
    ∃ s, runMoves (initial ["data: a", "[DONE]"] .eof false) (plainRun 2 [.scanEnd]) = some s ∧
      s.main = .returned ∧ s.handled = ["a", "]"] ∧
      expectedPayloads ["data: a", "[DONE]"] = ["a"] :=
  ⟨_, by rfl, by decide +kernel⟩

/-- Delivered, under way and to come. -/
def State.flow (s : State) : List String :=
  s.handled ++ s.handler.held ++ s.data ++ s.scanner.rest s.lines

theorem flow_step (s : State) (m : Move) : ((step s m).getD s).flow <+: s.flow := by
  cases m <;> simp only [step, State.finished, State.checked, State.afterCall, State.afterPing,
    State.setEndReason] <;> (repeat' split) <;>
    simp_all [State.flow, Handler.held, Scanner.rest, payloads]

/-- However a run ends, payloads are handed over in order and without a gap. -/
theorem handled_in_order (ending : Ending) (pingEnabled : Bool) (moves : List Move) :
    (moves.foldl (fun s m => (step s m).getD s) (initial lines ending pingEnabled)).flow <+:
      payloads lines := by
  apply List.foldlRecOn (motive := (State.flow · <+: payloads lines))
  · exact List.prefix_rfl
  · intro s h m _
    exact (flow_step s m).trans h

end ZModel.Relay.Stream
