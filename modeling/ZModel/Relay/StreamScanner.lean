import Mathlib.Tactic.Common
import ZModel.Lib.Text

/-!
# The stream scanner

`StreamScannerHandler` of `relay/helper/stream_scanner.go`: a scanner goroutine sends the payloads
of the upstream through a channel to the handler goroutine, a third goroutine pings the client, and
the calling one waits for the end and cleans up. Every step between two accesses to what they share
is a move, with what the outside decides. `fault` records a channel that is closed twice or sent on
after it was closed.
-/

namespace ZModel.Relay.Stream

open Lib

inductive LineKind where
  | skipped
  | marker
  | payload (data : String)

def dataPrefix : List Char := "data:".toList

def doneMarker : List Char := "[DONE]".toList

def dataOf (line : String) : String := trimSpace (String.ofList (line.toList.drop 5))

def classify (line : String) : LineKind :=
  if line.toList.length < 6 then .skipped
  else if line.toList.take 5 ≠ dataPrefix ∧ line.toList.take 6 ≠ doneMarker then .skipped
  else if dataOf line = "" then .skipped
  else if doneMarker.isPrefixOf (dataOf line).toList then .marker
  else .payload (dataOf line)

inductive Reason where
  | done
  | timeout
  | clientGone
  | scannerError
  | handlerStop
  | eof
  | panic
  | pingFail
  deriving DecidableEq

/-- How the upstream ends after its lines: the body ends, a read fails, or nothing more comes until
the body is closed. -/
inductive Ending where
  | eof
  | failure
  | stall
  deriving DecidableEq

/-- The scanner reads, has a line, waits to send, or is in its deferred function: it closes the
channel of the data, sends its result, and closes the channel that says it is done. -/
inductive Scanner where
  | scan
  | hold (line : String)
  | offer (data : String)
  | close (reason : Reason)
  | report (reason : Reason)
  | announce
  | exited
  deriving DecidableEq

inductive Handler where
  | receive
  | lock (data : String)
  | handle (data : String)
  | await
  | stop
  | exited
  deriving DecidableEq

inductive Ping where
  | wait
  | lock
  | write
  | stop
  | exited
  deriving DecidableEq

inductive Main where
  | select
  | drain
  | cleanup
  | wait
  | returned
  deriving DecidableEq

inductive Writer where
  | handler
  | ping

structure State where
  lines : List String
  ending : Ending
  scanner : Scanner := .scan
  handler : Handler := .receive
  ping : Ping
  main : Main := .select
  data : List String := []
  dataClosed : Bool := false
  result : Option Reason := none
  doneClosed : Bool := false
  stopClosed : Bool := false
  cancelled : Bool := false
  bodyClosed : Bool := false
  clientGone : Bool := false
  mutex : Option Writer := none
  recorded : List Reason := []
  endReason : Option Reason := none
  handled : List String := []
  fault : Bool := false

variable (lines : List String)

def initial (ending : Ending) (pingEnabled : Bool) : State where
  lines := lines
  ending := ending
  ping := if pingEnabled then .wait else .exited

inductive Handled where
  | continued
  | stopped
  | done
  | panicked
  deriving DecidableEq

inductive Pinged where
  | sent
  | failed
  | panicked
  deriving DecidableEq

inductive Move where
  | scanNext
  | scanEnd
  | scanClosed
  | scannerPanic
  | check
  | send
  | abandon
  | finish
  | receive
  | lockData
  | handled (h : Handled)
  | awaitResult
  | handlerStop
  | tick
  | lockPing
  | pinged (p : Pinged)
  | pingQuit
  | pingStop
  | timeout
  | sawStop
  | sawDone
  | sawGone
  | clean
  | ret
  | disconnect
  deriving DecidableEq

section

variable (s : State)

/-- `SetEndReason`: the first call counts; `recorded` has all of them, the latest in front. -/
def State.setEndReason (r : Reason) : State :=
  { s with recorded := r :: s.recorded, endReason := some (s.endReason.getD r) }

def State.checked (line : String) : State :=
  if s.stopClosed ∨ s.cancelled then { s with scanner := .close .eof }
  else
    match classify line with
    | .skipped => { s with scanner := .scan }
    | .marker => { s with scanner := .close .done }
    | .payload data => { s with scanner := .offer data }

def State.afterCall (data : String) (h : Handled) : State :=
  let s := { s with mutex := none, handled := s.handled ++ [data] }
  match h with
  | .continued => { s with handler := .receive }
  | .stopped => { s with handler := .stop }.setEndReason .handlerStop
  | .done => { s with handler := .stop }.setEndReason .done
  | .panicked => { s with handler := .stop }.setEndReason .panic

def State.afterPing (p : Pinged) : State :=
  let s := { s with mutex := none }
  match p with
  | .sent => { s with ping := .wait }
  | .failed => { s with ping := .exited }.setEndReason .pingFail
  | .panicked => { s with ping := .stop }.setEndReason .panic

def State.finished : Option State :=
  match s.scanner with
  | .close r =>
    some { s with scanner := .report r, dataClosed := true, fault := s.fault || s.dataClosed }
  | .report r => if s.result = none then some { s with scanner := .announce, result := some r } else none
  | .announce =>
    some { s with scanner := .exited, doneClosed := true, fault := s.fault || s.doneClosed }
  | _ => none

def step : Move → Option State
  | .scanNext =>
    match s.scanner, s.lines with
    | .scan, line :: rest => some { s with scanner := .hold line, lines := rest }
    | _, _ => none
  | .scanEnd =>
    match s.scanner, s.lines, s.ending with
    | .scan, [], .eof => some { s with scanner := .close .eof }
    | .scan, [], .failure => some { s with scanner := .close .scannerError }
    | _, _, _ => none
  | .scanClosed =>
    if s.scanner = .scan ∧ s.bodyClosed then some { s with scanner := .close .scannerError }
    else none
  | .scannerPanic =>
    match s.scanner with
    | .scan | .hold _ => some { s with scanner := .close .panic }
    | _ => none
  | .check =>
    match s.scanner with
    | .hold line => some (s.checked line)
    | _ => none
  | .send =>
    match s.scanner with
    | .offer data =>
      if s.data.length < 10 then
        some { s with scanner := .scan, data := s.data ++ [data], fault := s.fault || s.dataClosed }
      else none
    | _ => none
  | .abandon =>
    match s.scanner with
    | .offer _ =>
      if s.stopClosed ∨ s.cancelled then some { s with scanner := .close .eof } else none
    | _ => none
  | .finish => s.finished
  | .receive =>
    match s.handler, s.data with
    | .receive, data :: rest => some { s with handler := .lock data, data := rest }
    | .receive, [] => if s.dataClosed then some { s with handler := .await } else none
    | _, _ => none
  | .lockData =>
    match s.handler, s.mutex with
    | .lock data, none => some { s with handler := .handle data, mutex := some .handler }
    | _, _ => none
  | .handled h =>
    match s.handler with
    | .handle data => some (s.afterCall data h)
    | _ => none
  | .awaitResult =>
    match s.handler, s.result with
    | .await, some r => some ({ s with handler := .stop, result := none }.setEndReason r)
    | _, _ => none
  | .handlerStop =>
    if s.handler = .stop then some { s with handler := .exited, stopClosed := true } else none
  | .tick => if s.ping = .wait then some { s with ping := .lock } else none
  | .lockPing =>
    if s.ping = .lock ∧ s.mutex = none then some { s with ping := .write, mutex := some .ping }
    else none
  | .pinged p => if s.ping = .write then some (s.afterPing p) else none
  -- The goroutine also ends by itself after half an hour.
  | .pingQuit => if s.ping = .wait then some { s with ping := .exited } else none
  | .pingStop => if s.ping = .stop then some { s with ping := .exited, stopClosed := true } else none
  | .timeout =>
    if s.main = .select then some ({ s with main := .cleanup }.setEndReason .timeout) else none
  | .sawStop =>
    match s.main with
    | .select | .drain => if s.stopClosed then some { s with main := .cleanup } else none
    | _ => none
  | .sawDone => if s.main = .select ∧ s.doneClosed then some { s with main := .drain } else none
  | .sawGone =>
    match s.main with
    | .select | .drain =>
      if s.clientGone then some ({ s with main := .cleanup }.setEndReason .clientGone) else none
    | _ => none
  | .clean =>
    if s.main = .cleanup then
      some { s with main := .wait, cancelled := true, stopClosed := true, bodyClosed := true }
    else none
  | .ret =>
    if s.main = .wait ∧ s.scanner = .exited ∧ s.handler = .exited ∧ s.ping = .exited then
      some { s with main := .returned }
    else none
  | .disconnect => if s.clientGone = false then some { s with clientGone := true } else none

def runMoves (moves : List Move) : Option State := moves.foldlM step s

end

/-- What holds in every state: which goroutine has done what, by the point where it is. -/
structure Good (s : State) : Prop where
  dataClosed : s.dataClosed = true ↔
    (∃ r, s.scanner = .report r) ∨ s.scanner = .announce ∨ s.scanner = .exited
  doneClosed : s.doneClosed = true ↔ s.scanner = .exited
  noResult : s.result.isSome = true → s.scanner = .announce ∨ s.scanner = .exited
  result : s.scanner = .announce ∨ s.scanner = .exited →
    s.result.isSome = true ∨ s.handler = .stop ∨ s.handler = .exited
  await : s.handler = .await → s.dataClosed = true
  stopped : s.handler = .exited → s.stopClosed = true
  reason : s.handler = .stop ∨ s.handler = .exited → s.endReason.isSome = true
  mutexHandler : s.mutex = some .handler → ∃ data, s.handler = .handle data
  mutexPing : s.mutex = some .ping → s.ping = .write
  drained : s.main = .drain → s.scanner = .exited
  cleaned : s.main = .wait ∨ s.main = .returned →
    s.cancelled = true ∧ s.stopClosed = true ∧ s.bodyClosed = true
  returned : s.main = .returned → s.scanner = .exited ∧ s.handler = .exited ∧ s.ping = .exited
  first : s.endReason = s.recorded.getLast?
  sound : s.fault = false

theorem Good.initial (ending : Ending) (pingEnabled : Bool) :
    Good (initial lines ending pingEnabled) := by
  constructor <;> simp [Stream.initial]

variable {s s' : State}

theorem Good.step {m : Move} (h : Good s) (hstep : step s m = some s') : Good s' := by
  obtain ⟨hdata, hdone, hnoResult, hresult, hawait, hstopped, hreason, hhandler, hping, hdrained,
    hcleaned, hreturned, hfirst, hsound⟩ := h
  cases m <;> simp only [Stream.step, State.finished, State.checked, State.afterCall,
    State.afterPing, State.setEndReason] at hstep <;> (repeat' split at hstep) <;>
    cases hstep <;> constructor <;> dsimp only <;>
    first
    | assumption
    | (simp only [List.getLast?_cons, hfirst]; done)
    | simp_all

variable {moves : List Move}

theorem runMoves_cons {m : Move} (h : runMoves s (m :: moves) = some s') :
    ∃ s₁, step s m = some s₁ ∧ runMoves s₁ moves = some s' :=
  Option.bind_eq_some_iff.mp h

theorem Good.run (h : Good s) (hrun : runMoves s moves = some s') : Good s' := by
  induction moves generalizing s with
  | nil =>
    cases hrun
    exact h
  | cons m moves ih =>
    obtain ⟨s₁, hstep, hrun⟩ := runMoves_cons hrun
    exact ih (h.step hstep) hrun

def Scanner.work : Scanner → Nat
  | .scan => 4
  | .hold _ => 11
  | .offer _ => 10
  | .close _ => 3
  | .report _ => 2
  | .announce => 1
  | .exited => 0

def Handler.work : Handler → Nat
  | .receive => 3
  | .lock _ => 6
  | .handle _ => 5
  | .await => 2
  | .stop => 1
  | .exited => 0

def Ping.work : Ping → Nat
  | .wait => 1
  | .lock => 3
  | .write => 2
  | .stop => 1
  | .exited => 0

def Main.work : Main → Nat
  | .select => 4
  | .drain => 3
  | .cleanup => 2
  | .wait => 1
  | .returned => 0

/-- The work that is left. Only a tick of the ping timer adds to it. -/
def State.work (s : State) : Nat :=
  8 * s.lines.length + s.scanner.work + 4 * s.data.length + s.handler.work + s.ping.work +
    s.main.work + if s.clientGone then 0 else 1

theorem work_step {m : Move} (h : step s m = some s') :
    s'.work + 1 ≤ s.work + if m = .tick then 3 else 0 := by
  cases m <;> simp only [step, State.finished, State.checked, State.afterCall, State.afterPing,
    State.setEndReason] at h <;> (repeat' split at h) <;> cases h <;>
    simp_all [State.work, Scanner.work, Handler.work, Ping.work, Main.work] <;> omega

theorem work_run (h : runMoves s moves = some s') :
    moves.length + s'.work ≤ s.work + 3 * moves.count .tick := by
  induction moves generalizing s with
  | nil =>
    cases h
    simp
  | cons m moves ih =>
    obtain ⟨s₁, hstep, hrun⟩ := runMoves_cons h
    have hwork := work_step hstep
    have hrest := ih hrun
    rw [List.length_cons, List.count_cons]
    by_cases hm : m = .tick
    · simp only [hm, if_true, BEq.rfl] at hwork ⊢
      omega
    · simp only [hm, if_false] at hwork ⊢
      omega

/-- Some move is possible that is not a tick of the ping timer and not the loss of the client. -/
def State.Progress (s : State) : Prop :=
  ∃ m, m ≠ .tick ∧ m ≠ .disconnect ∧ (step s m).isSome = true

section

variable {s : State} (h : Good s)

include h

theorem Good.mutex_free : s.mutex = none ∨ s.Progress := by
  cases hmutex : s.mutex with
  | none => exact .inl rfl
  | some w =>
    right
    cases w with
    | handler =>
      obtain ⟨data, hdata⟩ := h.mutexHandler hmutex
      exact ⟨.handled .continued, nofun, nofun, by simp [Stream.step, hdata]⟩
    | ping => exact ⟨.pinged .sent, nofun, nofun, by simp [Stream.step, h.mutexPing hmutex]⟩

theorem Good.ping_moves (hping : s.ping ≠ .exited) : s.Progress := by
  cases hs : s.ping with
  | wait => exact ⟨.pingQuit, nofun, nofun, by simp [Stream.step, hs]⟩
  | lock =>
    refine h.mutex_free.elim (fun hfree => ?_) id
    exact ⟨.lockPing, nofun, nofun, by simp [Stream.step, hs, hfree]⟩
  | write => exact ⟨.pinged .sent, nofun, nofun, by simp [Stream.step, hs]⟩
  | stop => exact ⟨.pingStop, nofun, nofun, by simp [Stream.step, hs]⟩
  | exited => exact absurd hs hping

theorem Good.scanner_moves (hstop : s.stopClosed = true)
    (hbody : s.bodyClosed = true) (hscanner : s.scanner ≠ .exited) : s.Progress := by
  cases hs : s.scanner with
  | scan => exact ⟨.scanClosed, nofun, nofun, by simp [Stream.step, hs, hbody]⟩
  | hold line => exact ⟨.check, nofun, nofun, by simp [Stream.step, hs]⟩
  | offer data => exact ⟨.abandon, nofun, nofun, by simp [Stream.step, hs, hstop]⟩
  | close r => exact ⟨.finish, nofun, nofun, by simp [Stream.step, State.finished, hs]⟩
  | report r =>
    have hnone : s.result = none := by
      cases hresult : s.result with
      | none => rfl
      | some r' => simpa [hs, hresult] using h.noResult
    exact ⟨.finish, nofun, nofun, by simp [Stream.step, State.finished, hs, hnone]⟩
  | announce => exact ⟨.finish, nofun, nofun, by simp [Stream.step, State.finished, hs]⟩
  | exited => exact absurd hs hscanner

theorem Good.handler_moves (hscanner : s.scanner = .exited)
    (hhandler : s.handler ≠ .exited) : s.Progress := by
  have hclosed := h.dataClosed.mpr (.inr (.inr hscanner))
  cases hs : s.handler with
  | receive =>
    refine ⟨.receive, nofun, nofun, ?_⟩
    cases hdata : s.data <;> simp [Stream.step, hs, hdata, hclosed]
  | lock data =>
    refine h.mutex_free.elim (fun hfree => ?_) id
    exact ⟨.lockData, nofun, nofun, by simp [Stream.step, hs, hfree]⟩
  | handle data => exact ⟨.handled .continued, nofun, nofun, by simp [Stream.step, hs]⟩
  | await =>
    obtain hresult | hstop | hexited := h.result (.inr hscanner)
    · obtain ⟨r, hr⟩ := Option.isSome_iff_exists.mp hresult
      exact ⟨.awaitResult, nofun, nofun, by simp [Stream.step, hs, hr]⟩
    · rw [hs] at hstop
      cases hstop
    · exact absurd hexited hhandler
  | stop => exact ⟨.handlerStop, nofun, nofun, by simp [Stream.step, hs]⟩
  | exited => exact absurd hs hhandler

theorem Good.progress (hmain : s.main ≠ .returned) : s.Progress := by
  cases hs : s.main with
  | select => exact ⟨.timeout, nofun, nofun, by simp [Stream.step, hs]⟩
  | drain =>
    by_cases hhandler : s.handler = .exited
    · exact ⟨.sawStop, nofun, nofun, by simp [Stream.step, hs, h.stopped hhandler]⟩
    · exact h.handler_moves (h.drained hs) hhandler
  | cleanup => exact ⟨.clean, nofun, nofun, by simp [Stream.step, hs]⟩
  | wait =>
    obtain ⟨-, hstop, hbody⟩ := h.cleaned (.inl hs)
    by_cases hscanner : s.scanner = .exited
    · by_cases hhandler : s.handler = .exited
      · by_cases hping : s.ping = .exited
        · exact ⟨.ret, nofun, nofun, by simp [Stream.step, hs, hscanner, hhandler, hping]⟩
        · exact h.ping_moves hping
      · exact h.handler_moves hscanner hhandler
    · exact h.scanner_moves hstop hbody hscanner
  | returned => exact absurd hs hmain

end

/-- For every upstream and interleaving, with any causes of the end: no channel is closed twice or
sent on once closed; when the stream function has returned, its goroutines have exited and the
reason is that of the first cause; until then some goroutine can move, and but for ticks of the ping
timer there are only so many moves. -/
theorem stream_returns (lines : List String) (ending : Ending) (pingEnabled : Bool)
    {moves : List Move} {s : State} (h : runMoves (initial lines ending pingEnabled) moves = some s) :
    s.fault = false ∧
      (s.main = .returned → s.scanner = .exited ∧ s.handler = .exited ∧ s.ping = .exited ∧
        ∃ r, s.endReason = some r ∧ s.recorded.getLast? = some r) ∧
      (s.main ≠ .returned → s.Progress) ∧
      moves.length ≤ (initial lines ending pingEnabled).work + 3 * moves.count .tick := by
  have hgood := (Good.initial lines ending pingEnabled).run h
  have hwork := work_run h
  refine ⟨hgood.sound, fun hreturned => ?_, hgood.progress, by omega⟩
  obtain ⟨hscanner, hhandler, hping⟩ := hgood.returned hreturned
  obtain ⟨r, hr⟩ := Option.isSome_iff_exists.mp (hgood.reason (.inr hhandler))
  exact ⟨hscanner, hhandler, hping, r, hr, hgood.first ▸ hr⟩

/-- Each of the first lines is handled before the next is read. -/
def plainRun (payloads : Nat) (last : List Move) : List Move :=
  (List.replicate payloads [.scanNext, .check, .send, .receive, .lockData,
    .handled .continued]).flatten ++ last ++
    [.finish, .finish, .finish, .sawDone, .receive, .awaitResult, .handlerStop, .sawStop, .clean,
      .ret]

def markedLines : List String := ["data: a", "data: b", "data: [DONE]", "data: c"]

def markedRun : List Move := plainRun 2 [.scanNext, .check]

theorem stream_returns_sample :
    ∃ s, runMoves (initial markedLines .eof false) markedRun = some s ∧
      s.main = .returned ∧ s.endReason = some .done ∧ s.fault = false := by
  have hrun : ∃ s, runMoves (initial markedLines .eof false) markedRun = some s ∧
      s.main = .returned ∧ s.endReason = some .done := ⟨_, by rfl, by decide +kernel⟩
  obtain ⟨s, hrun, hmain, hreason⟩ := hrun
  exact ⟨s, hrun, hmain, hreason, (stream_returns _ _ _ hrun).1⟩

end ZModel.Relay.Stream
