import Mathlib.Algebra.BigOperators.Group.Multiset.Basic
import ZModel.Lib.Run
import ZModel.Store.Quota

/-!
# Daily check-ins

`UserCheckin` stores a record and credits its award in one transaction or, on SQLite, in two
statements with an undo.
-/

namespace ZModel.Users.Checkins

open Lib
open Store (Write)

structure Checkin where
  userId : Nat
  checkinDate : String
  quotaAwarded : Int

instance : Keyed Checkin (Nat × String) := ⟨fun c => (c.userId, c.checkinDate)⟩

def Checkin.share (user : Nat) (c : Checkin) : Int := if c.userId = user then c.quotaAwarded else 0

/-- Where a call stands: its lookup found nothing, it stored its record, its credit failed. -/
inductive Call where
  | checked (sqlite : Bool) (c : Checkin)
  | created (c : Checkin)
  | failed (c : Checkin)

/-- The record a call makes. -/
def Call.checkin : Call → Checkin
  | .checked _ c | .created c | .failed c => c

/-- The record a call has stored. -/
def Call.record : Call → Option Checkin
  | .checked _ _ => none
  | .created c | .failed c => some c

/-- `users` says whose row is stored, `credited` what check-ins have added to a user's quota. -/
structure State where
  users : Nat → Bool := fun _ => true
  checkins : Table Checkin := .empty
  credited : Nat → Int := fun _ => 0
  calls : List (Nat × Call) := []

variable (s : State)

/-- The update of the quota. Without a row it changes nothing and reports no error. -/
def State.credit (c : Checkin) : State :=
  if s.users c.userId then { s with credited := fun user => s.credited user + c.share user } else s

/-- The next statement of a call, and where the call stands after it. -/
def State.perform : Write → Call → Option Call × State
  | .done, .checked sqlite c =>
    match s.checkins.create c with
    | none => (none, s)
    | some checkins =>
      if sqlite then (some (.created c), { s with checkins })
      else (none, { s with checkins }.credit c)
  | .done, .created c =>
    if c.quotaAwarded < 0 then (some (.failed c), s) else (none, s.credit c)
  | .done, .failed c => (none, { s with checkins := s.checkins.erase (key c) })
  | .fails, .created c => (some (.failed c), s)
  | .fails, .checked _ _ | .fails, .failed _ => (none, s)

/-- A call looks for a check-in of `today`; the date and the award of its record are read later.
`user` creates or deletes the row of a user. -/
inductive Move where
  | start (node : Nat) (sqlite : Bool) (today : String) (c : Checkin)
  | run (i : Nat) (w : Write)
  | crash (node : Nat)
  | user (id : Nat) (stored : Bool)

def step : Move → State
  | .start node sqlite today c =>
    if (s.checkins.find? (c.userId, today)).isSome then s
    else { s with calls := (node, .checked sqlite c) :: s.calls }
  | .run i w =>
    match s.calls[i]? with
    | none => s
    | some (node, call) =>
      let (next, s') := s.perform w call
      { s' with calls := next.toList.map (node, ·) ++ s.calls.eraseIdx i }
  | .crash node => { s with calls := s.calls.filter (·.1 ≠ node) }
  | .user id stored => { s with users := Function.update s.users id stored }

/-- The row of the user is stored when a statement of a call is executed. -/
def RowStored : Move → Prop
  | .run i _ => ∀ call ∈ s.calls[i]?, s.users call.2.checkin.userId = true
  | _ => True

/-- Besides, no process crashes between a record and its credit or undo, and an undo is carried
out. -/
def Orderly (m : Move) : Prop :=
  RowStored s m ∧ match m with
  | .start .. | .user .. => True
  | .run i w => ∀ call ∈ s.calls[i]?, ∀ c, call.2 = .failed c → w = .done
  | .crash node => ∀ call ∈ s.calls, call.1 = node → call.2.record = none

def Credited : Prop := ∀ user, s.credited user = s.checkins.sum (Checkin.share user)

/-- The stored records are those that were credited and those still owed. -/
def Accounted (owed : Multiset Checkin) : Prop :=
  ∃ paid : Multiset Checkin, (s.checkins.rows : Multiset Checkin) = paid + owed ∧
    ∀ user, s.credited user = (paid.map (Checkin.share user)).sum

def owed (calls : List (Nat × Call)) : Multiset Checkin := calls.filterMap (·.2.record)

variable {s : State} {rest : Multiset Checkin} {c : Checkin}

theorem Accounted.credit (h : Accounted s (c ::ₘ rest)) (huser : s.users c.userId = true) :
    Accounted (s.credit c) rest := by
  obtain ⟨paid, hrows, hpaid⟩ := h
  rw [State.credit, if_pos huser]
  refine ⟨c ::ₘ paid, ?_, fun user => ?_⟩
  · rw [Multiset.cons_add, ← Multiset.add_cons]
    exact hrows
  · rw [Multiset.map_cons, Multiset.sum_cons, add_comm, ← hpaid user]

theorem Accounted.create {checkins : Table Checkin} (h : Accounted s rest)
    (hcreate : s.checkins.create c = some checkins) :
    Accounted { s with checkins } (c ::ₘ rest) := by
  obtain ⟨paid, hrows, hpaid⟩ := h
  refine ⟨paid, ?_, hpaid⟩
  show (checkins.rows : Multiset Checkin) = _
  rw [Table.create_rows hcreate, ← Multiset.coe_add, hrows, Multiset.add_cons, add_comm]
  rfl

theorem Accounted.delete (h : Accounted s (c ::ₘ rest)) :
    Accounted { s with checkins := s.checkins.erase (key c) } rest := by
  obtain ⟨paid, hrows, hpaid⟩ := h
  refine ⟨paid, ?_, hpaid⟩
  rw [Multiset.add_cons] at hrows
  have hkeys : ((c ::ₘ (paid + rest)).map key).Nodup := hrows ▸ s.checkins.nodup
  rw [Multiset.map_cons, Multiset.nodup_cons] at hkeys
  show ((s.checkins.rows.filter _ : List Checkin) : Multiset Checkin) = _
  rw [← Multiset.filter_coe, hrows, Multiset.filter_cons_of_neg _ (by simp),
    Multiset.filter_eq_self]
  intro other hother
  have hne : key other ≠ key c :=
    fun hkey => hkeys.1 (hkey ▸ Multiset.mem_map_of_mem key hother)
  simpa using hne

theorem Accounted.perform {w : Write} {call : Call} (h : Accounted s (call.record.toList + rest))
    (huser : s.users call.checkin.userId = true) (hdone : ∀ c, call = .failed c → w = .done) :
    Accounted (s.perform w call).2 ((s.perform w call).1.toList.filterMap Call.record + rest) := by
  cases call with
  | checked sqlite c =>
    change Accounted s (0 + rest) at h
    rw [zero_add] at h
    cases w with
    | fails => exact (zero_add rest).symm ▸ h
    | done =>
      unfold State.perform
      dsimp only
      cases hcreate : s.checkins.create c with
      | none => exact (zero_add rest).symm ▸ h
      | some checkins =>
        dsimp only
        split
        · exact h.create hcreate
        · exact (zero_add rest).symm ▸ (h.create hcreate).credit huser
  | created c =>
    cases w with
    | fails => exact h
    | done =>
      unfold State.perform
      dsimp only
      split
      · exact h
      · exact (zero_add rest).symm ▸ Accounted.credit h huser
  | failed c =>
    cases hdone c rfl
    exact (zero_add rest).symm ▸ Accounted.delete h

theorem owed_eraseIdx {calls : List (Nat × Call)} {i node : Nat} {call : Call}
    (h : calls[i]? = some (node, call)) :
    owed calls = call.record.toList + owed (calls.eraseIdx i) := by
  obtain ⟨hi, hget⟩ := List.getElem?_eq_some_iff.mp h
  have hperm := (List.getElem_cons_eraseIdx_perm hi).filterMap (·.2.record)
  rw [hget] at hperm
  refine (Multiset.coe_eq_coe.mpr hperm).symm.trans ?_
  cases hrecord : call.record <;> simp [owed, hrecord]

theorem Accounted.step (m : Move) (h : Accounted s (owed s.calls)) (horderly : Orderly s m) :
    Accounted (step s m) (owed (step s m).calls) := by
  cases m with
  | start node sqlite today c =>
    unfold Checkins.step
    dsimp only
    split <;> exact h
  | run i w =>
    unfold Checkins.step
    dsimp only
    split
    · exact h
    next node call hcall =>
      rw [owed_eraseIdx hcall] at h
      have hnext := h.perform (w := w) (horderly.1 _ hcall) fun c hc => horderly.2 _ hcall c hc
      have howed : ∀ next : Option Call, owed (next.toList.map (node, ·) ++ s.calls.eraseIdx i) =
            next.toList.filterMap Call.record + owed (s.calls.eraseIdx i) := by
        intro next
        rw [owed, List.filterMap_append, List.filterMap_map]
        rfl
      exact (howed _).symm ▸ hnext
  | crash node =>
    have howed : owed (s.calls.filter (·.1 ≠ node)) = owed s.calls := by
      unfold owed
      rw [List.filterMap_filter, List.filterMap_congr fun call hcall => ?_]
      split
      · rfl
      next hnode => exact (horderly.2 call hcall (by simpa using hnode)).symm
    exact howed.symm ▸ h
  | user id stored => exact h

/-- No call is past its lookup: its transaction stores the record and credits it. -/
def Transacted (s : State) : Prop := ∀ call ∈ s.calls, ∃ c, call.2 = .checked false c

theorem Transacted.step {m : Move} (h : Transacted s)
    (hm : ∀ node today c, m ≠ .start node true today c) : Transacted (step s m) := by
  cases m with
  | start node sqlite today c =>
    cases sqlite with
    | true => exact absurd rfl (hm node today c)
    | false =>
      unfold Checkins.step
      dsimp only
      split
      · exact h
      · exact List.forall_mem_cons.mpr ⟨⟨c, rfl⟩, h⟩
  | run i w =>
    unfold Checkins.step
    dsimp only
    split
    · exact h
    next node call hcall =>
      obtain ⟨c, rfl⟩ := h _ (List.mem_of_getElem? hcall)
      have hnext : (s.perform w (.checked false c)).1 = none := by
        cases w with
        | fails => rfl
        | done =>
          unfold State.perform
          dsimp only
          split <;> rfl
      rw [hnext]
      exact fun other hother => h other (List.mem_of_mem_eraseIdx hother)
  | crash node => exact fun other hother => h other (List.mem_filter.mp hother).1
  | user id stored => exact h

theorem Transacted.orderly {m : Move} (h : Transacted s) (hrow : RowStored s m) : Orderly s m := by
  refine ⟨hrow, ?_⟩
  cases m with
  | start | user => trivial
  | run i w =>
    intro call hcall c hc
    obtain ⟨c', hc'⟩ := h call (List.mem_of_getElem? hcall)
    cases hc.symm.trans hc'
  | crash node =>
    intro call hcall _
    obtain ⟨c, hc⟩ := h call hcall
    rw [hc]
    rfl

/-- Where every call is one transaction (MySQL and PostgreSQL), a run needs the rows only. -/
theorem orderly_of_transactions (hcalls : s.calls = []) {moves : List Move}
    (hstart : ∀ node today c, .start node true today c ∉ moves)
    (hrows : Along step RowStored s moves) : Along step Orderly s moves := by
  have hrun : Along step (fun s m => RowStored s m ∧ m ∈ moves) s moves :=
    .imp₂ step (fun _ _ => And.intro) hrows (.of_mem step (fun _ _ hm => hm) s)
  refine .of_invariant step Transacted (fun s m h hm => ⟨h.orderly hm.1, h.step ?_⟩)
    (by simp [Transacted, hcalls]) hrun
  rintro node today c rfl
  exact hstart node today c hm.2

/-- In every orderly run a user has one check-in a day, and whenever no call is running the credits
are the awards that are stored. -/
theorem checkins_credited {s : State} (hcalls : s.calls = []) (hs : Credited s) (moves : List Move)
    (hrun : Along step Orderly s moves) :
    ((run step s moves).checkins.rows.map fun c => (c.userId, c.checkinDate)).Nodup ∧
      ((run step s moves).calls = [] → Credited (run step s moves)) := by
  refine ⟨(run step s moves).checkins.nodup, fun hquiet user => ?_⟩
  have hstart : Accounted s (owed s.calls) :=
    ⟨s.checkins.rows, by simp [hcalls, owed], fun user => (hs user).trans (by simp [Table.sum])⟩
  obtain ⟨paid, hrows, hpaid⟩ := run_invariant step (fun s => Accounted s (owed s.calls))
    (fun _ m h hm => h.step m hm) hstart hrun
  rw [hquiet, show owed [] = 0 from rfl, add_zero] at hrows
  rw [hpaid user, ← hrows, Multiset.map_coe, Multiset.sum_coe]
  rfl

def stored : List Move :=
  [.start 0 true "2026-01-01" ⟨1, "2026-01-01", 5⟩, .run 0 .done]

def finished : List Move := stored ++ [.run 0 .done]

theorem checkins_credited_sample : let s := run step {} finished
    (s.checkins.rows.map fun c => (c.userId, c.checkinDate)).Nodup ∧ Credited s ∧
      s.credited 1 = 5 := by
  have hrun : Along step Orderly {} finished :=
    ⟨⟨trivial, trivial⟩, ⟨by rintro _ ⟨⟩; rfl, by rintro _ ⟨⟩ c ⟨⟩⟩,
      ⟨by rintro _ ⟨⟩; rfl, by rintro _ ⟨⟩ c ⟨⟩⟩, trivial⟩
  have h := checkins_credited rfl (fun _ => rfl) finished hrun
  exact ⟨h.1, h.2 rfl, rfl⟩

/-- A process crashes after it has stored the record. -/
theorem checkin_not_credited : let s := run step {} (stored ++ [.crash 0])
    s.calls = [] ∧ s.credited 1 = 0 ∧ s.checkins.sum (Checkin.share 1) = 5 := by
  exact ⟨rfl, rfl, rfl⟩

end ZModel.Users.Checkins
