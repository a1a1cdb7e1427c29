import Mathlib.Algebra.Order.Group.Multiset
import ZModel.Tasks.Statements

/-!
# A task is refunded or settled at most once

Sweeps, passes over prepared tasks and video polls are serialised only by conditional updates. The
right to bill a task is tied to the transition that was stored.
-/

namespace ZModel.Tasks.Refunds

open Lib Store

variable {db : Db} {rights : Multiset Nat} {t : Task}

def billed (db : Db) (id : Nat) : Nat := db.bills.countP fun b => b.task.id = id

def allowed : Op → World → Db → Bool
  | .getAllUnFinishSyncTasks, w, db =>
    let rows := allUnFinishSyncTasks db w.taskQueryLimit
    decide (Distinct rows) && rows.all fun t => t.platform ≠ .suno
  | _, _, _ => true

abbrev conditions : Conditions Op Op.Ret Job World Db :=
  pollConditions Job.isPoll allowed fun _ _ => true

/-- A stored transition to SUCCESS or FAILURE is the right to bill the task. -/
def vocabulary : PollVocabulary (Multiset Nat) where
  Tracked := True
  SunoPolled := False
  SunoTracked := False
  Realtime := False
  Rewrites _ _ := False
  Named _ := True
  Good _ := True
  Spare _ := True
  Over _ := True
  claim t := if t.status.finished then {t.id} else 0
  paid _ := 0
  due _ := 0
  Refunded _ := True

/-- Movements and rights come to at most one, and only for finished tasks. -/
def Entitled (db : Db) (rights : Multiset Nat) : Prop :=
  ∀ id, billed db id + rights.count id ≤ 1 ∧
    (0 < billed db id + rights.count id → ∃ st, db.status id = some st ∧ st.finished = true)

theorem Entitled.of_le {db' : Db} {rights' : Multiset Nat} (h : Entitled db rights)
    (hle : ∀ id, billed db' id + rights'.count id ≤ billed db id + rights.count id)
    (hstatus : ∀ id st, db.status id = some st → st.finished = true →
      ∃ st', db'.status id = some st' ∧ st'.finished = true) : Entitled db' rights' := by
  intro id
  obtain ⟨hone, hfinished⟩ := h id
  refine ⟨(hle id).trans hone, fun hpos => ?_⟩
  obtain ⟨st, hst, hdone⟩ := hfinished (hpos.trans_le (hle id))
  exact hstatus id st hst hdone

theorem Entitled.save (h : Entitled db rights) {row : Task}
    (hrow : db.tasks.find? t.id = some row) (hold : row.status.finished = false) (node : Nat) :
    Entitled (db.save node row t) (rights + vocabulary.claim t) := by
  intro id
  have hbilled : billed (db.save node row t) id = billed db id := rfl
  obtain ⟨hone, hfinished⟩ := h id
  rw [hbilled, Multiset.count_add, ← add_assoc]
  by_cases hid : id = t.id
  · subst hid
    have hnone : billed db t.id + rights.count t.id = 0 := by
      by_contra hpos
      obtain ⟨st, hst, hdone⟩ := hfinished (Nat.pos_of_ne_zero hpos)
      rw [Db.status_of_find? hrow, Option.some.injEq] at hst
      rw [hst, hdone] at hold
      cases hold
    rw [hnone, Db.status_save hrow rfl, if_pos rfl]
    unfold vocabulary
    dsimp only
    split
    next hdone =>
      exact ⟨by rw [Multiset.count_singleton_self], fun _ => ⟨_, rfl, hdone⟩⟩
    · exact ⟨Nat.zero_le 1, fun hpos => absurd hpos (Nat.lt_irrefl 0)⟩
  have hclaim : (vocabulary.claim t).count id = 0 := by
    unfold vocabulary
    dsimp only
    split
    · exact Multiset.count_singleton id t.id ▸ if_neg hid
    · exact Multiset.count_zero id
  rw [hclaim, Db.status_save hrow rfl, if_neg hid]
  exact ⟨hone, hfinished⟩

theorem Entitled.spend (h : Entitled db (rights + vocabulary.claim t))
    (hdone : t.status.finished = true) :
    Entitled db rights ∧ ∀ a b, b.task = t →
      Entitled { db with accounts := a, bills := b :: db.bills } rights := by
  have hclaim : vocabulary.claim t = {t.id} := if_pos hdone
  rw [hclaim] at h
  refine ⟨h.of_le (fun id => ?_) fun _ st hst hfinished => ⟨st, hst, hfinished⟩, fun a b hb =>
    h.of_le (fun id => ?_) fun _ st hst hfinished => ⟨st, hst, hfinished⟩⟩
  · rw [Multiset.count_add]
    omega
  unfold billed
  rw [List.countP_cons, hb, Multiset.count_add, Multiset.count_singleton]
  simp only [decide_eq_true_eq, eq_comm (a := t.id)]
  omega

theorem Entitled.fail (h : Entitled db rights) {id : Nat} {row : Task}
    (hrow : db.tasks.find? id = some row) (hid : t.id = row.id) (hfailure : t.status = .failure)
    (node : Nat) : Entitled (db.save node row t) rights := by
  have hkey : t.id = id := hid.trans (Table.find?_key hrow)
  refine h.of_le (fun _ => Nat.le_refl _) fun id' st hst hdone => ?_
  rw [Db.status_save hrow hkey]
  split
  · exact ⟨_, rfl, by rw [hfailure]; rfl⟩
  · exact ⟨st, hst, hdone⟩

theorem rules (node : Nat) :
    StateRules vocabulary conditions Entitled (fun _ _ _ _ => True) node where
  tracked := .inl trivial
  sunoTracked := .inr fun _ => ⟨rfl, trivial⟩
  over_zero := trivial
  spare _ _ := trivial
  due_null _ := rfl
  due_midjourney _ := rfl
  claim_unfinished h := if_neg (Bool.not_eq_true _ ▸ h)
  claim_private _ _ := rfl
  claim_realtime h := h.elim
  kept _ _ := trivial
  paid_result _ _ := rfl
  good_timedOut _ _ := trivial
  good_preparationFailed _ _ _ := trivial
  good_activated _ _ _ _ := trivial
  spare_dues _ _ := trivial
  spare_claim _ _ := trivial
  spare_paid _ _ := trivial
  like hlike h := h.of_le
    (fun id => by rw [billed, billed, hlike.bills])
    fun id st hst hdone => ⟨st, by rw [hlike.status, hst], hdone⟩
  plain _ _ _ _ := trivial
  read _ _ _ _ := ⟨trivial, trivial⟩
  observe _ := ⟨fun _ _ => rfl, fun _ _ => rfl, fun _ _ => rfl⟩
  unfinished := by
    intro w db r rows hrun h hrows
    have hallowed : Distinct rows ∧ ∀ t ∈ rows, t.platform ≠ .suno := by
      rw [hrows]
      simpa [pollConditions, allowed] using hrun
    rw [vocabulary.dues_eq_zero fun _ _ => rfl, add_zero]
    exact ⟨h, fun _ => hallowed.1, False.elim, fun t ht hsuno => hallowed.2 t ht hsuno⟩
  fetch {_ db r _ _} _ h _ _ :=
    ⟨trivial, (congrArg (Entitled db) (add_zero r)).mp h, fun _ _ _ _ _ _ _ _ _ => trivial⟩
  fetchRealtime h := h.elim
  fetchSuno h := h.elim
  transition {w _ _ t _ _} _ h _ _ hold _ := by
    refine ⟨trivial, fun row hrow hstatus => h.save (t := { t with updatedAt := w.now }) hrow ?_ node⟩
    rw [hstatus]
    exact (hold trivial).resolve_right fun hrealtime => hrealtime.1
  settlement delta h hsuccess := by
    obtain ⟨hsame, hspent⟩ := h.spend (by rw [hsuccess]; rfl)
    exact ⟨hsame, hspent _ _ rfl⟩
  refund {w db r t} _ h hfailure _ := by
    obtain ⟨hsame, hspent⟩ := h.spend (by rw [hfailure]; rfl)
    obtain ⟨-, heq⟩ | ⟨a, heq⟩ := exec_funding node .refund t (-t.quota) w db
    · rw [heq]
      exact hsame
    · rw [heq]
      exact hspent a _ rfl
  bulk {w _ _} l reason _ h _ :=
    ⟨trivial, exec_bulk node _ reason _ (P := (Entitled · _)) h fun _ _ row _ h hrow =>
      h.fail (t := row.bulkFailed w.now reason) hrow rfl rfl node⟩
  sunoRefund h := h.elim
  save h := h.elim
  savePaid h := h.elim

theorem sound : Sound machine conditions (pollLogic (fun _ => vocabulary) Entitled fun _ _ _ _ => True)
    program where
  job node j _ hr := (rules node).rules.safe_program j hr
  start node j hj := by
    cases j with
    | poll => rfl
    | channel | realtimeFetch => cases hj
  drop _ _ _ _ _ _ _ _ _ _ h := h.of_le
    (fun id => by rw [Multiset.count_add]; omega) fun _ st hst hdone => ⟨st, hst, hdone⟩
  lost _ _ _ _ h := h

/-- In every run of polling passes: if the video tasks that a query returns have upstream ids of
their own on each platform, every task is refunded or settled at most once, and never both. -/
theorem task_billed_at_most_once {db : Db} (hdb : db.bills = []) (moves : List (Move Job World))
    (hrun : Along (System.step machine program) conditions.Meets ⟨db, []⟩ moves) (id : Nat) :
    billed (run (System.step machine program) ⟨db, []⟩ moves).state id ≤ 1 := by
  have hstart : Holds machine conditions
      (pollLogic (fun _ => vocabulary) Entitled fun _ _ _ _ => True) ⟨db, []⟩ := by
    refine ⟨[], .nil, fun id => ?_⟩
    have hnone : billed db id = 0 := by rw [billed, hdb, List.countP_nil]
    rw [hnone]
    exact ⟨Nat.zero_le 1, fun hpos => absurd hpos (Nat.lt_irrefl 0)⟩
  obtain ⟨rs, -, hinv⟩ := (hstart.along sound hrun).2
  have hone := (hinv id).1
  omega

def sampleTask (id : Nat) (upstreamTaskID : String) : Task where
  id := id
  taskID := "task"
  platform := .video 24
  userId := 1
  channelId := 7
  quota := 10
  status := .inProgress
  submitTime := 2000000000
  privateData := { upstreamTaskID := upstreamTaskID }

def sampleDb (second : String) : Db where
  tasks := .pair (sampleTask 1 "u") (sampleTask 2 second)
  accounts := { users := .single ⟨1, 0⟩ }

def failing : World where
  now := 2000000000
  fetch _ _ := .parsed { status := .failure, reason := "rejected" } ""

def onePass : List (Move Job World) :=
  .start 0 .poll :: (List.replicate 8 (.run 0 failing) ++ List.replicate 14 (.run 1 failing))

/-- Two tasks with one upstream id: the second is refunded twice. -/
theorem task_billed_twice :
    let sys := run (System.step machine program) ⟨sampleDb "u", []⟩ onePass
    sys.Quiet ∧ billed sys.state 2 = 2 ∧ sys.state.accounts.userQuota 1 = some 20 := by
  decide +kernel

theorem task_billed_at_most_once_sample :
    let sys := run (System.step machine program) ⟨sampleDb "v", []⟩ onePass
    sys.Quiet ∧ billed sys.state 1 = 1 ∧ billed sys.state 2 ≤ 1 :=
  ⟨by decide +kernel, by decide +kernel, task_billed_at_most_once rfl onePass (by decide +kernel) 2⟩

end ZModel.Tasks.Refunds
