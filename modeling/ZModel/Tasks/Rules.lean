import ZModel.Lib.Threads
import ZModel.Tasks.Polling

/-!
# Rules for the polling service

What is proved of a polling pass differs only in what its statements mean. `PollVocabulary` names
these meanings and `PollRules` lists what a logic has to prove of every single statement.
-/

namespace ZModel.Tasks

open Lib

variable {R : Type} [AddCommMonoid R]

def Task.Answers (t : Task) (q : Query) : Prop := q.channel = t.channelId ∧ t.id ∈ q.asked

def Distinct (rows : List Task) : Prop :=
  (rows.map fun t => (t.platform, t.getUpstreamTaskID)).Nodup

instance (rows : List Task) : Decidable (Distinct rows) :=
  inferInstanceAs (Decidable (List.Nodup _))

theorem Distinct.onPlatform {rows : List Task} (h : Distinct rows) (p : Platform) :
    ((rows.filter fun t => t.platform = p).map Task.getUpstreamTaskID).Nodup := by
  refine (h.of_map.filter _).map_on fun t ht u hu heq => ?_
  rw [List.mem_filter, decide_eq_true_eq] at ht hu
  refine List.inj_on_of_nodup_map h ht.1 hu.1 ?_
  rw [ht.2, hu.2, heq]

structure PollVocabulary (R : Type) where
  /-- Every task in memory is unfinished until its pass has finished it. -/
  Tracked : Prop
  SunoPolled : Prop
  SunoTracked : Prop
  Realtime : Prop
  Rewrites : TaskStatus → TaskStatus → Prop
  /-- The keys of the rows that a thread may name. -/
  Named : Nat → Prop
  /-- The rows that may be stored. -/
  Good : Task → Prop
  /-- What a thread may own while it runs, and when it ends. -/
  Spare : R → Prop
  Over : R → Prop
  /-- What a stored transition entitles to, what a Suno refund leaves to be saved, and what a row
  handed out leaves to be asked. -/
  claim : Task → R
  paid : Task → R
  due : Task → R
  /-- The statuses with which a Suno refund is made. -/
  Refunded : TaskStatus → Prop

namespace PollVocabulary

variable (V : PollVocabulary R)

def dues (l : List Task) : R := (l.map V.due).sum

@[simp] theorem dues_nil : V.dues [] = 0 := rfl

@[simp] theorem dues_cons (t : Task) (l : List Task) : V.dues (t :: l) = V.due t + V.dues l :=
  List.sum_cons

structure Fresh (t : Task) : Prop where
  good : V.Good t
  unfinished : t.status.finished = false
  progress : t.progress ≠ "100%"

structure Polled (rows : List Task) : Prop where
  named : ∀ t ∈ rows, V.Named t.id
  fresh : ∀ t ∈ rows, V.Fresh t
  distinct : V.Tracked → Distinct rows
  sunoDistinct : V.SunoTracked →
    ((rows.filter fun t => t.platform = .suno).map Task.getUpstreamTaskID).Nodup
  suno : ∀ t ∈ rows, t.platform = .suno → V.SunoPolled

structure OnChannel (channelId : Nat) (l : List Task) (m : TaskMap) : Prop where
  distinct : (l.map Task.getUpstreamTaskID).Nodup
  get : ∀ t ∈ l, m.get t.getUpstreamTaskID = some t
  channel : ∀ t ∈ l, t.channelId = channelId
  fresh : ∀ t ∈ l, V.Fresh t

def jobPre : Job → R → Prop
  | .poll, r => r = 0
  | .channel platform channelId ids m, r =>
    ∃ l, ids = l.map Task.getUpstreamTaskID ∧ (∀ e ∈ m, V.Named e.2.id) ∧
      (V.Tracked → V.OnChannel channelId l m) ∧ (∀ t ∈ l, t.platform = platform) ∧ r = V.dues l
  | .realtimeFetch _ _, r => V.Realtime ∧ r = 0

def Replied (t : Task) (reply : FetchReply) : Prop :=
  ∀ info data, reply = .parsed info data → ∀ info', info.resolve = some info' →
    ∀ w channelType t', { t with data }.applyTaskInfo w channelType info' = (true, t') → V.Good t'

end PollVocabulary

structure PollVocabulary.Lawful (V : PollVocabulary R) : Prop where
  tracked : V.Tracked ∨ ∀ t, V.due t = 0 ∧ V.claim t = 0
  sunoTracked : V.SunoTracked ∨ ∀ t, V.due t = 0 ∧ V.Good t
  over_zero : V.Over 0
  spare : ∀ {f} l, V.Over f → V.Spare (f + V.dues l)
  due_null : ∀ {t}, t.getUpstreamTaskID = "" → V.due t = 0
  due_midjourney : ∀ {t}, t.platform = .midjourney → V.due t = 0
  claim_unfinished : ∀ {t}, t.status.finished = false → V.claim t = 0
  claim_private : ∀ t p, V.claim { t with privateData := p } = V.claim t
  claim_realtime : V.Realtime → ∀ t, V.claim t = 0
  kept : ∀ {f t}, V.Over f → (t.status = .failure → t.quota = 0 ∨ t.isLegacy = true) →
    V.Over (f + V.claim t)
  paid_result : ∀ (t : Task) item,
    V.paid { t.withSunoItem item with progress := "100%" } = V.paid (t.sunoResult item)
  good_timedOut : ∀ {t} w, V.Good t → V.Good (t.timedOut w)
  good_preparationFailed : ∀ {t} w reason, V.Good t → V.Good (t.preparationFailed w reason)
  good_activated : ∀ {t} w id data, V.Good t → V.Good (t.activated w id data)

/-- What a logic has to prove of the statements of a thread on a node. -/
structure PollRules (V : PollVocabulary R) (C : Conditions Op Op.Ret Job World Db)
    (L : Logic Op Job World Db R) (node : Nat) : Prop extends V.Lawful where
  pre : ∀ j r, L.pre node j r ↔ V.jobPre j r
  post : ∀ {r}, V.Over r → L.post node r
  fork : ∀ {r}, V.Spare r → L.held node none r
  observe : ∀ {r}, V.Spare r → Safe machine C L node (call .observe) r fun (w : World) r' =>
    r' = r ∧ (w.cancelled = true → ∀ t, V.due t = 0) ∧
      (∀ t : Task, w.hasAdaptor t.platform = false → V.due t = 0) ∧
      ∀ t : Task, w.channelType t.channelId = none → V.due t = 0
  timedOut : ∀ {r} cutoff limit, V.Spare r →
    Safe machine C L node (call (.getTimedOutUnfinishedTasks cutoff limit)) r
      fun (rows : List Task) r' => r' = r ∧ ∀ t ∈ rows, V.Named t.id ∧ V.Fresh t
  preparing : ∀ {r} limit, V.Spare r →
    Safe machine C L node (call (.getPreparingVideoTasks limit)) r
      fun (rows : List Task) r' => r' = r ∧ ∀ t ∈ rows, V.Named t.id ∧ V.Good t
  unfinished : ∀ {r}, V.Spare r → Safe machine C L node (call .getAllUnFinishSyncTasks) r
    fun (rows : List Task) r' => r' = r + V.dues rows ∧ V.Polled rows
  byTaskId : ∀ {r} userId taskID, V.Realtime → V.Spare r →
    Safe machine C L node (call (.getByTaskId userId taskID)) r fun (row : Option Task) r' =>
      r' = r ∧ ∀ t, row = some t → V.Named t.id ∧ V.Good t
  fetch : ∀ {r t} q, V.Spare r → V.Named t.id → (V.Tracked → V.Fresh t ∧ t.Answers q) →
    Safe machine C L node (call (.fetchTask q t)) (r + V.due t) fun (reply : FetchReply) r' =>
      r' = r ∧ V.Replied t reply
  fetchRealtime : ∀ {r t}, V.Realtime → V.Spare r → V.Good t →
    Safe machine C L node (call (.fetchRealtime t)) r fun (reply : FetchReply) r' =>
      r' = r ∧ ∀ info data, reply = .parsed info data → ∀ w,
        V.Good (t.applyRealtime w info) ∧ (V.Tracked → t.status.finished = false ∨
          V.Rewrites t.status (t.applyRealtime w info).status)
  fetchSuno : ∀ {r} q ids l, V.SunoPolled → V.Spare r → q.asked = l.map Task.id →
    (V.SunoTracked → ids = l.map Task.getUpstreamTaskID ∧ ∀ t ∈ l, t.Answers q) →
    Safe machine C L node (call (.fetchSuno q ids)) (r + V.dues l)
      fun (reply : Option (List SunoItem)) r' => r' = r ∧ ∀ items, reply = some items →
        (V.SunoTracked → (items.map SunoItem.taskID).Nodup ∧ ∀ item ∈ items, item.taskID ∈ ids) ∧
        ∀ item ∈ items, ∀ t, V.Fresh t → V.Good (t.sunoResult item)
  transition : ∀ {r t} old reply, V.Spare r → V.Named t.id → V.Good t →
    (V.Tracked → old.finished = false ∨ V.Realtime ∧ V.Rewrites old t.status) →
    (∀ q, reply = some q → V.Tracked → t.Answers q) →
    Safe machine C L node (call (.updateWithStatus t old reply)) r fun (won : Option Bool) r' =>
      r' = r + if won = some true then V.claim t else 0
  privateData : ∀ {r t} old, V.Spare r → V.Named t.id →
    Safe machine C L node (call (.updatePrivateDataWithStatus t old)) r fun _ r' => r' = r
  quota : ∀ {r t}, V.Spare r → V.Named t.id →
    Safe machine C L node (call (.updateQuotaAndPrivateData t false)) r fun _ r' => r' = r
  settled : ∀ {r t}, V.Spare r → V.Named t.id → t.status = .success →
    Safe machine C L node (call (.updateQuotaAndPrivateData t true)) (r + V.claim t)
      fun _ r' => r' = r
  settlement : ∀ {r t} delta, V.Spare r → V.Named t.id → t.status = .success →
    Safe machine C L node (call (.taskAdjustFunding .settlement t delta)) (r + V.claim t)
      fun _ r' => r' = r
  refund : ∀ {r t}, V.Spare r → V.Named t.id → t.status = .failure → t.quota ≠ 0 →
    Safe machine C L node (call (.taskAdjustFunding .refund t (-t.quota))) (r + V.claim t)
      fun _ r' => r' = r
  token : ∀ {r t} delta, V.Spare r → V.Named t.id →
    Safe machine C L node (call (.taskAdjustTokenQuota t delta)) r fun _ r' => r' = r
  bulk : ∀ {r} (l : List Task) reason, V.Spare r → (∀ t ∈ l, V.Named t.id) →
    Safe machine C L node (call (.taskBulkUpdateByID (l.map Task.id) reason)) r
      fun _ r' => r' = r
  sunoRefund : ∀ {r t}, V.SunoPolled → V.Spare r → V.Named t.id → t.quota ≠ 0 →
    Safe machine C L node (call (.taskAdjustFunding .sunoRefund t (-t.quota))) r
      fun _ r' => r' = r + V.paid t ∧ V.Refunded t.status
  tokenPaid : ∀ {r t} delta, V.Spare r → V.Named t.id →
    Safe machine C L node (call (.taskAdjustTokenQuota t delta)) (r + V.paid t)
      fun _ r' => r' = r + V.paid t
  save : ∀ {r t} q item, V.SunoPolled → V.Spare r → V.Named t.id → V.Good t →
    (V.SunoTracked → t.Answers q ∧ t.getUpstreamTaskID = item) →
    (t.status = .failure → t.quota = 0) →
    Safe machine C L node (call (.update t q item)) r fun _ r' => r' = r
  savePaid : ∀ {r t} q item, V.SunoPolled → V.Spare r → V.Named t.id → V.Good t →
    (V.SunoTracked → t.Answers q ∧ t.getUpstreamTaskID = item) → V.Refunded t.status →
    t.quota ≠ 0 →
    Safe machine C L node (call (.update t q item)) (r + V.paid t) fun _ r' => r' = r

end ZModel.Tasks
