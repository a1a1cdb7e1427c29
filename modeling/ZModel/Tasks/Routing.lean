import Mathlib.Algebra.Order.Group.Multiset
import ZModel.Tasks.Statements

/-!
# Which channel is asked for which task

A pass regroups its tasks by upstream id in `taskM`, and by channel in lists of upstream ids. The
two agree as long as the upstream ids of a platform are distinct.
-/

namespace ZModel.Tasks.Routing

open Lib Store

variable {db : Db} {r : Multiset (Nat × Nat)} {q : Query}

variable (channels : List Nat) (platforms : List Platform)

def pollable (t : Task) : Bool :=
  t.getUpstreamTaskID ≠ "" && t.platform ≠ .midjourney && t.channelId ∈ channels &&
    t.platform ∈ platforms

def available (w : World) : Bool :=
  !w.cancelled && channels.all (fun c => (w.channelType c).isSome) && platforms.all w.hasAdaptor

def answersOnly (ids : List String) : Option (List SunoItem) → Bool
  | none => true
  | some items => (items.map SunoItem.taskID).Nodup && items.all fun item => item.taskID ∈ ids

def allowed : Op → World → Db → Bool
  | .observe, w, _ => available channels platforms w
  | .getAllUnFinishSyncTasks, w, db => Distinct (allUnFinishSyncTasks db w.taskQueryLimit)
  | .fetchSuno q ids, w, _ => answersOnly ids (w.fetchSuno q.channel ids)
  | _, _, _ => true

abbrev conditions : Conditions Op Op.Ret Job World Db :=
  pollConditions Job.isPoll (allowed channels platforms) idle

/-- A row that is handed out leaves a query of its channel to be made. -/
def due (t : Task) : Multiset (Nat × Nat) :=
  if pollable channels platforms t then {(t.channelId, t.id)} else 0

def vocabulary : PollVocabulary (Multiset (Nat × Nat)) where
  Tracked := True
  SunoPolled := True
  SunoTracked := True
  Realtime := False
  Rewrites _ _ := False
  Named _ := True
  Good _ := True
  Spare _ := True
  Over r := r = 0
  claim _ := 0
  paid _ := 0
  due := due channels platforms
  Refunded _ := True

def asked (db : Db) : Multiset (Nat × Nat) :=
  (db.queries.map fun q => ((q.asked.map fun id => (q.channel, id) : List (Nat × Nat)) :
    Multiset (Nat × Nat))).sum

/-- What was handed out has been asked, or is still due. -/
def Served (db : Db) (dues : Multiset (Nat × Nat)) : Prop :=
  (vocabulary channels platforms).dues db.polled ≤ asked db + dues

def RoutedOp : Op → Prop
  | .fetchTask q t => t.Answers q
  | .fetchSuno q ids => ∃ l : List Task, ids = l.map Task.getUpstreamTaskID ∧
      q.asked = l.map Task.id ∧ ∀ t ∈ l, t.Answers q
  | .updateWithStatus t _ (some q) => t.Answers q
  | .update t q item => t.Answers q ∧ t.getUpstreamTaskID = item
  | _ => True

variable {channels platforms}

theorem due_le {t : Task} (h : t.Answers q) :
    due channels platforms t ≤ ((q.asked.map fun id => (q.channel, id) : List (Nat × Nat)) :
      Multiset (Nat × Nat)) := by
  unfold due
  split
  · rw [Multiset.singleton_le]
    exact List.mem_map.mpr ⟨t.id, h.2, by rw [h.1]⟩
  · exact Multiset.zero_le _

theorem dues_le {l : List Task} (hasked : q.asked = l.map Task.id) (h : ∀ t ∈ l, t.Answers q) :
    (vocabulary channels platforms).dues l ≤
      ((q.asked.map fun id => (q.channel, id) : List (Nat × Nat)) : Multiset (Nat × Nat)) := by
  rw [hasked]
  clear hasked
  induction l with
  | nil => exact Multiset.zero_le _
  | cons t l ih =>
    have ht := h t (.head _)
    have hdue : due channels platforms t ≤ {(q.channel, t.id)} := by
      unfold due
      split
      · rw [ht.1]
      · exact Multiset.zero_le _
    rw [PollVocabulary.dues_cons, List.map_cons, List.map_cons, ← Multiset.cons_coe]
    exact add_le_add hdue (ih fun u hu => h u (List.mem_cons_of_mem t hu))

theorem asked_cons (db : Db) (q : Query) : asked { db with queries := q :: db.queries } =
      ((q.asked.map fun id => (q.channel, id) : List (Nat × Nat)) : Multiset (Nat × Nat)) +
        asked db :=
  List.sum_cons

theorem Served.ask {x : Multiset (Nat × Nat)} (h : Served channels platforms db (r + x))
    (hx : x ≤ ((q.asked.map fun id => (q.channel, id) : List (Nat × Nat)) : Multiset (Nat × Nat))) :
    Served channels platforms { db with queries := q :: db.queries } r := by
  unfold Served at h ⊢
  rw [asked_cons]
  calc (vocabulary channels platforms).dues db.polled ≤ asked db + (r + x) := h
    _ = x + asked db + r := by rw [add_comm r, ← add_assoc, add_comm (asked db)]
    _ ≤ _ := by gcongr

theorem Served.same {db' : Db} (h : Served channels platforms db r)
    (hpolled : db'.polled = db.polled) (hqueries : db'.queries = db.queries) :
    Served channels platforms db' r := by
  unfold Served asked at h ⊢
  rw [hpolled, hqueries]
  exact h

theorem served_add_zero :
    Served channels platforms db (r + 0) ↔ Served channels platforms db r := by
  rw [add_zero]

theorem Served.funding (h : Served channels platforms db r) (node : Nat) (kind : BillKind)
    (t : Task) (delta : Int) (w : World) :
    Served channels platforms (exec node (.taskAdjustFunding kind t delta) w db).2 r := by
  obtain ⟨-, heq⟩ | ⟨a, heq⟩ := exec_funding node kind t delta w db
  · rw [heq]
    exact h
  · rw [heq]
    exact h.same rfl rfl

theorem Served.update (h : Served channels platforms db r) (node : Nat) (t : Task) (q : Query)
    (item : String) (w : World) :
    Served channels platforms (exec node (.update t q item) w db).2 r := by
  obtain heq | ⟨row, -, heq⟩ := exec_update node t q item w db
  · rw [heq]
    exact h
  · rw [heq]
    exact h.same rfl rfl

theorem rules (node : Nat) :
    StateRules (vocabulary channels platforms) (conditions channels platforms)
      (Served channels platforms) (fun _ o _ _ => RoutedOp o) node where
  tracked := .inl trivial
  sunoTracked := .inl trivial
  over_zero := rfl
  spare _ _ := trivial
  due_null h := if_neg (by simp [pollable, h])
  due_midjourney h := if_neg (by simp [pollable, h])
  claim_unfinished _ := rfl
  claim_private _ _ := rfl
  claim_realtime h := h.elim
  kept hover _ := by
    rw [hover]
    rfl
  paid_result _ _ := rfl
  good_timedOut _ _ := trivial
  good_preparationFailed _ _ _ := trivial
  good_activated _ _ _ _ := trivial
  spare_dues _ _ := trivial
  spare_claim _ _ := trivial
  spare_paid _ _ := trivial
  like hlike h := h.same hlike.polled hlike.queries
  plain {o} _ _ ho _ := by cases o <;> trivial
  read _ _ _ _ := ⟨trivial, trivial⟩
  observe {w _} hrun := by
    have havailable : available channels platforms w = true := hrun
    simp only [available, Bool.and_eq_true, List.all_eq_true, Bool.not_eq_true'] at havailable
    obtain ⟨⟨hcancelled, hchannels⟩, hadaptors⟩ := havailable
    refine ⟨fun hc => ?_, fun t hnone => if_neg fun hpoll => ?_, fun t hnone => if_neg fun hpoll => ?_⟩
    · rw [hcancelled] at hc
      cases hc
    · simp only [pollable, Bool.and_eq_true, decide_eq_true_eq] at hpoll
      rw [hadaptors t.platform hpoll.2] at hnone
      cases hnone
    simp only [pollable, Bool.and_eq_true, decide_eq_true_eq] at hpoll
    have hsome := hchannels t.channelId hpoll.1.2
    rw [hnone] at hsome
    cases hsome
  unfinished {w db r rows} hrun h hrows := by
    have hdistinct : Distinct rows := hrows ▸ of_decide_eq_true hrun
    refine ⟨?_, fun _ => hdistinct, fun _ => hdistinct.onPlatform _, fun _ _ _ => trivial⟩
    unfold Served at h ⊢
    rw [PollVocabulary.dues_append, add_comm, ← add_assoc]
    exact add_le_add_left h _
  fetch {_ _ _ t q} _ h _ htracked := by
    obtain ⟨-, hanswers⟩ := htracked trivial
    exact ⟨hanswers, h.ask (due_le hanswers), fun _ _ _ _ _ _ _ _ _ => trivial⟩
  fetchRealtime h := h.elim
  fetchSuno {w _ _ q ids l} _ hrun h hasked htracked := by
    obtain ⟨hids, hanswers⟩ := htracked trivial
    refine ⟨⟨l, hids, hasked, hanswers⟩, h.ask (dues_le hasked hanswers), fun items hitems => ?_⟩
    have honly : answersOnly ids (some items) = true := hitems ▸ hrun
    simp only [answersOnly, Bool.and_eq_true, decide_eq_true_eq, List.all_eq_true] at honly
    exact ⟨fun _ => honly, fun _ _ _ _ => trivial⟩
  transition {_ _ _ _ _ reply} _ h _ _ _ hanswers := by
    refine ⟨?_, fun row _ _ => ?_⟩
    · cases reply with
      | none => trivial
      | some q => exact hanswers q rfl trivial
    · exact served_add_zero.mpr (h.same rfl rfl)
  settlement _ h _ := ⟨served_add_zero.mp h, (served_add_zero.mp h).same rfl rfl⟩
  refund {w _ _ t} _ h _ _ := (served_add_zero.mp h).funding node .refund t (-t.quota) w
  bulk l reason _ h _ :=
    ⟨trivial, exec_bulk node _ reason _ (P := (Served channels platforms · _)) h
      fun _ _ _ _ h _ => h.same rfl rfl⟩
  sunoRefund {w _ _ t} _ _ h _ :=
    ⟨served_add_zero.mpr (h.funding node .sunoRefund t (-t.quota) w), trivial⟩
  save {w _ _ t q item} _ _ h _ _ hanswers _ := ⟨hanswers trivial, h.update node t q item w⟩
  savePaid {w _ _ t q item} _ _ h _ _ hanswers _ _ :=
    ⟨hanswers trivial, (served_add_zero.mp h).update node t q item w⟩

abbrev logic (channels : List Nat) (platforms : List Platform) :
    Logic Op Job World Db (Multiset (Nat × Nat)) :=
  pollLogic (fun _ => vocabulary channels platforms) (Served channels platforms)
    fun _ o _ _ => RoutedOp o

theorem sound :
    Sound machine (conditions channels platforms) (logic channels platforms) program where
  job node j _ hr := (rules node).rules.safe_program j hr
  start node j hj := by
    cases j with
    | poll => rfl
    | channel | realtimeFetch => cases hj
  drop node sys hidle t ht hnode r hsafe db rest h := by
    -- The thread is done, and a thread that is done leaves nothing due.
    have hfinished := finished_of_idle hidle ht hnode
    obtain ⟨n, p⟩ := t
    cases p with
    | done =>
      obtain rfl : r = 0 := hsafe
      rwa [zero_add] at h
    | perform | fork => cases hfinished
  lost _ _ _ _ h := h

def Routed (sys : System Op Op.Ret Job Db) : Move Job World → Prop
  | .run i _ =>
    match sys.threads[i]? with
    | some ⟨_, .perform o _⟩ => RoutedOp o
    | _ => True
  | _ => True

theorem routed_of_checked {sys : System Op Op.Ret Job Db} {move : Move Job World}
    (h : Checked machine (logic channels platforms) sys move) : Routed sys move := by
  cases move with
  | start | crash => trivial
  | run i w =>
    unfold Checked at h
    unfold Routed
    dsimp only at h ⊢
    split
    next hthread =>
      rw [hthread] at h
      exact h rfl
    · trivial

variable (channels platforms) in
def handedOut (db : Db) : Multiset (Nat × Nat) :=
  ((db.polled.filter (pollable channels platforms)).map fun t => (t.channelId, t.id) :
    List (Nat × Nat))

theorem dues_polled (rows : List Task) : (vocabulary channels platforms).dues rows =
      (((rows.filter (pollable channels platforms)).map fun t => (t.channelId, t.id) :
        List (Nat × Nat)) : Multiset (Nat × Nat)) := by
  induction rows with
  | nil => rfl
  | cons t rows ih =>
    rw [PollVocabulary.dues_cons, ih, List.filter_cons]
    show due channels platforms t + _ = _
    unfold due
    split
    · rw [List.map_cons, ← Multiset.cons_coe, Multiset.singleton_add]
    · rw [zero_add]

/-- In every such run queries ask for tasks through the channel stored on them, replies are written
onto tasks they were asked for, and with no pass running every pollable task has been asked for as
often as it was handed out. -/
theorem tasks_asked_through_channel (channels : List Nat) (platforms : List Platform) {db : Db}
    (hdb : db.polled = []) (moves : List (Move Job World))
    (hrun : Along (System.step machine program) (conditions channels platforms).Meets ⟨db, []⟩
      moves) :
    let sys := run (System.step machine program) ⟨db, []⟩ moves
    Along (System.step machine program) Routed ⟨db, []⟩ moves ∧
      (sys.Quiet → handedOut channels platforms sys.state ≤ asked sys.state) := by
  intro sys
  have hstart : Holds machine (conditions channels platforms) (logic channels platforms)
      ⟨db, []⟩ := by
    refine ⟨[], .nil, ?_⟩
    show (vocabulary channels platforms).dues db.polled ≤ _
    rw [hdb]
    exact Multiset.zero_le _
  obtain ⟨hchecked, hend⟩ := hstart.along sound hrun
  refine ⟨hchecked.imp₂ _ (fun _ _ h _ => routed_of_checked h) hchecked, fun hquiet => ?_⟩
  obtain ⟨rs, hover, hserved⟩ := hend.quiet hquiet
  have hzero : rs.sum = 0 := List.sum_eq_zero fun r hr => (hover r hr).elim fun _ h => h
  have hserved : (vocabulary channels platforms).dues sys.state.polled ≤
      asked sys.state + rs.sum := hserved
  rwa [dues_polled, hzero, add_zero] at hserved

def sampleTask (id channelId : Nat) (upstreamTaskID : String) : Task where
  id := id
  taskID := "task"
  platform := .video 24
  userId := 1
  channelId := channelId
  quota := 0
  status := .inProgress
  submitTime := 2000000000
  privateData := { upstreamTaskID := upstreamTaskID }

def sampleDb (second : String) : Db where
  tasks := .pair (sampleTask 1 7 "u") (sampleTask 2 8 second)
  accounts := {}

def replying : World where
  now := 2000000000
  fetch channel _ := .parsed { status := if channel = 7 then .failure else .inProgress } ""

def onePass : List (Move Job World) :=
  .start 0 .poll :: (List.replicate 9 (.run 0 replying) ++ List.replicate 5 (.run 1 replying) ++
    List.replicate 5 (.run 2 replying))

/-- Channel 7 is asked for the task of channel 8, and nobody for that of channel 7. -/
theorem query_misrouted :
    let sys := run (System.step machine program) ⟨sampleDb "u", []⟩ onePass
    sys.Quiet ∧ sys.state.queries = [⟨8, [2]⟩, ⟨7, [2]⟩] ∧ sys.state.status 1 = some .inProgress ∧
      sys.state.status 2 = some .failure := by
  decide +kernel

theorem tasks_asked_sample :
    let sys := run (System.step machine program) ⟨sampleDb "v", []⟩ onePass
    sys.Quiet ∧ sys.state.queries = [⟨8, [2]⟩, ⟨7, [1]⟩] ∧
      handedOut [7, 8] [.video 24] sys.state ≤ asked sys.state :=
  ⟨by decide +kernel, by decide +kernel,
    (tasks_asked_through_channel [7, 8] [.video 24] (show (sampleDb "v").polled = [] from rfl)
      onePass (by decide +kernel)).2 (by decide +kernel)⟩

end ZModel.Tasks.Routing
