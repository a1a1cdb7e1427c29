import Mathlib.Data.List.Dedup
import ZModel.Tasks.Rules

/-!
# Polling passes by their rules

Every program of the polling service is safe in a logic whose statements follow `PollRules`: the
proofs go through the code once.
-/

namespace ZModel.Tasks

open Lib
open List (nodup_cons mem_filter mem_cons flatMap_cons mem_map map_cons mem_reverse mem_map_of_mem mem_cons_of_mem nodup_dedup)

variable {l tasks : List Task} {platform : Platform} {m : TaskMap} {R : Type} [AddCommMonoid R]
  (V : PollVocabulary R)

def PollVocabulary.Frame (l : List Task) (r : R) : Prop :=
  ∃ f, V.Over f ∧ r = f + V.dues l

theorem PollVocabulary.dues_append (l l' : List Task) :
    V.dues (l ++ l') = V.dues l + V.dues l' := by
  simp only [dues, List.map_append, List.sum_append]

theorem PollVocabulary.dues_perm {l' : List Task} (h : l.Perm l') : V.dues l = V.dues l' :=
  (h.map V.due).sum_eq

theorem PollVocabulary.dues_eq_zero (h : ∀ t ∈ l, V.due t = 0) : V.dues l = 0 :=
  List.sum_eq_zero (List.forall_mem_map.mpr h)

theorem flatMap_filter_perm {α κ : Type} [DecidableEq κ] (key : α → κ) {keys : List κ}
    (hkeys : keys.Nodup) {l : List α} (h : ∀ x ∈ l, key x ∈ keys) :
    (keys.flatMap fun k => l.filter fun x => key x = k).Perm l := by
  induction keys generalizing l with
  | nil =>
    have hl : l = [] := List.eq_nil_iff_forall_not_mem.mpr fun x hx => by simpa using h x hx
    rw [hl]
    exact .nil
  | cons k keys ih =>
    obtain ⟨hk, hkeys⟩ := nodup_cons.mp hkeys
    have hothers : (keys.flatMap fun k' => l.filter fun x => key x = k').Perm
        (l.filter fun x => !decide (key x = k)) := by
      refine .trans (.of_eq (List.flatMap_congr fun k' hk' => ?_)) (ih hkeys fun x hx => ?_)
      · rw [List.filter_filter]
        refine List.filter_congr fun x _ => ?_
        by_cases hx : key x = k'
        · have hne : k' ≠ k := fun heq => hk (heq ▸ hk')
          simp [hx, hne]
        · simp [hx]
      · rw [mem_filter] at hx
        have hne : key x ≠ k := by simpa using hx.2
        exact (mem_cons.mp (h x hx.1)).resolve_left hne
    rw [flatMap_cons]
    exact (hothers.append_left _).trans (List.filter_append_perm _ l)

namespace TaskMap

variable {m : TaskMap} {id : String} {t : Task}

theorem mem_of_get (h : m.get id = some t) : (id, t) ∈ m := by
  obtain ⟨e, he, rfl⟩ := Option.map_eq_some_iff.mp h
  have hid : e.1 = id := by simpa using List.find?_some he
  rw [← hid]
  exact List.mem_of_find?_eq_some he

theorem mem_set {e : String × Task} (h : e ∈ m.set id t) : e ∈ m ∨ e.2 = t := by
  obtain ⟨e', he', rfl⟩ := mem_map.mp h
  split
  · exact .inr rfl
  · exact .inl he'

theorem get_set_ne {id' : String} (h : id' ≠ id) : (m.set id t).get id' = m.get id' := by
  unfold TaskMap.get TaskMap.set
  congr 1
  induction m with
  | nil => rfl
  | cons e m ih =>
    rw [map_cons, List.find?_cons, List.find?_cons, ih]
    by_cases hid : e.1 = id
    · simp [hid, Ne.symm h]
    · rw [if_neg hid]

theorem keys_eq (m : TaskMap) (ids : List String) :
    m.keys ids = (ids.filterMap m.get).map Task.id := by
  rw [List.map_filterMap]
  rfl

theorem filterMap_get (h : ∀ t ∈ l, m.get t.getUpstreamTaskID = some t) :
    (l.map Task.getUpstreamTaskID).filterMap m.get = l := by
  rw [List.filterMap_map]
  exact (List.filterMap_congr h).trans List.filterMap_some

end TaskMap

theorem mem_buildTaskM {e : String × Task} (h : e ∈ buildTaskM tasks) : e.2 ∈ tasks := by
  obtain ⟨t, ht, rfl⟩ := mem_map.mp h
  exact (mem_filter.mp (mem_reverse.mp ht)).1

theorem buildTaskM_get (hdistinct : (tasks.map Task.getUpstreamTaskID).Nodup) {t : Task}
    (ht : t ∈ named tasks) : (buildTaskM tasks).get t.getUpstreamTaskID = some t := by
  have hmem : (t.getUpstreamTaskID, t) ∈ buildTaskM tasks := mem_map_of_mem (mem_reverse.mpr ht)
  cases hget : (buildTaskM tasks).get t.getUpstreamTaskID with
  | none =>
    have hnone := List.find?_eq_none.mp (Option.map_eq_none_iff.mp hget) _ hmem
    exact absurd (decide_eq_true rfl) hnone
  | some u =>
    obtain ⟨v, hv, heq⟩ := mem_map.mp (TaskMap.mem_of_get hget)
    obtain ⟨hid, rfl⟩ := Prod.mk.injEq .. ▸ heq
    have hv := (mem_filter.mp (mem_reverse.mp hv)).1
    have ht := (mem_filter.mp ht).1
    rw [List.inj_on_of_nodup_map hdistinct hv ht hid]

namespace PollVocabulary.OnChannel

omit [AddCommMonoid R]

variable {V : PollVocabulary R} {channelId : Nat} {t : Task} {l : List Task} {m : TaskMap}

theorem tail (h : V.OnChannel channelId (t :: l) m) : V.OnChannel channelId l m where
  distinct := (nodup_cons.mp h.distinct).2
  get u hu := h.get u (mem_cons_of_mem t hu)
  channel u hu := h.channel u (mem_cons_of_mem t hu)
  fresh u hu := h.fresh u (mem_cons_of_mem t hu)

theorem set (h : V.OnChannel channelId (t :: l) m) (t' : Task) :
    V.OnChannel channelId l (m.set t.getUpstreamTaskID t') where
  distinct := h.tail.distinct
  get u hu := by
    rw [TaskMap.get_set_ne fun heq => ?_]
    · exact h.tail.get u hu
    · exact (nodup_cons.mp h.distinct).1 (heq ▸ mem_map_of_mem hu)
  channel := h.tail.channel
  fresh := h.tail.fresh

end PollVocabulary.OnChannel

section Programs

variable {V : PollVocabulary R} {C : Conditions Op Op.Ret Job World Db}
  {L : Logic Op Job World Db R} {node : Nat} {f : R} {l : List Task} {t : Task}
  (h : PollRules V C L node)

include h

namespace PollRules

theorem frame_kept (hf : V.Over f) (hkeep : t.status = .failure → t.quota = 0 ∨ t.isLegacy = true) :
    V.Frame l (f + V.dues l + V.claim t) :=
  ⟨f + V.claim t, h.kept hf hkeep, add_right_comm _ _ _⟩

theorem safe_refund (hf : V.Over f) (hnamed : V.Named t.id) (hfailure : t.status = .failure) :
    Safe machine C L node (refundTaskQuota .refund t) (f + V.dues l + V.claim t)
      fun _ r => V.Frame l r := by
  unfold refundTaskQuota
  split
  next hzero =>
    exact h.frame_kept hf fun _ => .inl hzero
  rename_i hquota
  refine (h.refund (h.spare l hf) hnamed hfailure hquota).seq fun returned => ?_
  split
  · exact (h.token _ (h.spare l hf) hnamed).mono fun _ r hr => ⟨f, hf, hr⟩
  · exact ⟨f, hf, rfl⟩

theorem safe_recalculate (hf : V.Over f) (hnamed : V.Named t.id) (hsuccess : t.status = .success)
    (actualQuota : Int) :
    Safe machine C L node (recalculateTaskQuota t actualQuota) (f + V.dues l + V.claim t)
      fun t' r => t'.id = t.id ∧ V.Frame l r := by
  unfold recalculateTaskQuota
  dsimp only
  split
  · refine (h.settled (h.spare l hf) hnamed hsuccess).bind fun _ r hr => ?_
    exact ⟨rfl, f, hf, hr⟩
  refine (h.settlement _ (h.spare l hf) hnamed hsuccess).seq fun adjusted => ?_
  split
  · refine (h.token _ (h.spare l hf) hnamed).seq fun _ => ?_
    refine (h.quota (h.spare l hf) (by exact hnamed)).bind fun _ r hr => ?_
    exact ⟨rfl, f, hf, hr⟩
  · exact ⟨rfl, f, hf, rfl⟩

omit h in
theorem withActualQuota_eq (w : World) (t : Task) (info : TaskInfo) :
    ∃ p, t.withActualQuota w info = { t with privateData := p } := by
  unfold Task.withActualQuota
  split
  · exact ⟨_, rfl⟩
  · exact ⟨t.privateData, rfl⟩

section

variable (hf : V.Over f)

include hf

theorem safe_settle (hnamed : V.Named t.id) (hsuccess : t.status = .success)
    (w : World) (info : TaskInfo) :
    Safe machine C L node (settleTaskBillingOnComplete w t info) (f + V.dues l + V.claim t)
      fun t' r => t'.id = t.id ∧ V.Frame l r := by
  obtain ⟨p, hp⟩ := withActualQuota_eq w t info
  unfold settleTaskBillingOnComplete
  rw [hp]
  split
  · refine ⟨rfl, h.frame_kept hf fun hfailure => ?_⟩
    rw [hsuccess] at hfailure
    cases hfailure
  · rw [← h.claim_private t p]
    exact h.safe_recalculate (t := { t with privateData := p }) hf hnamed hsuccess _

theorem safe_bill (hnamed : V.Named t.id) (w : World) (info : TaskInfo) :
    Safe machine C L node (billFinished w t info) (f + V.dues l + V.claim t)
      fun t' r => t'.id = t.id ∧ V.Frame l r := by
  unfold billFinished
  split
  next hsuccess =>
    exact h.safe_settle hf hnamed hsuccess w info
  split
  next hfailure =>
    refine (h.safe_refund hf hnamed hfailure.1).bind fun _ r hr => ?_
    exact ⟨rfl, hr⟩
  rename_i hnone
  refine ⟨rfl, h.frame_kept hf fun hfailure => .inl ?_⟩
  by_contra hquota
  exact hnone ⟨hfailure, hquota⟩

theorem safe_fail (hnamed : V.Named t.id) (hgood : V.Good t)
    (hfailure : t.status = .failure) {old : TaskStatus} (hold : old.finished = false)
    {refunded : Option Bool → Prop} [DecidablePred refunded]
    (hrefunded : ∀ won, refunded won → won = some true)
    (hkeep : ¬refunded (some true) → t.quota = 0 ∨ t.isLegacy = true) :
    Safe machine C L node (call (.updateWithStatus t old none) >>= fun won =>
        if refunded won then refundTaskQuota .refund t else pure ())
      (f + V.dues l) fun _ r => V.Frame l r := by
  refine (h.transition old none (h.spare l hf) hnamed hgood (fun _ => .inl hold) nofun).seq
    fun won => ?_
  split
  next hwon =>
    rw [if_pos (hrefunded won hwon)]
    exact h.safe_refund hf hnamed hfailure
  rename_i hlost
  split
  next hwon =>
    rw [hwon] at hlost
    exact h.frame_kept hf fun _ => hkeep hlost
  · exact ⟨f, hf, add_zero _⟩

theorem safe_sweepTask (hnamed : V.Named t.id) (hfresh : V.Fresh t) (w : World) :
    Safe machine C L node (sweepTask w t) (f + V.dues l) fun _ r => V.Frame l r := by
  refine h.safe_fail (t := t.timedOut w) hf hnamed (h.good_timedOut w hfresh.good) rfl
    hfresh.unfinished (fun won hwon => hwon.1) fun hnot => ?_
  by_contra hnone
  rw [not_or] at hnone
  have hlegacy : t.isLegacy = false := Bool.not_eq_true _ ▸ hnone.2
  exact hnot ⟨rfl, hlegacy, hnone.1⟩

theorem safe_sweep :
    Safe machine C L node sweepTimedOutTasks (f + V.dues l) fun _ r => V.Frame l r := by
  refine (h.observe (h.spare l hf)).andThen fun w _ => ?_
  split
  · exact ⟨f, hf, rfl⟩
  refine (h.timedOut _ _ (h.spare l hf)).andThen fun tasks htasks => ?_
  refine (h.observe (h.spare l hf)).andThen fun w _ => ?_
  refine .forEach ⟨f, hf, rfl⟩ fun t ht r hr => ?_
  obtain ⟨f', hf', rfl⟩ := hr
  exact h.safe_sweepTask hf' (htasks t ht).1 (htasks t ht).2 w

theorem safe_failPreparing (hnamed : V.Named t.id) (hgood : V.Good t) (w : World)
    (reason : String) :
    Safe machine C L node (failPreparingVideoTask w t reason) (f + V.dues l)
      fun _ r => V.Frame l r :=
  h.safe_fail (t := t.preparationFailed w reason) hf hnamed
    (h.good_preparationFailed w reason hgood) rfl rfl (fun _ hwon => hwon)
    fun hnot => absurd rfl hnot

theorem safe_updatePreparing (hnamed : V.Named t.id) (hgood : V.Good t) :
    Safe machine C L node (updatePreparingVideoTask t) (f + V.dues l) fun _ r => V.Frame l r := by
  unfold updatePreparingVideoTask
  split
  · exact ⟨f, hf, rfl⟩
  refine (h.observe (h.spare l hf)).andThen fun w _ => ?_
  split
  · exact h.safe_failPreparing hf hnamed hgood w _
  split
  · exact h.safe_failPreparing hf hnamed hgood w _
  split
  · exact h.safe_failPreparing hf hnamed hgood w _
  · exact (h.privateData _ (h.spare l hf) (by exact hnamed)).mono fun _ r hr => ⟨f, hf, hr⟩
  split
  · exact h.safe_failPreparing hf hnamed hgood w _
  rename_i id data _ _
  refine (h.transition .preparing none (h.spare l hf) (by exact hnamed)
    (h.good_activated w id data hgood) (fun _ => .inl rfl) nofun).seq fun won => ?_
  -- A task that is queued is not finished, so nothing is owed for it.
  rw [h.claim_unfinished (t := t.activated w id data) rfl, ite_self, add_zero]
  exact ⟨f, hf, rfl⟩

theorem safe_updatePreparingAll (tasks : List Task)
    (htasks : ∀ t ∈ tasks, V.Named t.id ∧ V.Good t) :
    Safe machine C L node (updatePreparingVideoTasks tasks) (f + V.dues l)
      fun _ r => V.Frame l r := by
  induction tasks generalizing f with
  | nil => exact ⟨f, hf, rfl⟩
  | cons t tasks ih =>
    refine (h.observe (h.spare l hf)).andThen fun w _ => ?_
    split
    · exact ⟨f, hf, rfl⟩
    obtain ⟨hnamed, hgood⟩ := htasks t (.head _)
    refine (h.safe_updatePreparing hf hnamed hgood).bind fun _ r hr => ?_
    obtain ⟨f', hf', rfl⟩ := hr
    exact ih hf' fun u hu => htasks u (mem_cons_of_mem t hu)

theorem safe_storeTaskInfo (hnamed : V.Named t.id) (hgood : V.Good t) {old : Task}
    (hold : V.Tracked → old.status.finished = false) (q : Query)
    (hanswers : V.Tracked → t.Answers q) (w : World) (info : TaskInfo) :
    Safe machine C L node (storeTaskInfo w q old t info) (f + V.dues l)
      fun t' r => t'.id = t.id ∧ V.Frame l r := by
  have hcas := h.transition (r := f + V.dues l) old.status (some q) (h.spare l hf) hnamed hgood
    (fun htracked => .inl (hold htracked)) fun q' hq' htracked => by
      cases hq'
      exact hanswers htracked
  unfold storeTaskInfo
  split
  · refine hcas.seq fun won => ?_
    split
    · exact h.safe_bill hf hnamed w info
    · exact ⟨rfl, f, hf, add_zero _⟩
  rename_i hnot
  -- A task that was unfinished in memory and is done now took the other branch.
  have hclaim : V.claim t = 0 := by
    obtain htracked | hnone := h.tracked
    · refine h.claim_unfinished (Bool.not_eq_true _ ▸ fun hdone => hnot ⟨hdone, fun hsame => ?_⟩)
      rw [← hsame, hold htracked] at hdone
      cases hdone
    · exact (hnone t).2
  have hbill := h.safe_bill (l := l) hf hnamed w info
  rw [hclaim, add_zero] at hbill
  split
  · refine hcas.bind fun won r hr => ?_
    rw [hclaim, ite_self, add_zero] at hr
    subst hr
    exact hbill
  · exact hbill

end

omit h in
theorem applyTaskInfo_row (w : World) (channelType : Nat) (t : Task) (info : TaskInfo) :
    (t.applyTaskInfo w channelType info).2.id = t.id ∧
      (t.applyTaskInfo w channelType info).2.channelId = t.channelId := by
  unfold Task.applyTaskInfo
  dsimp only
  split <;> exact ⟨rfl, rfl⟩

theorem safe_updateVideoSingle (hf : V.Over f) (hnamed : V.Named t.id)
    (channelId channelType : Nat) (htracked : V.Tracked → V.Fresh t ∧ t.channelId = channelId) :
    Safe machine C L node (updateVideoSingleTask channelId channelType t)
      (f + V.dues l + V.due t) fun t' r => t'.id = t.id ∧ V.Frame l r := by
  have hspare := h.spare l hf
  have hanswers : V.Tracked → t.Answers ⟨channelId, [t.id]⟩ := fun htrack =>
    ⟨(htracked htrack).2.symm, List.mem_singleton_self _⟩
  have hspare' : V.Spare (f + V.dues l + V.due t) := by
    rw [add_assoc, add_comm (V.dues l), ← V.dues_cons]
    exact h.spare _ hf
  refine (h.observe hspare').andThen fun w ⟨hcancelled, _⟩ => ?_
  split
  next hc =>
    rw [hcancelled hc, add_zero]
    exact ⟨rfl, f, hf, rfl⟩
  refine (h.fetch ⟨channelId, [t.id]⟩ hspare hnamed fun htrack =>
    ⟨(htracked htrack).1, hanswers htrack⟩).andThen fun reply hreplied => ?_
  have hprivate : ∀ u : Task, u.id = t.id → Safe machine C L node
      (call (.updatePrivateDataWithStatus u t.status) >>= fun _ => pure u) (f + V.dues l)
      fun t' r => t'.id = t.id ∧ V.Frame l r := by
    intro u hu
    refine (h.privateData _ hspare (hu ▸ hnamed)).bind fun _ r hr => ?_
    exact ⟨hu, f, hf, hr⟩
  split
  · split
    · exact hprivate t rfl
    · exact ⟨rfl, f, hf, rfl⟩
  · exact hprivate t rfl
  rename_i info data
  split
  · exact hprivate { t with data } rfl
  rename_i info' hresolve
  obtain ⟨hid, hchannel⟩ := applyTaskInfo_row w channelType { t with data } info'
  dsimp only
  split
  next t' happly =>
    rw [happly] at hid
    exact ⟨hid, f, hf, rfl⟩
  rename_i t' happly
  have hgood := hreplied info data rfl info' hresolve w channelType t' happly
  rw [happly] at hid hchannel
  have hid : t'.id = t.id := hid
  refine (h.safe_storeTaskInfo hf (hid ▸ hnamed) hgood
    (fun htrack => (htracked htrack).1.unfinished) _ (fun htrack => ?_) w info').mono
    fun u r hu => ⟨hu.1.trans hid, hu.2⟩
  have hanswer := hanswers htrack
  unfold Task.Answers at hanswer ⊢
  rw [hid, hchannel]
  exact hanswer

theorem safe_bulkKeys (hf : V.Over f) (hnamed : ∀ e ∈ m, V.Named e.2.id) (ids : List String)
    (reason : Option String) :
    Safe machine C L node (call (.taskBulkUpdateByID (m.keys ids) reason)) (f + V.dues l)
      fun _ r => r = f + V.dues l := by
  rw [TaskMap.keys_eq]
  refine h.bulk _ reason (h.spare l hf) fun t ht => ?_
  obtain ⟨id, -, hid⟩ := List.mem_filterMap.mp ht
  exact hnamed _ (TaskMap.mem_of_get hid)

theorem safe_pollVideo (hf : V.Over f) (channelId channelType : Nat)
    (hnamed : ∀ e ∈ m, V.Named e.2.id) (hchannel : V.Tracked → V.OnChannel channelId l m) :
    Safe machine C L node (pollVideoTasks channelId channelType (l.map Task.getUpstreamTaskID) m)
      (f + V.dues l) fun _ r => V.Over r := by
  induction l generalizing f m with
  | nil =>
    rw [V.dues_nil, add_zero]
    exact hf
  | cons t l ih =>
    rw [map_cons]
    refine (h.observe (h.spare _ hf)).andThen fun w ⟨hcancelled, _⟩ => ?_
    split
    next hc =>
      rw [V.dues_eq_zero fun u _ => hcancelled hc u, add_zero]
      exact hf
    split
    next hnone =>
      obtain htracked | hzero := h.tracked
      · rw [(hchannel htracked).get t (.head _)] at hnone
        cases hnone
      · rw [V.dues_cons, (hzero t).1, zero_add]
        exact ih hf hnamed fun htracked => (hchannel htracked).tail
    rename_i t' hget
    have hdue : f + V.dues (t :: l) = f + V.dues l + V.due t' := by
      rw [V.dues_cons, add_comm (V.due t), ← add_assoc]
      obtain htracked | hzero := h.tracked
      · rw [(hchannel htracked).get t (.head _)] at hget
        cases hget
        rfl
      · rw [(hzero t).1, (hzero t').1]
    rw [hdue]
    have hfresh : V.Tracked → V.Fresh t' ∧ t'.channelId = channelId := fun htracked => by
      have honly := hchannel htracked
      rw [honly.get t (.head _)] at hget
      cases hget
      exact ⟨honly.fresh t (.head _), honly.channel t (.head _)⟩
    have hnamed' := hnamed _ (TaskMap.mem_of_get hget)
    refine (h.safe_updateVideoSingle hf hnamed' channelId channelType hfresh).bind
      fun t'' r hr => ?_
    obtain ⟨hid, f', hf', rfl⟩ := hr
    refine ih hf' (fun e he => ?_) fun htracked => (hchannel htracked).set t''
    obtain he | he := TaskMap.mem_set he
    · exact hnamed e he
    · rw [he, hid]
      exact hnamed'

theorem safe_updateVideo (platform : Platform) (channelId : Nat)
    (hnamed : ∀ e ∈ m, V.Named e.2.id) (hchannel : V.Tracked → V.OnChannel channelId l m)
    (hplatform : ∀ t ∈ l, t.platform = platform) :
    Safe machine C L node
      (updateVideoTasks platform channelId (l.map Task.getUpstreamTaskID) m) (V.dues l)
      fun _ r => V.Over r := by
  have hstart := h.spare l h.over_zero
  rw [zero_add] at hstart
  refine (h.observe hstart).andThen fun w ⟨hcancelled, hadaptor, htype⟩ => ?_
  split
  next hskip =>
    rw [Bool.or_eq_true, List.isEmpty_iff, List.map_eq_nil_iff] at hskip
    have hzero : V.dues l = 0 := by
      obtain hc | hempty := hskip
      · exact V.dues_eq_zero fun u _ => hcancelled hc u
      · rw [hempty, V.dues_nil]
    rw [hzero]
    exact h.over_zero
  split
  next hnone =>
    have hzero : V.dues l = 0 := by
      refine V.dues_eq_zero fun u hu => ?_
      obtain htracked | hplain := h.tracked
      · exact htype u ((hchannel htracked).channel u hu ▸ hnone)
      · exact (hplain u).1
    have hbulk := h.safe_bulkKeys (l := []) h.over_zero hnamed (l.map Task.getUpstreamTaskID)
      (some ("Failed to get channel info, channel ID: " ++ toString channelId))
    rw [V.dues_nil, add_zero] at hbulk
    rw [hzero]
    exact hbulk.mono fun _ r hr => hr ▸ h.over_zero
  rename_i channelType _
  split
  · have hpoll := h.safe_pollVideo (l := l) h.over_zero channelId channelType hnamed hchannel
    rwa [zero_add] at hpoll
  rename_i hnone
  rw [V.dues_eq_zero fun u hu => hadaptor u (hplatform u hu ▸ Bool.not_eq_true _ ▸ hnone)]
  exact h.over_zero

theorem safe_sunoRefund (hsuno : V.SunoPolled) (hf : V.Over f) (hnamed : V.Named t.id) :
    Safe machine C L node (refundTaskQuota .sunoRefund t) (f + V.dues l) fun _ r =>
      (r = f + V.dues l ∧ t.quota = 0) ∨
        (r = f + V.dues l + V.paid t ∧ V.Refunded t.status ∧ t.quota ≠ 0) := by
  unfold refundTaskQuota
  split
  next hzero =>
    exact .inl ⟨rfl, hzero⟩
  rename_i hquota
  refine (h.sunoRefund hsuno (h.spare l hf) hnamed hquota).andThen fun returned hrefunded => ?_
  split
  · exact (h.tokenPaid _ (h.spare l hf) hnamed).mono fun _ r hr =>
      .inr ⟨hr, hrefunded, hquota⟩
  · exact .inr ⟨rfl, hrefunded, hquota⟩

theorem safe_applySunoItem (hsuno : V.SunoPolled) (hf : V.Over f) (hnamed : V.Named t.id)
    (q : Query) (item : SunoItem)
    (hanswers : V.SunoTracked → t.Answers q ∧ t.getUpstreamTaskID = item.taskID)
    (hgood : V.Good (t.sunoResult item)) :
    Safe machine C L node (applySunoItem q t item) (f + V.dues l)
      fun t' r => t'.id = t.id ∧ r = f + V.dues l := by
  have hsave := h.save (t := t.sunoResult item) q item.taskID hsuno (h.spare l hf) hnamed hgood hanswers
  unfold applySunoItem
  split
  · refine (h.safe_sunoRefund hsuno hf (by exact hnamed)).bind fun _ r hr => ?_
    obtain ⟨rfl, hzero⟩ | ⟨rfl, hrefunded, hquota⟩ := hr
    · refine (hsave fun _ => hzero).bind fun _ r hr => ?_
      exact ⟨rfl, hr⟩
    rw [h.paid_result t item]
    refine (h.savePaid (t := t.sunoResult item) q item.taskID hsuno (h.spare l hf) hnamed hgood
      hanswers hrefunded hquota).bind fun _ r hr => ?_
    exact ⟨rfl, hr⟩
  rename_i hnot
  -- A resulting status of FAILURE counts as a failure.
  have hfailed : (t.sunoResult item).status = .failure → (t.sunoResult item).quota = 0 := by
    intro hfailure
    refine absurd ?_ hnot
    unfold sunoFailed
    rw [Bool.or_eq_true]
    exact .inr (decide_eq_true hfailure)
  refine (hsave hfailed).bind fun _ r hr => ?_
  exact ⟨rfl, hr⟩

structure Awaits (V : PollVocabulary R) (q : Query) (items : List SunoItem) (m : TaskMap) :
    Prop where
  distinct : (items.map SunoItem.taskID).Nodup
  found : ∀ item ∈ items, ∀ t, m.get item.taskID = some t →
    V.Fresh t ∧ t.Answers q ∧ t.getUpstreamTaskID = item.taskID

theorem safe_applySunoItems (hsuno : V.SunoPolled) (hf : V.Over f)
    (hnamed : ∀ e ∈ m, V.Named e.2.id) (q : Query) (items : List SunoItem)
    (hgood : ∀ item ∈ items, ∀ t, V.Fresh t → V.Good (t.sunoResult item))
    (hawaits : V.SunoTracked → Awaits V q items m) :
    Safe machine C L node (applySunoItems q items m) (f + V.dues l) fun m' r =>
      (∀ e ∈ m', V.Named e.2.id) ∧
        (∀ id, id ∉ items.map SunoItem.taskID → m'.get id = m.get id) ∧ r = f + V.dues l := by
  induction items generalizing m with
  | nil => exact ⟨hnamed, fun _ _ => rfl, rfl⟩
  | cons item items ih =>
    have hgood' := fun i hi => hgood i (mem_cons_of_mem item hi)
    -- The items after this one, on a map that may differ at this one's id.
    have hrest : ∀ m' : TaskMap, (∀ e ∈ m', V.Named e.2.id) →
        (∀ id, id ≠ item.taskID → m'.get id = m.get id) →
        Safe machine C L node (applySunoItems q items m') (f + V.dues l) fun m'' r =>
          (∀ e ∈ m'', V.Named e.2.id) ∧
            (∀ id, id ∉ (item :: items).map SunoItem.taskID → m''.get id = m.get id) ∧
            r = f + V.dues l := by
      intro m' hm' hsame
      refine (ih hm' hgood' fun htracked => ⟨?_, fun i hi t ht => ?_⟩).mono
        fun m'' r hr => ⟨hr.1, fun id hid => ?_, hr.2.2⟩
      · exact (nodup_cons.mp (hawaits htracked).distinct).2
      · rw [hsame] at ht
        · exact (hawaits htracked).found i (mem_cons_of_mem item hi) t ht
        · intro heq
          exact (nodup_cons.mp (hawaits htracked).distinct).1
            (heq ▸ mem_map_of_mem hi)
      · rw [map_cons, mem_cons, not_or] at hid
        rw [hr.2.1 id hid.2, hsame id hid.1]
    refine (h.observe (h.spare l hf)).andThen fun w _ => ?_
    split
    · exact ⟨hnamed, fun _ _ => rfl, rfl⟩
    split
    · exact hrest m hnamed fun _ _ => rfl
    rename_i t hget
    have hnamed' := hnamed _ (TaskMap.mem_of_get hget)
    split
    · have hfound := fun htracked => (hawaits htracked).found item (.head _) t hget
      have hgood' : V.Good (t.sunoResult item) := by
        obtain htracked | hplain := h.sunoTracked
        · exact hgood item (.head _) t (hfound htracked).1
        · exact (hplain _).2
      refine (h.safe_applySunoItem hsuno hf hnamed' q item
        (fun htracked => (hfound htracked).2) hgood').bind fun t' r hr => ?_
      obtain ⟨hid, rfl⟩ := hr
      refine hrest _ (fun e he => ?_) fun id hne => TaskMap.get_set_ne hne
      obtain he | he := TaskMap.mem_set he
      · exact hnamed e he
      · rw [he, hid]
        exact hnamed'
    · exact hrest m hnamed fun _ _ => rfl

theorem safe_updateSuno (hsuno : V.SunoPolled) (hf : V.Over f) (channelId : Nat)
    (hnamed : ∀ e ∈ m, V.Named e.2.id) {asked : List Task}
    (hchannel : V.SunoTracked → V.OnChannel channelId asked m)
    (hplatform : ∀ t ∈ asked, t.platform = .suno) :
    Safe machine C L node (updateSunoTasks channelId (asked.map Task.getUpstreamTaskID) m)
      (f + V.dues l + V.dues asked) fun m' r =>
        (∀ e ∈ m', V.Named e.2.id) ∧
          (V.SunoTracked → ∀ id, id ∉ asked.map Task.getUpstreamTaskID → m'.get id = m.get id) ∧
          r = f + V.dues l := by
  have hspare : V.Spare (f + V.dues l + V.dues asked) := by
    rw [add_assoc, ← V.dues_append]
    exact h.spare _ hf
  have hasked : V.SunoTracked → (asked.map Task.getUpstreamTaskID).filterMap m.get = asked :=
    fun htracked => TaskMap.filterMap_get (hchannel htracked).get
  have hdues : V.dues asked = V.dues ((asked.map Task.getUpstreamTaskID).filterMap m.get) := by
    obtain htracked | hplain := h.sunoTracked
    · rw [hasked htracked]
    · rw [V.dues_eq_zero fun u _ => (hplain u).1, V.dues_eq_zero fun u _ => (hplain u).1]
  refine (h.observe hspare).andThen fun w ⟨hcancelled, hadaptor, htype⟩ => ?_
  split
  next hskip =>
    rw [Bool.or_eq_true, List.isEmpty_iff, List.map_eq_nil_iff] at hskip
    refine ⟨hnamed, fun _ _ _ => rfl, ?_⟩
    obtain hc | hempty := hskip
    · rw [V.dues_eq_zero fun u _ => hcancelled hc u, V.dues_eq_zero fun u _ => hcancelled hc u,
        add_zero]
    · rw [hempty, V.dues_nil, add_zero]
  split
  next hnone =>
    have hzero : V.dues asked = 0 := by
      refine V.dues_eq_zero fun u hu => ?_
      obtain htracked | hplain := h.sunoTracked
      · exact htype u ((hchannel htracked).channel u hu ▸ hnone)
      · exact (hplain u).1
    rw [hzero, add_zero]
    refine (h.safe_bulkKeys hf hnamed _ _).bind fun _ r hr => ?_
    exact ⟨hnamed, fun _ _ _ => rfl, hr⟩
  split
  next hnone =>
    refine ⟨hnamed, fun _ _ _ => rfl, ?_⟩
    rw [V.dues_eq_zero fun u hu => hadaptor u (hplatform u hu ▸ hnone), add_zero]
  rw [hdues]
  refine (h.fetchSuno ⟨channelId, m.keys (asked.map Task.getUpstreamTaskID)⟩ _ _ hsuno
    (h.spare l hf) (TaskMap.keys_eq _ _) fun htracked => ⟨?_, fun t ht => ⟨?_, ?_⟩⟩).bind
    fun reply r hr => ?_
  · rw [hasked htracked]
  · rw [hasked htracked] at ht
    exact ((hchannel htracked).channel t ht).symm
  · exact TaskMap.keys_eq m _ ▸ mem_map_of_mem ht
  obtain ⟨rfl, hreply⟩ := hr
  split
  · exact ⟨hnamed, fun _ _ _ => rfl, rfl⟩
  rename_i items
  obtain ⟨hitems, hgood⟩ := hreply items rfl
  refine (h.safe_applySunoItems hsuno hf hnamed _ items hgood fun htracked =>
    ⟨(hitems htracked).1, fun item hitem t ht => ?_⟩).mono
    fun m' r hr => ⟨hr.1, fun htracked id hid => hr.2.1 id fun hmem => ?_, hr.2.2⟩
  · -- The item answers one of the ids that were asked, and that id has one task.
    have honly := hchannel htracked
    obtain ⟨u, hu, hid⟩ := mem_map.mp ((hitems htracked).2 item hitem)
    rw [← hid, honly.get u hu, Option.some.injEq] at ht
    subst ht
    refine ⟨honly.fresh u hu, ⟨(honly.channel u hu).symm, ?_⟩, hid⟩
    rw [TaskMap.keys_eq, hasked htracked]
    exact mem_map_of_mem hu
  · obtain ⟨item, hitem, rfl⟩ := mem_map.mp hmem
    exact hid ((hitems htracked).2 item hitem)

structure OnPlatform (V : PollVocabulary R) (platform : Platform) (tasks : List Task) : Prop where
  named : ∀ t ∈ tasks, V.Named t.id
  fresh : ∀ t ∈ tasks, V.Fresh t
  distinct : V.Tracked ∨ platform = .suno ∧ V.SunoTracked → (tasks.map Task.getUpstreamTaskID).Nodup
  platform : ∀ t ∈ tasks, t.platform = platform

omit [AddCommMonoid R] in
omit h in
theorem OnPlatform.entries (h : OnPlatform V platform tasks) :
    ∀ e ∈ buildTaskM tasks, V.Named e.2.id :=
  fun _ he => h.named _ (mem_buildTaskM he)

omit h in
theorem mem_channelTasks {channelId : Nat} : t ∈ channelTasks tasks channelId ↔
      (t ∈ tasks ∧ t.getUpstreamTaskID ≠ "") ∧ t.channelId = channelId := by
  simp only [channelTasks, named, mem_filter, decide_eq_true_eq]

omit [AddCommMonoid R] in
omit h in
theorem OnPlatform.onChannel (h : OnPlatform V platform tasks)
    (htracked : V.Tracked ∨ platform = .suno ∧ V.SunoTracked) (channelId : Nat) :
    V.OnChannel channelId (channelTasks tasks channelId) (buildTaskM tasks) where
  distinct := ((h.distinct htracked).sublist
    ((List.filter_sublist.trans List.filter_sublist).map _))
  get _ ht := buildTaskM_get (h.distinct htracked) (mem_filter.mp ht).1
  channel _ ht := (mem_channelTasks.mp ht).2
  fresh t ht := h.fresh t (mem_channelTasks.mp ht).1.1

theorem safe_updateSunoChannels (hsuno : V.SunoPolled) (hf : V.Over f)
    (htasks : OnPlatform V .suno tasks) {channels : List Nat} (hchannels : channels.Nodup)
    (hnamed : ∀ e ∈ m, V.Named e.2.id)
    (hm : V.SunoTracked → ∀ c ∈ channels, V.OnChannel c (channelTasks tasks c) m) :
    Safe machine C L node (updateSunoChannels tasks channels m)
      (f + V.dues l + V.dues (channels.flatMap (channelTasks tasks)))
      fun _ r => r = f + V.dues l := by
  have hspare := fun asked : List Task => h.spare (l ++ asked) hf
  simp only [V.dues_append, ← add_assoc] at hspare
  induction channels generalizing m with
  | nil => exact add_zero _
  | cons c channels ih =>
    obtain ⟨hc, hchannels⟩ := nodup_cons.mp hchannels
    refine (h.observe (hspare _)).andThen fun w ⟨hcancelled, _⟩ => ?_
    split
    next hcancel =>
      rw [V.dues_eq_zero fun u _ => hcancelled hcancel u,
        V.dues_eq_zero fun u _ => hcancelled hcancel u, add_zero]
      rfl
    have hsplit : f + V.dues l + V.dues ((c :: channels).flatMap (channelTasks tasks)) =
        f + V.dues (l ++ channels.flatMap (channelTasks tasks)) + V.dues (channelTasks tasks c) := by
      rw [flatMap_cons, V.dues_append, V.dues_append, ← add_assoc, ← add_assoc, add_right_comm]
    rw [hsplit]
    refine (h.safe_updateSuno hsuno hf c hnamed
      (fun htracked => hm htracked c (.head _))
      fun t ht => htasks.platform t (mem_channelTasks.mp ht).1.1).bind fun m' r hr => ?_
    obtain ⟨hnamed', hsame, rfl⟩ := hr
    rw [V.dues_append, ← add_assoc]
    refine ih hchannels hnamed' fun htracked d hd => ?_
    have honly := hm htracked d (mem_cons_of_mem c hd)
    refine { honly with get := fun t ht => ?_ }
    rw [hsame htracked]
    · exact honly.get t ht
    -- Another channel has other tasks, so other upstream ids.
    intro hmem
    obtain ⟨u, hu, hid⟩ := mem_map.mp hmem
    obtain ⟨⟨hu, -⟩, hcu⟩ := mem_channelTasks.mp hu
    obtain ⟨⟨ht, -⟩, hdt⟩ := mem_channelTasks.mp ht
    have hdistinct := htasks.distinct (.inr ⟨rfl, htracked⟩)
    have heq := List.inj_on_of_nodup_map hdistinct hu ht hid
    rw [heq, hdt] at hcu
    exact hc (hcu ▸ hd)

theorem safe_forkVideoChannels (hf : V.Over f) (htasks : OnPlatform V platform tasks)
    (channels : List Nat) :
    Safe machine C L node (forkVideoChannels platform tasks channels)
      (f + V.dues l + V.dues (channels.flatMap (channelTasks tasks)))
      fun _ r => r = f + V.dues l := by
  have hspare := fun asked : List Task => h.spare (l ++ asked) hf
  simp only [V.dues_append, ← add_assoc] at hspare
  induction channels with
  | nil => exact add_zero _
  | cons c channels ih =>
    refine ⟨h.fork (hspare _), V.dues (channelTasks tasks c), _, ?_, (h.pre _ _).mpr ?_, ih⟩
    · rw [flatMap_cons, V.dues_append, add_left_comm]
    · exact ⟨channelTasks tasks c, rfl, htasks.entries, fun htracked => htasks.onChannel (.inl htracked) c,
        fun t ht => htasks.platform t (mem_channelTasks.mp ht).1.1, rfl⟩

omit h in
theorem dues_channels {channels : List Nat} (hchannels : channels.Perm (channelsOf tasks)) :
    V.dues (channels.flatMap (channelTasks tasks)) = V.dues (named tasks) := by
  refine V.dues_perm (flatMap_filter_perm Task.channelId ?_ fun t ht => ?_)
  · exact hchannels.nodup_iff.mpr (nodup_dedup _)
  · exact hchannels.mem_iff.mpr (List.mem_dedup.mpr (mem_map_of_mem ht))

theorem safe_dispatch (hf : V.Over f) (htasks : OnPlatform V platform tasks)
    (hsuno : platform = .suno → tasks ≠ [] → V.SunoPolled) :
    Safe machine C L node (dispatchPlatformUpdate platform tasks)
      (f + V.dues l + V.dues (named tasks)) fun _ r => r = f + V.dues l := by
  unfold dispatchPlatformUpdate
  split
  · show f + V.dues l + V.dues (named tasks) = f + V.dues l
    have hzero : V.dues (named tasks) = 0 :=
      V.dues_eq_zero fun t ht =>
        h.due_midjourney (htasks.platform t (mem_filter.mp ht).1)
    rw [hzero, add_zero]
  · have hspare := h.spare (l ++ named tasks) hf
    rw [V.dues_append, ← add_assoc] at hspare
    refine (h.observe hspare).andThen fun w _ => ?_
    have hperm := List.perm_insertionSort (fun c d => w.channelRank c ≤ w.channelRank d)
      (channelsOf tasks)
    rw [← dues_channels hperm]
    by_cases hempty : tasks = []
    · subst hempty
      exact add_zero _
    exact h.safe_updateSunoChannels (hsuno rfl hempty) hf htasks
      (hperm.nodup_iff.mpr (nodup_dedup _)) htasks.entries
      fun htracked c _ => htasks.onChannel (.inr ⟨rfl, htracked⟩) c
  · rw [← dues_channels (List.perm_insertionSort (fun c d => c ≤ d) _)]
    exact h.safe_forkVideoChannels hf htasks _

theorem safe_pollPlatform (hf : V.Over f) (htasks : OnPlatform V platform tasks)
    (hsuno : platform = .suno → tasks ≠ [] → V.SunoPolled) :
    Safe machine C L node (pollPlatform platform tasks) (f + V.dues l + V.dues tasks)
      fun _ r => r = f + V.dues l := by
  have hdues : V.dues tasks = V.dues (named tasks) := by
    have hperm := List.filter_append_perm (fun t => decide (t.getUpstreamTaskID ≠ "")) tasks
    rw [← V.dues_perm hperm, V.dues_append]
    refine (congrArg (V.dues (named tasks) + ·) (V.dues_eq_zero fun t ht => ?_)).trans (add_zero _)
    exact h.due_null (by simpa using (mem_filter.mp ht).2)
  have hdispatch := h.safe_dispatch (l := l) hf htasks hsuno
  rw [hdues]
  unfold pollPlatform
  dsimp only
  split
  · exact hdispatch
  have hspare := h.spare (l ++ named tasks) hf
  rw [V.dues_append, ← add_assoc] at hspare
  refine (h.bulk _ none hspare fun t ht => ?_).bind fun _ r hr => ?_
  · exact htasks.named t (mem_filter.mp ht).1
  · subst hr
    exact hdispatch

theorem safe_pollPlatforms (hf : V.Over f) (htasks : V.Polled tasks) (platforms : List Platform) :
    Safe machine C L node (pollPlatforms tasks platforms)
      (f + V.dues (platforms.flatMap fun p => tasks.filter fun t => t.platform = p))
      fun _ r => V.Over r := by
  induction platforms with
  | nil =>
    show V.Over (f + 0)
    rwa [add_zero]
  | cons platform platforms ih =>
    refine (h.observe (h.spare _ hf)).andThen fun w ⟨hcancelled, _⟩ => ?_
    split
    next hc =>
      rw [V.dues_eq_zero fun u _ => hcancelled hc u, add_zero]
      exact hf
    have hmem : ∀ {t}, t ∈ tasks.filter (fun t => t.platform = platform) →
        t ∈ tasks ∧ t.platform = platform := by
      intro t ht
      rw [mem_filter, decide_eq_true_eq] at ht
      exact ht
    rw [flatMap_cons, V.dues_append, add_comm (V.dues _), ← add_assoc]
    refine (h.safe_pollPlatform hf ⟨?_, ?_, ?_, ?_⟩ ?_).bind fun _ r hr => ?_
    · exact fun t ht => htasks.named t (hmem ht).1
    · exact fun t ht => htasks.fresh t (hmem ht).1
    · rintro (htracked | ⟨rfl, htracked⟩)
      · exact (htasks.distinct htracked).onPlatform platform
      · exact htasks.sunoDistinct htracked
    · exact fun t ht => (hmem ht).2
    · intro hplatform hne
      obtain ⟨t, ht⟩ := List.exists_mem_of_ne_nil _ hne
      exact htasks.suno t (hmem ht).1 ((hmem ht).2.trans hplatform)
    · subst hr
      exact ih

theorem safe_poll : Safe machine C L node runTaskPollingOnce 0 fun _ r => V.Over r := by
  have hsweep := h.safe_sweep (l := []) h.over_zero
  rw [zero_add] at hsweep
  refine hsweep.bind fun _ r hr => ?_
  obtain ⟨f, hf, rfl⟩ := hr
  refine (h.preparing _ (h.spare [] hf)).andThen fun preparing hpreparing => ?_
  refine (h.unfinished (h.spare [] hf)).andThen fun tasks htasks => ?_
  rw [V.dues_nil, add_zero]
  refine (h.safe_updatePreparingAll hf preparing hpreparing).bind fun _ r hr => ?_
  obtain ⟨f', hf', rfl⟩ := hr
  refine (h.observe (h.spare tasks hf')).andThen fun w _ => ?_
  have hperm := List.perm_insertionSort (fun p r => w.platformRank p ≤ w.platformRank r)
    (tasks.map Task.platform).dedup
  rw [← V.dues_perm (flatMap_filter_perm Task.platform
    (hperm.nodup_iff.mpr (nodup_dedup _)) fun t ht =>
      hperm.mem_iff.mpr (List.mem_dedup.mpr (mem_map_of_mem ht)))]
  exact h.safe_pollPlatforms hf' htasks _

theorem safe_realtimeFetch (hrealtime : V.Realtime) (userId : Nat) (taskID : String) :
    Safe machine C L node (videoFetchByID userId taskID) 0 fun _ r => V.Over r := by
  have hspare : V.Spare 0 := by simpa using h.spare [] h.over_zero
  refine (h.byTaskId userId taskID hrealtime hspare).andThen fun row hrow => ?_
  split
  · exact h.over_zero
  rename_i t
  obtain ⟨hnamed, hgood⟩ := hrow t rfl
  refine (h.observe hspare).andThen fun w _ => ?_
  split
  · exact h.over_zero
  split
  · exact h.over_zero
  refine (h.fetchRealtime hrealtime hspare hgood).andThen fun reply hreply => ?_
  have hprivate := (h.privateData t.status hspare hnamed).mono
    fun _ r (hr : r = 0) => (hr ▸ h.over_zero : V.Over r)
  split
  · split
    · exact hprivate
    · exact h.over_zero
  · exact hprivate
  rename_i info data
  obtain ⟨hgood', hrewrites⟩ := hreply info data rfl w
  split
  · refine (h.transition (t := t.applyRealtime w info) t.status none hspare hnamed hgood'
      (fun htracked => (hrewrites htracked).imp id fun hr => ⟨hrealtime, hr⟩)
      nofun).bind fun won r hr => ?_
    rw [h.claim_realtime hrealtime, ite_self, add_zero] at hr
    subst hr
    exact h.over_zero
  · exact h.over_zero

theorem safe_program (j : Job) {r : R} (hr : L.pre node j r) :
    SafeThread machine C L ⟨node, program j⟩ r := by
  have hpost : ∀ _ : Unit, ∀ r, V.Over r → L.post node r := fun _ _ hover => h.post hover
  have hr := (h.pre j r).mp hr
  cases j with
  | poll =>
    obtain rfl : r = 0 := hr
    exact h.safe_poll.mono hpost
  | channel platform channelId ids m =>
    obtain ⟨l, rfl, hnamed, hchannel, hplatform, rfl⟩ := hr
    exact (h.safe_updateVideo platform channelId hnamed hchannel hplatform).mono hpost
  | realtimeFetch userId taskID =>
    obtain ⟨hrealtime, rfl⟩ := hr
    exact (h.safe_realtimeFetch hrealtime userId taskID).mono hpost

end PollRules

end Programs

end ZModel.Tasks
