import ZModel.AsyncImage.Outline

/-!
# What others do to a leased task

An operation is foreign to a lease if it needs no lease or belongs to another one. While the owner
holds the task, it can only record an incident or let the output expire.
-/

namespace ZModel.AsyncImage

open Lib Store

variable {a : Act} {k : Lease} {owner : String}

def Act.actor : Act → Option String
  | .claim owner | .start owner | .postpone owner | .complete owner | .completeUnarchived owner
  | .refund owner | .publish owner | .retryArchive owner | .failArchive owner => some owner
  | .bill | .incident | .reset | .expire => none

theorem Act.foreign {v : View} (henabled : a.Enabled v) (hbill : a ≠ .bill)
    (hactor : ∀ other, a.actor = some other → other ≠ "" ∧ other ≠ owner) (howner : owner ≠ "")
    (hafter : (a.apply v).owner = owner) : v.owner = owner ∧ (a = .incident ∨ a = .expire) := by
  cases a with
  | claim other => exact absurd hafter (hactor other rfl).2
  | start other => exact absurd (henabled.1.symm.trans hafter) (hactor other rfl).2
  | complete other =>
    obtain hempty | hholds := henabled.1
    · exact absurd hempty (hactor other rfl).1
    · exact absurd (hholds.symm.trans hafter) (hactor other rfl).2
  | bill => exact absurd rfl hbill
  | incident => exact ⟨hafter, .inl rfl⟩
  | expire => exact ⟨hafter, .inr rfl⟩
  | postpone | completeUnarchived | refund | publish | retryArchive | failArchive | reset =>
    exact absurd hafter.symm howner

section Actors

variable {o : Op} {id : String} {a : Act}

theorem Op.actor_of_common (hcommon : o.common = true) (ha : o.act id = some a) :
    a.actor = none := by
  cases Op.acts_of_act ha with
  | update st _ hst =>
    cases st with
    | renew | claimNotification | notificationSent => cases hst
    | incident | reset | expired =>
      cases hst
      rfl
    | _ => cases hcommon
  | refund | settle => cases hcommon
  | rebind => rfl

theorem WorkerStep.actor {taskID : String} {f : Phase} {next : o.Ret → Phase}
    (h : WorkerStep owner taskID f o next) (ha : o.act id = some a) :
    id = taskID ∧ a.actor = some owner := by
  have hacts := Op.acts_of_act ha
  cases h with
  | claim | postpone | start =>
    cases hacts with
    | update _ _ hst =>
      cases hst
      exact ⟨rfl, rfl⟩
  | choose =>
    cases hacts with
    | update _ _ hst => cases hst
  | refund =>
    cases hacts
    exact ⟨rfl, rfl⟩
  | settle s hbuilt htask howner =>
    cases hacts with
    | settle _ _ hid hact =>
      refine ⟨hid.symm.trans htask, ?_⟩
      obtain hbuilt | hbuilt := hbuilt.act_eq
      · rw [← hact, hbuilt, howner]
        rfl
      · rw [← hact, hbuilt, howner]
        rfl
  | endArchive f hf st hst =>
    cases hacts with
    | update _ _ hact => cases hst <;> cases hact <;> exact ⟨rfl, rfl⟩
  | readBack | attempt | readAgain | list | head | markUploading | put | markFailed | markAvailable
  | finish => cases hacts

def Act.endsArchive : Act → Bool
  | .publish _ | .retryArchive _ | .failArchive _ => true
  | _ => false

theorem WorkerStep.archives {taskID : String} {f : Phase} {next : o.Ret → Phase}
    (h : WorkerStep owner taskID f o next) (ha : o.act id = some a) (hend : a.endsArchive = true) :
    f.archives = true := by
  have hacts := Op.acts_of_act ha
  cases h with
  | endArchive f hf => exact hf
  | claim | postpone | start =>
    cases hacts with
    | update _ _ hst =>
      cases hst
      cases hend
  | choose =>
    cases hacts with
    | update _ _ hst => cases hst
  | refund =>
    cases hacts
    cases hend
  | settle s hbuilt =>
    cases hacts with
    | settle _ _ _ hact =>
      obtain hbuilt | hbuilt := hbuilt.act_eq
      · rw [← hact, hbuilt] at hend
        cases hend
      · rw [← hact, hbuilt] at hend
        cases hend
  | readBack | attempt | readAgain | list | head | markUploading | put | markFailed | markAvailable
  | finish => cases hacts

end Actors

inductive Foreign (k : Lease) (o : Op) : Prop where
  | common (hcommon : o.common = true) (hbuilt : o.Built)
  | step (owner taskID : String) (f : Phase) (next : o.Ret → Phase)
      (hstep : WorkerStep owner taskID f o next) (howner : owner ≠ "")
      (hother : (owner, taskID) ≠ k)

namespace Foreign

variable {owner id : String} {o : Op} {w : World} {s : Shared} {v : View}

theorem built (h : Foreign k o) : o.Built := by
  cases h with
  | common _ hbuilt => exact hbuilt
  | step _ _ _ _ hstep => exact hstep.built

theorem actor (h : Foreign (owner, id) o) (ha : o.act id = some a) :
    ∀ other, a.actor = some other → other ≠ "" ∧ other ≠ owner := by
  intro other hother
  cases h with
  | common hcommon =>
    rw [Op.actor_of_common hcommon ha] at hother
    cases hother
  | step owner' taskID f next hstep howner hlease =>
    obtain ⟨rfl, hactor⟩ := hstep.actor ha
    rw [hactor] at hother
    cases hother
    exact ⟨howner, fun heq => hlease (by rw [heq])⟩

theorem view (h : Foreign (owner, id) o) (howner : owner ≠ "")
    (hv : (exec o w s).2.db.view id = some v) (hholds : v.owner = owner) :
    ∃ u, s.db.view id = some u ∧ u.owner = owner ∧
      (v = u ∨ ∃ a, o.act id = some a ∧ (a = .incident ∨ a = .expire) ∧ a.Enabled u ∧
        v = a.apply u) := by
  have hmoves := exec_moves o w s id
  rw [hv] at hmoves
  generalize s.db.view id = before at hmoves ⊢
  cases hmoves with
  | stay => exact ⟨v, rfl, hholds, .inl rfl⟩
  | create => exact absurd hholds.symm howner
  | act a u ha henabled =>
    obtain ⟨hu, hact⟩ := Act.foreign henabled (h.built.act_ne_bill ha) (h.actor ha) howner hholds
    exact ⟨u, rfl, hu, .inr ⟨a, ha, hact, henabled, rfl⟩⟩

end Foreign

theorem Outline.Valid.of_foreign {O : Outline}
    (check : ∀ {o w s}, (o.common = true ∧ o.Built) → O.allowed o w s → Base s → O.good s →
      O.check o w s ∧ O.good (exec o w s).2)
    (foreign : ∀ {k o w s f}, Foreign k o → k.1 ≠ "" → k.1 ∈ s.owners → O.allowed o w s → Base s →
      O.good s → O.means k f s → O.means k f (exec o w s).2)
    (fresh : ∀ {limit w s} id, Base s → O.good s → w.owner ∉ s.owners →
      O.means (w.owner, id) .claimable (exec (.runnableTasks limit) w s).2)
    (step : ∀ {owner taskID f o next w s}, WorkerStep owner taskID f o next → owner ≠ "" →
      owner ∈ s.owners → O.allowed o w s → Base s → O.good s → O.means (owner, taskID) f s →
      (O.check o w s ∧ O.good (exec o w s).2) ∧
        O.means (owner, taskID) (next (exec o w s).1) (exec o w s).2)
    (yields : ∀ {owner taskID f g s}, Yields f g → owner ≠ "" → Base s → O.good s →
      O.means (owner, taskID) f s → O.means (owner, taskID) g s) : O.Valid where
  common hcommon hbuilt hrun hbase hgood := by
    obtain ⟨hcheck, hgood'⟩ := check ⟨hcommon, hbuilt⟩ hrun hbase hgood
    refine ⟨hcheck, hgood', fun k f _ hne hmem hmeans => ?_⟩
    exact foreign (.common hcommon hbuilt) hne hmem hrun hbase hgood hmeans
  fresh := fresh
  step {owner taskID f o next w s} h howner hmem hrun hbase hgood hmeans := by
    obtain ⟨⟨hcheck, hgood'⟩, hnext⟩ := step h howner hmem hrun hbase hgood hmeans
    refine ⟨⟨hcheck, hgood', fun k f' hown hne hmem' hmeans' => ?_⟩, hnext⟩
    refine foreign (.step owner taskID f next h howner fun heq => ?_) hne hmem' hrun hbase hgood
      hmeans'
    exact hown (congrArg some heq)
  yields := yields

section Own

variable {w : World} {s : Shared} {taskID : String}

theorem exec_view {o : Op} {id : String} (hact : o.act id = none) (hsubmit : ∀ s, o ≠ .submit s)
    (w : World) (s : Shared) : (exec o w s).2.db.view id = s.db.view id :=
  (exec_moves o w s id).of_none hact hsubmit

theorem exec_update_true {st : Statement} (hact : st.act = some a)
    (h : (exec (.update taskID st) w s).1 = some true) :
    ∃ v, s.db.view taskID = some v ∧ a.Enabled v ∧
      (exec (.update taskID st) w s).2.db.view taskID = some (a.apply v) := by
  have haffected : ((st.update w.now).exec w.write s.db.tasks taskID).1 = some true := h
  obtain ⟨hnone, -⟩ | ⟨t, ht, hguard, hput⟩ :=
    (st.update w.now).exec_cases w.write s.db.tasks taskID
  · exact absurd haffected hnone
  obtain ⟨hnoact, -⟩ | ⟨b, hb, henabled, hview⟩ := Statement.view_row hguard
  · rw [hact] at hnoact
    cases hnoact
  obtain rfl : a = b := Option.some.inj (hact.symm.trans hb)
  refine ⟨t.view, view_of_find? ht, henabled, ?_⟩
  rw [exec_update_db, hput, ← hview]
  exact (view_put (u := (st.update w.now).row t) ht rfl rfl taskID).trans (if_pos rfl)

theorem settle_view {st : AsyncImageBillingSettler} {now actual : Int} {db db' : DB}
    (h : st.settle now db actual = .ok db') (hbuilt : st.Built) :
    ∃ v, db.view st.taskID = some v ∧ (st.leaseOwner = "" ∨ v.owner = st.leaseOwner) ∧
      (v.billing = .settled ∧ db' = db ∨
        v.billing = .reserved ∧ db'.view st.taskID = some (st.act.apply v)) := by
  have hsettled : ∀ {t new : AsyncImageTask}, db.tasks.find? st.taskID = some t →
      t.leasedTo st.leaseOwner → SettledAs db db' t new actual → new.taskID = t.taskID →
      new.view = st.act.apply t.view → ∃ v, db.view st.taskID = some v ∧
        (st.leaseOwner = "" ∨ v.owner = st.leaseOwner) ∧
        (v.billing = .settled ∧ db' = db ∨
          v.billing = .reserved ∧ db'.view st.taskID = some (st.act.apply v)) := by
    intro t new ht hleased hsettled hid hview
    refine ⟨t.view, view_of_find? ht, hleased, ?_⟩
    cases hsettled with
    | already hbilling hkeep => exact .inl ⟨hbilling, hkeep⟩
    | now hbilling _ hput =>
      refine .inr ⟨hbilling, ?_⟩
      rw [← hview]
      exact (view_put ht hid hput st.taskID).trans (if_pos rfl)
  cases hbuilt with
  | staged hmanifest hobjects =>
    have hcomplete : st.manifest ≠ "" ∧ 0 < st.objects.length := by
      refine ⟨fun hempty => ?_, List.length_pos_iff.mpr hobjects⟩
      rw [hempty] at hmanifest
      exact absurd hmanifest (by decide)
    rw [AsyncImageBillingSettler.settle, if_pos hcomplete] at h
    obtain ⟨t, ht, hleased, hsettle, -⟩ := complete_cases h
    refine hsettled ht hleased hsettle rfl ?_
    rw [AsyncImageBillingSettler.act, if_pos hcomplete]
    rfl
  | failed hmanifest hcode =>
    rw [AsyncImageBillingSettler.settle, if_neg (by simp [hmanifest]), if_pos hcode] at h
    obtain ⟨t, ht, hleased, hsettle, -⟩ := archiveFailure_cases h
    refine hsettled ht hleased hsettle rfl ?_
    rw [AsyncImageBillingSettler.act, if_neg (by simp [hmanifest]), if_pos hcode]
    rfl

theorem exec_settle_true {st : AsyncImageBillingSettler} (h : (exec (.settle st) w s).1 = true) :
    ∃ db, st.settle w.now s.db w.actualQuota = .ok db ∧
      (exec (.settle st) w s).2 = { s with db } := by
  have hcommitted : (s.commit w (st.settle w.now s.db w.actualQuota)).1 = true := h
  obtain hnone | ⟨db, -, htx, hcommit⟩ := commit_cases s w (st.settle w.now s.db w.actualQuota)
  · rw [hnone] at hcommitted
    cases hcommitted
  refine ⟨db, htx, ?_⟩
  show (s.commit w _).2 = _
  rw [hcommit]

theorem exec_getTask_some {t : AsyncImageTask} (h : (exec (.getTask taskID) w s).1 = some t) :
    s.db.tasks.find? taskID = some t := by
  simp only [exec, Option.join_eq_some_iff] at h
  exact World.read_eq_some h

end Own

inductive Records (o : Op) (w : World) (s s' : Shared) : Prop where
  | nothing (hclaims : s'.claims = s.claims) (hgenerations : s'.generations = s.generations)
      (hgenerating : s'.generating = s.generating)
  | claim (owner taskID : String) (now : Int) (h : o = .update taskID (.claim owner now))
      (hclaims : s'.claims = (owner, taskID) :: s.claims)
      (hgenerations : s'.generations = s.generations) (hgenerating : s'.generating = s.generating)
  | start (owner taskID : String) (h : o = .update taskID (.markRunning owner))
      (haffected : (exec (.update taskID (.markRunning owner)) w s).1 = some true)
      (hclaims : s'.claims = s.claims) (hgenerations : s'.generations = s.generations)
      (hgenerating : s'.generating = (owner, taskID) :: s.generating)
  | receive (owner taskID : String) (h : o = .executeImageAttempt owner taskID)
      (hphase : Phase.afterAttempt w.attempt = .received)
      (hclaims : s'.claims = s.claims)
      (hgenerations : s'.generations = (owner, taskID) :: s.generations)
      (hgenerating : s'.generating = s.generating)
  | finish (owner taskID : String) (h : o = .finish owner taskID)
      (hclaims : s'.claims = s.claims) (hgenerations : s'.generations = s.generations)
      (hgenerating : s'.generating = s.generating.filter fun g => g ≠ (owner, taskID))

theorem exec_records (o : Op) (w : World) (s : Shared) : Records o w s (exec o w s).2 := by
  cases o with
  | update taskID st =>
    by_cases haffected : (exec (.update taskID st) w s).1 = some true
    · have hrecord : (exec (.update taskID st) w s).2 =
          ({ s with db := { s.db with
            tasks := ((st.update w.now).exec w.write s.db.tasks taskID).2 } } : Shared).record
              taskID st := if_pos haffected
      rw [hrecord]
      cases st with
      | claim owner now => exact .claim owner taskID now rfl rfl rfl rfl
      | markRunning owner => exact .start owner taskID rfl haffected rfl rfl rfl
      | _ => exact .nothing rfl rfl rfl
    have hkeep : (exec (.update taskID st) w s).2 =
        { s with db := { s.db with
          tasks := ((st.update w.now).exec w.write s.db.tasks taskID).2 } } :=
      if_neg haffected
    rw [hkeep]
    exact .nothing rfl rfl rfl
  | executeImageAttempt owner taskID =>
    simp only [exec]
    split
    next images hattempt =>
      refine .receive owner taskID rfl ?_ rfl rfl rfl
      rw [hattempt]
      rfl
    · exact .nothing rfl rfl rfl
  | finish owner taskID => exact .finish owner taskID rfl rfl rfl rfl
  | submit | refund | settle =>
    simp only [exec, Shared.commit]
    split <;> exact .nothing rfl rfl rfl
  | putObject | deleteObject =>
    simp only [exec, Shared.execute]
    split <;> exact .nothing rfl rfl rfl
  | runnableTasks | stageImage | deleteStagedImage | headObject | rebind =>
    simp only [exec]
    split <;> exact .nothing rfl rfl rfl
  | _ => exact .nothing rfl rfl rfl

theorem mem_exec_claims {o : Op} {w : World} {s : Shared} (h : k ∈ (exec o w s).2.claims) :
    k ∈ s.claims ∨ ∃ now, o = .update k.2 (.claim k.1 now) := by
  cases exec_records o w s with
  | claim owner taskID now ho hclaims =>
    rw [hclaims] at h
    obtain rfl | hold := List.mem_cons.mp h
    · exact .inr ⟨now, ho⟩
    · exact .inl hold
  | nothing hclaims | start _ _ _ _ hclaims | receive _ _ _ _ hclaims | finish _ _ _ hclaims =>
    exact .inl (hclaims ▸ h)

theorem claims_exec (o : Op) (w : World) {s : Shared} (h : k ∈ s.claims) :
    k ∈ (exec o w s).2.claims := by
  cases exec_records o w s with
  | claim owner taskID now ho hclaims =>
    rw [hclaims]
    exact List.mem_cons_of_mem _ h
  | nothing hclaims | start _ _ _ _ hclaims | receive _ _ _ _ hclaims | finish _ _ _ hclaims =>
    exact hclaims ▸ h

end ZModel.AsyncImage
