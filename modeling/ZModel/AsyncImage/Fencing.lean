import ZModel.AsyncImage.Output

/-!
# Fencing of the workers

The statements of a worker name its lease owner, so a worker that lost its lease affects no row. The
refund is the exception: `RefundAsyncImageBilling` does not look at the lease.
-/

namespace ZModel.AsyncImage

open Lib Store

variable {k : Lease} {o : Op} {f : Phase} {s : Shared} {taskID : String} {w : World}

def Statement.owner : Statement → Option String
  | .renew owner | .withLease owner | .markRunning owner | .generationRetry owner _ _
  | .outputAvailable owner _ | .archiveRetry owner _ _ _ | .failArchive owner _ _ _ => some owner
  | _ => none

def Op.worker : Op → Option Lease
  | .update taskID st => st.owner.map fun owner => (owner, taskID)
  | .refund owner taskID _ _ _ => some (owner, taskID)
  | .settle s => some (s.leaseOwner, s.taskID)
  | _ => none

def Shared.holder (s : Shared) (taskID : String) : Option String :=
  (s.db.tasks.find? taskID).map fun t => t.lifecycle.leaseOwner

def Silent (o : Op) (w : World) (s : Shared) : Prop :=
  (exec o w s).2.db.tasks = s.db.tasks ∧ (exec o w s).2.db.accounts = s.db.accounts

def Fenced (o : Op) (w : World) (s : Shared) : Prop :=
  ∀ owner taskID, o.worker = some (owner, taskID) → ¬Silent o w s → s.holder taskID = some owner

/-- A refund of a reserved task is performed by the holder of the lease. -/
def RefundAllowed : Op → Shared → Prop
  | .refund owner taskID _ _ _, s => ∀ t ∈ s.db.tasks.find? taskID,
      t.billingStatus = .reserved → t.lifecycle.leaseOwner = owner
  | _, _ => True

instance : ∀ o s, Decidable (RefundAllowed o s)
  | o, s => by
    unfold RefundAllowed
    split <;> exact inferInstance

section Fence

variable {s : Shared} {w : World}

theorem holder_of_find? {t : AsyncImageTask} (ht : s.db.tasks.find? taskID = some t) :
    s.holder taskID = some t.lifecycle.leaseOwner := by
  rw [Shared.holder, ht, Option.map_some]

theorem Statement.guard_owner {now : Int} {st : Statement} {t : AsyncImageTask} {owner : String}
    (hst : st.owner = some owner) (h : (st.update now).guard t = true) :
    t.lifecycle.leaseOwner = owner := by
  cases st with
  | renew | markRunning | generationRetry | outputAvailable | archiveRetry | failArchive =>
    cases hst
    simp only [Statement.update, renewAsyncImageTaskLease, markAsyncImageTaskRunning,
      scheduleAsyncImageGenerationRetry, markAsyncImageOutputAvailable,
      scheduleAsyncImageArchiveRetry, failAsyncImageArchive, Bool.and_eq_true,
      decide_eq_true_eq] at h
    tauto
  | withLease other =>
    cases hst
    exact of_decide_eq_true h
  | _ => cases hst

theorem fenced_update (taskID : String) (st : Statement) : Fenced (.update taskID st) w s := by
  intro owner id hworker hwrites
  obtain ⟨other, hst, hpair⟩ := Option.map_eq_some_iff.mp hworker
  cases hpair
  obtain ⟨-, hkeep⟩ | ⟨t, ht, hguard, -⟩ := (st.update w.now).exec_cases w.write s.db.tasks taskID
  · refine absurd ?_ hwrites
    rw [Silent, exec_update_db]
    exact ⟨hkeep, rfl⟩
  · rw [holder_of_find? ht, Statement.guard_owner hst hguard]

theorem fenced_refund {owner code message reason : String}
    (h : RefundAllowed (.refund owner taskID code message reason) s) :
    Fenced (.refund owner taskID code message reason) w s := by
  intro owner' id hworker hwrites
  cases hworker
  have hsilent : ∀ db : DB, db = s.db →
      (s.commit w (refundAsyncImageBilling w.now s.db taskID code message reason)).2 =
        { s with db } → False := by
    intro db hdb hexec
    refine hwrites ?_
    show (s.commit w _).2.db.tasks = _ ∧ (s.commit w _).2.db.accounts = _
    rw [hexec, hdb]
    exact ⟨rfl, rfl⟩
  obtain hnone | ⟨db, -, htx, hcommit⟩ :=
    commit_cases s w (refundAsyncImageBilling w.now s.db taskID code message reason)
  · exact (hsilent s.db rfl (by rw [hnone])).elim
  obtain ⟨t, ht, -, ⟨-, hkeep⟩ | ⟨hreserved, -⟩⟩ := refund_cases htx
  · exact (hsilent db hkeep (by rw [hcommit])).elim
  · rw [holder_of_find? ht, h t ht hreserved]

theorem fenced_settle {st : AsyncImageBillingSettler} (hbuilt : st.Built)
    (howner : st.leaseOwner ≠ "") : Fenced (.settle st) w s := by
  intro owner id hworker hwrites
  cases hworker
  obtain hnone | ⟨db, -, htx, hcommit⟩ := commit_cases s w (st.settle w.now s.db w.actualQuota)
  · refine absurd ?_ hwrites
    show (s.commit w _).2.db.tasks = _ ∧ (s.commit w _).2.db.accounts = _
    rw [hnone]
    exact ⟨rfl, rfl⟩
  obtain ⟨v, hv, hleased, -⟩ := settle_view htx hbuilt
  obtain ⟨t, ht, rfl⟩ := Option.map_eq_some_iff.mp hv
  rw [holder_of_find? ht]
  exact congrArg some (hleased.resolve_left howner)

theorem fenced_common (h : o.common = true) : Fenced o w s := by
  cases o with
  | update taskID st => exact fenced_update taskID st
  | refund | settle => cases h
  | _ =>
    intro owner taskID hworker
    cases hworker

theorem WorkerStep.fenced {owner : String} {next : o.Ret → Phase}
    (h : WorkerStep owner taskID f o next) (howner : owner ≠ "") (hallowed : RefundAllowed o s) :
    Fenced o w s := by
  cases h with
  | claim | postpone | start | choose | endArchive => exact fenced_update _ _
  | refund => exact fenced_refund hallowed
  | settle st hbuilt _ hlease => exact fenced_settle hbuilt (hlease ▸ howner)
  | readBack | attempt | readAgain | list | head | markUploading | put | markFailed | markAvailable
  | finish =>
    intro owner taskID hworker
    cases hworker

end Fence

def ClaimsOnce (o : Op) (s : Shared) : Prop :=
  ∀ owner taskID now, o = .update taskID (.claim owner now) → (owner, taskID) ∉ s.claims

namespace Outline

def fence : Outline where
  good s := ∀ k ∈ s.claims, k.1 ≠ "" ∧ k.1 ∈ s.owners
  means k f s := match f with
    | .claimable => k ∉ s.claims
    | _ => True
  allowed o _ s := RefundAllowed o s
  crashes := True
  check o w s := Fenced o w s ∧ ClaimsOnce o s

theorem fence_good (h : Outline.fence.good s)
    (hclaim : ∀ (k : Lease) now, o = .update k.2 (.claim k.1 now) → k.1 ≠ "" ∧ k.1 ∈ s.owners) :
    Outline.fence.good (exec o w s).2 := by
  intro k hk
  obtain hold | ⟨now, ho⟩ := mem_exec_claims hk
  · exact ⟨(h k hold).1, exec_owners o w (h k hold).2⟩
  · exact ⟨(hclaim k now ho).1, exec_owners o w (hclaim k now ho).2⟩

theorem fence_means (h : f ≠ .claimable) : Outline.fence.means k f s := by
  cases f with
  | claimable => exact absurd rfl h
  | _ => trivial

theorem fence_foreign (h : Foreign k o) (hmeans : Outline.fence.means k f s) :
    Outline.fence.means k f (exec o w s).2 := by
  cases f with
  | claimable =>
    intro hk
    obtain hold | ⟨now, rfl⟩ := mem_exec_claims hk
    · exact hmeans hold
    cases h with
    | common hcommon => cases hcommon
    | step owner taskID f next hstep _ hother =>
      cases hstep with
      | claim => exact hother rfl
      | endArchive f hf st hst => cases hst
  | _ => trivial

theorem fence_valid : Outline.fence.Valid := by
  refine .of_foreign ?_ ?_ ?_ ?_ ?_
  · rintro o w s ⟨hcommon, -⟩ - - hgood
    refine ⟨⟨fenced_common hcommon, ?_⟩, fence_good hgood ?_⟩
    · rintro owner taskID now rfl
      cases hcommon
    · rintro k now rfl
      cases hcommon
  · intro k o w s f h _ _ _ _ _ hmeans
    exact fence_foreign h hmeans
  · intro limit w s id _ hgood hfresh hmem
    obtain hold | ⟨now, ho⟩ := mem_exec_claims hmem
    · exact hfresh (hgood _ hold).2
    · cases ho
  · intro owner taskID f o next w s h howner hmem hallowed _ hgood hmeans
    refine ⟨⟨⟨h.fenced howner hallowed, ?_⟩, fence_good hgood ?_⟩, ?_⟩
    · rintro owner' id now rfl
      cases h with
      | claim => exact hmeans
      | endArchive f hf st hst => cases hst
    · rintro k now rfl
      cases h with
      | claim => exact ⟨howner, hmem⟩
      | endArchive f hf st hst => cases hst
    · exact fence_means (h.next_ne_claimable _)
  · intro owner taskID f g s h _ _ _ _
    cases h <;> trivial

end Outline

def TakenOver (k : Lease) (s : Shared) : Prop :=
  k.1 ≠ "" ∧ k ∈ s.claims ∧ s.holder k.2 ≠ some k.1

theorem Op.eq_of_claim {id owner : String} (h : o.act id = some (.claim owner)) :
    ∃ now, o = .update id (.claim owner now) := by
  cases Op.acts_of_act h with
  | update st _ hst =>
    cases st with
    | claim _ now =>
      cases hst
      exact ⟨now, rfl⟩
    | _ => cases hst
  | settle s _ _ hact =>
    obtain hs | hs | hs := s.act_cases
    · cases hs.symm.trans hact
    · cases hs.symm.trans hact
    · cases hs.symm.trans hact

theorem TakenOver.exec (h : TakenOver k s) (honce : ClaimsOnce o s) :
    TakenOver k (exec o w s).2 := by
  obtain ⟨howner, hclaimed, hholder⟩ := h
  refine ⟨howner, claims_exec o w hclaimed, fun hafter => ?_⟩
  obtain ⟨t', ht', howner'⟩ := Option.map_eq_some_iff.mp hafter
  have hmoves := exec_moves o w s k.2
  rw [view_of_find? ht'] at hmoves
  have hnew : ∀ v : View, t'.view = v → v.owner = k.1 := fun v hv => hv ▸ howner'
  -- The owner did not hold the task before, so the operation must be its claim.
  have hold : ∀ v, s.db.view k.2 = some v → v.owner ≠ k.1 := by
    intro v hv heq
    obtain ⟨t, ht, rfl⟩ := Option.map_eq_some_iff.mp hv
    exact hholder ((holder_of_find? ht).trans (congrArg some heq))
  generalize hbefore : s.db.view k.2 = before at hmoves
  generalize hview : t'.view = v' at hmoves
  cases hmoves with
  | stay => exact hold _ hbefore (hnew _ hview)
  | create => exact howner (hnew _ hview).symm
  | act a v ha _ =>
    obtain ⟨owner, rfl⟩ | hempty | hsame := a.owner_apply v
    · obtain ⟨now, ho⟩ := Op.eq_of_claim ha
      refine honce owner k.2 now ho ?_
      rw [show owner = k.1 from hnew _ hview]
      exact hclaimed
    · exact howner ((hnew _ hview).symm.trans hempty)
    · exact hold v hbefore (hsame.symm.trans (hnew _ hview))

theorem TakenOver.along {sys : System Op Op.Ret Job Shared} {moves : List (Move Job World)}
    (hrun : Along (System.step machine program) (Performed Outline.fence.check) sys moves)
    (h : TakenOver k sys.state) :
    Along (System.step machine program)
      (Performed fun o w s => o.worker = some k → Silent o w s) sys moves := by
  induction moves generalizing sys with
  | nil => trivial
  | cons move moves ih =>
    obtain ⟨hcheck, hrest⟩ := hrun
    refine ⟨hcheck.imp fun o w hfence hworker => ?_, ih hrest ?_⟩
    · exact Classical.byContradiction fun hwrites =>
        h.2.2 (hfence.1 k.1 k.2 hworker hwrites)
    · exact hcheck.rel (R := fun _ s' => TakenOver k s') h fun o w hfence => h.exec hfence.2

/-- If workers refund reserved tasks only while they hold the lease, all their writes to tasks and
accounts are made while they hold it. -/
theorem workers_fenced (accounts : Accounts) (moves : List (Move Job World))
    (hrun : Along (System.step machine program)
      (imageConditions (fun o _ s => RefundAllowed o s) True).Meets ⟨.start accounts, []⟩ moves) :
    Along (System.step machine program) (Performed Fenced) ⟨.start accounts, []⟩ moves ∧
    ∀ before after, moves = before ++ after →
      let sys := run (System.step machine program) ⟨.start accounts, []⟩ before
      ∀ owner taskID, (owner, taskID) ∈ sys.state.claims → sys.state.holder taskID ≠ some owner →
        Along (System.step machine program)
          (Performed fun o w s => o.worker = some (owner, taskID) → Silent o w s) sys after := by
  have hgood : Outline.fence.good (.start accounts) := fun k hk => by cases hk
  have hperformed := Outline.fence_valid.performed (Base.start accounts) hgood hrun
  refine ⟨hperformed.imp₂ _ (fun sys move h _ => h.imp fun o w hfence => hfence.1) hperformed, ?_⟩
  intro before after hmoves sys owner taskID hclaimed hholder
  subst hmoves
  obtain ⟨⟨-, hclaims⟩, -⟩ := Outline.fence_valid.along (Base.start accounts) hgood
    ((along_append _).mp hrun).1
  have hafter := ((along_append _).mp hperformed).2
  exact TakenOver.along hafter ⟨(hclaims _ hclaimed).1, hclaimed, hholder⟩

def sampleTakeover : List (Move Job World) :=
  [.start 0 (.submit (sampleSubmission "wallet_only"))] ++ steps 0 1 (sampleWorld "") ++
    [.start 0 .process] ++ steps 1 8 (sampleWorld "1") ++ steps 2 3 (sampleWorld "1") ++
    [.start 1 .process] ++ steps 3 8 { sampleWorld "2" with now := 400 }

def sampleLost : List (Move Job World) :=
  steps 4 30 { sampleWorld "2" with now := 400 } ++ steps 2 10 { sampleWorld "1" with now := 401 }

theorem workers_fenced_sample :
    let sys := run (System.step machine program) ⟨.start sampleAccounts, []⟩ sampleTakeover
    ("node:1", "task_a") ∈ sys.state.claims ∧ sys.state.holder "task_a" = some "node:2" ∧
      Along (.step machine program)
        (Performed fun o w s => o.worker = some ("node:1", "task_a") → Silent o w s) sys
        sampleLost := by
  intro sys
  have hclaimed : ("node:1", "task_a") ∈ sys.state.claims := by decide +kernel
  have hholder : sys.state.holder "task_a" = some "node:2" := by decide +kernel
  refine ⟨hclaimed, hholder, ?_⟩
  refine (workers_fenced sampleAccounts (sampleTakeover ++ sampleLost) ?_).2 _ _ rfl _ _ hclaimed ?_
  · decide +kernel
  · rw [hholder]
    decide

def nextOp (sys : System Op Op.Ret Job Shared) (i : Nat) : Option Op :=
  match sys.threads[i]? with
  | some ⟨_, .perform o _⟩ => some o
  | _ => none

def sampleLateRefund : List (Move Job World) :=
  steps 4 3 { sampleWorld "2" with now := 400 } ++
    steps 2 1 { sampleWorld "1" with now := 401, channelError := some ⟨"no_channel", "none"⟩ }

/-- The worker of the run 1 refunds the task while the run 2 holds the lease. -/
theorem refund_not_fenced :
    let sys := run (System.step machine program) ⟨.start sampleAccounts, []⟩
      (sampleTakeover ++ sampleLateRefund)
    let after := sys.step machine program (.run 2 { sampleWorld "1" with now := 401 })
    (nextOp sys 2).bind Op.worker = some ("node:1", "task_a") ∧
      ("node:1", "task_a") ∈ sys.state.claims ∧ sys.state.holder "task_a" = some "node:2" ∧
      billingStatusOf sys.state.db "task_a" = some .reserved ∧
      (sys.state.db.accounts.users.find? 1).map User.quota = some 70 ∧
      billingStatusOf after.state.db "task_a" = some .refunded ∧
      outputOf after.state "task_a" = some .failed ∧
      (after.state.db.accounts.users.find? 1).map User.quota = some 100 := by
  decide +kernel

end ZModel.AsyncImage
