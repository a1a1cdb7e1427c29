import ZModel.AsyncImage.Objects

/-!
# Invariants of the store

What holds of the store whatever programs run on it: status, output and billing of a task fit
together, object rows have locations of their own and belong to settled tasks.
-/

namespace ZModel.AsyncImage

open Lib Store

/-- The states of a task: before it is closed, settled, and refunded. -/
def View.Lawful (v : View) : Prop :=
  match v.billing with
  | .reserved => v.status.open = true ∧ v.output = .pending
  | .settled => v.status = .succeeded ∧ v.output ≠ .pending
  | .refunded => v.status = .failed ∧ v.output = .failed

instance (v : View) : Decidable v.Lawful := by
  unfold View.Lawful
  cases v.billing <;> exact inferInstance

namespace View

variable {v : View}

theorem Lawful.of_reserved (h : v.Lawful) (hbilling : v.billing = .reserved) :
    v.status.open = true ∧ v.output = .pending := by
  simpa only [Lawful, hbilling] using h

theorem Lawful.of_settled (h : v.Lawful) (hbilling : v.billing = .settled) :
    v.status = .succeeded ∧ v.output ≠ .pending := by
  simpa only [Lawful, hbilling] using h

theorem Lawful.settled_of_output (h : v.Lawful) (hpending : v.output ≠ .pending)
    (hfailed : v.output ≠ .failed) : v.billing = .settled := by
  unfold Lawful at h
  split at h
  · exact absurd h.2 hpending
  · assumption
  · exact absurd h.2 hfailed

theorem Lawful.apply (h : v.Lawful) {a : Act} (henabled : a.Enabled v) (hbill : a ≠ .bill) :
    (a.apply v).Lawful := by
  have hgenerated : v.generated → ∀ output owner, output ≠ .pending →
      ({ v with output, owner } : View).Lawful := by
    rintro ⟨hstatus, hbilling⟩ output owner houtput
    simpa only [hbilling] using ⟨hstatus, houtput⟩
  have howner : ∀ owner, ({ v with owner } : View).Lawful := fun _ => h
  cases a with
  | claim owner => exact howner owner
  | start owner =>
    obtain ⟨-, -, hbilling⟩ := henabled
    simpa only [Act.apply, hbilling] using ⟨rfl, (h.of_reserved hbilling).2⟩
  | postpone owner => exact howner ""
  | complete owner => exact ⟨rfl, by simp [Act.apply]⟩
  | completeUnarchived owner => exact ⟨rfl, by simp [Act.apply]⟩
  | bill => exact absurd rfl hbill
  | refund owner => exact ⟨rfl, rfl⟩
  | publish owner => exact hgenerated henabled.2 .available "" (by simp)
  | retryArchive owner => exact hgenerated henabled.2 .archiving "" (by simp)
  | failArchive owner => exact hgenerated henabled.2 .failed "" (by simp)
  | incident => exact hgenerated henabled .failed v.owner (by simp)
  | reset => exact hgenerated henabled.1 .archiving "" (by simp)
  | expire =>
    have henabled : v.output = .available := henabled
    have hbilling := h.settled_of_output (by simp [henabled]) (by simp [henabled])
    exact hgenerated ⟨(h.of_settled hbilling).1, hbilling⟩ .expired v.owner (by simp)

end View

theorem Act.billing_apply {a : Act} {v : View} (henabled : a.Enabled v)
    (hbilling : v.billing ≠ .reserved) : (a.apply v).billing = v.billing := by
  cases a with
  | complete owner => exact absurd henabled.2.2 hbilling
  | completeUnarchived owner => exact absurd henabled.2 hbilling
  | bill | refund owner => exact absurd henabled hbilling
  | _ => rfl

theorem Op.Built.act_ne_bill {o : Op} (h : o.Built) {taskID : String} {a : Act}
    (ha : o.act taskID = some a) : a ≠ .bill := by
  rintro rfl
  cases Op.acts_of_act ha with
  | update st _ hst => cases st <;> cases hst
  | settle s _ _ hbill =>
    obtain hact | hact := AsyncImageBillingSettler.Built.act_eq h
    · rw [hact] at hbill
      cases hbill
    · rw [hact] at hbill
      cases hbill

theorem Moves.closed {o : Op} {id : String} {before after : Option View} {v : View}
    (h : Moves o id before after) (hv : before = some v) (hbilling : v.billing ≠ .reserved) :
    ∃ v', after = some v' ∧ v'.billing = v.billing := by
  cases h with
  | stay => exact ⟨v, hv, rfl⟩
  | create => cases hv
  | act a u _ henabled =>
    cases hv
    exact ⟨_, rfl, Act.billing_apply henabled hbilling⟩

theorem settle_settled {st : AsyncImageBillingSettler} {now actual : Int} {db db' : DB}
    (h : st.settle now db actual = .ok db') :
    ∃ v, db'.view st.taskID = some v ∧ v.billing = .settled := by
  have hsettled : ∀ {t new : AsyncImageTask}, db.tasks.find? st.taskID = some t →
      SettledAs db db' t new actual → new.taskID = t.taskID → new.billingStatus = .settled →
      ∃ v, db'.view st.taskID = some v ∧ v.billing = .settled := by
    intro t new ht hsettled hid hnew
    cases hsettled with
    | already hbilling hkeep =>
      rw [hkeep]
      exact ⟨_, view_of_find? ht, hbilling⟩
    | now _ _ hput => exact ⟨_, (view_put ht hid hput st.taskID).trans (if_pos rfl), hnew⟩
  unfold AsyncImageBillingSettler.settle at h
  split at h
  · obtain ⟨t, ht, -, h, -⟩ := complete_cases h
    exact hsettled ht h rfl rfl
  split at h
  · obtain ⟨t, ht, -, h, -⟩ := archiveFailure_cases h
    exact hsettled ht h rfl rfl
  · obtain ⟨t, ht, h, -⟩ := settleBilling_cases h
    exact hsettled ht h rfl rfl

structure Base (s : Shared) : Prop where
  lawful : ∀ {id v}, s.db.view id = some v → v.Lawful
  placed : ∀ {id x}, s.db.objects.find? id = some x → x.Placed
  settled : ∀ {id x}, s.db.objects.find? id = some x →
    ∃ v, s.db.view x.resourceID = some v ∧ v.billing = .settled

section Step

variable {s : Shared} {o : Op}

theorem Base.exec_lawful (h : Base s) (hbuilt : o.Built) (w : World) {id : String} {v : View}
    (hv : (exec o w s).2.db.view id = some v) : v.Lawful := by
  generalize hbefore : s.db.view id = before, hafter : (exec o w s).2.db.view id = after at hv
  have hmoves : Moves o id before after := hbefore ▸ hafter ▸ exec_moves o w s id
  cases hmoves with
  | stay => exact h.lawful (hbefore.trans hv)
  | create =>
    cases hv
    exact ⟨rfl, rfl⟩
  | act a u hact henabled =>
    cases hv
    exact (h.lawful hbefore).apply henabled (hbuilt.act_ne_bill hact)

theorem Base.exec_placed (h : Base s) (hbuilt : o.Built) (w : World) {id : ObjectID}
    {x : StorageObject} (hx : (exec o w s).2.db.objects.find? id = some x) : x.Placed := by
  have hmoves := exec_objectMoves o w s id
  generalize hbefore : s.db.objects.find? id = before,
    hafter : (exec o w s).2.db.objects.find? id = after at hx hmoves
  cases hmoves with
  | stay => exact h.placed (hbefore.trans hx)
  | create st x ho _ _ hplaced =>
    cases hx
    subst ho
    exact hplaced hbuilt
  | update st y =>
    have hy : y.Placed := h.placed hbefore
    cases hx
    exact hy
  | rebind settings taskIDs y =>
    have hy : y.Placed := h.placed hbefore
    cases hx
    exact hy

theorem Base.exec_settled (h : Base s) (w : World) {id : ObjectID} {x : StorageObject}
    (hx : (exec o w s).2.db.objects.find? id = some x) :
    ∃ v, (exec o w s).2.db.view x.resourceID = some v ∧ v.billing = .settled := by
  -- A row that was there belongs to a task that was settled and stays so.
  have hold : ∀ {y : StorageObject}, s.db.objects.find? id = some y → y.resourceID = x.resourceID →
      ∃ v, (exec o w s).2.db.view x.resourceID = some v ∧ v.billing = .settled := by
    intro y hy hresource
    obtain ⟨v, hv, hbilling⟩ := h.settled hy
    obtain ⟨v', hv', hsame⟩ := (exec_moves o w s y.resourceID).closed hv (by simp [hbilling])
    exact ⟨v', hresource ▸ hv', hsame.trans hbilling⟩
  have hmoves := exec_objectMoves o w s id
  generalize hbefore : s.db.objects.find? id = before,
    hafter : (exec o w s).2.db.objects.find? id = after at hx hmoves
  cases hmoves with
  | stay => exact hold (hbefore.trans hx) rfl
  | create st y ho _ hresource _ =>
    cases hx
    subst ho
    simp only [exec] at hafter ⊢
    obtain hnone | ⟨db, -, htx, hcommit⟩ := commit_cases s w (st.settle w.now s.db w.actualQuota)
    · rw [hnone, hbefore] at hafter
      cases hafter
    · rw [hcommit, hresource]
      exact settle_settled htx
  | update st y =>
    cases hx
    exact hold hbefore rfl
  | rebind settings taskIDs y =>
    cases hx
    exact hold hbefore rfl

theorem Base.exec (h : Base s) (hbuilt : o.Built) (w : World) : Base (exec o w s).2 :=
  ⟨h.exec_lawful hbuilt w, h.exec_placed hbuilt w, h.exec_settled w⟩

end Step

def Shared.start (accounts : Accounts) : Shared := { db := ⟨accounts, .empty, .empty⟩ }

theorem Base.start (accounts : Accounts) : Base (.start accounts) :=
  ⟨fun h => (by cases h), fun h => (by cases h), fun h => (by cases h)⟩

end ZModel.AsyncImage
