import ZModel.AsyncImage.Leases

/-!
# The states of a task and the changes of its output

The output follows its diagram as long as incidents are recorded for failed archives only, which the
administrator's retry does not check.
-/

namespace ZModel.AsyncImage

open Lib Store

variable {k : Lease} {o : Op} {f : Phase} {s : Shared} {w : World}

def Outside : Move Job World → Prop
  | .start _ j => j.outside = true
  | _ => True

instance : DecidablePred Outside
  | .start _ j => inferInstanceAs (Decidable (j.outside = true))
  | .run _ _ => isTrue trivial
  | .crash _ => isTrue trivial

def Outline.plain : Outline := ⟨fun _ => True, fun _ _ _ => True, fun _ _ _ => True, True,
  fun _ _ _ => True⟩

theorem Outline.plain_valid : Outline.plain.Valid :=
  .of_foreign (fun _ _ _ _ => ⟨trivial, trivial⟩) (fun _ _ _ _ _ _ _ => trivial)
    (fun _ _ _ _ => trivial) (fun _ _ _ _ _ _ _ => ⟨⟨trivial, trivial⟩, trivial⟩)
    fun _ _ _ _ _ => trivial

theorem meets_plain {sys : System Op Op.Ret Job Shared} {move : Move Job World}
    (h : Outside move) : Outline.plain.conditions.Meets sys move := by
  cases move with
  | start node j => exact h
  | run i w =>
    dsimp only [Conditions.Meets]
    split <;> trivial
  | crash node => exact trivial

theorem View.lawful_iff (v : View) : v.Lawful ↔
    ((v.status = .queued ∨ v.status = .running) ∧ v.output = .pending ∧ v.billing = .reserved) ∨
    (v.status = .succeeded ∧ (v.output = .archiving ∨ v.output = .available ∨
      v.output = .expired ∨ v.output = .failed) ∧ v.billing = .settled) ∨
    (v.status = .failed ∧ v.output = .failed ∧ v.billing = .refunded) := by
  obtain ⟨status, output, billing, owner⟩ := v
  cases billing <;> cases status <;> cases output <;>
    simp [View.Lawful, Status.open]

/-- In every reachable state every task is queued or running, pending and reserved, or succeeded and
settled, or failed and refunded. -/
theorem task_states (accounts : Accounts) (moves : List (Move Job World))
    (houtside : ∀ move ∈ moves, Outside move) :
    ∀ t ∈ (run (System.step machine program) ⟨.start accounts, []⟩ moves).state.db.tasks.rows,
      ((t.lifecycle.status = .queued ∨ t.lifecycle.status = .running) ∧
        t.lifecycle.outputAvailability = .pending ∧ t.billingStatus = .reserved) ∨
      (t.lifecycle.status = .succeeded ∧ (t.lifecycle.outputAvailability = .archiving ∨
        t.lifecycle.outputAvailability = .available ∨ t.lifecycle.outputAvailability = .expired ∨
        t.lifecycle.outputAvailability = .failed) ∧ t.billingStatus = .settled) ∨
      (t.lifecycle.status = .failed ∧ t.lifecycle.outputAvailability = .failed ∧
        t.billingStatus = .refunded) := by
  intro t ht
  have hrun : Along (System.step machine program) Outline.plain.conditions.Meets
      ⟨.start accounts, []⟩ moves :=
    Along.of_mem _ (fun sys move hmove => meets_plain (houtside move hmove)) _
  obtain ⟨⟨hbase, -⟩, -⟩ := Outline.plain_valid.along (Base.start accounts) trivial hrun
  have hview := view_of_find? (Table.find?_eq_some_iff.mpr ⟨ht, rfl⟩)
  exact (View.lawful_iff t.view).mp (hbase.lawful hview)

def steps (i n : Nat) (w : World) : List (Move Job World) := List.replicate n (.run i w)

def sampleItem : ManifestItem :=
  ⟨0, "base64", ⟨1, "2026/07/28", "task_a", 0⟩, 1, "image/png", "png", "sum"⟩

def sampleWorld (systemTaskID : String) : World :=
  { now := 10, systemTaskID, today := "2026/07/28", storageNow := 10
    settings := { endpoint := "endpoint", region := "region", bucket := "bucket"
                  businessID := "img" }
    stage := .staged "base64" 1 "image/png" "png" "sum", actualQuota := 30
    decodeManifest := fun _ => some [sampleItem] }

def sampleFailedArchive : List (Move Job World) :=
  [.start 0 (.submit { sampleSubmission "wallet_only" with settings := ⟨86400, 1, 3600⟩ })] ++
    steps 0 1 (sampleWorld "") ++ [.start 0 .process] ++ steps 1 8 (sampleWorld "1") ++
    steps 2 30 { sampleWorld "1" with remote := .fails }

theorem task_states_sample : (run (System.step machine program) ⟨.start sampleAccounts, []⟩
      sampleFailedArchive).state.db.tasks.rows.length = 1 ∧
    ∀ t ∈ (run (System.step machine program) ⟨.start sampleAccounts, []⟩
      sampleFailedArchive).state.db.tasks.rows, t.view.Lawful := by
  refine ⟨by decide +kernel, fun t ht => (View.lawful_iff t.view).mpr ?_⟩
  exact task_states sampleAccounts sampleFailedArchive (by decide) t ht

inductive OutputChange : OutputAvailability → OutputAvailability → Prop where
  | archive : OutputChange .pending .archiving
  | giveUp : OutputChange .pending .failed
  | publish : OutputChange .archiving .available
  | fail : OutputChange .archiving .failed
  | expire : OutputChange .available .expired
  | retry : OutputChange .failed .archiving

def OutputsFollow (s s' : Shared) : Prop :=
  ∀ taskID t t', s.db.tasks.find? taskID = some t → s'.db.tasks.find? taskID = some t' →
    t.lifecycle.outputAvailability ≠ t'.lifecycle.outputAvailability →
    OutputChange t.lifecycle.outputAvailability t'.lifecycle.outputAvailability

def Op.incident : Op → Option String
  | .update taskID (.incident _) => some taskID
  | _ => none

def IncidentAllowed (o : Op) (s : Shared) : Prop :=
  ∀ taskID ∈ o.incident, ∀ t ∈ s.db.tasks.find? taskID, t.generated = true →
    t.lifecycle.outputAvailability = .failed

instance (o : Op) (s : Shared) : Decidable (IncidentAllowed o s) :=
  inferInstanceAs (Decidable (∀ taskID ∈ o.incident, _))

def Phase.generates : Phase → Bool
  | .running | .received => true
  | _ => false

def Phase.publishes : Phase → Bool
  | .ready t => t.lifecycle.status = .succeeded && t.lifecycle.outputAvailability = .archiving
  | .settled => true
  | f => f.archives

def Outline.output : Outline where
  good _ := True
  means k f s := ∀ v, s.db.view k.2 = some v → v.owner = k.1 →
    (f.generates = true → v.billing = .reserved) ∧ (f.publishes = true → v.output = .archiving)
  allowed o _ s := IncidentAllowed o s
  crashes := True
  check o w s := OutputsFollow s (exec o w s).2

def Act.Timely (v : View) : Act → Prop
  | .publish _ | .retryArchive _ | .failArchive _ => v.output = .archiving
  | .incident => v.output = .failed
  | _ => True

theorem Act.outputChange {a : Act} {v : View} (hlawful : v.Lawful) (henabled : a.Enabled v)
    (hbill : a ≠ .bill) (htimely : a.Timely v) (hne : v.output ≠ (a.apply v).output) :
    OutputChange v.output (a.apply v).output := by
  cases a with
  | claim | start | postpone => exact absurd rfl hne
  | complete owner =>
    rw [(hlawful.of_reserved henabled.2.2).2]
    exact .archive
  | completeUnarchived owner =>
    rw [(hlawful.of_reserved henabled.2).2]
    exact .giveUp
  | bill => exact absurd rfl hbill
  | refund owner =>
    rw [(hlawful.of_reserved henabled).2]
    exact .giveUp
  | publish owner =>
    rw [show v.output = .archiving from htimely]
    exact .publish
  | retryArchive owner => exact absurd htimely hne
  | failArchive owner =>
    rw [show v.output = .archiving from htimely]
    exact .fail
  | incident => exact absurd htimely hne
  | reset =>
    rw [henabled.2]
    exact .retry
  | expire =>
    rw [show v.output = .available from henabled]
    exact .expire

theorem outputsFollow_exec (hbase : Base s) (hbuilt : o.Built)
    (htimely : ∀ {id a v}, o.act id = some a → s.db.view id = some v → a.Enabled v → a.Timely v) :
    OutputsFollow s (exec o w s).2 := by
  intro id t t' ht ht' hne
  have hmoves := exec_moves o w s id
  rw [view_of_find? ht, view_of_find? ht'] at hmoves
  obtain hsame | ⟨a, ha, henabled, happly⟩ := hmoves.of_some
  · exact absurd (congrArg View.output hsame).symm hne
  have hchange := Act.outputChange (hbase.lawful (view_of_find? ht)) henabled
    (hbuilt.act_ne_bill ha) (htimely ha (view_of_find? ht) henabled)
  rw [← happly] at hchange
  exact hchange hne

theorem Op.eq_of_incident {id : String} (h : o.act id = some .incident) :
    ∃ message, o = .update id (.incident message) := by
  cases Op.acts_of_act h with
  | update st _ hst =>
    cases st with
    | incident message => exact ⟨message, rfl⟩
    | _ => cases hst
  | settle s _ _ hact =>
    obtain hs | hs | hs := s.act_cases
    · cases hs.symm.trans hact
    · cases hs.symm.trans hact
    · cases hs.symm.trans hact

theorem IncidentAllowed.output {id : String} {v : View} (h : IncidentAllowed o s)
    (hact : o.act id = some .incident) (hv : s.db.view id = some v) (henabled : v.generated) :
    v.output = .failed := by
  obtain ⟨message, rfl⟩ := Op.eq_of_incident hact
  obtain ⟨t, ht, rfl⟩ := Option.map_eq_some_iff.mp hv
  refine h id rfl t ht ?_
  rw [AsyncImageTask.generated, Bool.and_eq_true, decide_eq_true_eq, decide_eq_true_eq]
  exact henabled

namespace Outline

theorem output_means_idle (hg : f.generates = false) (hp : f.publishes = false) :
    Outline.output.means k f s := by
  intro v _ _
  rw [hg, hp]
  exact ⟨nofun, nofun⟩

theorem output_means_keep {g : Phase} {s' : Shared} (h : Outline.output.means k f s)
    (hview : s'.db.view k.2 = s.db.view k.2) (hg : g.generates = true → f.generates = true)
    (hp : g.publishes = true → f.publishes = true) : Outline.output.means k g s' := by
  intro v hv howner
  rw [hview] at hv
  obtain ⟨hreserved, harchiving⟩ := h v hv howner
  exact ⟨fun h => hreserved (hg h), fun h => harchiving (hp h)⟩

theorem output_foreign (h : Foreign k o) (howner : k.1 ≠ "") (hallowed : IncidentAllowed o s)
    (hbase : Base s) (hmeans : Outline.output.means k f s) :
    Outline.output.means k f (exec o w s).2 := by
  intro v hv hholds
  obtain ⟨u, hu, huowner, rfl | ⟨a, ha, rfl | rfl, henabled, -⟩⟩ := h.view howner hv hholds
  · exact hmeans _ hu huowner
  · -- The task was generated, and its output is failed.
    obtain ⟨hreserved, harchiving⟩ := hmeans u hu huowner
    have hfailed := hallowed.output ha hu henabled
    refine ⟨fun hg => ?_, fun hp => ?_⟩
    · rw [henabled.2] at hreserved
      cases hreserved hg
    · rw [hfailed] at harchiving
      cases harchiving hp
  -- The output was available, so the task was settled.
  obtain ⟨hreserved, harchiving⟩ := hmeans u hu huowner
  have havailable : u.output = .available := henabled
  refine ⟨fun hg => ?_, fun hp => ?_⟩
  · have hpending := ((hbase.lawful hu).of_reserved (hreserved hg)).2
    rw [havailable] at hpending
    cases hpending
  · rw [havailable] at harchiving
    cases harchiving hp

theorem output_settle {owner taskID : String} {st : AsyncImageBillingSettler} (hbuilt : st.Built)
    (htask : st.taskID = taskID) (hlease : st.leaseOwner = owner) (howner : owner ≠ "")
    (hmeans : Outline.output.means (owner, taskID) .received s)
    (hsettled : (exec (.settle st) w s).1 = true) :
    Outline.output.means (owner, taskID) .settled (exec (.settle st) w s).2 := by
  subst htask hlease
  obtain ⟨db, htx, hexec⟩ := exec_settle_true hsettled
  obtain ⟨u, hu, hleased, hcases⟩ := settle_view htx hbuilt
  have huowner : u.owner = st.leaseOwner := hleased.resolve_left howner
  have hreserved := (hmeans u hu huowner).1 rfl
  intro v hv hholds
  rw [hexec] at hv
  refine ⟨nofun, fun _ => ?_⟩
  obtain ⟨hbilling, -⟩ | ⟨-, hafter⟩ := hcases
  · rw [hreserved] at hbilling
    cases hbilling
  obtain rfl : st.act.apply u = v := Option.some.inj (hafter.symm.trans hv)
  obtain hact | hact := hbuilt.act_eq
  · rw [hact]
    rfl
  · rw [hact] at hholds
    exact absurd hholds.symm howner

theorem output_next {owner taskID : String} {next : o.Ret → Phase}
    (h : WorkerStep owner taskID f o next) (howner : owner ≠ "")
    (hmeans : Outline.output.means (owner, taskID) f s) :
    Outline.output.means (owner, taskID) (next (exec o w s).1) (exec o w s).2 := by
  -- Most steps leave the view, and the next phase asks for what this one has.
  have hkeep : ∀ {g : Phase}, o.act taskID = none → (∀ s, o ≠ .submit s) →
      (g.generates = true → f.generates = true) → (g.publishes = true → f.publishes = true) →
      Outline.output.means (owner, taskID) g (exec o w s).2 :=
    fun hact hsubmit => output_means_keep hmeans (exec_view hact hsubmit w s)
  cases h with
  | claim now =>
    beta_reduce
    split
    · exact output_means_idle rfl rfl
    · exact output_means_idle rfl rfl
  | readBack =>
    cases hrow : (exec (.getTask taskID) w s).1 with
    | none => exact output_means_idle rfl rfl
    | some t =>
      intro v hv _
      have hstored := view_of_find? (exec_getTask_some hrow)
      obtain rfl : t.view = v := Option.some.inj (hstored.symm.trans hv)
      refine ⟨nofun, fun hp => ?_⟩
      simp only [Phase.publishes, Option.elim, Bool.and_eq_true, decide_eq_true_eq] at hp
      exact hp.2
  | postpone => exact output_means_idle rfl rfl
  | start t =>
    beta_reduce
    split
    next haffected =>
      obtain ⟨u, -, henabled, hafter⟩ := exec_update_true rfl haffected
      intro v hv _
      obtain rfl : _ = v := Option.some.inj (hafter.symm.trans hv)
      exact ⟨fun _ => henabled.2.2, nofun⟩
    · exact output_means_idle rfl rfl
  | choose =>
    exact hkeep (Op.act_update taskID _) nofun id id
  | attempt =>
    refine hkeep rfl nofun (fun _ => rfl) fun hp => ?_
    unfold Phase.afterAttempt at hp
    split at hp <;> cases hp
  | refund f hf => exact output_means_idle rfl rfl
  | settle st hbuilt htask hlease =>
    beta_reduce
    split
    next hsettled =>
      exact output_settle hbuilt htask hlease howner hmeans hsettled
    · exact output_means_idle rfl rfl
  | readAgain => exact hkeep rfl nofun nofun fun _ => rfl
  | list =>
    refine hkeep rfl nofun (fun hg => ?_) fun _ => rfl
    cases hrows : (exec (.listStorageObjects taskID) w s).1 <;> rw [hrows] at hg <;> cases hg
  | head x rest =>
    refine hkeep rfl nofun (fun hg => ?_) fun _ => rfl
    unfold Phase.afterHead at hg
    split at hg <;> cases hg
  | markUploading x rest =>
    refine hkeep rfl nofun (fun hg => ?_) fun _ => rfl
    beta_reduce at hg
    split at hg <;> cases hg
  | put x rest r =>
    refine hkeep rfl nofun (fun hg => ?_) fun _ => rfl
    beta_reduce at hg
    split at hg <;> cases hg
  | markFailed x rest => exact hkeep rfl nofun nofun fun _ => rfl
  | markAvailable expected x rest hexpected expiresAt =>
    exact hkeep rfl nofun nofun fun _ => rfl
  | endArchive f hf st hst => exact output_means_idle rfl rfl
  | finish => exact output_means_idle rfl rfl

theorem output_valid : Outline.output.Valid := by
  refine .of_foreign ?_ ?_ ?_ ?_ ?_
  · rintro o w s ⟨hcommon, hbuilt⟩ hallowed hbase -
    refine ⟨outputsFollow_exec hbase hbuilt fun ha hv henabled => ?_, trivial⟩
    rename_i a v
    have hactor := Op.actor_of_common hcommon ha
    cases a with
    | incident => exact IncidentAllowed.output hallowed ha hv henabled
    | bill | reset | expire => trivial
    | _ => cases hactor
  · intro k o w s f h howner _ hallowed hbase _ hmeans
    exact output_foreign h howner hallowed hbase hmeans
  · intro limit w s id _ _ _
    exact output_means_idle rfl rfl
  · intro owner taskID f o next w s h howner _ hallowed hbase _ hmeans
    refine ⟨⟨outputsFollow_exec hbase h.built fun ha hv henabled => ?_, trivial⟩,
      output_next h howner hmeans⟩
    rename_i id a v
    obtain ⟨rfl, hactor⟩ := h.actor ha
    -- Only the end of an archive needs an output that is being archived.
    have hend : a.endsArchive = true → v.owner = owner → v.output = .archiving := by
      intro hend hholds
      refine (hmeans v hv hholds).2 ?_
      have hf := h.archives ha hend
      unfold Phase.publishes
      split
      · cases hf
      · rfl
      · exact hf
    cases a with
    | publish | retryArchive | failArchive =>
      cases hactor
      exact hend rfl henabled.1
    | incident => cases hactor
    | _ => trivial
  intro owner taskID f g s h _ _ _ hmeans
  cases h with
  | ended f hf => exact output_means_idle rfl rfl
  | archive t hstatus houtput =>
    exact output_means_keep hmeans rfl nofun fun _ => by simp [Phase.publishes, hstatus, houtput]
  | keep x rest => exact output_means_keep hmeans rfl nofun fun _ => rfl
  | replace x rest => exact output_means_keep hmeans rfl nofun fun _ => rfl

end Outline

/-- In every run in which an incident is recorded only for a failed output, every change of an
output follows the diagram. -/
theorem outputs_follow (accounts : Accounts) (moves : List (Move Job World))
    (hrun : Along (System.step machine program)
      (imageConditions (fun o _ s => IncidentAllowed o s) True).Meets ⟨.start accounts, []⟩
      moves) :
    Along (System.step machine program)
      (fun sys move => OutputsFollow sys.state (sys.step machine program move).state)
      ⟨.start accounts, []⟩ moves := by
  refine Outline.output_valid.along_rel (fun s id t t' ht ht' hne => ?_) (fun _ _ _ h => h)
    (Base.start accounts) trivial hrun
  rw [ht] at ht'
  cases ht'
  exact absurd rfl hne

def sampleRetried : List (Move Job World) :=
  [.start 0 (.retry ["task_a"])] ++ steps 3 8 { sampleWorld "" with intact := false } ++
    [.start 1 (.retry ["task_a"])] ++ steps 4 8 (sampleWorld "") ++
    [.start 0 .process] ++ steps 5 8 (sampleWorld "2") ++ steps 6 30 (sampleWorld "2")

def outputOf (s : Shared) (taskID : String) : Option OutputAvailability :=
  (s.db.tasks.find? taskID).map fun t => t.lifecycle.outputAvailability

theorem outputs_follow_sample :
    outputOf (run (System.step machine program) ⟨.start sampleAccounts, []⟩
      (sampleFailedArchive ++ sampleRetried)).state "task_a" = some .available ∧
    Along (System.step machine program)
      (fun sys move => OutputsFollow sys.state (sys.step machine program move).state)
      ⟨.start sampleAccounts, []⟩ (sampleFailedArchive ++ sampleRetried) :=
  ⟨by decide +kernel, outputs_follow sampleAccounts _ (by decide +kernel)⟩

/-- One retry has read the failed task. Another one resets the archive, and a worker uploads the
image and deletes the staged file. -/
def sampleOvertaken : List (Move Job World) :=
  [.start 0 (.retry ["task_a"])] ++ steps 3 3 (sampleWorld "") ++
    [.start 1 (.retry ["task_a"])] ++ steps 4 8 (sampleWorld "") ++
    [.start 0 .process] ++ steps 5 8 (sampleWorld "2") ++ steps 6 30 (sampleWorld "2")

/-- The first retry goes on and turns the available output into a failed one. -/
theorem output_failed_after_available :
    outputOf (run (System.step machine program) ⟨.start sampleAccounts, []⟩
      sampleFailedArchive).state "task_a" = some .failed ∧
    (let sys := run (System.step machine program) ⟨.start sampleAccounts, []⟩
      (sampleFailedArchive ++ sampleOvertaken ++ steps 3 2 (sampleWorld ""))
     outputOf sys.state "task_a" = some .available ∧
      outputOf (sys.step machine program (.run 3 (sampleWorld ""))).state "task_a" =
        some .failed) := by
  decide +kernel

end ZModel.AsyncImage
