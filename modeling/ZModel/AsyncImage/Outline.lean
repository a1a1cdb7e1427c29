import ZModel.AsyncImage.Phases

/-!
# The programs follow the phases

For every valid outline the worker goes through the phases, and all other programs get along without
a lease; `Outline.Valid.along` concludes for whole runs.
-/

namespace ZModel.AsyncImage.Outline

open Lib Facts

variable {moves : List (Move Job World)} {r : Multiset (Lease × Phase)} {s : Shared}

variable {O : Outline} (V : O.Valid) {node : Nat} {owner : String} {t : AsyncImageTask} {f : Phase}

include V

section Steps

variable {α : Type} {o : Op} {q : o.Ret → Prog α}

theorem Valid.next {Q : α → Prop} (hcommon : o.common = true) (hbuilt : o.Built)
    (hq : ∀ r, o.Answers r → O.Plain node (q r) Q) :
    O.Plain node (call o >>= q) Q :=
  (V.plain hcommon hbuilt).bind hq

theorem Valid.pass {k : Lease} {Q : α → Phase → Prop} (hcommon : o.common = true)
    (hbuilt : o.Built) (hq : ∀ r, o.Answers r → O.Triple node k f (q r) Q) :
    O.Triple node k f (call o >>= q) Q :=
  (V.plain hcommon hbuilt).seq hq

theorem Valid.take {taskID : String} {next : o.Ret → Phase} {Q : α → Phase → Prop}
    (h : WorkerStep owner taskID f o next)
    (hq : ∀ r, o.Answers r → O.Triple node (owner, taskID) (next r) (q r) Q) :
    O.Triple node (owner, taskID) f (call o >>= q) Q := by
  refine (V.perform h).bind fun r f' ⟨hf', hr⟩ => ?_
  subst hf'
  exact hq r hr

end Steps

theorem Valid.endArchive {taskID : String} (hf : f.archives = true) {st : Statement}
    (hst : ArchiveEnd owner st) :
    O.Triple node (owner, taskID) f (do let _ ← call (.update taskID st)) fun _ f' => f' = .ended :=
  V.take (.endArchive f hf st hst) fun _ _ => Triple.pure rfl

theorem Valid.failArchive (hf : f.archives = true) (code message : String) :
    O.Triple node (owner, t.taskID) f (AsyncImage.failArchive owner t code message)
      fun _ f' => f' = .ended :=
  V.endArchive hf (.fail _ code message)

theorem Valid.retryArchive (hf : f.archives = true) (message : String) :
    O.Triple node (owner, t.taskID) f (AsyncImage.retryArchive owner t message)
      fun _ f' => f' = .ended := by
  refine V.pass rfl trivial fun w _ => ?_
  split
  · exact V.endArchive hf (.fail _ _ _)
  · exact V.endArchive hf (.retry _ _ message)

def Archived (rest : List StorageObject) (goesOn : Bool) (f : Phase) : Prop :=
  (goesOn = true → f = .listed rest) ∧ f ≠ .received

omit V in
theorem Archived.stop {rest : List StorageObject} (h : f ≠ .received) : Archived rest false f :=
  ⟨nofun, h⟩

omit V in
theorem Archived.goOn {rest : List StorageObject} (h : f = .listed rest) (goesOn : Bool) :
    Archived rest goesOn f :=
  ⟨fun _ => h, by rw [h]; nofun⟩

variable {x : StorageObject} {rest : List StorageObject}

omit V in
theorem notReceived {p : Prog Unit} {k : Lease} (hp : O.Triple node k f p fun _ f' => f' = .ended) :
    O.Triple node k f p fun _ f' => f' ≠ .received := by
  refine hp.mono ?_
  rintro _ _ rfl
  nofun

omit V in
theorem stopArchive {p : Prog Unit} {k : Lease} (hp : O.Triple node k f p fun _ f' => f' = .ended) :
    O.Triple node k f (do p; pure false) (Archived rest) :=
  (notReceived hp).bind fun _ _ hf' => .pure (.stop hf')

theorem Valid.markAvailable {taskID : String} {expected : ObjectStatus}
    (hexpected : expected ≠ .deletePending) (expiresAt : Int) :
    O.Triple node (owner, taskID) (.stored expected x rest)
      (do
        let marked ← call (.updateObject (key x) (.available owner expected expiresAt))
        pure (decide (marked = some true))) (Archived rest) :=
  V.take (.markAvailable expected x rest hexpected expiresAt) fun _ _ =>
    .pure (.goOn rfl _)

theorem Valid.uploadObject (item : ManifestItem) :
    O.Triple node (owner, t.taskID) (.listed (x :: rest))
      (AsyncImage.uploadObject owner t x item) (Archived rest) := by
  refine V.take (.markUploading x rest) fun affected _ => ?_
  by_cases haffected : affected = some true
  · rw [if_pos haffected, if_neg (not_not.mpr haffected)]
    refine V.take (.put x rest _) fun stored _ => ?_
    cases stored with
    | false =>
      refine V.take (.markFailed x rest) fun r _ => ?_
      exact stopArchive (V.retryArchive rfl _)
    | true =>
      refine V.pass rfl trivial fun w _ => ?_
      have hexpected : ObjectStatus.uploading ≠ .deletePending := nofun
      exact V.markAvailable hexpected _
  · rw [if_neg haffected, if_pos haffected]
    exact Triple.pure (Archived.stop nofun)

theorem Valid.keepOrUpload (hstatus : x.status ≠ .deletePending) (item : ManifestItem) :
    O.Triple node (owner, t.taskID) (.listed (x :: rest))
      (AsyncImage.keepOrUpload owner t x item) (Archived rest) := by
  refine V.take (.head x rest) fun found _ => ?_
  refine V.pass rfl trivial fun w _ => ?_
  match found with
  | none => exact V.uploadObject item
  | some none => exact V.uploadObject item
  | some (some head) =>
    dsimp only [Phase.afterHead]
    split
    · split
      · exact (Triple.pure (Archived.goOn rfl true)).weaken (V.entails (.keep x rest))
      · exact V.markAvailable hstatus _
    · exact (V.uploadObject item).weaken (V.entails (.replace x rest))

theorem Valid.archiveObject (item : ManifestItem) :
    O.Triple node (owner, t.taskID) (.listed (x :: rest))
      (AsyncImage.archiveObject owner t x item) (Archived rest) := by
  unfold AsyncImage.archiveObject
  split
  · exact stopArchive (V.retryArchive rfl _)
  rename_i hstatus
  split
  · exact stopArchive (V.failArchive rfl _ _)
  refine V.pass rfl trivial fun intact _ => ?_
  split
  · refine V.pass rfl trivial fun _ _ => ?_
    exact stopArchive (V.failArchive rfl _ _)
  refine V.pass rfl trivial fun w _ => ?_
  split
  · exact stopArchive (V.retryArchive rfl _)
  · exact V.keepOrUpload hstatus item

theorem Valid.archiveObjects {l : List (StorageObject × ManifestItem)}
    {objects : List StorageObject} (hl : l.map Prod.fst = objects) :
    O.Triple node (owner, t.taskID) (.listed objects) (AsyncImage.archiveObjects owner t l)
      (Archived []) := by
  subst hl
  induction l with
  | nil => exact Triple.pure (Archived.goOn rfl true)
  | cons first l ih =>
    obtain ⟨x, item⟩ := first
    refine (V.archiveObject item).bind fun goesOn f ⟨hrest, hf⟩ => ?_
    cases goesOn with
    | false => exact Triple.pure (Archived.stop hf)
    | true =>
      rw [hrest rfl]
      exact ih

theorem Valid.cleanupStaging (objects : List StorageObject) :
    O.Plain node (AsyncImage.cleanupStaging objects) fun _ => True := by
  refine Plain.forEach fun x _ => ?_
  split
  · exact Plain.pure trivial
  refine V.next rfl trivial fun affected _ => ?_
  split
  · exact Plain.pure trivial
  refine V.next rfl trivial fun deleted _ => ?_
  split
  · exact Plain.pure trivial
  · exact V.next rfl trivial fun _ _ => Plain.pure trivial

theorem Valid.finishArchive (hf : f.archives = true) :
    O.Triple node (owner, t.taskID) f (AsyncImage.finishArchive owner t)
      fun _ f' => f' ≠ .received := by
  have hopen : f ≠ .received := by
    rintro rfl
    cases hf
  refine V.pass rfl trivial fun objects _ => ?_
  match objects with
  | none => exact Triple.pure hopen
  | some objects =>
    refine V.pass rfl trivial fun w _ => ?_
    split
    · exact notReceived (V.retryArchive hf _)
    refine V.take (.endArchive f hf _ (.publish _)) fun affected _ => ?_
    split
    · exact notReceived ((V.cleanupStaging objects).triple.mono fun _ _ h => h.1)
    · exact Triple.pure nofun

theorem Valid.archiveAsyncImageTask :
    O.Triple node (owner, t.taskID) .archiving (AsyncImage.archiveAsyncImageTask owner t)
      fun _ f' => f' ≠ .received := by
  refine V.pass rfl trivial fun w _ => ?_
  split
  · exact notReceived (V.failArchive rfl _ _)
  · exact notReceived (V.failArchive rfl _ _)
  rename_i manifest _ _
  refine V.take .list fun records _ => ?_
  match records with
  | none => exact notReceived (V.failArchive rfl _ _)
  | some objects =>
    dsimp only [Option.elim]
    split
    · exact notReceived (V.failArchive rfl _ _)
    rename_i hlength
    have hmap : (objects.zip manifest).map Prod.fst = objects :=
      List.map_fst_zip (Nat.le_of_eq (not_not.mp hlength))
    refine (V.archiveObjects hmap).bind fun goesOn f ⟨hnil, hf⟩ => ?_
    cases goesOn with
    | false => exact Triple.pure hf
    | true =>
      rw [hnil rfl]
      exact V.finishArchive rfl

theorem Valid.refund (hf : f = .running ∨ f = .received) (code message reason : String) :
    O.Triple node (owner, t.taskID) f (AsyncImage.refund owner t code message reason)
      fun _ f' => f' ≠ .received := by
  refine (V.perform (.refund f hf code message reason)).mono ?_
  rintro _ _ ⟨rfl, -⟩
  nofun

def phaseOf : Generation → Phase
  | .executed images => .afterAttempt (.executed images)
  | _ => .running

omit V in
theorem phaseOf_cases (g : Generation) : phaseOf g = .running ∨ phaseOf g = .received := by
  match g with
  | .stopped | .failed _ | .executed none | .executed (some 0) => exact .inl rfl
  | .executed (some (_ + 1)) => exact .inr rfl

theorem Valid.attempts (left : Nat) (last : AttemptError) :
    O.Triple node (owner, t.taskID) .running (AsyncImage.attempts owner t left last)
      fun g f' => f' = phaseOf g := by
  induction left generalizing last with
  | zero => exact Triple.pure rfl
  | succ left ih =>
    refine V.pass rfl trivial fun w _ => ?_
    split
    · exact Triple.pure rfl
    split
    · exact Triple.pure rfl
    refine V.take .choose fun affected _ => ?_
    split
    · exact Triple.pure rfl
    refine V.pass rfl trivial fun w _ => ?_
    split
    · exact Triple.pure rfl
    refine V.take .attempt fun reply _ => ?_
    match reply with
    | .executed images => exact Triple.pure rfl
    | .failed e retry =>
      dsimp only [Phase.afterAttempt]
      split
      · exact ih e
      · exact Triple.pure rfl

theorem Valid.stageImages (left index : Nat) :
    O.Plain node (AsyncImage.stageImages t left index) fun reply =>
      ∀ items, reply = .ok items →
        items.map ManifestItem.index = (List.range' index left).map Int.ofNat := by
  induction left generalizing index with
  | zero =>
    refine Plain.pure ?_
    rintro items ⟨⟩
    rfl
  | succ left ih =>
    refine V.next rfl trivial fun reply hreply => ?_
    match reply with
    | .error kind => exact Plain.pure nofun
    | .ok item =>
      refine (ih (index + 1)).bind fun rest hrest => ?_
      match rest with
      | .error (_, _) => exact Plain.pure nofun
      | .ok rest =>
        refine Plain.pure ?_
        rintro items ⟨⟩
        rw [List.map_cons, (hreply item rfl).1, hrest rest rfl]
        rfl

omit V in
theorem built_staged (settings : StorageSettings) {images : Nat} (hpos : images ≠ 0)
    {items : List ManifestItem}
    (hitems : items.map ManifestItem.index = (List.range' 0 images).map Int.ofNat) :
    AsyncImageBillingSettler.Built
      { taskID := t.taskID, leaseOwner := owner, manifest := marshalManifest items
        sourceKind := sourceKind items, objects := items.map fun i => i.object settings t } := by
  refine .staged (marshalManifest_nonblank items) ?_ ?_ ?_
  · rintro hnil
    have hlength := congrArg List.length hitems
    simp only [List.length_map, List.length_range'] at hlength
    simp only [List.map_eq_nil_iff] at hnil
    rw [hnil] at hlength
    exact hpos hlength.symm
  · intro x hx
    obtain ⟨i, -, rfl⟩ := List.mem_map.mp hx
    rfl
  rw [List.map_map]
  show (items.map ManifestItem.index).Nodup
  rw [hitems]
  exact (List.nodup_range' 1).map Int.ofNat_injective

omit V in
theorem built_failed {kind : StageErrorKind} {source : String} : AsyncImageBillingSettler.Built
      { taskID := t.taskID, leaseOwner := owner, sourceKind := source
        archiveErrorCode := if kind = .sourceFetch then "archive_source_fetch_failed"
          else "archive_staging_failed"
        archiveError := "generated image could not be archived" } := by
  refine .failed rfl ?_
  show (if kind = .sourceFetch then _ else _) ≠ ""
  split <;> decide

theorem Valid.settleImages {images : Nat} (hpos : images ≠ 0) :
    O.Triple node (owner, t.taskID) .received (AsyncImage.settleImages owner t images)
      fun _ f' => f' ≠ .received := by
  refine (V.stageImages images 0).seq fun reply hreply => ?_
  split
  · exact V.refund (.inr rfl) _ _ _
  · refine V.take (.settle _ built_failed rfl rfl) fun settled _ => Triple.pure ?_
    split <;> nofun
  rename_i manifest
  refine V.pass rfl trivial fun w _ => ?_
  refine V.take (.settle _ (built_staged w.settings hpos (hreply manifest rfl)) rfl rfl)
    fun settled _ => ?_
  cases settled with
  | false => exact Triple.pure nofun
  | true =>
    refine V.take .readAgain fun row hrow => ?_
    match row with
    | none => exact Triple.pure nofun
    | some updated =>
      rw [← hrow updated rfl]
      exact V.archiveAsyncImageTask

theorem Valid.closeGeneration (requested : Nat) (g : Generation) :
    O.Triple node (owner, t.taskID) (phaseOf g) (AsyncImage.closeGeneration owner t requested g)
      fun _ f' => f' ≠ .received := by
  match g with
  | .stopped => exact .pure nofun
  | .failed e => exact V.refund (phaseOf_cases _) _ _ _
  | .executed none => exact V.refund (phaseOf_cases _) _ _ _
  | .executed (some images) =>
    dsimp only [AsyncImage.closeGeneration]
    split
    · exact V.refund (phaseOf_cases _) _ _ _
    rename_i hrange
    split
    · exact V.refund (phaseOf_cases _) _ _ _
    have hpos : images ≠ 0 := fun hzero => hrange (.inl hzero)
    obtain ⟨n, rfl⟩ := Nat.exists_eq_succ_of_ne_zero hpos
    exact V.settleImages hpos

theorem Valid.generateAsyncImageTask (row : AsyncImageTask) :
    O.Triple node (owner, t.taskID) (.ready row) (AsyncImage.generateAsyncImageTask owner t)
      fun _ f' => f' ≠ .received := by
  refine V.take (.start row) fun affected _ => ?_
  split
  · refine V.pass rfl trivial fun w _ => ?_
    split
    · exact V.refund (.inl rfl) _ _ _
    refine (V.attempts _ _).bind fun g f hf => ?_
    subst hf
    exact V.closeGeneration _ g
  · exact Triple.pure nofun

theorem Valid.processClaimedAsyncImageTask :
    O.Triple node (owner, t.taskID) (.ready t) (AsyncImage.processClaimedAsyncImageTask owner t)
      fun _ f' => f' ≠ .received := by
  unfold AsyncImage.processClaimedAsyncImageTask
  split
  next harchiving =>
    exact V.archiveAsyncImageTask.weaken (V.entails (.archive t harchiving.1 harchiving.2))
  refine V.pass rfl trivial fun w _ => ?_
  split
  · exact V.take (.postpone t _ _) fun _ _ => Triple.pure nofun
  · exact V.generateAsyncImageTask t

theorem Valid.worker :
    O.Triple node (owner, t.taskID) (.ready t) (program (.worker owner t)) fun _ _ => True := by
  refine V.processClaimedAsyncImageTask.bind fun _ f hf => ?_
  refine Triple.weaken ?_ (V.entails (.ended f hf))
  exact (V.perform .finish).mono fun _ _ _ => trivial

def claimables (owner : String) (taskIDs : List String) : Multiset (Lease × Phase) :=
  (taskIDs.map fun id => ((owner, id), Phase.claimable) : List (Lease × Phase))

variable (O) in
inductive Claimed (owner : String) : List AsyncImageTask → Multiset (Lease × Phase) → Prop where
  | nil (extra : Multiset (Lease × Phase)) : Claimed owner [] extra
  | cons (t : AsyncImageTask) (rest : List AsyncImageTask) (f : Phase)
      (r : Multiset (Lease × Phase))
      (hf : O.facts.Entails (owner, t.taskID) f (.ready t)) (hr : Claimed owner rest r) :
      Claimed owner (t :: rest) ({((owner, t.taskID), f)} + r)

omit V in
theorem Claimed.extend {claimed : List AsyncImageTask} (h : Claimed O owner claimed r)
    (extra : Multiset (Lease × Phase)) : Claimed O owner claimed (r + extra) := by
  induction h with
  | nil => exact .nil _
  | cons t rest f r hf _ ih =>
    rw [add_assoc]
    exact .cons t rest f _ hf ih

variable (O) in
def ClaimedBy (owner : String) : Option (List AsyncImageTask) → Multiset (Lease × Phase) → Prop
  | none, _ => True
  | some claimed, r => Claimed O owner claimed r

omit V in
theorem ClaimedBy.extend {result : Option (List AsyncImageTask)} (h : ClaimedBy O owner result r)
    (extra : Multiset (Lease × Phase)) : ClaimedBy O owner result (r + extra) := by
  cases result with
  | none => trivial
  | some claimed => exact Claimed.extend h extra

theorem Valid.claimTasks (now : Int) (left : Nat) (taskIDs : List String) :
    Safe machine O.conditions (O.facts.logic O.pre O.check) node
      (AsyncImage.claimTasks owner now left taskIDs) (claimables owner taskIDs)
      (ClaimedBy O owner) := by
  induction taskIDs generalizing left with
  | nil => cases left <;> exact .nil _
  | cons taskID rest ih =>
    cases left with
    | zero => exact .nil _
    | succ left =>
      refine Safe.bind (safe_frame (V.perform (.claim now) _ Entails.refl)
        (claimables owner rest)) fun affected r hr => ?_
      obtain ⟨_, rfl, f, rfl, _, hf, rfl, -⟩ := hr
      match affected with
      | none => exact trivial
      | some false =>
        rw [add_comm {_}]
        refine (safe_frame (ih (left + 1)) {((owner, taskID), f)}).mono ?_
        rintro result _ ⟨r, rfl, hr⟩
        exact hr.extend _
      | some true =>
        refine Safe.bind (safe_frame (V.perform .readBack f hf)
          (claimables owner rest)) fun row r hr => ?_
        obtain ⟨_, rfl, f, rfl, _, hf, rfl, hrow⟩ := hr
        match row with
        | none => exact trivial
        | some t =>
          rw [add_comm {_}]
          refine (safe_frame (ih left) {((owner, taskID), f)}).bind fun result r hr => ?_
          obtain ⟨r, rfl, hr⟩ := hr
          match result with
          | none => exact trivial
          | some claimed =>
            have htask : t.taskID = taskID := hrow t rfl
            rw [add_comm]
            subst htask
            exact .cons t claimed f r hf hr

theorem Valid.startWorkers (claimed : List AsyncImageTask) (hr : Claimed O owner claimed r) :
    Safe machine O.conditions (O.facts.logic O.pre O.check) node
      (AsyncImage.startWorkers owner claimed) r fun _ _ => True := by
  induction hr with
  | nil => exact trivial
  | cons t rest f r hf _ ih =>
    have hobserve : O.Plain node (call .observe) _ := V.plain rfl trivial
    refine (hobserve _).bind fun w r' ⟨hr', _⟩ => ?_
    subst hr'
    split
    · exact trivial
    · exact ⟨trivial, _, _, rfl, ⟨f, rfl, hf⟩, ih⟩

theorem Valid.sendPendingNotifications :
    O.Plain node AsyncImage.sendPendingNotifications fun _ => True := by
  refine V.next rfl trivial fun due _ => ?_
  refine Plain.forEach fun taskID _ => ?_
  refine V.next rfl trivial fun affected _ => ?_
  split
  · refine V.next rfl trivial fun _ _ => ?_
    exact V.next rfl trivial fun _ _ => Plain.pure trivial
  · exact Plain.pure trivial

omit V in
theorem nodup_runnable (db : DB) (now : Int) (limit : Nat) :
    (runnableAsyncImageTasks db now limit).Nodup :=
  (db.tasks.nodup.sublist (List.filter_sublist.map _)).sublist (List.take_sublist _ _)

theorem Valid.process :
    Safe machine O.conditions (O.facts.logic O.pre O.check) node AsyncImage.process 0
      fun _ _ => True := by
  -- A new owner has no facts yet, so those of its candidates can be handed out.
  have hrunnable : Safe machine O.conditions (O.facts.logic O.pre O.check) node
      (call (.runnableTasks asyncImageProcessBatchSize)) 0 fun result new =>
        ∀ owner now candidates, result = some (owner, now, candidates) →
          new = claimables owner candidates := by
    refine safe_fresh fun w s hrun hinv => ?_
    obtain ⟨hbase, hgood⟩ := hinv
    refine ⟨?_, ?_⟩
    · have hkeeps : O.Keeps none (.runnableTasks asyncImageProcessBatchSize) w s :=
        V.common rfl trivial hrun hbase hgood
      exact hkeeps.facts hbase trivial
    show ∃ new : Multiset (Lease × Phase), _ ∧
      (∀ f ∈ new, O.facts.holds f.1 f.2 (exec (.runnableTasks _) w s).2 ∧ _) ∧
        ∀ owner now candidates, (exec (.runnableTasks _) w s).1 = _ → _
    by_cases howner : w.owner ∈ s.owners
    · refine ⟨0, Multiset.nodup_zero, fun f hf => absurd hf (Multiset.notMem_zero f), ?_⟩
      intro owner now candidates hresult
      simp only [exec, if_pos howner] at hresult
      cases hresult
    refine ⟨claimables w.owner
      (runnableAsyncImageTasks s.db w.now asyncImageProcessBatchSize), ?_, ?_, ?_⟩
    · show (List.map Prod.fst (List.map _ _)).Nodup
      rw [List.map_map]
      refine (nodup_runnable _ _ _).map ?_
      intro a b hab
      exact (Prod.mk.inj hab).2
    · intro f hf
      obtain ⟨id, -, rfl⟩ := List.mem_map.mp hf
      refine ⟨⟨w.owner_ne_empty, ?_, V.fresh id hbase hgood howner⟩, fun g hg => howner hg.2.1⟩
      simp only [exec, if_neg howner]
      exact (.head _)
    intro owner now candidates hresult
    simp only [exec, if_neg howner] at hresult
    cases World.read_eq_some hresult
    rfl
  refine hrunnable.bind fun result r hr => ?_
  cases result with
  | none => exact trivial
  | some found =>
    obtain ⟨owner, now, candidates⟩ := found
    rw [hr owner now candidates rfl]
    refine (V.claimTasks now _ candidates).bind fun claimed r hr => ?_
    cases claimed with
    | none => exact trivial
    | some claimed =>
      refine (V.startWorkers claimed hr).bind fun _ r _ => ?_
      exact (V.sendPendingNotifications r).mono fun _ _ _ => trivial

theorem Valid.validateStaged (taskID : String) (l : List (StorageObject × ManifestItem)) :
    O.Plain node (AsyncImage.validateStaged taskID l) fun _ => True := by
  induction l with
  | nil => exact Plain.pure trivial
  | cons first rest ih =>
    unfold AsyncImage.validateStaged
    split
    · exact Plain.pure trivial
    refine V.next rfl trivial fun intact _ => ?_
    split
    · refine V.next rfl trivial fun _ _ => ?_
      exact V.next rfl trivial fun _ _ => Plain.pure trivial
    split
    · exact V.next rfl trivial fun _ _ => ih
    · exact ih

theorem Valid.validateAndResetAsyncImageArchive (taskID : String) :
    O.Plain node (AsyncImage.validateAndResetAsyncImageArchive taskID) fun _ => True := by
  refine V.next rfl trivial fun row _ => ?_
  split
  · exact Plain.pure trivial
  split
  · exact Plain.pure trivial
  refine V.next rfl trivial fun w _ => ?_
  split
  · exact Plain.pure trivial
  · exact Plain.pure trivial
  refine V.next rfl trivial fun records _ => ?_
  split
  · exact Plain.pure trivial
  split
  · exact Plain.pure trivial
  refine (V.validateStaged taskID _).bind fun valid _ => ?_
  split
  · refine V.next rfl trivial fun w _ => ?_
    exact V.next rfl trivial fun _ _ => Plain.pure trivial
  · exact Plain.pure trivial

theorem Valid.retryAsyncImageTasks (taskIDs : List String) :
    O.Plain node (AsyncImage.retryAsyncImageTasks taskIDs) fun _ => True := by
  unfold AsyncImage.retryAsyncImageTasks
  split
  · exact .pure trivial
  · exact Plain.forEach fun taskID _ => V.validateAndResetAsyncImageArchive taskID

theorem Valid.bulkRetry (maxID left cursorID : Nat) :
    O.Plain node (AsyncImage.bulkRetry maxID left cursorID) fun _ => True := by
  induction left generalizing cursorID with
  | zero => exact Plain.pure trivial
  | succ left ih =>
    refine V.next rfl trivial fun w _ => ?_
    split
    · exact Plain.pure trivial
    refine V.next rfl trivial fun tasks _ => ?_
    split
    · exact Plain.pure trivial
    · exact Plain.pure trivial
    · refine Plain.bind (Plain.forEach fun task _ => ?_) fun _ _ => ih _
      exact V.validateAndResetAsyncImageArchive task.2

theorem Valid.claimExpired (now : Int) (left : Nat) (candidates : List StorageObject) :
    O.Plain node (AsyncImage.claimExpired now left candidates) fun result =>
      ∀ claimed, result = some claimed → ∀ x ∈ claimed, x ∈ candidates := by
  have hnil : ∀ {candidates : List StorageObject} (claimed : List StorageObject),
      some [] = some claimed → ∀ x ∈ claimed, x ∈ candidates := by
    rintro _ _ ⟨⟩ x hx
    cases hx
  induction candidates generalizing left with
  | nil => cases left <;> exact .pure hnil
  | cons y rest ih =>
    cases left with
    | zero => exact .pure hnil
    | succ left =>
      have hrow : O.Plain node (if y.status = .available then
          call (.updateObject (key y) (.claimExpired now)) else pure (some true) :
          Prog (Option Bool)) fun _ => True := by
        split
        · exact Plain.mono (V.plain rfl trivial) fun _ _ => trivial
        · exact .pure trivial
      refine hrow.bind fun claimed _ => ?_
      match claimed with
      | none => exact .pure nofun
      | some false =>
        refine (ih (left + 1)).mono fun result hresult claimed h x hx => ?_
        exact List.mem_cons_of_mem y (hresult claimed h x hx)
      | some true =>
        refine (ih left).bind fun result hresult => ?_
        match result with
        | none => exact .pure nofun
        | some claimed =>
          refine .pure ?_
          rintro _ ⟨⟩ x hx
          obtain rfl | hx := List.mem_cons.mp hx
          · exact (.head _)
          · exact List.mem_cons_of_mem y (hresult claimed rfl x hx)

theorem Valid.deleteObjects (l : List StorageObject) (hl : ∀ x ∈ l, x.Placed) :
    O.Plain node (AsyncImage.deleteObjects l) fun _ => True := by
  induction l with
  | nil => exact Plain.pure trivial
  | cons x rest ih =>
    rw [List.forall_mem_cons] at hl
    refine V.next rfl trivial fun w _ => ?_
    split
    · exact Plain.pure trivial
    have hdelete : O.Plain node (if w.storageReady then
        call (.deleteObject (key x) x.location) else pure false : Prog Bool)
        fun _ => True := by
      split
      · exact Plain.mono (V.plain rfl hl.1) fun _ _ => trivial
      · exact Plain.pure trivial
    refine hdelete.bind fun deleted _ => ?_
    split
    · refine V.next rfl trivial fun _ _ => ?_
      refine V.next rfl trivial fun w _ => ?_
      exact V.next rfl trivial fun _ _ => ih hl.2
    · exact V.next rfl trivial fun _ _ => ih hl.2

theorem Valid.cleanupStagingFiles : O.Plain node AsyncImage.cleanupStagingFiles fun _ => True := by
  refine V.next rfl trivial fun waiting _ => ?_
  refine Plain.bind (Plain.forEach fun x _ => ?_) fun _ _ => ?_
  · refine V.next rfl trivial fun deleted _ => ?_
    split
    · exact V.next rfl trivial fun _ _ => Plain.pure trivial
    · exact Plain.pure trivial
  refine V.next rfl trivial fun files _ => ?_
  refine Plain.forEach fun path _ => ?_
  refine V.next rfl trivial fun known _ => ?_
  split
  · exact V.next rfl trivial fun _ _ => Plain.pure trivial
  · exact Plain.pure trivial

theorem Valid.cleanup : O.Plain node AsyncImage.cleanup fun _ => True := by
  refine V.next rfl trivial fun w _ => ?_
  refine V.next rfl trivial fun candidates hcandidates => ?_
  match candidates with
  | none => exact Plain.pure trivial
  | some candidates =>
    refine (V.claimExpired w.now 100 candidates).bind fun objects hobjects => ?_
    match objects with
    | none => exact Plain.pure trivial
    | some objects =>
      refine Plain.bind (V.deleteObjects objects fun x hx => ?_) fun _ _ => ?_
      · exact hcandidates candidates rfl x (hobjects objects rfl x hx)
      · exact V.cleanupStagingFiles

theorem Valid.presentObjects (taskID : String) (now : Int) (l : List StorageObject) :
    O.Plain node (AsyncImage.presentObjects taskID now l) fun _ => True := by
  induction l with
  | nil => exact .pure trivial
  | cons x rest ih =>
    unfold AsyncImage.presentObjects
    split
    · exact V.next rfl trivial fun _ _ => Plain.pure trivial
    split
    · exact .pure trivial
    · exact ih

theorem Valid.getAsyncImageTask (userID : Nat) (taskID : String) :
    O.Plain node (AsyncImage.getAsyncImageTask userID taskID) fun _ => True := by
  refine V.next rfl trivial fun row _ => ?_
  split
  · exact Plain.pure trivial
  split
  · exact Plain.pure trivial
  refine V.next rfl trivial fun w _ => ?_
  split
  · exact Plain.pure trivial
  split
  · exact V.next rfl trivial fun _ _ => Plain.pure trivial
  refine V.next rfl trivial fun records _ => ?_
  split
  · exact Plain.pure trivial
  · exact V.presentObjects taskID _ _

theorem Valid.rebindReady (l : List (StorageObject × ManifestItem)) :
    O.Plain node (AsyncImage.rebindReady l) fun _ => True := by
  induction l with
  | nil => exact Plain.pure trivial
  | cons first rest ih =>
    unfold AsyncImage.rebindReady
    split
    · exact Plain.pure trivial
    refine V.next rfl trivial fun intact _ => ?_
    split
    · exact Plain.pure trivial
    split
    · exact ih
    refine V.next rfl trivial fun found _ => ?_
    split
    · exact ih
    · exact Plain.pure trivial

theorem Valid.prepareRebind (w : World) (l : List (AsyncImageTask × List StorageObject)) :
    O.Plain node (AsyncImage.prepareRebind w l) fun _ => True := by
  induction l with
  | nil => exact Plain.pure trivial
  | cons first rest ih =>
    unfold AsyncImage.prepareRebind
    split
    · exact Plain.pure trivial
    split
    · exact Plain.pure trivial
    refine (V.rebindReady _).bind fun ready _ => ?_
    split
    · exact Plain.pure trivial
    · refine ih.bind fun taskIDs _ => ?_
      split <;> exact Plain.pure trivial

theorem Valid.updateObjectStorageSettings (candidate : StorageSettings) :
    O.Plain node (AsyncImage.updateObjectStorageSettings candidate) fun _ => True := by
  refine V.next rfl trivial fun w _ => ?_
  split
  · exact Plain.pure trivial
  refine V.next rfl trivial fun active _ => ?_
  split
  · exact Plain.pure trivial
  refine V.next rfl trivial fun candidates _ => ?_
  split
  · exact Plain.pure trivial
  split
  · exact Plain.pure trivial
  refine (V.prepareRebind w _).bind fun taskIDs _ => ?_
  split
  · exact Plain.pure trivial
  refine V.next rfl trivial fun w _ => ?_
  split
  · exact Plain.mono (V.plain rfl trivial) fun _ _ => trivial
  · exact Plain.pure trivial

theorem Valid.job (j : Job) (hr : O.pre j r) :
    Safe machine O.conditions (O.facts.logic O.pre O.check) node (program j) r fun _ _ => True := by
  have hplain : ∀ {p : Prog Unit} {Q : Unit → Prop}, O.Plain node p Q →
      Safe machine O.conditions (O.facts.logic O.pre O.check) node p r fun _ _ => True :=
    fun hp => (hp r).mono fun _ _ _ => trivial
  cases j with
  | worker owner t =>
    obtain ⟨f, rfl, hf⟩ := hr
    exact (V.worker f hf).mono fun _ _ _ => trivial
  | process =>
    obtain rfl : r = 0 := hr
    exact V.process
  | request q => exact hplain (V.plain rfl trivial)
  | submit s => exact hplain (V.plain rfl trivial)
  | renew owner taskID =>
    exact hplain (V.next rfl trivial fun _ _ =>
      .pure (Q := fun _ => True) trivial)
  | retry taskIDs => exact hplain (V.retryAsyncImageTasks taskIDs)
  | bulkRetry cursorID maxID => exact hplain (V.bulkRetry maxID maxID cursorID)
  | cleanup => exact hplain V.cleanup
  | getTask userID taskID => exact hplain (V.getAsyncImageTask userID taskID)
  | updateSettings candidate => exact hplain (V.updateObjectStorageSettings candidate)

theorem Valid.along (hbase : Base s) (hgood : O.good s)
    (hrun : Along (System.step machine program) O.conditions.Meets ⟨s, []⟩ moves) :
    (Base (run (System.step machine program) ⟨s, []⟩ moves).state ∧
      O.good (run (System.step machine program) ⟨s, []⟩ moves).state) ∧
      Along (System.step machine program) (Checked machine (O.facts.logic O.pre O.check)) ⟨s, []⟩
        moves := by
  refine good_along (P := O.facts) (fun node j r hr => V.job j hr) (fun node j hj => ?_)
    (fun _ _ => rfl) ⟨hbase, hgood⟩ hrun
  cases j with
  | worker owner t => cases hj
  | _ => rfl

theorem Valid.performed (hbase : Base s) (hgood : O.good s)
    (hrun : Along (System.step machine program) O.conditions.Meets ⟨s, []⟩ moves) :
    Along (System.step machine program) (Performed O.check) ⟨s, []⟩ moves := by
  have hchecked := (V.along hbase hgood hrun).2
  refine hchecked.imp₂ _ (fun sys move h _ => ?_) hchecked
  cases move with
  | start node j => trivial
  | crash node => trivial
  | run i w =>
    dsimp only [Checked] at h
    dsimp only [Performed]
    split
    next node o next hthread =>
      rw [hthread] at h
      exact h rfl
    · trivial

theorem Valid.along_rel {R : Shared → Shared → Prop} (hrefl : ∀ s, R s s)
    (hcheck : ∀ o w s, O.check o w s → R s (exec o w s).2) (hbase : Base s) (hgood : O.good s)
    (hrun : Along (System.step machine program) O.conditions.Meets ⟨s, []⟩ moves) :
    Along (System.step machine program)
      (fun sys move => R sys.state (sys.step machine program move).state) ⟨s, []⟩ moves := by
  have hperformed := V.performed hbase hgood hrun
  refine hperformed.imp₂ _ (fun sys move h _ => ?_) hperformed
  exact h.rel (hrefl sys.state) fun o w => hcheck o w sys.state

end ZModel.AsyncImage.Outline
