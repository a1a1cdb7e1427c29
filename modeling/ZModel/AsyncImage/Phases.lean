import ZModel.AsyncImage.Base
import ZModel.AsyncImage.Workers
import ZModel.Lib.Facts

/-!
# The phases of a worker

`WorkerStep` says which operations lead from one phase to the next. An `Outline` gives the phases a
meaning; the programs are proved to follow them once, for all valid outlines.
-/

namespace ZModel.AsyncImage

open Lib

variable {o : Op} {s : Shared} {owner : String}

inductive Phase where
  | claimable
  | claimed
  | ready (t : AsyncImageTask)
  | running
  | received
  | settled
  | archiving
  | listed (objects : List StorageObject)
  | uploading (x : StorageObject) (rest : List StorageObject)
  | stored (expected : ObjectStatus) (x : StorageObject) (rest : List StorageObject)
  | ended

def Phase.archives : Phase → Bool
  | .archiving | .listed _ | .uploading _ _ | .stored _ _ _ => true
  | _ => false

def Phase.afterAttempt : AttemptReply → Phase
  | .executed (some (_ + 1)) => .received
  | _ => .running

def Phase.afterHead (x : StorageObject) (rest : List StorageObject) :
    Option (Option RemoteObject) → Phase
  | some (some _) => .stored x.status x rest
  | _ => .listed (x :: rest)

inductive ArchiveEnd (owner : String) : Statement → Prop where
  | fail (attempts : Int) (code message : String) :
      ArchiveEnd owner (.failArchive owner attempts code message)
  | retry (attempts nextAttemptAt : Int) (message : String) :
      ArchiveEnd owner (.archiveRetry owner attempts nextAttemptAt message)
  | publish (expiresAt : Int) : ArchiveEnd owner (.outputAvailable owner expiresAt)

/-- What a worker does in a phase, and the phase its result leads to. -/
inductive WorkerStep (owner taskID : String) : Phase → (o : Op) → (o.Ret → Phase) → Prop where
  | claim (now : Int) : WorkerStep owner taskID .claimable (.update taskID (.claim owner now))
      fun affected => if affected = some true then .claimed else .ended
  | readBack : WorkerStep owner taskID .claimed (.getTask taskID)
      fun row => row.elim .ended .ready
  | postpone (t : AsyncImageTask) (nextAttemptAt : Int) (message : String) :
      WorkerStep owner taskID (.ready t)
        (.update taskID (.generationRetry owner nextAttemptAt message)) fun _ => .ended
  | start (t : AsyncImageTask) :
      WorkerStep owner taskID (.ready t) (.update taskID (.markRunning owner))
        fun affected => if affected = some true then .running else .ended
  | choose : WorkerStep owner taskID .running (.update taskID (.withLease owner)) fun _ => .running
  | attempt : WorkerStep owner taskID .running (.executeImageAttempt owner taskID)
      Phase.afterAttempt
  | refund (f : Phase) (h : f = .running ∨ f = .received) (code message reason : String) :
      WorkerStep owner taskID f (.refund owner taskID code message reason) fun _ => .ended
  | settle (s : AsyncImageBillingSettler) (hbuilt : s.Built) (htask : s.taskID = taskID)
      (howner : s.leaseOwner = owner) : WorkerStep owner taskID .received (.settle s)
        fun settled => if settled then .settled else .ended
  | readAgain : WorkerStep owner taskID .settled (.getTask taskID) fun _ => .archiving
  | list : WorkerStep owner taskID .archiving (.listStorageObjects taskID)
      fun objects => objects.elim .archiving .listed
  | head (x : StorageObject) (rest : List StorageObject) :
      WorkerStep owner taskID (.listed (x :: rest)) (.headObject x.location)
        (Phase.afterHead x rest)
  | markUploading (x : StorageObject) (rest : List StorageObject) :
      WorkerStep owner taskID (.listed (x :: rest)) (.updateObject (key x) (.uploading owner))
        fun affected => if affected = some true then .uploading x rest else .archiving
  | put (x : StorageObject) (rest : List StorageObject) (o : RemoteObject) :
      WorkerStep owner taskID (.uploading x rest) (.putObject x.location o)
        fun stored => if stored then .stored .uploading x rest else .uploading x rest
  | markFailed (x : StorageObject) (rest : List StorageObject) :
      WorkerStep owner taskID (.uploading x rest) (.updateObject (key x) (.failed owner))
        fun _ => .archiving
  | markAvailable (expected : ObjectStatus) (x : StorageObject) (rest : List StorageObject)
      (hexpected : expected ≠ .deletePending) (expiresAt : Int) :
      WorkerStep owner taskID (.stored expected x rest)
        (.updateObject (key x) (.available owner expected expiresAt)) fun _ => .listed rest
  | endArchive (f : Phase) (h : f.archives = true) (st : Statement) (hst : ArchiveEnd owner st) :
      WorkerStep owner taskID f (.update taskID st) fun _ => .ended
  | finish : WorkerStep owner taskID .ended (.finish owner taskID) fun _ => .ended

theorem WorkerStep.built {taskID : String} {f : Phase} {next : o.Ret → Phase}
    (h : WorkerStep owner taskID f o next) : o.Built := by
  cases h with
  | settle s hbuilt => exact hbuilt
  | _ => trivial

theorem WorkerStep.next_ne_claimable {taskID : String} {f : Phase} {next : o.Ret → Phase}
    (h : WorkerStep owner taskID f o next) (r : o.Ret) : next r ≠ .claimable := by
  cases h with
  | claim | start | settle | markUploading | put =>
    beta_reduce
    split <;> nofun
  | readBack | list =>
    cases r <;> nofun
  | attempt =>
    unfold Phase.afterAttempt
    split <;> nofun
  | head =>
    unfold Phase.afterHead
    split <;> nofun
  | _ => nofun

inductive Yields : Phase → Phase → Prop where
  | ended (f : Phase) (h : f ≠ .received) : Yields f .ended
  | archive (t : AsyncImageTask) (hstatus : t.lifecycle.status = .succeeded)
      (houtput : t.lifecycle.outputAvailability = .archiving) : Yields (.ready t) .archiving
  | keep (x : StorageObject) (rest : List StorageObject) :
      Yields (.stored x.status x rest) (.listed rest)
  | replace (x : StorageObject) (rest : List StorageObject) :
      Yields (.stored x.status x rest) (.listed (x :: rest))

def Statement.common : Statement → Bool
  | .renew _ | .incident _ | .reset _ | .expired _ | .claimNotification | .notificationSent => true
  | _ => false

def ObjectStatement.common : ObjectStatement → Bool
  | .available .. | .uploading _ | .failed _ => false
  | _ => true

def Op.common : Op → Bool
  | .update _ st => st.common
  | .updateObject _ st => st.common
  | .refund .. | .settle _ | .executeImageAttempt .. | .finish .. | .putObject .. => false
  | _ => true

def Op.Answers : (o : Op) → o.Ret → Prop
  | .getTask taskID, row => ∀ t, row = some t → t.taskID = taskID
  | .stageImage _ taskID index, reply =>
    ∀ i, reply = .ok i → i.index = index ∧ i.stagingRelativePath.taskID = taskID
  | .expiredStorageObjects _, rows => ∀ l, rows = some l → ∀ x ∈ l, x.Placed
  | _, _ => True

theorem World.read_eq_some {w : World} {α : Type} {a b : α} (h : w.read a = some b) : a = b := by
  unfold World.read at h
  split at h
  · cases h
  · exact Option.some.inj h

theorem exec_answers (h : Base s) (o : Op) (w : World) : o.Answers (exec o w s).1 := by
  cases o with
  | getTask taskID =>
    intro t ht
    simp only [exec, Option.join_eq_some_iff] at ht
    exact Table.find?_key (World.read_eq_some ht)
  | stageImage userID taskID index =>
    intro i hi
    simp only [exec] at hi
    split at hi
    · cases hi
    · cases hi
      exact ⟨rfl, rfl⟩
  | expiredStorageObjects limit =>
    intro l hl x hx
    have hrows := World.read_eq_some hl
    rw [← hrows] at hx
    have hrow := (List.mem_filter.mp (List.mem_of_mem_take hx)).1
    exact h.placed (Table.find?_eq_some_iff.mpr ⟨hrow, rfl⟩)
  | _ => trivial

theorem exec_owners (o : Op) (w : World) (h : owner ∈ s.owners) :
    owner ∈ (exec o w s).2.owners := by
  cases o with
  | runnableTasks limit =>
    simp only [exec]
    split
    · exact h
    · exact List.mem_cons_of_mem _ h
  | update taskID st =>
    simp only [exec]
    split
    · cases st <;> exact h
    · exact h
  | submit | refund | settle =>
    simp only [exec, Shared.commit]
    split <;> exact h
  | putObject | deleteObject =>
    simp only [exec, Shared.execute]
    split <;> exact h
  | executeImageAttempt | stageImage | deleteStagedImage | headObject | rebind =>
    simp only [exec]
    split <;> exact h
  | _ => exact h

theorem World.owner_ne_empty (w : World) : w.owner ≠ "" := by
  intro h
  have hlist := congrArg String.toList h
  simp [World.owner] at hlist

def Job.outside : Job → Bool
  | .worker _ _ => false
  | _ => true

def imageConditions (allowed : Op → World → Shared → Prop) (crashes : Prop) :
    Conditions Op Op.Ret Job World Shared where
  start _ j := j.outside = true
  run _ o w s := allowed o w s
  crash _ _ := crashes

instance (allowed : Op → World → Shared → Prop) [∀ o w s, Decidable (allowed o w s)]
    (crashes : Prop) [Decidable crashes] (sys : System Op Op.Ret Job Shared)
    (move : Move Job World) : Decidable ((imageConditions allowed crashes).Meets sys move) :=
  have (node : Nat) (j : Job) : Decidable ((imageConditions allowed crashes).start node j) :=
    inferInstanceAs (Decidable (j.outside = true))
  have (node : Nat) (o : Op) (w : World) (s : Shared) :
      Decidable ((imageConditions allowed crashes).run node o w s) :=
    inferInstanceAs (Decidable (allowed o w s))
  have (node : Nat) (sys : System Op Op.Ret Job Shared) :
      Decidable ((imageConditions allowed crashes).crash node sys) :=
    inferInstanceAs (Decidable crashes)
  inferInstance

def Performed (P : Op → World → Shared → Prop) (sys : System Op Op.Ret Job Shared) :
    Move Job World → Prop
  | .run i w =>
    match sys.threads[i]? with
    | some ⟨_, .perform o _⟩ => P o w sys.state
    | _ => True
  | _ => True

theorem Performed.imp {P Q : Op → World → Shared → Prop} {sys : System Op Op.Ret Job Shared}
    {move : Move Job World} (h : Performed P sys move)
    (hPQ : ∀ o w, P o w sys.state → Q o w sys.state) : Performed Q sys move := by
  cases move with
  | start node j => trivial
  | crash node => trivial
  | run i w =>
    dsimp only [Performed] at h ⊢
    split at h
    · exact hPQ _ w h
    · trivial

theorem Performed.rel {P : Op → World → Shared → Prop} {R : Shared → Shared → Prop}
    {sys : System Op Op.Ret Job Shared} {move : Move Job World} (h : Performed P sys move)
    (hrefl : R sys.state sys.state)
    (hexec : ∀ o w, P o w sys.state → R sys.state (exec o w sys.state).2) :
    R sys.state (sys.step machine program move).state := by
  cases move with
  | start node j => exact hrefl
  | crash node => exact hrefl
  | run i w =>
    dsimp only [Performed] at h
    dsimp only [System.step]
    split
    next node o next hthread =>
      rw [hthread] at h
      exact hexec o w h
    · exact hrefl
    · exact hrefl

abbrev Lease := String × String

/-- A meaning of the phases: what a good store is, what a worker may rely on in a phase, and what is
checked of every operation. -/
structure Outline where
  good : Shared → Prop
  means : Lease → Phase → Shared → Prop
  allowed : Op → World → Shared → Prop
  crashes : Prop
  check : Op → World → Shared → Prop

namespace Outline

variable (O : Outline)

def facts : Facts Shared Lease Phase where
  good s := Base s ∧ O.good s
  holds k f s := k.1 ≠ "" ∧ k.1 ∈ s.owners ∧ O.means k f s

/-- An operation passes the check, leaves a good store, and breaks nothing others rely on. -/
structure Keeps (own : Option Lease) (o : Op) (w : World) (s : Shared) : Prop where
  check : O.check o w s
  good : O.good (exec o w s).2
  others : ∀ k f, own ≠ some k → k.1 ≠ "" → k.1 ∈ s.owners → O.means k f s →
    O.means k f (exec o w s).2

structure Valid : Prop where
  common : ∀ {o w s}, o.common = true → o.Built → O.allowed o w s → Base s → O.good s →
    O.Keeps none o w s
  fresh : ∀ {limit w s} id, Base s → O.good s → w.owner ∉ s.owners →
    O.means (w.owner, id) .claimable (exec (.runnableTasks limit) w s).2
  step : ∀ {owner taskID f o next w s}, WorkerStep owner taskID f o next → owner ≠ "" →
    owner ∈ s.owners → O.allowed o w s → Base s → O.good s → O.means (owner, taskID) f s →
    O.Keeps (some (owner, taskID)) o w s ∧
      O.means (owner, taskID) (next (exec o w s).1) (exec o w s).2
  yields : ∀ {owner taskID f g s}, Yields f g → owner ≠ "" → Base s → O.good s →
    O.means (owner, taskID) f s → O.means (owner, taskID) g s

def conditions : Conditions Op Op.Ret Job World Shared := imageConditions O.allowed O.crashes

def pre : Job → Multiset (Lease × Phase) → Prop
  | .worker owner t, r => ∃ f, r = {((owner, t.taskID), f)} ∧
      O.facts.Entails (owner, t.taskID) f (.ready t)
  | _, r => r = 0

/-- A program that starts in a phase and ends in one that `Q` allows. -/
def Triple (node : Nat) (k : Lease) (f : Phase) {α : Type} (p : Prog α) (Q : α → Phase → Prop) :
    Prop :=
  O.facts.Triple machine O.conditions O.pre O.check node k f p Q

def Plain (node : Nat) {α : Type} (p : Prog α) (Q : α → Prop) : Prop :=
  O.facts.Plain machine O.conditions O.pre O.check node p Q

variable {O} {node : Nat} {k : Lease} {owner taskID : String} {f g : Phase} {α : Type}

theorem Keeps.facts {own : Option Lease} {w : World} (h : O.Keeps own o w s) (hbase : Base s)
    (hbuilt : o.Built) :
    O.facts.Keeps machine O.check node own o w s where
  check := h.check
  good := ⟨hbase.exec hbuilt w, h.good⟩
  others k f hown hholds :=
    ⟨hholds.1, exec_owners o w hholds.2.1, h.others k f hown hholds.1 hholds.2.1 hholds.2.2⟩

theorem Valid.plain (V : O.Valid) (hcommon : o.common = true) (hbuilt : o.Built) :
    O.Plain node (AsyncImage.call o) o.Answers :=
  Facts.Plain.call fun w _ hrun ⟨hbase, hgood⟩ =>
    ⟨(V.common hcommon hbuilt hrun hbase hgood).facts hbase hbuilt, exec_answers hbase o w⟩

theorem Valid.perform (V : O.Valid) {next : o.Ret → Phase} (h : WorkerStep owner taskID f o next) :
    O.Triple node (owner, taskID) f (AsyncImage.call o) fun r f' => f' = next r ∧ o.Answers r := by
  refine Facts.Triple.call fun w s hrun ⟨hbase, hgood⟩ ⟨howner, hmem, hmeans⟩ => ?_
  obtain ⟨hkeeps, hnext⟩ := V.step h howner hmem hrun hbase hgood hmeans
  exact ⟨hkeeps.facts hbase h.built, _, ⟨howner, exec_owners o w hmem, hnext⟩, rfl,
    exec_answers hbase o w⟩

theorem Valid.entails (V : O.Valid) (h : Yields f g) : O.facts.Entails (owner, taskID) f g :=
  fun _ hgood hholds =>
    ⟨hholds.1, hholds.2.1, V.yields h hholds.1 hgood.1 hgood.2 hholds.2.2⟩

end Outline

end ZModel.AsyncImage
