import ZModel.Channels.Cache
import ZModel.Channels.Database
import ZModel.Lib.Threads

/-!
# The store of channels

The tables, and the memory cache of each node. The mutexes of the source only order operations of
one node and are left out. No operation reads the records of what happened.
-/

namespace ZModel.Channels

open Lib

structure TestResult where
  usingKey : String := ""
  localErr : Bool := false
  failed : Bool := false
  shouldDisable : Bool := false
  tooSlow : Bool := false

structure World where
  now : Int := 0
  write : Store.Write := .done
  automaticDisableChannelEnabled : Bool := true
  automaticEnableChannelEnabled : Bool := true
  test : TestResult := {}

def World.read (w : World) {α : Type} (a : α) : Option α :=
  match w.write with
  | .fails => none
  | .done => some a

structure Snapshot where
  channels : Table Channel
  abilities : Table Ability
  index : ChannelIndex
  built : buildIndex channels.rows abilities.rows = some index

theorem Snapshot.sync_isSome (snapshot : Snapshot) (cache : ChannelCache) :
    (cache.sync snapshot.channels.rows snapshot.abilities.rows).isSome = true := by
  rw [ChannelCache.sync_isSome, snapshot.built]
  rfl

def ChannelCache.swapIn (cache : ChannelCache) (snapshot : Snapshot) : ChannelCache :=
  (cache.sync snapshot.channels.rows snapshot.abilities.rows).get (snapshot.sync_isSome cache)

theorem ChannelCache.sync_eq_swapIn (cache : ChannelCache) (snapshot : Snapshot) :
    cache.sync snapshot.channels.rows snapshot.abilities.rows = some (cache.swapIn snapshot) :=
  (Option.some_get _).symm

def Snapshot.readEnabled (snapshot : Snapshot) (id : Nat) : Bool :=
  snapshot.channels.rows.any fun c => c.id = id && c.status = .enabled

/-- The cache of a node. `dropped` are the channels it does not list; `removed` those that were
disabled in the database and dropped at one moment, and not enabled since. -/
structure Node where
  cache : ChannelCache := .empty
  dropped : Nat → Bool := fun _ => false
  removed : Nat → Bool := fun _ => false

def Node.note (n : Node) (disabled : Nat → Bool) : Node :=
  { n with removed := fun id => disabled id && (n.removed id || n.dropped id) }

def Node.updateStatus (n : Node) (id : Nat) (status : ChannelStatus) : Node where
  cache := n.cache.updateStatus id status
  dropped := Function.update n.dropped id (decide (status ≠ .enabled))
  removed := Function.update n.removed id (n.removed id && status ≠ .enabled)

def Node.swapIn (n : Node) (snapshot : Snapshot) : Node :=
  { n with cache := n.cache.swapIn snapshot, dropped := fun id => !snapshot.readEnabled id }

/-- Everything that is shared; `manual` are the channels that an administrator disabled and did not
enable since. -/
structure Shared where
  db : Database := {}
  nodes : Nat → Node := fun _ => {}
  manual : Nat → Bool := fun _ => false
  panics : Nat := 0

def Database.disabled (db : Database) (id : Nat) : Bool :=
  match db.status id with
  | none => false
  | some status => status ≠ .enabled

/-- Which channels are disabled by an administrator after a statement. What an automatic step saves
does not count. -/
def manualAfter (manual : Nat → Bool) (st : Statement) (db db' : Database) (id : Nat) : Bool :=
  if st.abilitiesOnly || st.automaticSave.isSome then manual id
  else db'.status id = some .manuallyDisabled && (manual id || st.setsStatus db id)

def Shared.execute (s : Shared) (st : Statement) (db : Database) : Shared :=
  { s with
    db := db
    nodes := fun node => (s.nodes node).note db.disabled
    manual := manualAfter s.manual st s.db db }

def Shared.setNode (s : Shared) (node : Nat) (n : Node) : Shared :=
  { s with nodes := Function.update s.nodes node n }

/-- The operations. The read of the abilities names the channels that were read before. -/
inductive Op where
  | observe
  | getChannel (id : Nat)
  | findChannels
  | findAbilities (channels : Table Channel)
  | statement (st : Statement)
  | cacheGetChannel (id : Nat)
  | storeCached (generation : Nat) (c : Channel)
  | cacheUpdateStatus (id : Nat) (status : ChannelStatus)
  | swap (snapshot : Snapshot)

abbrev Op.Ret : Op → Type
  | .observe => World
  | .getChannel _ => Option Channel
  | .findChannels => Option (Table Channel)
  | .findAbilities _ => Table Ability
  | .statement _ => Bool
  | .cacheGetChannel _ => Option (Nat × Channel)
  | .storeCached _ _ | .cacheUpdateStatus _ _ | .swap _ => Unit

def execStatement (st : Statement) (w : World) (s : Shared) : Bool × Shared :=
  match w.write, st.run s.db with
  | .done, some db => (true, s.execute st db)
  | _, _ => (false, s)

def readAbilities (w : World) (s : Shared) : Table Ability :=
  (w.read s.db.abilities).getD Table.empty

def exec (node : Nat) : (o : Op) → World → Shared → o.Ret × Shared
  | .observe, w, s => (w, s)
  | .getChannel id, w, s => ((w.read (s.db.channels.find? id)).join, s)
  | .findChannels, w, s => (w.read s.db.channels, s)
  | .findAbilities channels, w, s =>
    (readAbilities w s, if (buildIndex channels.rows (readAbilities w s).rows).isSome then s
      else { s with panics := s.panics + 1 })
  | .statement st, w, s => execStatement st w s
  | .cacheGetChannel id, _, s =>
    let cache := (s.nodes node).cache
    ((cache.channelsIDM id).map fun c => (cache.generation, c), s)
  | .storeCached generation c, _, s =>
    ((), s.setNode node { s.nodes node with cache := (s.nodes node).cache.store generation c })
  | .cacheUpdateStatus id status, _, s =>
    ((), s.setNode node (((s.nodes node).updateStatus id status).note s.db.disabled))
  | .swap snapshot, _, s =>
    ((), s.setNode node (((s.nodes node).swapIn snapshot).note s.db.disabled))

def machine : Machine Op Op.Ret World Shared := ⟨exec, fun _ _ _ => true, fun _ s => s⟩

end ZModel.Channels
