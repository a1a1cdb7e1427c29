import ZModel.Channels.MultiKey
import ZModel.Store.Quota

/-!
# The statements on channels and abilities

A row that is saved is written as a whole, with the status that was read before: by an administrator
(`setsStatus`) or by an automatic step (`automaticSave`).
-/

namespace ZModel.Channels

open Lib

structure Database where
  channels : Table Channel := Table.empty
  abilities : Table Ability := Table.empty

def Database.status (db : Database) (id : Nat) : Option ChannelStatus :=
  (db.channels.find? id).map Channel.status

inductive Actor where
  | administrator
  | automatic

inductive Statement where
  | create (c : Channel)
  | batchInsert (cs : List Channel)
  | saveWithoutKey (actor : Actor) (c : Channel)
  | save (c : Channel)
  | updates (c : Channel)
  | statusByTag (tag : String) (status : ChannelStatus)
  | delete (id : Nat)
  | batchDelete (ids : List Nat)
  | deleteDisabled
  | createAbilities (rows : List Ability)
  | updateAbilities (c : Channel)
  | abilityStatus (id : Nat) (enabled : Bool)
  | abilityStatusByTag (tag : String) (enabled : Bool)
  | deleteAbilities (ids : List Nat)
  | truncateAbilities

def orText (new old : String) : String := if new = "" then old else new

def JsonColumn.or {α : Type} (new old : JsonColumn α) : JsonColumn α :=
  match new with
  | .absent => old
  | new => new

def Channel.updates (stored c : Channel) : Channel where
  id := stored.id
  type := if c.type = 0 then stored.type else c.type
  key := orText c.key stored.key
  status := if c.status = .unknown then stored.status else c.status
  weight := c.weight.or stored.weight
  models := orText c.models stored.models
  group := orText c.group stored.group
  priority := c.priority.or stored.priority
  autoBan := c.autoBan.or stored.autoBan
  otherInfo := if c.otherInfo = {} then stored.otherInfo else c.otherInfo
  tag := c.tag.or stored.tag
  setting := c.setting.or stored.setting
  channelInfo := c.channelInfo
  otherSettings := c.otherSettings.or stored.otherSettings

def insertAbilities (abilities : Table Ability) (rows : List Ability) : Table Ability :=
  rows.foldl (fun t a => (t.create a).getD t) abilities

def insertChannels (db : Database) : List Channel → Option Database
  | [] => some db
  | c :: cs =>
    match db.channels.create c with
    | none => none
    | some channels =>
      insertChannels
        { channels := channels, abilities := insertAbilities db.abilities c.abilities } cs

variable (db : Database)

def Database.enableAbilities (p : Ability → Bool) (enabled : Bool) : Database :=
  { db with
    abilities := db.abilities.mapRows (fun a => { a with enabled := if p a then enabled else a.enabled })
      fun _ => rfl }

def Database.saveRow (c : Channel) : Database :=
  { db with channels := db.channels.put c }

def Database.upsertRow (c : Channel) : Database :=
  match db.channels.create c with
  | none => db.saveRow c
  | some channels => { db with channels }

def Statement.run : Statement → Option Database
  | .create c => (db.channels.create c).map fun channels => { db with channels }
  | .batchInsert cs => insertChannels db cs
  | .saveWithoutKey _ c =>
    (db.channels.find? c.id).map fun stored => db.saveRow { c with key := stored.key }
  | .save c => some (db.upsertRow c)
  | .updates c => some { db with channels := db.channels.modify c.id fun stored => stored.updates c }
  | .statusByTag tag status =>
    some
      { db with
        channels := db.channels.mapRows
          (fun c => { c with status := if c.tag = some tag then status else c.status })
          fun _ => rfl }
  | .delete id => some { db with channels := db.channels.filterRows fun c => c.id ≠ id }
  | .batchDelete ids =>
    some
      { channels := db.channels.filterRows fun c => c.id ∉ ids
        abilities := db.abilities.filterRows fun a => a.channelId ∉ ids }
  | .deleteDisabled =>
    some
      { db with
        channels := db.channels.filterRows fun c =>
          c.status ≠ .autoDisabled && c.status ≠ .manuallyDisabled }
  | .createAbilities rows => some { db with abilities := insertAbilities db.abilities rows }
  | .updateAbilities c =>
    some
      { db with
        abilities :=
          insertAbilities (db.abilities.filterRows fun a => a.channelId ≠ c.id) c.abilities }
  | .abilityStatus id enabled =>
    some (db.enableAbilities (fun a => a.channelId = id) enabled)
  | .abilityStatusByTag tag enabled =>
    some (db.enableAbilities (fun a => a.tag = some tag) enabled)
  | .deleteAbilities ids =>
    some { db with abilities := db.abilities.filterRows fun a => a.channelId ∉ ids }
  | .truncateAbilities => some { db with abilities := Table.empty }

def Statement.setsStatus (st : Statement) (db : Database) (id : Nat) : Bool :=
  match st with
  | .saveWithoutKey .administrator row => row.id = id
  | .statusByTag tag _ => (db.channels.find? id).any fun c => c.tag = some tag
  | .updates row => row.id = id && row.status ≠ .unknown
  | _ => false

def Statement.automaticSave : Statement → Option Channel
  | .saveWithoutKey .automatic c => some c
  | .save c => some c
  | _ => none

def Statement.abilitiesOnly : Statement → Bool
  | .createAbilities _ | .updateAbilities _ | .abilityStatus _ _ | .abilityStatusByTag _ _
  | .deleteAbilities _ | .truncateAbilities => true
  | _ => false

section Status

variable {db db' : Database} {st : Statement} {id : Nat}

theorem run_abilitiesOnly (hst : st.abilitiesOnly = true) (h : st.run db = some db') :
    db'.channels = db.channels := by
  cases st with
  | createAbilities | updateAbilities | abilityStatus | abilityStatusByTag | deleteAbilities
  | truncateAbilities =>
    cases h
    rfl
  | _ => cases hst

theorem status_saveRow (db : Database) (row : Channel) (id : Nat) : (db.saveRow row).status id =
      if id = row.id then (db.status id).map fun _ => row.status else db.status id := by
  unfold Database.status Database.saveRow
  rw [Table.find?_put]
  by_cases hid : id = row.id
  · rw [if_pos hid, if_pos (show id = key row from hid), Option.map_map, Option.map_map]
    rfl
  · rw [if_neg hid, if_neg (show id ≠ key row from hid)]

theorem status_upsertRow (hstored : db.status id ≠ none) (row : Channel) :
    (db.upsertRow row).status id = if id = row.id then some row.status else db.status id := by
  unfold Database.upsertRow
  split
  · rw [status_saveRow]
    obtain ⟨status, hstatus⟩ := Option.ne_none_iff_exists'.mp hstored
    rw [hstatus]
    rfl
  rename_i channels hcreate
  have hne : id ≠ row.id := by
    rintro rfl
    have hfresh := Table.create_fresh hcreate
    exact hstored (congrArg (Option.map Channel.status) hfresh)
  rw [if_neg hne]
  show (channels.find? id).map Channel.status = _
  rw [Table.find?_create hcreate, if_neg (show id ≠ key row from hne)]
  rfl

theorem run_automaticSave {row : Channel} (hst : st.automaticSave = some row)
    (h : st.run db = some db') (hstored : db.status id ≠ none) :
    db'.status id = if id = row.id then some row.status else db.status id := by
  cases st with
  | saveWithoutKey actor c =>
    cases actor with
    | administrator => cases hst
    | automatic =>
      cases hst
      obtain ⟨stored, -, rfl⟩ := Option.map_eq_some_iff.mp h
      rw [status_saveRow]
      obtain ⟨status, hstatus⟩ := Option.ne_none_iff_exists'.mp hstored
      rw [hstatus]
      rfl
  | save c =>
    cases hst
    cases h
    exact status_upsertRow hstored row
  | _ => cases hst

end Status

end ZModel.Channels
