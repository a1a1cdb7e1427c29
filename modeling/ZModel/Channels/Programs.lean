import ZModel.Channels.Machine

/-!
# The programs on channels

Synchronisation, changes of status, insertion, update and deletion, and `FixAbility`. Reading
settings that cannot be decoded saves the row with the status it had then.
-/

namespace ZModel.Channels

open Lib Program

structure Config where
  memoryCacheEnabled : Bool

inductive Job where
  | syncChannelCache
  | fixAbility
  | insert (c : Channel)
  | batchInsert (cs : List Channel)
  | update (c : Channel)
  | delete (id : Nat)
  | batchDelete (ids : List Nat)
  | deleteDisabled
  | setStatus (id : Nat) (status : ChannelStatus)
  | batchSetStatus (ids : List Nat) (status : ChannelStatus)
  | setStatusByTag (tag : String) (enable : Bool)
  | failingRequest (id : Nat)
  | noInstance (id : Nat)
  | disableChannel (id : Nat) (usingKey reason : String)
  | testChannels (passiveRecovery : Bool)

abbrev Prog := Program Op Op.Ret Job

def perform (o : Op) : Prog o.Ret := call o

variable (c : Channel)

def Channel.withSettings : Channel :=
  if c.type = channelTypeAdvancedCustom then c.getOtherSettings.getD c else c

theorem Channel.withSettings_id : c.withSettings.id = c.id := by
  unfold Channel.withSettings Channel.getOtherSettings
  split
  · split <;> rfl
  · rfl

def saveChanged : Option Channel → Prog Unit
  | none => pure ()
  | some c => do
    let _ ← perform (.statement (.save c))
    pure ()

def saveSettings (channels : Table Channel) : Prog Unit :=
  forEach (fun c => saveChanged (if c.type = channelTypeAdvancedCustom then c.getOtherSettings
    else none)) channels.rows

def buildAndSwap (channels : Table Channel) (abilities : Table Ability) : Prog Unit :=
  match h : buildIndex channels.rows abilities.rows with
  | none => pure ()
  | some index => perform (.swap ⟨channels, abilities, index, h⟩)

variable (cfg : Config)

def initChannelCache : Prog Unit :=
  if cfg.memoryCacheEnabled then do
    let found ← perform .findChannels
    let read := found.getD Table.empty
    saveSettings read
    let channels := read.mapRows Channel.withSettings Channel.withSettings_id
    let abilities ← perform (.findAbilities channels)
    buildAndSwap channels abilities
  else pure ()

def Channel.withStatus (usingKey : String) (status : ChannelStatus) (reason : String)
    (now : Int) : Channel :=
  if c.channelInfo.isMultiKey then handlerMultiKeyUpdate c usingKey status reason now
  else { c.note reason now with status }

def updateAbilityStatus (c c' : Channel) (status : ChannelStatus) : Prog Unit :=
  if c.channelInfo.isMultiKey && c.status = c'.status then pure ()
  else do
    let _ ← perform (.statement (.abilityStatus c.id (status = .enabled)))
    pure ()

def storeChannelStatus (actor : Actor) (id : Nat) (usingKey : String) (status : ChannelStatus)
    (reason : String) : Prog Bool := do
  let w ← perform .observe
  let found ← perform (.getChannel id)
  match found with
  | none => pure false
  | some c =>
    if c.status = status then pure false
    else do
      let c' := c.withStatus usingKey status reason w.now
      let saved ← perform (.statement (.saveWithoutKey actor c'))
      updateAbilityStatus c c' status
      pure saved

def updateCachedKeys (id generation : Nat) (c : Channel) (usingKey : String)
    (status : ChannelStatus) (reason : String) : Prog Unit := do
  let w ← perform .observe
  let c' := handlerMultiKeyUpdate c usingKey status reason w.now
  perform (.storeCached generation c')
  if c.status = c'.status then pure () else perform (.cacheUpdateStatus id c'.status)

def updateChannelStatus (actor : Actor) (id : Nat) (usingKey : String)
    (status : ChannelStatus) (reason : String) : Prog Bool :=
  if cfg.memoryCacheEnabled then do
    let cached ← perform (.cacheGetChannel id)
    match cached with
    | none => pure false
    | some (generation, c) =>
      if c.channelInfo.isMultiKey then do
        updateCachedKeys id generation c usingKey status reason
        storeChannelStatus actor id usingKey status reason
      else if c.status = status then pure false
      else do
        perform (.cacheUpdateStatus id status)
        storeChannelStatus actor id usingKey status reason
  else storeChannelStatus actor id usingKey status reason

def isManageableChannelStatus (status : ChannelStatus) : Bool :=
  status = .enabled || status = .manuallyDisabled

def setStatuses (cfg : Config) (status : ChannelStatus) (reason : String) : List Nat → Prog Bool
  | [] => pure false
  | id :: ids => do
    let changed ← updateChannelStatus cfg .administrator id "" status reason
    let rest ← setStatuses cfg status reason ids
    pure (changed || rest)

def manageStatus (status : ChannelStatus) (reason : String) (ids : List Nat) : Prog Unit :=
  if isManageableChannelStatus status then do
    let changed ← setStatuses cfg status reason ids
    if changed then initChannelCache cfg else pure ()
  else pure ()

def manageTagStatus (tag : String) (enable : Bool) : Prog Unit := do
  let stored ← perform (.statement (.statusByTag tag (if enable then .enabled else .manuallyDisabled)))
  if stored then do
    let updated ← perform (.statement (.abilityStatusByTag tag enable))
    if updated then initChannelCache cfg else pure ()
  else pure ()

variable (id : Nat)

def disableChannel (usingKey reason : String) : Prog Unit := do
  let _ ← updateChannelStatus cfg .automatic id usingKey .autoDisabled reason
  pure ()

def enableChannel (usingKey : String) : Prog Unit := do
  let _ ← updateChannelStatus cfg .automatic id usingKey .enabled ""
  pure ()

def setupContext : Prog Unit := do
  saveChanged c.getSetting
  saveChanged (c.getSetting.getD c).getOtherSettings

def requestChannel : Prog (Option Channel) :=
  if cfg.memoryCacheEnabled then do
    let cached ← perform (.cacheGetChannel id)
    pure (cached.map Prod.snd)
  else perform (.getChannel id)

def failingRequest : Prog Unit := do
  let found ← requestChannel cfg id
  match found with
  | none => pure ()
  | some c => do
    setupContext c
    let w ← perform .observe
    if w.automaticDisableChannelEnabled && w.test.shouldDisable && c.getAutoBan then
      start (.disableChannel id w.test.usingKey "error")
    else pure ()

def noInstance : Prog Unit := do
  let found ← perform (.getChannel id)
  match found with
  | none => pure ()
  | some c => do
    let w ← perform .observe
    if c.getAutoBan && w.automaticDisableChannelEnabled then do
      let _ ← updateChannelStatus cfg .automatic id "" .manuallyDisabled
        "No available account instance"
      pure ()
    else pure ()

def shouldBanChannel (w : World) : Bool :=
  w.automaticDisableChannelEnabled && (w.test.failed && w.test.shouldDisable || w.test.tooSlow)

def testFailed (w : World) : Bool :=
  w.test.failed || w.automaticDisableChannelEnabled && w.test.tooSlow

def shouldEnableChannel (w : World) (status : ChannelStatus) : Bool :=
  w.automaticEnableChannelEnabled && !testFailed w && status = .autoDisabled

def judgeChannel (allowDisable : Bool) (c : Channel) (w : World) : Prog Unit :=
  if allowDisable && c.status = .enabled && shouldBanChannel w && c.getAutoBan then
    start (.disableChannel c.id w.test.usingKey "error")
  else if !w.test.localErr && c.status ≠ .enabled && shouldEnableChannel w c.status then
    enableChannel cfg c.id w.test.usingKey
  else pure ()

def testChannel (allowDisable : Bool) (c : Channel) : Prog Unit :=
  if c.status = .manuallyDisabled then pure ()
  else do
    setupContext c
    let w ← perform .observe
    judgeChannel cfg allowDisable c w

def selectChannelsForAutomaticTest (channels : List Channel) (passiveRecovery : Bool) :
    List Channel :=
  channels.filter fun c =>
    c.status ≠ .manuallyDisabled && (!passiveRecovery || c.status = .autoDisabled)

def testChannels (passiveRecovery : Bool) : Prog Unit := do
  let found ← perform .findChannels
  match found with
  | none => pure ()
  | some channels =>
    forEach (testChannel cfg !passiveRecovery)
      (selectChannelsForAutomaticTest channels.rows passiveRecovery)

def addChunks : List (List Ability) → Prog Bool
  | [] => pure true
  | chunk :: chunks => do
    let added ← perform (.statement (.createAbilities chunk))
    if added then addChunks chunks else pure false

def addAbilities : Prog Bool := addChunks (c.abilities.toChunks 50)

def insertChannel : Prog Unit := do
  let created ← perform (.statement (.create c))
  if created then do
    let _ ← addAbilities c
    pure ()
  else pure ()

def manage (st : Statement) : Prog Unit := do
  let stored ← perform (.statement st)
  if stored then initChannelCache cfg else pure ()

def storedKeys : Prog (Option Channel) :=
  if c.channelInfo.isMultiKey && c.key = "" then perform (.getChannel c.id) else pure none

def refreshAbilities (c : Channel) : Prog Unit := do
  let found ← perform (.getChannel c.id)
  manage cfg (.updateAbilities (found.getD c))

def updateChannel (c : Channel) : Prog Unit := do
  let stored ← storedKeys c
  let info := (c.update (stored.getD c)).channelInfo
  let updated ← perform (.statement (.updates { c with channelInfo := info }))
  if updated then refreshAbilities cfg c else pure ()

def deleteChannel : Prog Unit := do
  let deleted ← perform (.statement (.delete id))
  if deleted then manage cfg (.deleteAbilities [id]) else pure ()

def fixChunk (chunk : List Channel) : Prog Unit := do
  let deleted ← perform (.statement (.deleteAbilities (chunk.map Channel.id)))
  if deleted then
    forEach (fun c => do
      let _ ← addAbilities c
      pure ()) chunk
  else pure ()

def fixChannels : Prog Unit := do
  let found ← perform .findChannels
  match found with
  | none => pure ()
  | some channels =>
    if channels.rows = [] then pure ()
    else do
      forEach fixChunk (channels.rows.toChunks 50)
      initChannelCache cfg

def fixAbility : Prog Unit := do
  let truncated ← perform (.statement .truncateAbilities)
  if truncated then fixChannels cfg else pure ()

def program : Job → Prog Unit
  | .syncChannelCache => initChannelCache cfg
  | .fixAbility => fixAbility cfg
  | .insert c => insertChannel c
  | .batchInsert cs => manage cfg (.batchInsert cs)
  | .update c => updateChannel cfg c
  | .delete id => deleteChannel cfg id
  | .batchDelete ids => manage cfg (.batchDelete ids)
  | .deleteDisabled => manage cfg .deleteDisabled
  | .setStatus id status => manageStatus cfg status "manual operation" [id]
  | .batchSetStatus ids status => manageStatus cfg status "manual batch operation" ids
  | .setStatusByTag tag enable => manageTagStatus cfg tag enable
  | .failingRequest id => failingRequest cfg id
  | .noInstance id => noInstance cfg id
  | .disableChannel id usingKey reason => disableChannel cfg id usingKey reason
  | .testChannels passiveRecovery => testChannels cfg passiveRecovery

abbrev ChannelSystem := System Op Op.Ret Job Shared

abbrev step (cfg : Config) : ChannelSystem → Move Job World → ChannelSystem :=
  System.step machine (program cfg)

def initial (db : Database) : ChannelSystem := ⟨{ db := db }, []⟩

end ZModel.Channels
