import ZModel.Channels.KeyOperations

/-!
# The abilities mirror the channels

The abilities stay those of the channels under the changes of `model/channel.go`, unless two pairs
of names have the same key text or a weight of zero is set for a tag.
-/

namespace ZModel.Channels

open Lib

structure TagEdit where
  tag : String
  newTag : Option String := none
  models : Option String := none
  group : Option String := none
  priority : Option Int := none
  weight : Option Nat := none

variable (e : TagEdit)

variable (c : Channel)

def TagEdit.row : Channel :=
  if c.tag = some e.tag then
    { c with
      tag := (e.newTag.filter fun t => t ≠ e.tag).or c.tag
      models := orText (e.models.getD "") c.models
      group := orText (e.group.getD "") c.group
      priority := e.priority.or c.priority
      weight := e.weight.or c.weight }
  else c

theorem TagEdit.row_id : (e.row c).id = c.id := by
  unfold TagEdit.row
  split <;> rfl

def TagEdit.recreates : Bool := e.models.getD "" ≠ "" || e.group.getD "" ≠ ""

/-- `UpdateAbilityByTag`: a weight of zero is not written. -/
def TagEdit.ability (a : Ability) : Ability :=
  if a.tag = some e.tag then
    { a with
      tag := e.newTag.or a.tag
      priority := e.priority.getD a.priority
      weight := if e.weight.getD 0 = 0 then a.weight else e.weight.getD 0 }
  else a

theorem TagEdit.ability_names (a : Ability) :
    (e.ability a).channelId = a.channelId ∧ (e.ability a).group = a.group ∧
      (e.ability a).model = a.model := by
  unfold TagEdit.ability
  split <;> exact ⟨rfl, rfl, rfl⟩

/-- The changes. Channels are created by lists; `update` is also the end of `ManageMultiKeys`. -/
inductive ChannelEdit where
  | insert (cs : List Channel)
  | update (c : Channel)
  | setStatus (id : Nat) (usingKey : String) (status : ChannelStatus) (reason : String) (now : Int)
  | setStatusByTag (tag : String) (enable : Bool)
  | editByTag (e : TagEdit)
  | fixAbility

def renewAbilities (abilities : Table Ability) (c : Channel) : Table Ability :=
  insertAbilities (abilities.filterRows fun a => a.channelId ≠ c.id) c.abilities

variable (db : Database)

def Database.update (c : Channel) : Database :=
  let channels := db.channels.modify c.id fun stored => stored.writeKeys c
  { channels := channels, abilities := renewAbilities db.abilities ((channels.find? c.id).getD c) }

def Database.setStatus (c : Channel) (usingKey : String) (status : ChannelStatus)
    (reason : String) (now : Int) : Database :=
  let c' := c.withStatus usingKey status reason now
  let db' := db.saveRow { c' with key := c.key }
  if c.channelInfo.isMultiKey && c.status = c'.status then db'
  else db'.enableAbilities (fun a => a.channelId = c.id) (status = .enabled)

def applyEdit : ChannelEdit → Database
  | .insert cs => (insertChannels db cs).getD db
  | .update c => db.update c
  | .setStatus id usingKey status reason now =>
    match db.channels.find? id with
    | none => db
    | some c => if c.status = status then db else db.setStatus c usingKey status reason now
  | .setStatusByTag tag enable =>
    let status := if enable then .enabled else .manuallyDisabled
    { db with
      channels := db.channels.mapRows
        (fun c => { c with status := if c.tag = some tag then status else c.status }) fun _ => rfl
      }.enableAbilities (fun a => a.tag = some tag) enable
  | .editByTag e =>
    let channels := db.channels.mapRows e.row e.row_id
    let renewed := channels.rows.filter fun c => c.tag = some (e.newTag.getD e.tag)
    { channels := channels
      abilities :=
        if e.recreates then renewed.foldl renewAbilities db.abilities
        else db.abilities.mapRows e.ability fun a => by
          obtain ⟨hid, hgroup, hmodel⟩ := e.ability_names a
          exact Prod.ext hgroup (Prod.ext hmodel hid) }
  -- The table is emptied, and each chunk of channels is deleted and added again.
  | .fixAbility => { db with abilities := db.channels.rows.foldl renewAbilities Table.empty }

/-- An ability of the channel: one of its pairs of names, with its own columns. -/
structure Channel.Covers (c : Channel) (a : Ability) : Prop where
  channelId : a.channelId = c.id
  group : a.group ∈ c.groups
  model : a.model ∈ c.modelNames
  enabled : a.enabled = decide (c.status = .enabled)
  priority : a.priority = c.getPriority
  weight : a.weight = c.getWeight
  tag : a.tag = c.tag

def Mirrored : Prop :=
  ∀ a, a ∈ db.abilities.rows ↔ ∃ c ∈ db.channels.find? a.channelId, c.Covers a

def Channel.Separate : Prop :=
  ∀ p ∈ c.abilityPairs, ∀ q ∈ c.abilityPairs, abilityKey p = abilityKey q → p = q

structure Mirror (db : Database) : Prop where
  mirrored : Mirrored db
  separate : ∀ c ∈ db.channels.rows, c.Separate

theorem Channel.Separate.of_eq {c c' : Channel} (h : c.Separate) (hgroup : c'.group = c.group)
    (hmodels : c'.models = c.models) : c'.Separate := by
  unfold Channel.Separate Channel.abilityPairs Channel.groups Channel.modelNames at h ⊢
  rwa [hgroup, hmodels]

section Renew

variable {db : Database} {t : Table Ability} {c : Channel} {a : Ability}

theorem mem_abilities_iff (h : c.Separate) : a ∈ c.abilities ↔ c.Covers a := by
  have hnames : (a.group, a.model) ∈ c.abilityNames ↔
      a.group ∈ c.groups ∧ a.model ∈ c.modelNames := by
    rw [← mem_abilityPairs]
    refine ⟨fun hmem => keepNew_sublist.subset hmem, fun hmem => ?_⟩
    obtain ⟨q, hq, hkey⟩ := exists_mem_keepNew_nil (f := abilityKey) hmem
    exact h q (keepNew_sublist.subset hq) _ hmem hkey ▸ hq
  rw [mem_abilities, hnames]
  constructor
  · rintro ⟨⟨h1, h2⟩, h3, h4, h5, h6, h7⟩
    exact ⟨h3, h1, h2, h4, h5, h6, h7⟩
  · rintro ⟨h1, h2, h3, h4, h5, h6, h7⟩
    exact ⟨⟨h2, h3⟩, h1, h4, h5, h6, h7⟩

theorem mem_insertAbilities {rows : List Ability} (hnodup : (rows.map key).Nodup)
    (hfresh : ∀ b ∈ rows, t.find? (key b) = none) :
    a ∈ (insertAbilities t rows).rows ↔ a ∈ t.rows ∨ a ∈ rows := by
  induction rows generalizing t with
  | nil => simp [insertAbilities]
  | cons b rows ih =>
    obtain ⟨hb, hnodup⟩ := List.nodup_cons.mp hnodup
    obtain ⟨t', hcreate⟩ := Option.ne_none_iff_exists'.mp
      (Table.create_ne_none (hfresh b (.head _)))
    have hstep : insertAbilities t (b :: rows) = insertAbilities t' rows := by
      rw [insertAbilities, List.foldl_cons, hcreate]
      rfl
    rw [hstep, ih hnodup, Table.mem_create hcreate, List.mem_cons, or_assoc]
    intro b' hb'
    rw [Table.find?_create hcreate, if_neg]
    · exact hfresh b' (.tail _ hb')
    · exact fun heq => hb (heq ▸ List.mem_map_of_mem hb')

theorem mem_addAbilities (h : c.Separate) (hnone : ∀ b ∈ t.rows, b.channelId ≠ c.id) :
    a ∈ (insertAbilities t c.abilities).rows ↔
      if a.channelId = c.id then c.Covers a else a ∈ t.rows := by
  rw [mem_insertAbilities (abilities_nodup c), mem_abilities_iff h]
  · split
    next hid =>
      exact or_iff_right fun hmem => hnone a hmem hid
    next hid =>
      exact or_iff_left fun hcovers => hid hcovers.channelId
  intro b hb
  refine Table.find?_eq_none_iff.mpr fun b' hb' heq => hnone b' hb' ?_
  have hid : b'.channelId = b.channelId := congrArg (fun k => k.2.2) heq
  exact hid.trans ((mem_abilities_iff h).mp hb).channelId

theorem mem_renewAbilities (h : c.Separate) :
    a ∈ (renewAbilities t c).rows ↔ if a.channelId = c.id then c.Covers a else a ∈ t.rows := by
  unfold renewAbilities
  have hnone : ∀ b ∈ (t.filterRows fun a => a.channelId ≠ c.id).rows, b.channelId ≠ c.id :=
    fun b hb => of_decide_eq_true (List.mem_filter.mp hb).2
  rw [mem_addAbilities h hnone]
  split
  · rfl
  next hid =>
    exact List.mem_filter.trans (and_iff_left (decide_eq_true hid))

theorem mem_foldl_renew {cs : List Channel} (hids : (cs.map Channel.id).Nodup)
    (h : ∀ c ∈ cs, c.Separate) :
    a ∈ (cs.foldl renewAbilities t).rows ↔
      (∃ c ∈ cs, c.Covers a) ∨ (∀ c ∈ cs, a.channelId ≠ c.id) ∧ a ∈ t.rows := by
  induction cs generalizing t with
  | nil => simp
  | cons c cs ih =>
    obtain ⟨hc, hids⟩ := List.nodup_cons.mp hids
    rw [List.foldl_cons, ih hids fun c hc => h c (.tail _ hc),
      mem_renewAbilities (h c (.head _)), List.exists_mem_cons_iff,
      List.forall_mem_cons]
    split
    next hid =>
      have hothers : ∀ c' ∈ cs, a.channelId ≠ c'.id := fun c' hc' heq =>
        hc (List.mem_map.mpr ⟨c', hc', heq.symm.trans hid⟩)
      have hnone : ¬∃ c ∈ cs, c.Covers a := fun ⟨c', hc', hcovers⟩ =>
        hothers c' hc' hcovers.channelId
      rw [or_iff_right hnone, or_iff_left fun h => h.1.1 hid, or_iff_left hnone]
      exact and_iff_right hothers
    next hid =>
      have hnot : ¬c.Covers a := fun hcovers => hid hcovers.channelId
      simp [hid, hnot]

theorem mirrored_renew {channels : Table Channel} (hseparate : ∀ c ∈ channels.rows, c.Separate)
    (p : Channel → Bool)
    (hothers : ∀ a, (∀ c ∈ channels.find? a.channelId, p c = false) →
      (a ∈ t.rows ↔ ∃ c ∈ channels.find? a.channelId, c.Covers a)) :
    Mirrored ⟨channels, (channels.rows.filter p).foldl renewAbilities t⟩ := by
  intro a
  have hids : ((channels.rows.filter p).map Channel.id).Nodup :=
    channels.nodup.sublist (List.filter_sublist.map _)
  refine (mem_foldl_renew hids fun c hc => hseparate c (List.mem_filter.mp hc).1).trans ?_
  by_cases hrenewed : ∃ c ∈ channels.find? a.channelId, p c = true
  · obtain ⟨c, hc, hp⟩ := hrenewed
    obtain ⟨hrow, hid⟩ := Table.find?_eq_some_iff.mp hc
    have hmem : c ∈ channels.rows.filter p := List.mem_filter.mpr ⟨hrow, hp⟩
    rw [or_iff_left fun h => h.1 c hmem hid.symm]
    constructor
    · rintro ⟨c', hc', hcovers⟩
      exact ⟨c', Table.find?_eq_some_iff.mpr
        ⟨(List.mem_filter.mp hc').1, hcovers.channelId.symm⟩, hcovers⟩
    · rintro ⟨c', hc', hcovers⟩
      obtain rfl := Option.some.inj (hc.symm.trans hc')
      exact ⟨c, hmem, hcovers⟩
  have hnone : ∀ c ∈ channels.find? a.channelId, p c = false := fun c hc =>
    Bool.eq_false_iff.mpr fun hp => hrenewed ⟨c, hc, hp⟩
  have hids : ∀ c ∈ channels.rows.filter p, a.channelId ≠ c.id := by
    intro c hc hid
    obtain ⟨hrow, hp⟩ := List.mem_filter.mp hc
    exact hrenewed ⟨c, Table.find?_eq_some_iff.mpr ⟨hrow, hid.symm⟩, hp⟩
  rw [or_iff_right fun ⟨c, hc, hcovers⟩ => hids c hc hcovers.channelId, and_iff_right hids]
  exact hothers a hnone

theorem Mirror.patch (h : Mirror db) {channels : Table Channel} {abilities : Table Ability}
    {g : Channel → Channel} {f : Ability → Ability}
    (hchannels : ∀ id, channels.find? id = (db.channels.find? id).map g)
    (habilities : abilities.rows = db.abilities.rows.map f)
    (hf : ∀ a, (f a).channelId = a.channelId ∧ (f a).group = a.group ∧ (f a).model = a.model)
    (hg : ∀ c ∈ db.channels.rows, (g c).group = c.group ∧ (g c).models = c.models ∧
      ∀ a, c.Covers a → (g c).Covers (f a)) :
    Mirror ⟨channels, abilities⟩ := by
  refine ⟨fun a => ?_, fun r hr => ?_⟩
  · dsimp only
    rw [habilities, hchannels]
    constructor
    · intro hmem
      obtain ⟨a₀, ha₀, rfl⟩ := List.mem_map.mp hmem
      obtain ⟨c, hc, hca⟩ := (h.mirrored a₀).mp ha₀
      refine ⟨g c, ?_, (hg c (Table.find?_mem hc)).2.2 a₀ hca⟩
      rw [(hf a₀).1, show db.channels.find? a₀.channelId = some c from hc]
      rfl
    rintro ⟨c', hc', hca⟩
    obtain ⟨c, hc, rfl⟩ := Option.map_eq_some_iff.mp hc'
    -- the ability of the same names before
    let a₀ : Ability := ⟨a.group, a.model, a.channelId, c.status = .enabled, c.getPriority,
      c.getWeight, c.tag⟩
    obtain ⟨hgroups, hmodels, hcovers⟩ := hg c (Table.find?_mem hc)
    have hgroup : a.group ∈ split ',' c.group := hgroups ▸ hca.group
    have hmodel : a.model ∈ split ',' c.models := hmodels ▸ hca.model
    have ha₀ : c.Covers a₀ := ⟨(Table.find?_key hc).symm, hgroup, hmodel, rfl, rfl, rfl, rfl⟩
    have hfa := hcovers a₀ ha₀
    obtain ⟨hid, hgroup, hmodel⟩ := hf a₀
    exact List.mem_map.mpr ⟨a₀, (h.mirrored a₀).mpr ⟨c, hc, ha₀⟩,
      Ability.ext hgroup hmodel hid (hfa.enabled.trans hca.enabled.symm)
        (hfa.priority.trans hca.priority.symm) (hfa.weight.trans hca.weight.symm)
        (hfa.tag.trans hca.tag.symm)⟩
  have hrow := Table.find?_eq_some_iff.mpr ⟨hr, rfl⟩
  rw [hchannels] at hrow
  obtain ⟨c, hc, rfl⟩ := Option.map_eq_some_iff.mp hrow
  have hc := Table.find?_mem hc
  exact (h.separate c hc).of_eq (hg c hc).1 (hg c hc).2.1

end Renew

/-- The pairs of names stay separate, and the weight that is set for a tag is not lost. -/
def EditFits : ChannelEdit → Prop
  | .insert cs => ∀ c ∈ cs, c.Separate
  | .update c => ∃ stored ∈ db.channels.find? c.id, (stored.writeKeys c).Separate
  | .editByTag e => ∀ c ∈ db.channels.rows, c.tag = some e.tag →
    if e.recreates then (e.row c).Separate else e.weight = some 0 → c.getWeight = 0
  | _ => True

section Edits

variable {db db' : Database} {c : Channel}

theorem Mirror.insert {cs : List Channel} (h : Mirror db) (hcs : ∀ c ∈ cs, c.Separate)
    (hrun : insertChannels db cs = some db') : Mirror db' := by
  induction cs generalizing db with
  | nil =>
    cases hrun
    exact h
  | cons c cs ih =>
    unfold insertChannels at hrun
    split at hrun
    · cases hrun
    rename_i channels hcreate
    have hc := hcs c (.head _)
    refine ih ⟨fun a => ?_, fun c' hc' => ?_⟩ (fun c hc => hcs c (.tail _ hc)) hrun
    · have hfresh : db.channels.find? c.id = none := Table.create_fresh hcreate
      have hnone : ∀ b ∈ db.abilities.rows, b.channelId ≠ c.id := by
        intro b hb hid
        obtain ⟨c', hc', -⟩ := (h.mirrored b).mp hb
        rw [hid, hfresh] at hc'
        cases hc'
      refine (mem_addAbilities hc hnone).trans ?_
      rw [Table.find?_create hcreate]
      by_cases hid : a.channelId = c.id
      · rw [if_pos hid, if_pos (show a.channelId = key c from hid)]
        simp
      · rw [if_neg hid, if_neg (show a.channelId ≠ key c from hid)]
        exact h.mirrored a
    · obtain hc' | rfl := (Table.mem_create hcreate).mp hc'
      · exact h.separate c' hc'
      · exact hc

theorem Mirror.update (h : Mirror db) {stored : Channel} (hstored : db.channels.find? c.id = some stored)
    (hc : (stored.writeKeys c).Separate) : Mirror (db.update c) := by
  have hid : stored.id = c.id := Table.find?_key hstored
  have hfind : ∀ id, (db.channels.modify c.id fun stored => stored.writeKeys c).find? id =
      if id = c.id then some (stored.writeKeys c) else db.channels.find? id := by
    intro id
    rw [Table.find?_modify (f := fun stored => stored.writeKeys c) db.channels c.id id fun _ => rfl]
    split
    next heq =>
      rw [heq, hstored]
      rfl
    · rfl
  unfold Database.update
  dsimp only
  rw [hfind, if_pos rfl]
  refine ⟨fun a => (mem_renewAbilities hc).trans ?_, fun c' hc' => ?_⟩
  · dsimp only
    rw [hfind, show (stored.writeKeys c).id = c.id from hid]
    split
    · simp
    · exact h.mirrored a
  have hrow := Table.find?_eq_some_iff.mpr ⟨hc', rfl⟩
  rw [hfind] at hrow
  split at hrow
  · exact Option.some.inj hrow ▸ hc
  · exact h.separate c' (Table.find?_mem hrow)

structure SameColumns (c c' : Channel) : Prop where
  id : c'.id = c.id
  group : c'.group = c.group
  models : c'.models = c.models
  priority : c'.priority = c.priority
  weight : c'.weight = c.weight
  tag : c'.tag = c.tag

theorem withStatus_columns (c : Channel) (usingKey : String) (status : ChannelStatus)
    (reason : String) (now : Int) : SameColumns c (c.withStatus usingKey status reason now) := by
  unfold Channel.withStatus handlerMultiKeyUpdate Channel.afterKeyStatus
  dsimp only
  repeat' split
  all_goals exact ⟨rfl, rfl, rfl, rfl, rfl, rfl⟩

theorem withStatus_enabled {usingKey reason : String} {status : ChannelStatus} {now : Int}
    (h : ¬(c.channelInfo.isMultiKey = true ∧
      c.status = (c.withStatus usingKey status reason now).status)) :
    (c.withStatus usingKey status reason now).status = .enabled ↔ status = .enabled := by
  by_cases hmulti : c.channelInfo.isMultiKey = true
  · have hne : c.status ≠ (c.withStatus usingKey status reason now).status := fun heq => h ⟨hmulti, heq⟩
    revert hne
    unfold Channel.withStatus handlerMultiKeyUpdate Channel.afterKeyStatus
    rw [if_pos hmulti]
    dsimp only
    split
    · exact fun _ => Iff.rfl
    split
    next hkey =>
      split
      · -- a key that was enabled would be found
        rename_i hnone
        refine fun _ => iff_of_false nofun fun henabled => ?_
        have hfound : hasEnabledMultiKey c.getKeys (c.channelInfo.setKeyStatus
            (c.getKeys.idxOf usingKey) status reason now).multiKeyStatusList = true := by
          refine List.any_eq_true.mpr
            ⟨_, List.mem_range.mpr (List.idxOf_lt_length_iff.mpr hkey), ?_⟩
          simp [ChannelInfo.setKeyStatus, henabled]
        rw [hfound] at hnone
        cases hnone
      split
      next henabled =>
        exact fun _ => iff_of_true rfl henabled
      · exact fun hne => absurd rfl hne
    · split
      · exact fun hne => absurd rfl hne
      · exact fun _ => Iff.rfl
  · unfold Channel.withStatus
    rw [if_neg hmulti]

theorem SameColumns.covers {c c' : Channel} (h : SameColumns c c') {a : Ability} {enabled : Bool}
    (ha : c.Covers a) (henabled : enabled = decide (c'.status = .enabled)) :
    c'.Covers { a with enabled } where
  channelId := ha.channelId.trans h.id.symm
  group := by rw [Channel.groups, h.group]; exact ha.group
  model := by rw [Channel.modelNames, h.models]; exact ha.model
  enabled := henabled
  priority := by rw [Channel.getPriority, h.priority]; exact ha.priority
  weight := by rw [Channel.getWeight, h.weight]; exact ha.weight
  tag := ha.tag.trans h.tag.symm

theorem Mirror.setStatus (h : Mirror db) (hc : db.channels.find? c.id = some c) (usingKey : String)
    (status : ChannelStatus) (reason : String) (now : Int) :
    Mirror (db.setStatus c usingKey status reason now) := by
  have hsame := withStatus_columns c usingKey status reason now
  let row : Channel := { c.withStatus usingKey status reason now with key := c.key }
  have hrow : SameColumns c row :=
    ⟨hsame.id, hsame.group, hsame.models, hsame.priority, hsame.weight, hsame.tag⟩
  have hfind : ∀ id, (db.channels.put row).find? id =
      (db.channels.find? id).map fun r => if r.id = c.id then row else r := by
    intro id
    rw [Table.find?_put, show key row = c.id from hrow.id]
    cases hid : db.channels.find? id with
    | none => simp
    | some r =>
      have hr : r.id = id := Table.find?_key hid
      rw [Option.map_some, Option.map_some, hr]
      split <;> rfl
  have hpatch : ∀ {f : Ability → Ability}, (∀ a, a.channelId ≠ c.id → f a = a) →
      (∀ a, c.Covers a → f a = { a with enabled := row.status = .enabled }) →
      ∀ r ∈ db.channels.rows, (if r.id = c.id then row else r).group = r.group ∧
        (if r.id = c.id then row else r).models = r.models ∧
        ∀ a, r.Covers a → (if r.id = c.id then row else r).Covers (f a) := by
    intro f hothers hown r hr
    split
    next hid =>
      have hstored : db.channels.find? c.id = some r := Table.find?_eq_some_iff.mpr ⟨hr, hid⟩
      obtain rfl := Option.some.inj (hc.symm.trans hstored)
      refine ⟨hrow.group, hrow.models, fun a ha => ?_⟩
      rw [hown a ha]
      exact hrow.covers ha rfl
    next hid =>
      refine ⟨rfl, rfl, fun a ha => ?_⟩
      rwa [hothers a fun heq => hid (ha.channelId.symm.trans heq)]
  unfold Database.setStatus
  dsimp only
  split
  next hunchanged =>
    have hstatus : c.status = row.status := of_decide_eq_true (Bool.and_eq_true_iff.mp hunchanged).2
    refine h.patch hfind (List.map_id _).symm (fun a => ⟨rfl, rfl, rfl⟩)
      (hpatch (fun _ _ => rfl) fun a ha => ?_)
    rw [← hstatus, ← ha.enabled]
    rfl
  rename_i hchanged
  have henabled : row.status = .enabled ↔ status = .enabled :=
    withStatus_enabled fun hno => hchanged (by simpa using hno)
  refine h.patch hfind rfl (fun a => ⟨rfl, rfl, rfl⟩) (hpatch (fun a ha => ?_) fun a ha => ?_)
  · rw [if_neg (by simpa using ha)]
  · rw [if_pos (by simpa using ha.channelId), decide_eq_decide.mpr henabled]

theorem Mirror.setStatusByTag (h : Mirror db) (tag : String) (enable : Bool) :
    Mirror (applyEdit db (.setStatusByTag tag enable)) := by
  let g := fun c : Channel =>
    { c with
      status := if c.tag = some tag then (if enable then .enabled else .manuallyDisabled)
        else c.status }
  refine h.patch (fun id => Table.find?_mapRows (f := g) db.channels (fun _ => rfl) id) rfl
    (fun a => ⟨rfl, rfl, rfl⟩) fun c _ => ⟨rfl, rfl, fun a ha => ?_⟩
  have hsame : SameColumns c (g c) := ⟨rfl, rfl, rfl, rfl, rfl, rfl⟩
  refine hsame.covers ha ?_
  by_cases htag : c.tag = some tag
  · cases enable <;> simp [g, ha.tag, htag]
  · simp [g, ha.tag, htag, ha.enabled]

theorem TagEdit.newTag_or :
    (e.newTag.filter fun t => t ≠ e.tag).or (some e.tag) = some (e.newTag.getD e.tag) := by
  cases e.newTag with
  | none => rfl
  | some t => by_cases ht : t = e.tag <;> simp [ht, Option.filter]

theorem TagEdit.covers {e : TagEdit} (hrecreates : e.recreates = false)
    (hweight : c.tag = some e.tag → e.weight = some 0 → c.getWeight = 0) :
    (e.row c).group = c.group ∧ (e.row c).models = c.models ∧
      ∀ a, c.Covers a → (e.row c).Covers (e.ability a) := by
  obtain ⟨hmodels, hgroup⟩ : e.models.getD "" = "" ∧ e.group.getD "" = "" := by
    simpa [TagEdit.recreates] using hrecreates
  unfold TagEdit.row TagEdit.ability
  by_cases htag : c.tag = some e.tag
  · rw [if_pos htag, hmodels, hgroup]
    refine ⟨rfl, rfl, fun a ha => ?_⟩
    rw [if_pos (ha.tag.trans htag), ha.tag]
    refine ⟨ha.channelId, ha.group, ha.model, ha.enabled, ?_, ?_, ?_⟩
    · show _ = (e.priority.or c.priority).getD 0
      cases e.priority with
      | none => exact ha.priority
      | some p => rfl
    · show _ = (e.weight.or c.weight).getD 0
      cases hw : e.weight with
      | none => exact ha.weight
      | some w =>
        by_cases hzero : w = 0
        · subst hzero
          exact ha.weight.trans (hweight htag hw)
        · exact if_neg hzero
    · rw [htag, e.newTag_or]
      cases e.newTag <;> rfl
  · rw [if_neg htag]
    refine ⟨rfl, rfl, fun a ha => ?_⟩
    rwa [if_neg fun h => htag (ha.tag.symm.trans h)]

theorem Mirror.editByTag (h : Mirror db) {e : TagEdit} (he : EditFits db (.editByTag e)) :
    Mirror (applyEdit db (.editByTag e)) := by
  unfold applyEdit
  dsimp only
  cases hrecreates : e.recreates with
  | false =>
    refine h.patch (fun id => Table.find?_mapRows db.channels e.row_id id) rfl e.ability_names
      fun c hc => TagEdit.covers hrecreates fun htag => ?_
    have hfits := he c hc htag
    rwa [hrecreates] at hfits
  | true =>
    have hseparate : ∀ c ∈ (db.channels.mapRows e.row e.row_id).rows, c.Separate := by
      intro row hrow
      obtain ⟨c, hc, rfl⟩ := List.mem_map.mp hrow
      by_cases htag : c.tag = some e.tag
      · have hfits := he c hc htag
        rwa [hrecreates] at hfits
      · rw [TagEdit.row, if_neg htag]
        exact h.separate c hc
    refine ⟨mirrored_renew hseparate _ fun a ha => ?_, hseparate⟩
    rw [Table.find?_mapRows] at ha ⊢
    refine (h.mirrored a).trans ?_
    cases hc : db.channels.find? a.channelId with
    | none => simp
    | some c =>
      -- a row that was edited has the new tag
      have hrow : e.row c = c := by
        rw [hc] at ha
        have hnot := of_decide_eq_false (ha _ rfl)
        unfold TagEdit.row at hnot ⊢
        refine if_neg fun htag => hnot ?_
        rw [if_pos htag, htag]
        exact e.newTag_or
      simp [hrow]

theorem Mirror.fixAbility (h : Mirror db) : Mirror (applyEdit db .fixAbility) := by
  refine ⟨?_, h.separate⟩
  have hrenew := mirrored_renew (t := .empty) h.separate (fun _ => true) fun a ha => by
    cases hc : db.channels.find? a.channelId with
    | none => simp [Table.empty]
    | some c => cases ha c hc
  rwa [List.filter_true] at hrenew

theorem Mirror.applyEdit (h : Mirror db) {edit : ChannelEdit} (hfits : EditFits db edit) :
    Mirror (applyEdit db edit) := by
  cases edit with
  | insert cs =>
    show Mirror ((insertChannels db cs).getD db)
    cases hrun : insertChannels db cs with
    | none => exact h
    | some db' => exact h.insert hfits hrun
  | update c =>
    obtain ⟨stored, hstored, hc⟩ := hfits
    exact h.update hstored hc
  | setStatus id usingKey status reason now =>
    unfold Channels.applyEdit
    dsimp only
    split
    · exact h
    rename_i c hc
    split
    · exact h
    · have hid : c.id = id := Table.find?_key hc
      exact h.setStatus (hid ▸ hc) usingKey status reason now
  | setStatusByTag tag enable => exact h.setStatusByTag tag enable
  | editByTag e => exact h.editByTag hfits
  | fixAbility => exact h.fixAbility

end Edits

/-- After every sequence of changes that all fit, the abilities are exactly those of the channels. -/
theorem mirrored_after_edits {edits : List ChannelEdit}
    (h : Along applyEdit EditFits {} edits) : Mirrored (run applyEdit {} edits) := by
  have hstart : Mirror {} := by
    refine ⟨fun a => ?_, fun c hc => ?_⟩
    · simp [Table.empty, Table.find?]
    · cases hc
  exact (run_invariant applyEdit Mirror (fun _ _ hs hfits => hs.applyEdit hfits) hstart h).mirrored

def taggedChannel : Channel :=
  { id := 1, models := "m", group := "g", weight := some 5, tag := some "t" }

theorem mirrored_after_edits_sample :
    Mirrored (run applyEdit {} [.insert [taggedChannel], .setStatusByTag "t" false, .fixAbility]) := by
  refine mirrored_after_edits ⟨fun c hc => ?_, trivial, trivial, trivial⟩
  rw [List.mem_singleton.mp hc]
  unfold Channel.Separate
  decide +kernel

/-- The weight of a tag is set to zero: the abilities keep the old one. -/
theorem zero_weight_not_mirrored :
    let db := run applyEdit {} [.insert [taggedChannel], .editByTag { tag := "t", weight := some 0 }]
    db.channels.rows.map Channel.getWeight = [0] ∧ db.abilities.rows.map Ability.weight = [5] := by
  decide +kernel

end ZModel.Channels
