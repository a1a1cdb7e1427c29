import ZModel.Lib.RawJson
import ZModel.Lib.Table
import ZModel.Lib.Text

/-!
# Channels and their abilities

The rows of `model/channel.go` and `model/ability.go`: each pair of a group and a model of a channel
is an ability. Several keys are kept in one column, as lines or as a JSON array.
-/

namespace ZModel.Channels

open Lib

class Regexp where
  matchString : String → String → Bool

structure AdvancedCustomRoute where
  incomingPath : String
  models : List String := []

structure AdvancedCustomConfig where
  routes : List AdvancedCustomRoute := []

def advancedCustomModelPlaceholder : String := "\x7bmodel\x7d"

def advancedCustomModelRegexPrefix : String := "re:"

def trimSuffix (suffix l : List Char) : List Char :=
  if suffix.isSuffixOf l then l.take (l.length - suffix.length) else l

def matchAdvancedCustomIncomingPathTemplate (configuredPath requestPath : String) : Bool :=
  match cut advancedCustomModelPlaceholder.toList configuredPath.toList with
  | none => configuredPath = requestPath
  | some (before, after) =>
    let request := requestPath.toList
    let model := trimSuffix after (request.drop before.length)
    (cut advancedCustomModelPlaceholder.toList after).isNone && before.isPrefixOf request &&
      after.isSuffixOf request && model ≠ [] && '/' ∉ model

def matchAdvancedCustomIncomingPath (configuredPath requestPath : String) : Bool :=
  matchAdvancedCustomIncomingPathTemplate configuredPath requestPath ||
    (containsText ":generateContent" configuredPath &&
      matchAdvancedCustomIncomingPathTemplate
        (replaceFirst ":generateContent" ":streamGenerateContent" configuredPath) requestPath)

section Routes

variable [Regexp]

def matchAdvancedCustomRouteModelRule (rule model : String) : Bool :=
  if hasPrefix advancedCustomModelRegexPrefix rule then
    let pattern := String.ofList (rule.toList.drop advancedCustomModelRegexPrefix.length)
    pattern ≠ "" && Regexp.matchString pattern model
  else rule = model

def normalizeAdvancedCustomRouteModels (models : List String) : List String :=
  (models.map trimSpace).filter fun m => m ≠ ""

def matchAdvancedCustomRouteModel (models : List String) (model : String) : Bool :=
  let normalizedModels := normalizeAdvancedCustomRouteModels models
  normalizedModels.isEmpty ||
    normalizedModels.any fun rule => matchAdvancedCustomRouteModelRule rule model

def AdvancedCustomConfig.matchPathForModel (config : AdvancedCustomConfig)
    (requestPath model : String) : Option AdvancedCustomRoute :=
  config.routes.find? fun route =>
    matchAdvancedCustomIncomingPath (trimSpace route.incomingPath) requestPath &&
      matchAdvancedCustomRouteModel route.models (trimSpace model)

def AdvancedCustomConfig.supportsPathForModel (config : AdvancedCustomConfig)
    (requestPath model : String) : Bool :=
  (config.matchPathForModel requestPath model).isSome

end Routes

inductive ChannelStatus where
  | unknown
  | enabled
  | manuallyDisabled
  | autoDisabled
  deriving DecidableEq, Repr

inductive MultiKeyMode where
  | random
  | polling
  deriving DecidableEq

structure ChannelInfo where
  isMultiKey : Bool := false
  multiKeySize : Nat := 0
  multiKeyStatusList : Nat → Option ChannelStatus := fun _ => none
  multiKeyDisabledReason : Nat → Option String := fun _ => none
  multiKeyDisabledTime : Nat → Option Int := fun _ => none
  multiKeyPollingIndex : Nat := 0
  multiKeyMode : Option MultiKeyMode := none

/-- A column that holds JSON: nothing, a text that cannot be decoded, or what it is decoded to. -/
inductive JsonColumn (α : Type) where
  | absent
  | invalid
  | decoded (a : α)

structure OtherInfo where
  statusReason : String := ""
  statusTime : Int := 0
  deriving DecidableEq

structure Channel where
  id : Nat
  type : Nat := 1
  key : String := ""
  status : ChannelStatus := .enabled
  weight : Option Nat := none
  models : String
  group : String := "default"
  priority : Option Int := none
  autoBan : Option Int := some 1
  otherInfo : OtherInfo := {}
  tag : Option String := none
  setting : JsonColumn Unit := .absent
  channelInfo : ChannelInfo := {}
  otherSettings : JsonColumn (Option AdvancedCustomConfig) := .absent

instance : Keyed Channel Nat := ⟨Channel.id⟩

def channelTypeAdvancedCustom : Nat := 58

section

variable (c : Channel)

def Channel.getPriority : Int := c.priority.getD 0

def Channel.getWeight : Nat := c.weight.getD 0

def Channel.getAutoBan : Bool := c.autoBan = some 1

def Channel.groups : List String := split ',' c.group

def Channel.modelNames : List String := split ',' c.models

def Channel.serves (group model : String) : Bool :=
  decide (group ∈ c.groups) && decide (model ∈ c.modelNames)

/-- `GetSetting` clears and saves a setting that cannot be decoded. -/
def Channel.getSetting : Option Channel :=
  match c.setting with
  | .invalid => some { c with setting := .absent }
  | _ => none

def Channel.advancedCustom : Option AdvancedCustomConfig :=
  match c.otherSettings with
  | .decoded config => config
  | _ => none

/-- `GetOtherSettings` replaces settings that cannot be decoded and saves the row. -/
def Channel.getOtherSettings : Option Channel :=
  match c.otherSettings with
  | .invalid => some { c with otherSettings := .decoded none }
  | _ => none

end

def parseKeys (text : String) : List String :=
  if text = "" then []
  else
    match RawJson.rawArray (trimSpace text) with
    | some keys => keys
    | none => split '\n' (trimChar '\n' text)

variable (c : Channel)

def Channel.getKeys : List String := parseKeys c.key

def ChannelInfo.keyStatus (info : ChannelInfo) (i : Nat) : ChannelStatus :=
  (info.multiKeyStatusList i).getD .enabled

def hasEnabledMultiKey (keys : List String) (statusList : Nat → Option ChannelStatus) : Bool :=
  (List.range keys.length).any fun i => (statusList i).getD .enabled = .enabled

def Channel.note (reason : String) (now : Int) : Channel :=
  { c with otherInfo := ⟨reason, now⟩ }

def ChannelInfo.setKeyStatus (info : ChannelInfo) (i : Nat) (status : ChannelStatus)
    (reason : String) (now : Int) : ChannelInfo :=
  if status = .enabled then
    { info with multiKeyStatusList := Function.update info.multiKeyStatusList i none }
  else
    { info with
      multiKeyStatusList := Function.update info.multiKeyStatusList i (some status)
      multiKeyDisabledReason := Function.update info.multiKeyDisabledReason i (some reason)
      multiKeyDisabledTime := Function.update info.multiKeyDisabledTime i (some now) }

def Channel.afterKeyStatus (keys : List String) (status : ChannelStatus) (now : Int) : Channel :=
  if !hasEnabledMultiKey keys c.channelInfo.multiKeyStatusList then
    ({ c with status := .autoDisabled }).note "All keys are disabled" now
  else if status = .enabled then { c with status := .enabled }
  else c

/-- `handlerMultiKeyUpdate`. The empty key stands for the channel, unless a key is empty. -/
def handlerMultiKeyUpdate (usingKey : String) (status : ChannelStatus)
    (reason : String) (now : Int) : Channel :=
  let keys := c.getKeys
  if keys = [] then { c with status }
  else if usingKey ∈ keys then
    let keyIndex := keys.idxOf usingKey
    ({ c with channelInfo := c.channelInfo.setKeyStatus keyIndex status reason now }).afterKeyStatus
      keys status now
  else if usingKey ≠ "" then c
  else ({ c with status }).note reason now

@[ext] structure Ability where
  group : String
  model : String
  channelId : Nat
  enabled : Bool
  priority : Int
  weight : Nat
  tag : Option String
  deriving DecidableEq

instance : Keyed Ability (String × String × Nat) := ⟨fun a => (a.group, a.model, a.channelId)⟩

section KeepNew

variable {α β : Type} [DecidableEq β]

def keepNew (f : α → β) : List β → List α → List α
  | _, [] => []
  | seen, a :: l => if f a ∈ seen then keepNew f seen l else a :: keepNew f (f a :: seen) l

variable {f : α → β} {seen : List β} {l : List α}

theorem keepNew_sublist : (keepNew f seen l).Sublist l := by
  fun_induction keepNew f seen l with
  | case1 => exact .slnil
  | case2 seen a l hseen ih => exact ih.cons a
  | case3 seen a l hseen ih => exact ih.cons_cons a

theorem notMem_of_mem_keepNew {a : α} (h : a ∈ keepNew f seen l) : f a ∉ seen := by
  fun_induction keepNew f seen l with
  | case1 => cases h
  | case2 seen b l hseen ih => exact ih h
  | case3 seen b l hseen ih =>
    obtain rfl | h := List.mem_cons.mp h
    · exact hseen
    · exact fun hmem => ih h (.tail _ hmem)

theorem nodup_map_keepNew : ((keepNew f seen l).map f).Nodup := by
  fun_induction keepNew f seen l with
  | case1 => exact List.nodup_nil
  | case2 seen a l hseen ih => exact ih
  | case3 seen a l hseen ih =>
    rw [List.map_cons, List.nodup_cons]
    refine ⟨fun hmem => ?_, ih⟩
    obtain ⟨b, hb, hkey⟩ := List.mem_map.mp hmem
    exact notMem_of_mem_keepNew hb (hkey ▸ (.head _))

theorem exists_mem_keepNew {a : α} (ha : a ∈ l) :
    f a ∈ seen ∨ ∃ b ∈ keepNew f seen l, f b = f a := by
  fun_induction keepNew f seen l with
  | case1 => cases ha
  | case2 seen b l hseen ih =>
    obtain rfl | ha := List.mem_cons.mp ha
    · exact .inl hseen
    · exact ih ha
  | case3 seen b l hseen ih =>
    obtain rfl | ha := List.mem_cons.mp ha
    · exact .inr ⟨_, (.head _), rfl⟩
    obtain hmem | ⟨b', hb', hkey⟩ := ih ha
    · obtain heq | hmem := List.mem_cons.mp hmem
      · exact .inr ⟨b, (.head _), heq.symm⟩
      · exact .inl hmem
    · exact .inr ⟨b', List.mem_cons_of_mem _ hb', hkey⟩

theorem exists_mem_keepNew_nil {a : α} (ha : a ∈ l) : ∃ b ∈ keepNew f [] l, f b = f a :=
  (exists_mem_keepNew ha).resolve_left List.not_mem_nil

theorem keepNew_append_subset (l' : List α) : keepNew f seen l ⊆ keepNew f seen (l ++ l') := by
  fun_induction keepNew f seen l with
  | case1 => exact List.nil_subset _
  | case2 seen a l hseen ih =>
    rw [List.cons_append, keepNew, if_pos hseen]
    exact ih
  | case3 seen a l hseen ih =>
    rw [List.cons_append, keepNew, if_neg hseen]
    exact List.cons_subset_cons a ih

end KeepNew

def Channel.abilityPairs : List (String × String) :=
  c.modelNames.flatMap fun model => c.groups.map fun group => (group, model)

/-- The text by which `AddAbilities` recognises a pair. -/
def abilityKey (p : String × String) : String := p.1 ++ "|" ++ p.2

def Channel.abilityNames : List (String × String) :=
  keepNew abilityKey [] c.abilityPairs

def Channel.abilities : List Ability :=
  c.abilityNames.map fun p =>
    { group := p.1
      model := p.2
      channelId := c.id
      enabled := c.status = .enabled
      priority := c.getPriority
      weight := c.getWeight
      tag := c.tag }

variable {c : Channel}

theorem mem_abilityPairs {group model : String} :
    (group, model) ∈ c.abilityPairs ↔ group ∈ c.groups ∧ model ∈ c.modelNames := by
  constructor
  · intro h
    obtain ⟨m, hm, h⟩ := List.mem_flatMap.mp h
    obtain ⟨g, hg, heq⟩ := List.mem_map.mp h
    cases heq
    exact ⟨hg, hm⟩
  · rintro ⟨hg, hm⟩
    exact List.mem_flatMap.mpr ⟨model, hm, List.mem_map.mpr ⟨group, hg, rfl⟩⟩

theorem serves_of_mem_abilityNames {group model : String}
    (h : (group, model) ∈ c.abilityNames) : c.serves group model = true := by
  obtain ⟨hg, hm⟩ := mem_abilityPairs.mp (keepNew_sublist.subset h)
  simp [Channel.serves, hg, hm]

theorem exists_mem_abilityNames {group : String} (h : group ∈ c.groups) :
    ∃ model, (group, model) ∈ c.abilityNames := by
  cases hmodels : c.modelNames with
  | nil => exact absurd hmodels (split_ne_nil _ _)
  | cons model models =>
    have hmem : (group, model) ∈ c.groups.map fun g => (g, model) :=
      List.mem_map.mpr ⟨group, h, rfl⟩
    obtain ⟨⟨g, m⟩, hkept, hkey⟩ := exists_mem_keepNew_nil (f := abilityKey) hmem
    obtain ⟨g', hg', heq⟩ := List.mem_map.mp (keepNew_sublist.subset hkept)
    cases heq
    have hgroup : g = group := by
      have := congrArg String.toList hkey
      exact String.toList_inj.mp (by simpa [abilityKey] using this)
    subst hgroup
    refine ⟨model, ?_⟩
    unfold Channel.abilityNames Channel.abilityPairs
    rw [hmodels]
    exact keepNew_append_subset _ hkept

theorem abilityNames_nodup (c : Channel) : c.abilityNames.Nodup :=
  List.Nodup.of_map _ nodup_map_keepNew

@[simp] theorem mem_abilities {a : Ability} :
    a ∈ c.abilities ↔ (a.group, a.model) ∈ c.abilityNames ∧ a.channelId = c.id ∧
      a.enabled = decide (c.status = .enabled) ∧ a.priority = c.getPriority ∧
      a.weight = c.getWeight ∧ a.tag = c.tag := by
  constructor
  · intro h
    obtain ⟨⟨g, m⟩, hp, rfl⟩ := List.mem_map.mp h
    exact ⟨hp, rfl, rfl, rfl, rfl, rfl⟩
  · obtain ⟨g, m, id, enabled, priority, weight, tag⟩ := a
    rintro ⟨hp, rfl, rfl, rfl, rfl, rfl⟩
    exact List.mem_map.mpr ⟨(g, m), hp, rfl⟩

theorem abilities_nodup (c : Channel) : (c.abilities.map key).Nodup := by
  have hinj : Function.Injective fun p : String × String => (p.1, p.2, c.id) := by
    rintro ⟨g, m⟩ ⟨g', m'⟩ heq
    cases heq
    rfl
  unfold Channel.abilities
  rw [List.map_map]
  exact (abilityNames_nodup c).map hinj

def abilitiesOf (channels : Table Channel) : Table Ability where
  rows := channels.rows.flatMap Channel.abilities
  nodup := by
    rw [List.map_flatMap, List.nodup_flatMap]
    constructor
    · exact fun c _ => abilities_nodup c
    · have hids : channels.rows.Pairwise fun c c' => c.id ≠ c'.id :=
        List.pairwise_map.mp channels.nodup
      refine hids.imp ?_
      intro c c' hne k hk hk'
      obtain ⟨a, ha, rfl⟩ := List.mem_map.mp hk
      obtain ⟨a', ha', heq⟩ := List.mem_map.mp hk'
      obtain ⟨-, hid, -⟩ := mem_abilities.mp ha
      obtain ⟨-, hid', -⟩ := mem_abilities.mp ha'
      have hsame : a'.channelId = a.channelId := congrArg (fun k => k.2.2) heq
      exact hne (hid.symm.trans (hsame.symm.trans hid'))

end ZModel.Channels
