import Mathlib.Algebra.Order.BigOperators.Group.List
import Mathlib.Algebra.Order.Group.Nat
import Mathlib.Data.List.Perm.Subperm
import ZModel.Channels.Channel

/-!
# The keys of a multi-key channel

Deleting and appending keys (`ManageMultiKeys`, `UpdateChannel`): they are parsed from a JSON array
or lines and written back as lines, with their statuses by position.
-/

namespace ZModel.Channels

open Lib

variable {c' : Channel} {i : Nat}

def joinKeys (keys : List String) : String := join '\n' keys

structure RoundTrips (keys : List String) : Prop where
  nonempty : keys ≠ []
  lines : ∀ k ∈ keys, '\n' ∉ k.toList
  first : keys.head? ≠ some ""
  last : keys.getLast? ≠ some ""
  plain : RawJson.rawArray (trimSpace (joinKeys keys)) = none

section RoundTrip

variable {keys : List String}

def room (keys : List String) : Nat := (keys.map fun k => k.length + 1).sum

theorem room_eq (keys : List String) : room keys = (keys.map String.length).sum + keys.length := by
  unfold room
  induction keys with
  | nil => rfl
  | cons k keys ih =>
    rw [List.map_cons, List.sum_cons, List.map_cons, List.sum_cons, List.length_cons]
    omega

theorem room_append (keys keys' : List String) : room (keys ++ keys') = room keys + room keys' := by
  unfold room
  rw [List.map_append, List.sum_append]

theorem length_joinKeys (hne : keys ≠ []) : (joinKeys keys).length + 1 = room keys := by
  rw [room_eq]
  exact length_join '\n' hne

theorem joinKeys_ne_of_mem {k : String} (hk : k ∈ keys) (hne : k ≠ "") : joinKeys keys ≠ "" := by
  intro htext
  have hroom := length_joinKeys (List.ne_nil_of_mem hk)
  rw [htext] at hroom
  have hle : k.length + 1 ≤ room keys := List.le_sum_of_mem (List.mem_map_of_mem hk)
  have hzero : k.length = 0 := by
    have : ("" : String).length = 0 := rfl
    omega
  exact hne (String.length_eq_zero_iff.mp hzero)

theorem room_of_rawArray {text : String} {es : List String}
    (h : RawJson.rawArray (trimSpace text) = some es) : room es + 1 ≤ text.length := by
  have hlen := RawJson.rawArray_length h
  have htrim := length_trimSpace_le text
  rw [room_eq]
  omega

theorem rawArray_ne_self (hne : keys ≠ []) :
    RawJson.rawArray (trimSpace (joinKeys keys)) ≠ some keys := by
  intro h
  have hroom := room_of_rawArray h
  have hjoin := length_joinKeys hne
  omega

theorem RoundTrips.joinKeys_ne (h : RoundTrips keys) : joinKeys keys ≠ "" := by
  obtain ⟨k, ks, rfl⟩ := List.exists_cons_of_ne_nil h.nonempty
  refine joinKeys_ne_of_mem (.head _) fun hk => ?_
  exact h.first (by rw [hk]; rfl)

theorem parseKeys_joinKeys_iff (hne : keys ≠ []) (htext : joinKeys keys ≠ "") :
    parseKeys (joinKeys keys) = keys ↔ RoundTrips keys := by
  unfold parseKeys
  rw [if_neg htext]
  cases harray : RawJson.rawArray (trimSpace (joinKeys keys)) with
  | some es =>
    refine iff_of_false ?_ fun h => ?_
    · intro hes
      exact rawArray_ne_self hne (harray.trans (congrArg some hes))
    · rw [h.plain] at harray
      cases harray
  | none =>
    constructor
    · intro h
      have hlines : ∀ k ∈ keys, '\n' ∉ k.toList := fun k hk =>
        notMem_of_mem_split (h ▸ hk)
      have hsame : trimChar '\n' (joinKeys keys) = joinKeys keys := by
        have hjoin := congrArg (join '\n') h
        rwa [join_split] at hjoin
      obtain ⟨hfirst, hlast⟩ := (trimChar_join_iff hlines htext).mp hsame
      exact ⟨hne, hlines, hfirst, hlast, harray⟩
    intro h
    have hsame := (trimChar_join_iff h.lines htext).mpr ⟨h.first, h.last⟩
    unfold joinKeys
    rw [hsame, split_join hne h.lines]

theorem RoundTrips.parse (h : RoundTrips keys) : parseKeys (joinKeys keys) = keys :=
  (parseKeys_joinKeys_iff h.nonempty h.joinKeys_ne).mpr h

end RoundTrip

/-- How `Update` counts the keys. An empty array is counted as lines. -/
def updateKeys (text : String) : List String :=
  if text = "" then []
  else
    match RawJson.rawArray (trimSpace text) with
    | some (key :: keys) => key :: keys
    | _ => split '\n' (trimChar '\n' text)

/-- `Update`: the column `key` is written only if it is not empty, and statuses beyond the keys are
dropped. -/
def Channel.update (c stored : Channel) : Channel :=
  let text := if c.key ≠ "" then c.key else stored.key
  if c.channelInfo.isMultiKey then
    let size := (updateKeys text).length
    { c with
      key := text
      channelInfo :=
        { c.channelInfo with
          multiKeySize := size
          multiKeyStatusList := fun i =>
            if i < size then c.channelInfo.multiKeyStatusList i else none } }
  else { c with key := text }

theorem updateKeys_eq {text : String} (h : parseKeys text ≠ []) : updateKeys text = parseKeys text := by
  unfold parseKeys at h
  unfold updateKeys parseKeys
  by_cases hempty : text = ""
  · rw [if_pos hempty] at h
    exact absurd rfl h
  rw [if_neg hempty] at h
  cases harray : RawJson.rawArray (trimSpace text) with
  | none => rfl
  | some es =>
    rw [harray] at h
    cases es with
    | nil => exact absurd rfl h
    | cons e es => rfl

section Update

variable {c stored : Channel}

theorem update_key (c stored : Channel) :
    (c.update stored).key = if c.key ≠ "" then c.key else stored.key := by
  unfold Channel.update
  dsimp only
  split <;> rfl

theorem update_keyStatus (hi : i < (c.update stored).getKeys.length) :
    (c.update stored).channelInfo.keyStatus i = c.channelInfo.keyStatus i := by
  by_cases hmulti : c.channelInfo.isMultiKey = true
  · have hkeys : (c.update stored).getKeys =
        parseKeys (if c.key ≠ "" then c.key else stored.key) := by
      rw [Channel.getKeys, update_key]
    rw [hkeys] at hi
    have hcount := updateKeys_eq (List.ne_nil_of_length_pos (Nat.zero_lt_of_lt hi))
    unfold Channel.update
    rw [if_pos hmulti]
    unfold ChannelInfo.keyStatus
    dsimp only
    rw [hcount, if_pos hi]
  · unfold Channel.update
    rw [if_neg hmulti]

end Update

variable (c : Channel)

def keptIndices (keep : Nat → Bool) : List Nat :=
  (List.range c.getKeys.length).filter keep

def moveKept {β : Type} (kept : List Nat) (old : Nat → Option β) (j : Nat) : Option β :=
  kept[j]?.bind old

def keepKeys (keep noted : Nat → Bool) : Channel :=
  let kept := keptIndices c keep
  let remainingKeys := kept.filterMap fun i => c.getKeys[i]?
  { c with
    key := joinKeys remainingKeys
    channelInfo :=
      { c.channelInfo with
        multiKeySize := remainingKeys.length
        multiKeyStatusList :=
          moveKept kept fun i =>
            (c.channelInfo.multiKeyStatusList i).filter fun status => status ≠ .enabled
        multiKeyDisabledTime :=
          moveKept kept fun i => if noted i then c.channelInfo.multiKeyDisabledTime i else none
        multiKeyDisabledReason :=
          moveKept kept fun i => if noted i then c.channelInfo.multiKeyDisabledReason i else none } }

def remainingKeys (c : Channel) (keep : Nat → Bool) : List String :=
  (keptIndices c keep).filterMap fun i => c.getKeys[i]?

def deleteKey (keyIndex : Option Int) : Except String Channel :=
  match keyIndex with
  | none => .error "未指定要删除的密钥索引"
  | some keyIndex =>
    if keyIndex < 0 ∨ (c.channelInfo.multiKeySize : Int) ≤ keyIndex then
      .error "密钥索引超出范围"
    else
      let keep := fun i => i ≠ keyIndex.toNat
      if remainingKeys c keep = [] then .error "不能删除最后一个密钥"
      else .ok ((keepKeys c keep fun _ => true).update c)

def deleteDisabledKeys : Except String Channel :=
  let keep := fun i => c.channelInfo.keyStatus i ≠ .autoDisabled
  if (remainingKeys c keep).length = c.getKeys.length then .error "没有需要删除的自动禁用密钥"
  else .ok ((keepKeys c keep fun i => c.channelInfo.keyStatus i ≠ .enabled).update c)

structure KeysKept (before after : Channel) (keep : Nat → Bool) : Prop where
  keys : after.getKeys = remainingKeys before keep
  statuses : ∀ j i, (keptIndices before keep)[j]? = some i →
    after.channelInfo.keyStatus j = before.channelInfo.keyStatus i

section Delete

variable {c : Channel} {keep noted : Nat → Bool}

theorem lt_of_mem_keptIndices (h : i ∈ keptIndices c keep) : i < c.getKeys.length :=
  List.mem_range.mp (List.mem_filter.mp h).1

theorem length_remainingKeys (c : Channel) (keep : Nat → Bool) :
    (remainingKeys c keep).length = (keptIndices c keep).length := by
  unfold remainingKeys
  rw [List.length_filterMap_eq_countP, List.countP_eq_length]
  intro i hi
  rw [List.getElem?_eq_getElem (lt_of_mem_keptIndices hi)]
  rfl

theorem keepKeys_keyStatus {j : Nat} (h : (keptIndices c keep)[j]? = some i) :
    (keepKeys c keep noted).channelInfo.keyStatus j = c.channelInfo.keyStatus i := by
  unfold keepKeys ChannelInfo.keyStatus moveKept
  dsimp only
  rw [h, Option.bind_some]
  cases hstatus : c.channelInfo.multiKeyStatusList i with
  | none => rfl
  | some status =>
    by_cases henabled : status = .enabled
    · rw [Option.filter_some_neg (by simp [henabled]), henabled]
      rfl
    · rw [Option.filter_some_pos (by simp [henabled])]

theorem keysKept_iff (hless : (remainingKeys c keep).length < c.getKeys.length) :
    KeysKept c ((keepKeys c keep noted).update c) keep ↔ RoundTrips (remainingKeys c keep) := by
  have hkey : (keepKeys c keep noted).key = joinKeys (remainingKeys c keep) := rfl
  have hkeys : ((keepKeys c keep noted).update c).getKeys =
      parseKeys (if joinKeys (remainingKeys c keep) ≠ "" then joinKeys (remainingKeys c keep)
        else c.key) := by
    rw [Channel.getKeys, update_key, hkey]
  by_cases htext : joinKeys (remainingKeys c keep) = ""
  · -- the column is not written, so all keys are there again
    refine iff_of_false (fun h => ?_) fun h => h.joinKeys_ne htext
    rw [if_neg (by simpa using htext)] at hkeys
    have hall := h.keys
    rw [hkeys] at hall
    rw [← hall] at hless
    exact absurd hless (lt_irrefl _)
  rw [if_pos htext] at hkeys
  have hne : remainingKeys c keep ≠ [] := by
    intro hnil
    rw [hnil] at htext
    exact htext rfl
  constructor
  · intro h
    rw [← parseKeys_joinKeys_iff hne htext, ← hkeys]
    exact h.keys
  intro h
  have hparse : ((keepKeys c keep noted).update c).getKeys = remainingKeys c keep := by
    rw [hkeys, h.parse]
  refine ⟨hparse, fun j i hj => ?_⟩
  have hlt : j < ((keepKeys c keep noted).update c).getKeys.length := by
    rw [hparse, length_remainingKeys]
    exact (List.getElem?_eq_some_iff.mp hj).1
  rw [update_keyStatus hlt]
  exact keepKeys_keyStatus hj

theorem length_remainingKeys_lt (hi : i < c.getKeys.length) (hdrop : keep i = false) :
    (remainingKeys c keep).length < c.getKeys.length := by
  rw [length_remainingKeys]
  have hlt : ((List.range c.getKeys.length).filter keep).length <
      (List.range c.getKeys.length).length :=
    List.length_filter_lt_length_iff_exists.mpr ⟨i, List.mem_range.mpr hi, by simp [hdrop]⟩
  rwa [List.length_range] at hlt

theorem length_remainingKeys_le (c : Channel) (keep : Nat → Bool) :
    (remainingKeys c keep).length ≤ c.getKeys.length := by
  rw [length_remainingKeys]
  refine (List.length_filter_le _ _).trans ?_
  rw [List.length_range]

theorem deleteKey_eq_ok {keyIndex : Nat} (hsize : keyIndex < c.channelInfo.multiKeySize)
    (hsome : remainingKeys c (fun i => i ≠ keyIndex) ≠ []) :
    deleteKey c (some keyIndex) =
      .ok ((keepKeys c (fun i => i ≠ keyIndex) fun _ => true).update c) := by
  unfold deleteKey
  dsimp only
  rw [if_neg (by omega), Int.toNat_natCast, if_neg hsome]

theorem deleteKey_iff {keyIndex : Int} (h : deleteKey c (some keyIndex) = .ok c')
    (hkey : keyIndex < c.getKeys.length) :
    KeysKept c c' (fun i => i ≠ keyIndex.toNat) ↔
      RoundTrips (remainingKeys c fun i => i ≠ keyIndex.toNat) := by
  unfold deleteKey at h
  dsimp only at h
  split at h
  · cases h
  rename_i hrange
  split at h
  · cases h
  cases h
  refine keysKept_iff (length_remainingKeys_lt (i := keyIndex.toNat) ?_ ?_)
  · omega
  · simp

theorem deleteDisabledKeys_iff (h : deleteDisabledKeys c = .ok c') :
    KeysKept c c' (fun i => c.channelInfo.keyStatus i ≠ .autoDisabled) ↔
      RoundTrips (remainingKeys c fun i => c.channelInfo.keyStatus i ≠ .autoDisabled) := by
  unfold deleteDisabledKeys at h
  dsimp only at h
  split at h
  · cases h
  rename_i hsome
  cases h
  refine keysKept_iff (lt_of_le_of_ne (length_remainingKeys_le c _) hsome)

end Delete

inductive KeyInput where
  | lines (text : String)
  | vertex (text : String) (decoded : Except String (List String))

def KeyInput.text : KeyInput → String
  | .lines text => text
  | .vertex text _ => text

def normalizeKeys (keys : List String) : List String :=
  (keys.map trimSpace).filter fun k => k ≠ ""

def KeyInput.newKeys : KeyInput → Except String (List String)
  | .lines text => .ok (normalizeKeys (split '\n' text))
  | .vertex text decoded => if hasPrefix "[" (trimSpace text) then decoded else .ok [text]

def existingKeys (text : String) : List String :=
  if hasPrefix "[" (trimSpace text) then (RawJson.rawArray (trimSpace text)).getD []
  else split '\n' (trimChar '\n' text)

def dedupedNewKeys (existing newKeys : List String) : List String :=
  keepNew id (normalizeKeys existing) (normalizeKeys newKeys)

def appendKeys (input : KeyInput) : Except String Channel :=
  if c.key = "" then .ok (({ c with key := input.text }).update c)
  else
    match input.newKeys with
    | .error e => .error ("追加密钥解析失败: " ++ e)
    | .ok newKeys =>
      let existing := existingKeys c.key
      let allKeys := existing ++ dedupedNewKeys existing newKeys
      .ok (({ c with key := joinKeys allKeys }).update c)

structure KeysAppended (before after : Channel) (appended : List String) : Prop where
  keys : after.getKeys = before.getKeys ++ appended
  statuses : ∀ i < before.getKeys.length,
    after.channelInfo.keyStatus i = before.channelInfo.keyStatus i
  enabled : ∀ i, before.getKeys.length ≤ i → i < before.getKeys.length + appended.length →
    after.channelInfo.keyStatus i = .enabled

def AppendWritten (text : String) (newKeys : List String) : Prop :=
  if c.key = "" then parseKeys text = dedupedNewKeys [] newKeys
  else if existingKeys c.key = c.getKeys then
    joinKeys (c.getKeys ++ dedupedNewKeys c.getKeys newKeys) = "" ∨
      RoundTrips (c.getKeys ++ dedupedNewKeys c.getKeys newKeys)
  else
    dedupedNewKeys [] newKeys = [] ∨ RoundTrips (dedupedNewKeys [] newKeys) ∧
      dedupedNewKeys [] newKeys = c.getKeys ++ dedupedNewKeys c.getKeys newKeys

structure AppendFits (c : Channel) (text : String) (newKeys : List String) : Prop where
  written : AppendWritten c text newKeys
  free : ∀ i, c.getKeys.length ≤ i →
    i < c.getKeys.length + (dedupedNewKeys c.getKeys newKeys).length →
    c.channelInfo.keyStatus i = .enabled

section Append

variable {c : Channel} {text : String} {newKeys existing : List String}

theorem keysAppended_iff {appended : List String} :
    KeysAppended c (({ c with key := text }).update c) appended ↔
      (({ c with key := text }).update c).getKeys = c.getKeys ++ appended ∧
        ∀ i, c.getKeys.length ≤ i → i < c.getKeys.length + appended.length →
          c.channelInfo.keyStatus i = .enabled := by
  constructor
  · intro h
    refine ⟨h.keys, fun i hle hlt => ?_⟩
    have hi : i < (({ c with key := text }).update c).getKeys.length := by
      rw [h.keys, List.length_append]
      exact hlt
    rw [← h.enabled i hle hlt, update_keyStatus hi]
  rintro ⟨hkeys, hfree⟩
  have hstatus : ∀ i < c.getKeys.length + appended.length,
      (({ c with key := text }).update c).channelInfo.keyStatus i =
        c.channelInfo.keyStatus i := by
    intro i hi
    rw [← List.length_append, ← hkeys] at hi
    exact update_keyStatus hi
  refine ⟨hkeys, fun i hi => hstatus i (by omega), fun i hle hlt => ?_⟩
  rw [hstatus i hlt]
  exact hfree i hle hlt

theorem keepNew_congr {α β : Type} [DecidableEq β] {f : α → β} {seen seen' : List β}
    (h : ∀ b, b ∈ seen ↔ b ∈ seen') (l : List α) : keepNew f seen l = keepNew f seen' l := by
  induction l generalizing seen seen' with
  | nil => rfl
  | cons a l ih =>
    unfold keepNew
    have hcons : ∀ b, b ∈ f a :: seen ↔ b ∈ f a :: seen' := fun b => by
      rw [List.mem_cons, List.mem_cons, h]
    rw [ih h, ih hcons]
    exact if_congr (h _) rfl rfl

theorem keepNew_append (extra seen l : List String) :
    keepNew id (extra ++ seen) l = (keepNew id extra l).filter fun k => k ∉ seen := by
  induction l generalizing extra with
  | nil => rfl
  | cons a l ih =>
    unfold keepNew
    by_cases hextra : a ∈ extra
    · rw [if_pos (show id a ∈ extra ++ seen from List.mem_append_left _ hextra),
        if_pos (show id a ∈ extra from hextra), ih]
    rw [if_neg (show id a ∉ extra from hextra)]
    by_cases hseen : a ∈ seen
    · rw [if_pos (show id a ∈ extra ++ seen from List.mem_append_right _ hseen),
        List.filter_cons_of_neg (by simpa using hseen), ← ih]
      refine keepNew_congr (fun b => ?_) l
      simp only [List.mem_append, List.mem_cons]
      constructor
      · rintro (h | h)
        · exact .inl (.inr h)
        · exact .inr h
      rintro ((rfl | h) | h)
      · exact .inr hseen
      · exact .inl h
      · exact .inr h
    · rw [if_neg (by simp [hextra, hseen]), List.filter_cons_of_pos (by simpa using hseen), ← ih]
      rfl

theorem dedupedNewKeys_eq_filter (existing newKeys : List String) :
    dedupedNewKeys existing newKeys =
      (dedupedNewKeys [] newKeys).filter fun k => k ∉ normalizeKeys existing :=
  keepNew_append [] (normalizeKeys existing) (normalizeKeys newKeys)

theorem ne_empty_of_mem_dedupedNewKeys {k : String} (h : k ∈ dedupedNewKeys existing newKeys) :
    k ≠ "" := by
  have hmem := keepNew_sublist.subset h
  simpa using (List.mem_filter.mp hmem).2

theorem room_dedupedNewKeys_le (existing newKeys : List String) :
    room (dedupedNewKeys [] newKeys) ≤ room existing + room (dedupedNewKeys existing newKeys) := by
  have hnodup : (dedupedNewKeys [] newKeys).Nodup := by
    have hmap : ((dedupedNewKeys [] newKeys).map id).Nodup := nodup_map_keepNew
    rwa [List.map_id] at hmap
  have hsplit : room (dedupedNewKeys [] newKeys) =
      room ((dedupedNewKeys [] newKeys).filter fun k => k ∈ normalizeKeys existing) +
        room (dedupedNewKeys existing newKeys) := by
    rw [dedupedNewKeys_eq_filter existing, ← room_append]
    refine List.Perm.sum_eq (List.Perm.map _ ?_)
    have hperm := List.filter_append_perm (fun k => decide (k ∈ normalizeKeys existing))
      (dedupedNewKeys [] newKeys)
    simpa using hperm.symm
  have hold : room ((dedupedNewKeys [] newKeys).filter fun k => k ∈ normalizeKeys existing) ≤
      room (existing.map trimSpace) := by
    have hsub : ((dedupedNewKeys [] newKeys).filter fun k => k ∈ normalizeKeys existing) ⊆
        existing.map trimSpace := by
      intro k hk
      have hmem : k ∈ normalizeKeys existing := by simpa using (List.mem_filter.mp hk).2
      exact (List.mem_filter.mp hmem).1
    obtain ⟨l, hperm, hl⟩ := List.Nodup.subperm (hnodup.filter _) hsub
    have hroom : room l =
        room ((dedupedNewKeys [] newKeys).filter fun k => k ∈ normalizeKeys existing) :=
      (hperm.map _).sum_eq
    rw [← hroom]
    exact (hl.map _).sum_le_sum fun _ _ => Nat.zero_le _
  have htrim : room (existing.map trimSpace) ≤ room existing := by
    unfold room
    rw [List.map_map]
    refine List.sum_le_sum fun k _ => ?_
    exact Nat.succ_le_succ (length_trimSpace_le k)
  omega

/-! ### What is read of the old keys -/

theorem hasPrefix_of_rawArray {es : List String}
    (h : RawJson.rawArray (trimSpace text) = some es) : hasPrefix "[" (trimSpace text) = true := by
  unfold RawJson.rawArray at h
  split at h
  next rest hskip =>
    cases hlist : (trimSpace text).toList with
    | nil =>
      rw [hlist] at hskip
      cases hskip
    | cons ch l =>
      have hspace : RawJson.isSpace ch = false := by
        by_contra hjson
        have hch : ch = ' ' ∨ ch = '\t' ∨ ch = '\n' ∨ ch = '\r' := by
          rw [Bool.not_eq_false] at hjson
          simpa [RawJson.isSpace, or_assoc] using hjson
        have htrim := isSpace_of_trimSpace hlist
        obtain rfl | rfl | rfl | rfl := hch <;> cases htrim
      rw [hlist, RawJson.skipSpace, List.dropWhile_cons_of_neg (by simp [hspace])] at hskip
      cases hskip
      unfold hasPrefix
      rw [hlist]
      rfl
  · cases h

theorem existingKeys_eq (hkey : c.key ≠ "") : existingKeys c.key = c.getKeys ∨
      existingKeys c.key = [] ∧ c.getKeys = split '\n' (trimChar '\n' c.key) := by
  unfold existingKeys Channel.getKeys parseKeys
  rw [if_neg hkey]
  cases harray : RawJson.rawArray (trimSpace c.key) with
  | some es =>
    rw [if_pos (hasPrefix_of_rawArray harray)]
    exact .inl rfl
  | none =>
    split
    · exact .inr ⟨rfl, rfl⟩
    · exact .inl rfl

theorem getKeys_update_joinKeys (c : Channel) (keys : List String) :
    (({ c with key := joinKeys keys }).update c).getKeys =
      if joinKeys keys = "" then c.getKeys else parseKeys (joinKeys keys) := by
  rw [Channel.getKeys, update_key]
  by_cases htext : joinKeys keys = ""
  · rw [if_neg (by simpa using htext), if_pos htext]
    rfl
  · rw [if_pos htext, if_neg htext]

theorem append_read_iff :
    (({ c with key := joinKeys (c.getKeys ++ dedupedNewKeys c.getKeys newKeys) }).update c).getKeys =
        c.getKeys ++ dedupedNewKeys c.getKeys newKeys ↔
      joinKeys (c.getKeys ++ dedupedNewKeys c.getKeys newKeys) = "" ∨
        RoundTrips (c.getKeys ++ dedupedNewKeys c.getKeys newKeys) := by
  rw [getKeys_update_joinKeys]
  by_cases htext : joinKeys (c.getKeys ++ dedupedNewKeys c.getKeys newKeys) = ""
  · rw [if_pos htext]
    refine iff_of_true ?_ (.inl htext)
    -- the column stays, and there is nothing to append: a new key is not empty
    have hnil : dedupedNewKeys c.getKeys newKeys = [] := by
      refine List.eq_nil_iff_forall_not_mem.mpr fun k hk => ?_
      exact joinKeys_ne_of_mem (List.mem_append_right _ hk) (ne_empty_of_mem_dedupedNewKeys hk) htext
    rw [hnil, List.append_nil]
  rw [if_neg htext, or_iff_right htext]
  refine parseKeys_joinKeys_iff (fun hnil => htext ?_) htext
  rw [hnil]
  rfl

theorem rawArray_of_parse (hne : dedupedNewKeys [] newKeys ≠ [])
    (h : parseKeys (joinKeys (dedupedNewKeys [] newKeys)) =
      c.getKeys ++ dedupedNewKeys c.getKeys newKeys) :
    RawJson.rawArray (trimSpace (joinKeys (dedupedNewKeys [] newKeys))) = none := by
  cases harray : RawJson.rawArray (trimSpace (joinKeys (dedupedNewKeys [] newKeys))) with
  | none => rfl
  | some es =>
    exfalso
    have hes : es = c.getKeys ++ dedupedNewKeys c.getKeys newKeys := by
      rw [← h, parseKeys, if_neg, harray]
      obtain ⟨k, hk⟩ := List.exists_mem_of_ne_nil _ hne
      exact joinKeys_ne_of_mem hk (ne_empty_of_mem_dedupedNewKeys hk)
    have harrayRoom := room_of_rawArray harray
    have hroom := room_dedupedNewKeys_le c.getKeys newKeys
    have hjoin := length_joinKeys hne
    rw [hes, room_append] at harrayRoom
    omega

theorem lines_of_parse (hlines : c.getKeys = split '\n' (trimChar '\n' c.key))
    (h : parseKeys (joinKeys (dedupedNewKeys [] newKeys)) =
      c.getKeys ++ dedupedNewKeys c.getKeys newKeys) :
    ∀ k ∈ dedupedNewKeys [] newKeys, '\n' ∉ k.toList := by
  intro k hk
  have hne : dedupedNewKeys [] newKeys ≠ [] := List.ne_nil_of_mem hk
  by_cases hold : k ∈ normalizeKeys c.getKeys
  · obtain ⟨k', hk', rfl⟩ := List.mem_map.mp (List.mem_filter.mp hold).1
    rw [hlines] at hk'
    exact fun hmem => notMem_of_mem_split hk' (trimSpace_subset hmem)
  have hnew : k ∈ dedupedNewKeys c.getKeys newKeys := by
    rw [dedupedNewKeys_eq_filter]
    exact List.mem_filter.mpr ⟨hk, by simpa using hold⟩
  have hparsed : k ∈ parseKeys (joinKeys (dedupedNewKeys [] newKeys)) := by
    rw [h]
    exact List.mem_append_right _ hnew
  rw [parseKeys, if_neg (joinKeys_ne_of_mem hk (ne_empty_of_mem_dedupedNewKeys hk)),
    rawArray_of_parse hne h] at hparsed
  exact notMem_of_mem_split hparsed

theorem append_unread_iff (hlines : c.getKeys = split '\n' (trimChar '\n' c.key)) :
    (({ c with key := joinKeys (dedupedNewKeys [] newKeys) }).update c).getKeys =
        c.getKeys ++ dedupedNewKeys c.getKeys newKeys ↔
      dedupedNewKeys [] newKeys = [] ∨ RoundTrips (dedupedNewKeys [] newKeys) ∧
        dedupedNewKeys [] newKeys = c.getKeys ++ dedupedNewKeys c.getKeys newKeys := by
  rw [getKeys_update_joinKeys]
  by_cases hnil : dedupedNewKeys [] newKeys = []
  · have hnone : dedupedNewKeys c.getKeys newKeys = [] := by
      rw [dedupedNewKeys_eq_filter, hnil]
      rfl
    have htext : joinKeys (dedupedNewKeys [] newKeys) = "" := by
      rw [hnil]
      rfl
    rw [if_pos htext, hnone, List.append_nil]
    exact iff_of_true rfl (.inl hnil)
  have htext : joinKeys (dedupedNewKeys [] newKeys) ≠ "" := by
    obtain ⟨k, hk⟩ := List.exists_mem_of_ne_nil _ hnil
    exact joinKeys_ne_of_mem hk (ne_empty_of_mem_dedupedNewKeys hk)
  rw [if_neg htext, or_iff_right hnil]
  constructor
  · intro h
    have hround : RoundTrips (dedupedNewKeys [] newKeys) := by
      refine ⟨hnil, lines_of_parse hlines h, ?_, ?_, rawArray_of_parse hnil h⟩
      · exact fun hhead => ne_empty_of_mem_dedupedNewKeys (List.mem_of_head? hhead) rfl
      · exact fun hlast => ne_empty_of_mem_dedupedNewKeys (List.mem_of_getLast? hlast) rfl
    rw [hround.parse] at h
    exact ⟨hround, h⟩
  · rintro ⟨hround, heq⟩
    rw [hround.parse]
    exact heq

theorem appendKeys_iff {input : KeyInput} (hnew : input.newKeys = .ok newKeys)
    (h : appendKeys c input = .ok c') :
    KeysAppended c c' (dedupedNewKeys c.getKeys newKeys) ↔ AppendFits c input.text newKeys := by
  have hfits : AppendFits c input.text newKeys ↔ AppendWritten c input.text newKeys ∧
      ∀ i, c.getKeys.length ≤ i → i < c.getKeys.length + (dedupedNewKeys c.getKeys newKeys).length →
        c.channelInfo.keyStatus i = .enabled :=
    ⟨fun h => ⟨h.written, h.free⟩, fun h => ⟨h.1, h.2⟩⟩
  rw [hfits]
  unfold appendKeys at h
  unfold AppendWritten
  by_cases hkey : c.key = ""
  · rw [if_pos hkey] at h
    cases h
    have hnone : c.getKeys = [] := by
      rw [Channel.getKeys, hkey]
      rfl
    have hkeys : (({ c with key := input.text }).update c).getKeys = parseKeys input.text := by
      rw [Channel.getKeys, update_key]
      dsimp only
      split
      · rfl
      next htext =>
        rw [hkey, not_not.mp htext]
    rw [keysAppended_iff, if_pos hkey, hkeys, hnone, List.nil_append]
  rw [if_neg hkey, hnew] at h
  cases h
  rw [keysAppended_iff, if_neg hkey]
  refine and_congr_left fun _ => ?_
  obtain hread | ⟨hunread, hlines⟩ := existingKeys_eq hkey
  · rw [if_pos hread, hread]
    exact append_read_iff
  have hne : existingKeys c.key ≠ c.getKeys := by
    rw [hunread, hlines]
    exact (split_ne_nil _ _).symm
  rw [if_neg hne, hunread]
  exact append_unread_iff hlines

end Append

/-- After a change of its keys the stored channel has exactly the intended keys in order, each with
its status: for a deletion if and only if the keys that remain round trip, for an append if and only
if it fits. -/
theorem keys_after_change_iff (c : Channel) :
    (∀ (keyIndex : Nat) (c' : Channel), keyIndex < c.getKeys.length →
      deleteKey c (some keyIndex) = .ok c' →
      (KeysKept c c' (fun i => i ≠ keyIndex) ↔
        RoundTrips (remainingKeys c fun i => i ≠ keyIndex))) ∧
    (∀ c' : Channel, deleteDisabledKeys c = .ok c' →
      (KeysKept c c' (fun i => c.channelInfo.keyStatus i ≠ .autoDisabled) ↔
        RoundTrips (remainingKeys c fun i => c.channelInfo.keyStatus i ≠ .autoDisabled))) ∧
    ∀ (input : KeyInput) (newKeys : List String) (c' : Channel), input.newKeys = .ok newKeys →
      appendKeys c input = .ok c' →
      (KeysAppended c c' (dedupedNewKeys c.getKeys newKeys) ↔ AppendFits c input.text newKeys) := by
  refine ⟨fun keyIndex c' hlt h => ?_, fun c' h => deleteDisabledKeys_iff h,
    fun input newKeys c' hnew h => appendKeys_iff hnew h⟩
  have hiff := deleteKey_iff h (Int.ofNat_lt.mpr hlt)
  rwa [Int.toNat_natCast] at hiff

def threeKeys : Channel :=
  { id := 1
    models := "m"
    key := "a\nb\nc"
    channelInfo :=
      { isMultiKey := true
        multiKeySize := 3
        multiKeyStatusList := fun i => if i = 1 then some .autoDisabled else none } }

theorem threeKeys_without_first : ∃ c', deleteKey threeKeys (some 0) = .ok c' ∧
      KeysKept threeKeys c' (fun i => i ≠ 0) ∧ c'.channelInfo.keyStatus 0 = .autoDisabled := by
  have hok : deleteKey threeKeys (some (0 : Nat)) =
      .ok ((keepKeys threeKeys (fun i => i ≠ 0) fun _ => true).update threeKeys) :=
    deleteKey_eq_ok (by decide) (by decide +kernel)
  have hlt : 0 < threeKeys.getKeys.length := by decide +kernel
  have hkept := ((keys_after_change_iff threeKeys).1 0 _ hlt hok).mpr
    ⟨by decide +kernel, by decide +kernel, by decide +kernel, by decide +kernel, by decide +kernel⟩
  refine ⟨_, hok, hkept, ?_⟩
  rfl

def disabledKeys : Channel :=
  { id := 1
    models := "m"
    key := "a\nb"
    channelInfo :=
      { isMultiKey := true
        multiKeySize := 2
        multiKeyStatusList := fun i => if i < 2 then some .autoDisabled else none } }

def multiLineKeys : Channel :=
  { id := 1
    models := "m"
    key := "[\x7b\"a\":\n1\x7d,\x7b\"b\":2\x7d]"
    channelInfo := { isMultiKey := true, multiKeySize := 2 } }

/-- Where all keys were disabled automatically, deleting them leaves all of them, enabled. Where a
key goes over two lines, deleting the other leaves two keys. -/
theorem deleting_enables_all_keys :
    (∃ c', deleteDisabledKeys disabledKeys = .ok c' ∧ c'.getKeys = ["a", "b"] ∧
      (∀ i < 2, c'.channelInfo.keyStatus i = .enabled) ∧
      ¬ KeysKept disabledKeys c' fun i => disabledKeys.channelInfo.keyStatus i ≠ .autoDisabled) ∧
    ∃ c', deleteKey multiLineKeys (some 1) = .ok c' ∧
      remainingKeys multiLineKeys (fun i => i ≠ 1) = ["\x7b\"a\":\n1\x7d"] ∧
      c'.getKeys = ["\x7b\"a\":", "1\x7d"] := by
  constructor
  · have hok : deleteDisabledKeys disabledKeys =
        .ok ((keepKeys disabledKeys (fun i => disabledKeys.channelInfo.keyStatus i ≠ .autoDisabled)
          fun i => disabledKeys.channelInfo.keyStatus i ≠ .enabled).update disabledKeys) := by
      unfold deleteDisabledKeys
      exact if_neg (by decide +kernel)
    refine ⟨_, hok, by decide +kernel, by decide +kernel, fun h => ?_⟩
    have hkeys := h.keys
    revert hkeys
    decide +kernel
  have hok : deleteKey multiLineKeys (some (1 : Nat)) =
      .ok ((keepKeys multiLineKeys (fun i => i ≠ 1) fun _ => true).update multiLineKeys) :=
    deleteKey_eq_ok (by decide) (by decide +kernel)
  exact ⟨_, hok, by decide +kernel, by decide +kernel⟩

end ZModel.Channels
