import Mathlib.Data.List.Rotate
import ZModel.Channels.Cache
import ZModel.Relay.Setup

/-!
# Selecting keys by polling

The selections of `GetNextEnabledKey` in polling mode, one after the other. Each writes the position
behind its key into its receiver, which is not always where the next one reads it.
-/

namespace ZModel.Relay.Setup

open Channels

/-- The polling position of the row in the database and of the row in the memory cache. -/
structure Positions where
  stored : Int := 0
  cached : Int := 0

/-- The receiver is the cached row itself or a row read by `GetChannelById`. `saved` is the outcome
of `SaveChannelInfo`, whose error is ignored. -/
structure Poll where
  ofCache : Bool := true
  saved : Bool := true

section

variable (memoryCache : Bool)

/-- The position `CacheGetChannelInfo` returns. -/
def Positions.read (p : Positions) : Int := if memoryCache then p.cached else p.stored

/-- The receiver gets the position. It is saved only without the memory cache. -/
def Positions.write (p : Positions) (s : Poll) (next : Int) : Positions :=
  if memoryCache then { p with cached := if s.ofCache then next else p.cached }
  else { p with stored := if s.saved then next else p.stored }

/-- The next selection reads what this one writes. -/
def Poll.Advances (s : Poll) : Prop := if memoryCache then s.ofCache else s.saved

def selectKey (c : Channel) (p : Positions) (s : Poll) :
    Except KeyError (String × Nat) × Positions :=
  match getNextEnabledKey c { pollingIndex := .ok (p.read memoryCache) } with
  | .error e => (.error e, p)
  | .ok (key, i) => (.ok (key, i), p.write memoryCache s ((i + 1) % c.getKeys.length : Nat))

def selections (c : Channel) : Positions → List Poll → List (Except KeyError (String × Nat))
  | _, [] => []
  | p, s :: rest =>
    (selectKey memoryCache c p s).1 :: selections c (selectKey memoryCache c p s).2 rest

end

variable {memoryCache : Bool} {c : Channel} {p : Positions} {s : Poll}

theorem Positions.read_write (hs : s.Advances memoryCache) (next : Int) :
    (p.write memoryCache s next).read memoryCache = next := by
  cases memoryCache <;> exact if_pos hs

theorem Positions.write_eq (hs : ¬s.Advances memoryCache) (next : Int) :
    p.write memoryCache s next = p := by
  cases memoryCache <;> simp_all [Positions.write, Poll.Advances]

theorem selectKey_key : (selectKey memoryCache c p s).1 =
    getNextEnabledKey c { pollingIndex := .ok (p.read memoryCache) } := by
  unfold selectKey
  split
  next h => exact h.symm
  next h => exact h.symm

/-- A selection that does not advance leaves the next one to return the same key. -/
theorem selectKey_stays (hs : ¬s.Advances memoryCache) : (selectKey memoryCache c p s).2 = p := by
  unfold selectKey
  split
  · rfl
  · exact Positions.write_eq hs _

theorem advances_of_nodup {ss : List Poll} (h : (selections memoryCache c p ss).Nodup) :
    ∀ s ∈ ss.dropLast, s.Advances memoryCache := by
  induction ss generalizing p with
  | nil => simp
  | cons s rest ih =>
    obtain ⟨hnew, hrest⟩ := List.nodup_cons.mp h
    cases rest with
    | nil => simp
    | cons s' rest =>
      rw [List.dropLast_cons_cons, List.forall_mem_cons]
      refine ⟨by_contra fun hs => hnew ?_, ih hrest⟩
      rw [selectKey_stays hs, selectKey_key, selections, selectKey_key]
      exact List.mem_cons_self

/-- The enabled positions in the order in which they are met from `start` on. -/
def enabledFrom (c : Channel) (start : Nat) : List Nat :=
  ((List.range c.getKeys.length).rotate start).filter fun i => c.channelInfo.keyStatus i = .enabled

theorem enabledFrom_eq_rotate (c : Channel) (start : Nat) :
    ∃ j, enabledFrom c start = (enabledIdx c).rotate j := by
  have hsplit := List.take_append_drop (start % (List.range c.getKeys.length).length)
    (List.range c.getKeys.length)
  unfold enabledFrom enabledIdx
  rw [List.rotate_eq_drop_append_take_mod, List.filter_append]
  conv => enter [1, j, 2, 1]; rw [← hsplit, List.filter_append]
  exact ⟨_, (List.rotate_append_length_eq _ _).symm⟩

/-- The position behind the first of them leads on to the next, and round to the first. -/
theorem enabledFrom_next {start i : Nat} {rest : List Nat} (h : enabledFrom c start = i :: rest) :
    enabledFrom c ((i + 1) % c.getKeys.length) = rest ++ [i] := by
  obtain ⟨before, after, hrotate, hnone, henabled, hrest⟩ := List.filter_eq_cons_iff.mp h
  have hi : i = (before.length + start) % c.getKeys.length := by
    have hlt : before.length < ((List.range c.getKeys.length).rotate start).length := by
      simp [hrotate]
    have hget := List.getElem_rotate (List.range c.getKeys.length) start before.length hlt
    simpa [hrotate] using hget
  have hnext : (List.range c.getKeys.length).rotate ((i + 1) % c.getKeys.length) =
      after ++ (before ++ [i]) := by
    have hmod : (i + 1) % c.getKeys.length =
        (start + (before ++ [i]).length) % c.getKeys.length := by
      rw [hi, Nat.mod_add_mod]
      congr 1
      simp
      omega
    have hlength := List.rotate_mod (List.range c.getKeys.length)
    rw [List.length_range] at hlength
    rw [hmod, hlength, ← List.rotate_rotate, hrotate, List.append_cons before i after,
      List.rotate_append_length_eq]
  rw [enabledFrom, hnext, List.filter_append, List.filter_append, hrest,
    List.filter_eq_nil_iff.mpr hnone, List.nil_append, List.filter_singleton]
  rw [henabled, cond_true]

theorem selectKey_eq (hmulti : c.channelInfo.isMultiKey = true)
    (hmode : c.channelInfo.multiKeyMode = some .polling) {i : Nat}
    (h : pollFrom c (p.read memoryCache) = some i) :
    selectKey memoryCache c p s = (.ok (c.getKeys.getD i "", i),
      p.write memoryCache s ((i + 1) % c.getKeys.length : Nat)) := by
  have hmem := pollFrom_mem h
  have hkeys : c.getKeys ≠ [] :=
    List.ne_nil_of_length_pos (Nat.zero_lt_of_lt (mem_enabledIdx.mp hmem).1)
  have hnext : getNextEnabledKey c { pollingIndex := .ok (p.read memoryCache) } =
      .ok (c.getKeys.getD i "", i) := by
    obtain ⟨first, rest, hidx⟩ := List.exists_cons_of_ne_nil (List.ne_nil_of_mem hmem)
    simp only [getNextEnabledKey, hmulti, hkeys, hidx, hmode, h]
    rfl
  rw [selectKey, hnext]

theorem pollFrom_eq (position : Int) :
    pollFrom c position = (enabledFrom c (pollStart c position)).head? := by
  rw [enabledFrom, List.head?_filter, pollFrom]
  congr 1
  refine List.ext_getElem (by simp) fun i h₁ h₂ => ?_
  simp [List.getElem_rotate, Nat.add_comm]

theorem selections_eq (hmulti : c.channelInfo.isMultiKey = true)
    (hmode : c.channelInfo.multiKeyMode = some .polling) {ss : List Poll}
    (hadvance : ∀ s ∈ ss.dropLast, s.Advances memoryCache)
    (hlength : ss.length ≤ (enabledFrom c (pollStart c (p.read memoryCache))).length) :
    selections memoryCache c p ss =
      ((enabledFrom c (pollStart c (p.read memoryCache))).take ss.length).map
        fun i => .ok (c.getKeys.getD i "", i) := by
  induction ss generalizing p with
  | nil => simp [selections]
  | cons s rest ih =>
    obtain ⟨i, others, hfrom⟩ := List.exists_cons_of_length_pos (Nat.zero_lt_of_lt hlength)
    have hselect := selectKey_eq (s := s) hmulti hmode (i := i) (by rw [pollFrom_eq, hfrom]; rfl)
    have hothers : rest.length ≤ others.length := by simpa [hfrom] using hlength
    rw [selections, hselect, hfrom, List.length_cons, List.take_succ_cons, List.map_cons]
    congr 1
    cases rest with
    | nil => simp [selections]
    | cons s' rest =>
      rw [List.dropLast_cons_cons, List.forall_mem_cons] at hadvance
      have hpos : 0 < c.getKeys.length := by
        refine Nat.pos_of_ne_zero fun hzero => ?_
        simp [enabledFrom, hzero] at hfrom
      have hnext : enabledFrom c (pollStart c ((i + 1) % c.getKeys.length : Nat)) =
          others ++ [i] := by
        have hlt := Nat.mod_lt (i + 1) hpos
        rw [pollStart, if_neg (by omega), Int.toNat_natCast, enabledFrom_next hfrom]
      rw [ih hadvance.2 (by rw [Positions.read_write hadvance.1, hnext, List.length_append]; omega),
        Positions.read_write hadvance.1, hnext, List.take_append_of_le_length hothers]

/-- As many selections as there are enabled keys return each of them once, in the cyclic order of
their positions, exactly if every selection but the last leaves its position where the next one
reads it. A reload of the cache in between keeps the position. -/
theorem selections_cyclic_iff (hmulti : c.channelInfo.isMultiKey = true)
    (hmode : c.channelInfo.multiKeyMode = some .polling) (memoryCache : Bool) (p : Positions)
    {ss : List Poll} (hlength : ss.length = (enabledIdx c).length) :
    ((∃ j, selections memoryCache c p ss =
        ((enabledIdx c).rotate j).map fun i => .ok (c.getKeys.getD i "", i)) ↔
      ∀ s ∈ ss.dropLast, s.Advances memoryCache) ∧
    ∀ row : Channel, row.channelInfo.isMultiKey = true →
      row.channelInfo.multiKeyMode = some .polling →
      (cachedChannel (some c) row).channelInfo.multiKeyPollingIndex =
        c.channelInfo.multiKeyPollingIndex := by
  refine ⟨⟨?_, fun hadvance => ?_⟩, fun row hrow hpolling => ?_⟩
  · rintro ⟨j, hj⟩
    refine advances_of_nodup (c := c) (p := p) ?_
    rw [hj]
    refine (List.nodup_rotate.mpr (List.nodup_range.filter _)).map fun i i' h => ?_
    exact congrArg Prod.snd (Except.ok.inj h)
  · obtain ⟨j, hj⟩ := enabledFrom_eq_rotate c (pollStart c (p.read memoryCache))
    have hall : ss.length = (enabledFrom c (pollStart c (p.read memoryCache))).length := by
      rw [hj, List.length_rotate, hlength]
    refine ⟨j, ?_⟩
    rw [selections_eq hmulti hmode hadvance hall.le, hall, List.take_length, hj]
  · simp [cachedChannel, keepPollingIndex, hmulti, hmode, hrow, hpolling]

def twoKeys : Channel where
  id := 1
  key := "a\nb"
  models := "m"
  channelInfo := { isMultiKey := true, multiKeyMode := some .polling }

theorem selections_cyclic_two_keys :
    selections true twoKeys { cached := 1 } [{}, {}] = [.ok ("b", 1), .ok ("a", 0)] ∧
      ∃ j, selections true twoKeys { cached := 1 } [{}, {}] =
        ([0, 1].rotate j).map fun i => .ok (twoKeys.getKeys.getD i "", i) :=
  ⟨rfl, (selections_cyclic_iff rfl rfl true _ rfl).1.mpr (by simp [Poll.Advances])⟩

/-- With the memory cache, rows read from the database select the same key again and again. -/
theorem selections_same_key : enabledIdx twoKeys = [0, 1] ∧
    selections true twoKeys {} [{ ofCache := false }, { ofCache := false }] =
      [.ok ("a", 0), .ok ("a", 0)] :=
  ⟨rfl, rfl⟩

end ZModel.Relay.Setup
