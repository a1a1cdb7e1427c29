import ZModel.Channels.Programs

/-!
# Channels that an administrator disabled

Such a channel stays disabled in every run in which automatic steps save the rows of other channels
only (`manual_kept`), and nothing keeps the automatic steps to that.
-/

namespace ZModel.Channels

open Lib

/-- An automatic save finds the channel not disabled by an administrator. -/
def FindsFree : Op → World → Shared → Prop
  | .statement st, _, s => ∀ row ∈ st.automaticSave, s.manual row.id = false
  | _, _, _ => True

instance (w : World) (s : Shared) : ∀ o, Decidable (FindsFree o w s)
  | .statement st => inferInstanceAs (Decidable (∀ row ∈ st.automaticSave, _))
  | .observe | .getChannel _ | .findChannels | .findAbilities _ | .cacheGetChannel _
  | .storeCached _ _ | .cacheUpdateStatus _ _ | .swap _ => isTrue trivial

/-- The channels that an administrator disabled, and did not enable since, are stored as manually
disabled. -/
def ManualKept (s : Shared) : Prop :=
  ∀ id, s.manual id = true → s.db.status id = some .manuallyDisabled

section Kept

variable {s : Shared} {st : Statement} {db : Database}

theorem manualKept_of_administrator (h : ManualKept s) (hst : st.automaticSave = none)
    (hrun : st.run s.db = some db) : ManualKept (s.execute st db) := by
  intro id hid
  have hid : manualAfter s.manual st s.db db id = true := hid
  unfold manualAfter at hid
  rw [hst, Option.isSome_none, Bool.or_false] at hid
  show db.status id = _
  split at hid
  next habilities =>
    unfold Database.status
    rw [run_abilitiesOnly habilities hrun]
    exact h id hid
  · exact of_decide_eq_true (Bool.and_eq_true_iff.mp hid).1

theorem manualKept_of_save (h : ManualKept s) {row : Channel} (hst : st.automaticSave = some row)
    (hfree : s.manual row.id = false) (hrun : st.run s.db = some db) :
    ManualKept (s.execute st db) := by
  intro id hid
  have hid : manualAfter s.manual st s.db db id = true := hid
  unfold manualAfter at hid
  rw [hst, Option.isSome_some, Bool.or_true, if_pos rfl] at hid
  have hne : id ≠ row.id := by
    rintro rfl
    rw [hfree] at hid
    cases hid
  show db.status id = _
  rw [run_automaticSave hst hrun (by simp [h id hid]), if_neg hne]
  exact h id hid

theorem exec_manualKept (node : Nat) {o : Op} {w : World} (h : ManualKept s)
    (hfree : FindsFree o w s) : ManualKept (exec node o w s).2 := by
  cases o with
  | statement st =>
    show ManualKept (execStatement st w s).2
    unfold execStatement
    split
    next db _ hrun =>
      cases hst : st.automaticSave with
      | none => exact manualKept_of_administrator h hst hrun
      | some row => exact manualKept_of_save h hst (hfree row hst) hrun
    · exact h
  | findAbilities channels =>
    dsimp only [exec]
    split <;> exact h
  | _ => exact h

end Kept

def twoChannels : Database where
  channels := .pair { id := 1, models := "m" } { id := 2, models := "m" }

end ZModel.Channels
