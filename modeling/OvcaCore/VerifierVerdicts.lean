/-
The verdicts of a verification as accumulated maxima.

The verdicts are linearly ordered by their rank, `Pass` lowest; `apply_verdict` raises
entries in that order, and the verdict of a bundle is the largest of its results.
-/
import OvcaCore.VerifierBundle
import OvcaCore.Lib.Maxima

set_option autoImplicit false

namespace OvcaCore

open OvcaCore.Maxima

/-! ## The order of the verdicts -/

namespace CriterionResultVerdict

theorem rank_injective : Function.Injective rank := by
  intro v w h
  cases v <;> cases w <;> first | rfl | exact absurd h (by decide)

instance : LinearOrder CriterionResultVerdict := LinearOrder.lift' rank rank_injective

theorem le_iff_rank {v w : CriterionResultVerdict} : v ≤ w ↔ v.rank ≤ w.rank := Iff.rfl

instance : OrderBot CriterionResultVerdict where
  bot := .Pass
  bot_le _ := Nat.zero_le _

theorem bot_eq : (⊥ : CriterionResultVerdict) = .Pass := rfl

theorem worsened_eq_max (current contribution : CriterionResultVerdict) :
    current.worsened contribution = max current contribution := by
  unfold worsened
  by_cases h : current.rank < contribution.rank
  · rw [if_pos h, max_eq_right (le_iff_rank.mpr (Nat.le_of_lt h))]
  · rw [if_neg h, max_eq_left (le_iff_rank.mpr (Nat.le_of_not_lt h))]

theorem le_invalid (v : CriterionResultVerdict) : v ≤ .Invalid := by
  rw [le_iff_rank]
  cases v <;> decide

theorem max_invalid (v : CriterionResultVerdict) : max v .Invalid = .Invalid :=
  max_eq_right v.le_invalid

theorem bundle_injective : Function.Injective bundle := by
  intro v w h
  cases v <;> cases w <;> first | rfl | exact absurd h (by decide)

theorem bundle_eq_pass_iff {v : CriterionResultVerdict} : v.bundle = .Pass ↔ v = .Pass :=
  bundle_injective.eq_iff' rfl

end CriterionResultVerdict

/-! ## The maps of verdicts -/

theorem apply_verdict_to_eq (contribution : CriterionResultVerdict) :
    apply_verdict_to contribution = raise contribution := by
  funext verdicts criterion_id
  unfold apply_verdict_to raise
  congr 1
  cases verdicts[criterion_id]? with
  | none => rfl
  | some current => exact current.worsened_eq_max contribution

theorem apply_verdict_eq (verdicts : CriterionVerdicts) (criterion_ids : List String)
    (contribution : CriterionResultVerdict) :
    apply_verdict verdicts criterion_ids contribution
      = raise_all verdicts criterion_ids contribution := by
  unfold apply_verdict raise_all
  rw [apply_verdict_to_eq]

theorem get_uniform_verdicts {criterion_ids : List String} (hids : criterion_ids.Nodup)
    (verdict : CriterionResultVerdict) {criterion_id : String} (h : criterion_id ∈ criterion_ids) :
    (uniform_verdicts criterion_ids verdict)[criterion_id]? = some verdict := by
  unfold uniform_verdicts
  have hkeys : (criterion_ids.map fun id => (id, verdict)).map Prod.fst = criterion_ids := by
    rw [List.map_map]
    exact List.map_id _
  rw [OrderedMaps.get_ofList_eq_some (by rw [hkeys]; exact hids)]
  exact List.mem_map.mpr ⟨criterion_id, h, rfl⟩

/-! ## The verdict of a bundle -/

theorem worst_verdict_eq {results : List CriterionResult} (h : results ≠ []) :
    worst_verdict results = some (largest (results.map CriterionResult.verdict)) := by
  unfold worst_verdict
  have hne : results.map CriterionResult.verdict ≠ [] := by simpa using h
  have hmem : largest (results.map CriterionResult.verdict)
      ∈ results.map CriterionResult.verdict := by
    by_cases hbot : largest (results.map CriterionResult.verdict) = ⊥
    · -- every result passes, and there is one
      obtain ⟨v, hv⟩ := List.exists_mem_of_ne_nil _ hne
      rw [hbot, ← largest_eq_bot_iff.mp hbot v hv]
      exact hv
    · exact largest_mem hbot
  cases hworst : (results.map CriterionResult.verdict).argmax CriterionResultVerdict.rank with
  | none => exact absurd (List.argmax_eq_none.mp hworst) hne
  | some worst =>
    have hle : worst ≤ largest (results.map CriterionResult.verdict) :=
      le_largest (List.argmax_mem hworst)
    have hge : largest (results.map CriterionResult.verdict) ≤ worst :=
      CriterionResultVerdict.le_iff_rank.mpr (List.le_of_mem_argmax hmem hworst)
    rw [le_antisymm hle hge]

end OvcaCore
