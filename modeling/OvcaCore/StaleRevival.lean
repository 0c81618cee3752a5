/-
Stale evidence and its revival.

A stale row is not replaced by a current row of its own bundle. The check looks at the row
that is replaced and at no row before it, so a bundle that went stale may be current again,
but only after another bundle has had the row (`stale_revival`). `Revival` is such a run.
-/
import OvcaCore.EvidenceInvariants

set_option autoImplicit false

namespace OvcaCore

open OvcaCore.Checks OvcaCore.Slots

section Revival

open LocalVerificationStore

variable {codec : StoreCodec} {store store' : LocalVerificationStore} {operation : StoreOperation}
  {operations : List StoreOperation} {key : EvidenceKey} {row : BundleCurrentRow}

/-- The row of a key is still there, and if it has the bundle it is stale. -/
def StaleOrOther (store : LocalVerificationStore) (key : EvidenceKey) (digest : String) : Prop :=
  ∃ row : BundleCurrentRow, store.bundles.current[key]? = some row
    ∧ (row.record_digest = digest → row.freshness ≠ .Current)

theorem apply_bundle_cas_stale {record : BundleRecord} {expectation : ProjectionExpectation}
    {freshness : EvidenceFreshness} {outcome : CasOutcome EvidenceCurrent}
    (hrow : store.bundles.current[key]? = some row) (hstale : row.freshness ≠ .Current)
    (h : apply_bundle_cas codec store record expectation freshness = .ok (outcome, store')) :
    StaleOrOther store' key row.record_digest := by
  rcases apply_bundle_cas_cases h with ⟨-, rfl⟩ | ⟨next, -, -, -, hdigest, -, hswap, hrevives⟩
  · exact ⟨row, hrow, fun _ => hstale⟩
  by_cases hkey : key = next.key
  · subst hkey
    refine ⟨next.row, hswap.current, ?_⟩
    intro hsame
    -- the swap is refused where it selects the bundle of the stale row
    rw [hrow, ← hdigest] at hrevives
    change next.record_digest = row.record_digest at hsame
    unfold revives_stale at hrevives
    rw [hsame, Option.map_some, Option.any_some, Bool.and_eq_false_iff] at hrevives
    rcases hrevives with hfreshness | hdigest
    · exact absurd (by simpa [BundleCurrentRow.at] using hfreshness) hstale
    · exact absurd hdigest (by simp [BundleCurrentRow.at])
  · refine ⟨row, ?_, fun _ => hstale⟩
    rw [hswap.others_current hkey]
    exact hrow

theorem mark_stale_stale {marked : EvidenceKey} {expected : CasToken} {causes : List StaleCause}
    {outcome : CasOutcome EvidenceCurrent} (hrow : store.bundles.current[key]? = some row)
    (hstale : row.freshness ≠ .Current)
    (h : mark_stale codec store marked expected causes = .ok (outcome, store')) :
    StaleOrOther store' key row.record_digest := by
  rcases mark_stale_cases h with
    ⟨rfl, -⟩ | ⟨current, merged, next, -, -, -, -, -, hfreshness, hswap⟩
  · exact ⟨row, hrow, fun _ => hstale⟩
  by_cases hkey : key = next.key
  · subst hkey
    refine ⟨next.row, hswap.current, ?_⟩
    intro _ hcurrent
    change next.freshness = .Current at hcurrent
    rw [hfreshness] at hcurrent
    exact nomatch hcurrent
  · refine ⟨row, ?_, fun _ => hstale⟩
    rw [hswap.others_current hkey]
    exact hrow

/-- One operation. -/
theorem perform_stale {answer : StoreAnswer} (hrebuild : operation.is_rebuild = false)
    (hrow : store.bundles.current[key]? = some row) (hstale : row.freshness ≠ .Current)
    (h : operation.perform codec store = .ok (answer, store')) :
    StaleOrOther store' key row.record_digest := by
  have hpublish : ∀ {published : LocalVerificationStore}, Publishes store published →
      published.bundles.current[key]? = some row := by
    intro published hpublishes
    rw [hpublishes.bundles]
    exact hrow
  have hkept : ∀ {published : LocalVerificationStore},
      published.bundles.current[key]? = some row →
        StaleOrOther published key row.record_digest :=
    fun hrow => ⟨row, hrow, fun _ => hstale⟩
  cases operation <;>
    simp only [StoreOperation.perform, bind_eq_ok, pure_eq_ok, Prod.exists, Prod.mk.injEq] at h
  case publish_capability =>
    obtain ⟨_, _, h, -, rfl⟩ := h
    exact hkept (hpublish (publish_capability_tx_publishes h))
  case seed_capability =>
    obtain ⟨_, _, h, -, rfl⟩ := h
    exact hkept (hpublish (seed_capability_publishes h))
  case publish_bundle =>
    obtain ⟨_, _, h, -, rfl⟩ := h
    exact hkept (hpublish (publish_bundle_tx_eq_ok h).1)
  case compare_and_swap_capability =>
    obtain ⟨_, _, h, -, rfl⟩ := h
    refine hkept ?_
    rw [compare_and_swap_capability_bundles h]
    exact hrow
  case compare_and_swap_bundle =>
    obtain ⟨_, _, h, -, rfl⟩ := h
    unfold compare_and_swap_bundle at h
    simp only [bind_eq_ok, ok_or_eq_ok] at h
    obtain ⟨_, -, record, -, h⟩ := h
    exact apply_bundle_cas_stale hrow hstale h
  case publish_bundle_and_cas =>
    obtain ⟨_, _, _, h, -, rfl⟩ := h
    obtain ⟨published, hpublished, hcas⟩ := publish_bundle_and_cas_eq_ok h
    exact apply_bundle_cas_stale (hpublish (publish_bundle_tx_eq_ok hpublished).1) hstale hcas
  case mark_stale =>
    obtain ⟨_, _, h, -, rfl⟩ := h
    exact mark_stale_stale hrow hstale h
  case mark_stale_if_fingerprints_changed =>
    obtain ⟨_, _, h, -, rfl⟩ := h
    rcases mark_stale_if_fingerprints_changed_cases h with ⟨rfl, -⟩ | ⟨causes, h⟩
    · exact hkept hrow
    · exact mark_stale_stale hrow hstale h
  case rebuild_projections => cases hrebuild

theorem exec_stale (hrebuild : operation.is_rebuild = false)
    (hrow : store.bundles.current[key]? = some row) (hstale : row.freshness ≠ .Current) :
    StaleOrOther (operation.exec codec store).2 key row.record_digest := by
  unfold StoreOperation.exec
  cases hperform : operation.perform codec store with
  | error error => exact ⟨row, hrow, fun _ => hstale⟩
  | ok result => exact perform_stale hrebuild hrow hstale hperform

/-- A stale row stays stale as long as its bundle stays. -/
theorem run_stale (hrebuild : ∀ operation ∈ operations, operation.is_rebuild = false)
    (hrow : store.bundles.current[key]? = some row) (hstale : row.freshness ≠ .Current) :
    (∃ first second other, operations = first ++ second
        ∧ (StoreOperation.run codec store first).bundles.current[key]? = some other
        ∧ other.record_digest ≠ row.record_digest)
      ∨ ∃ last : BundleCurrentRow,
        (StoreOperation.run codec store operations).bundles.current[key]? = some last
        ∧ last.record_digest = row.record_digest ∧ last.freshness ≠ .Current := by
  induction operations generalizing store row with
  | nil => exact Or.inr ⟨row, hrow, rfl, hstale⟩
  | cons operation operations ih =>
    obtain ⟨next, hnext, hnext_stale⟩ :=
      @exec_stale codec store operation key row (hrebuild operation List.mem_cons_self) hrow hstale
    by_cases hdigest : next.record_digest = row.record_digest
    · rw [run_cons, ← hdigest]
      rcases ih (fun operation hmem => hrebuild operation (List.mem_cons_of_mem _ hmem)) hnext
        (hnext_stale hdigest) with ⟨first, second, other, rfl, hother, hne⟩ | hlast
      · exact Or.inl ⟨operation :: first, second, other, rfl, hother, hne⟩
      · exact Or.inr hlast
    · exact Or.inl ⟨[operation], operations, next, rfl, hnext, hdigest⟩

end Revival

/-- **Stale evidence is revived through other evidence only.** Where a key is stale and later
current, another bundle has had its row since, whichever bundle has it then. -/
theorem stale_revival (codec : StoreCodec) (store : LocalVerificationStore) (key : EvidenceKey)
    (operations : List StoreOperation)
    (hrebuild : ∀ operation ∈ operations, operation.is_rebuild = false)
    (stale revived : BundleCurrentRow) (causes : List StaleCause)
    (hstale : store.bundles.current[key]? = some stale)
    (hcauses : stale.freshness = .Stale causes)
    (hrevived : (StoreOperation.run codec store operations).bundles.current[key]? = some revived)
    (hcurrent : revived.freshness = .Current) :
    ∃ first second other, operations = first ++ second
      ∧ (StoreOperation.run codec store first).bundles.current[key]? = some other
      ∧ other.record_digest ≠ stale.record_digest := by
  have hnot_current : stale.freshness ≠ .Current := by
    rw [hcauses]
    exact nofun
  rcases @run_stale codec store operations key stale hrebuild hstale hnot_current with
    hother | ⟨last, hlast, -, hlast_stale⟩
  · exact hother
  · rw [hrevived, Option.some_inj] at hlast
    rw [← hlast] at hlast_stale
    exact absurd hcurrent hlast_stale

namespace Revival

open Reset

def key : EvidenceKey := ⟨"run", "goal", "task"⟩

def other : VerificationBundle := { bundle with bundle_id := "other" }

def token (generation : ℕ) (bundle_id : String) : CasToken :=
  ⟨generation, checksum (generation.toUInt8 :: as_bytes bundle_id)⟩

/-- The first bundle is current, then it is stale. -/
def earlier : List StoreOperation :=
  [.publish_bundle_and_cas bundle .Absent, .mark_stale key (token 1 "bundle") [.Source]]

/-- The other bundle takes the row, and gives it back. -/
def detour : List StoreOperation :=
  [.publish_bundle_and_cas other (.Token (token 2 "bundle")),
    .compare_and_swap_bundle (checksum (as_bytes "bundle"))
      (.Token (token 3 "other"))]

def invalidated : LocalVerificationStore := StoreOperation.run codec .empty earlier

def stale_row : BundleCurrentRow where
  bundle_id := "bundle"
  record_digest := checksum (as_bytes "bundle")
  freshness := .Stale [.Source]
  token := token 2 "bundle"

def revived_row : BundleCurrentRow where
  bundle_id := "bundle"
  record_digest := checksum (as_bytes "bundle")
  freshness := .Current
  token := token 4 "bundle"

theorem invalidated_current : invalidated.bundles.current[key]? = some stale_row := by
  decide

theorem detour_current :
    (StoreOperation.run codec invalidated detour).bundles.current[key]? = some revived_row := by
  decide +kernel

theorem stale_revived_through_other : ∃ first second other, detour = first ++ second
    ∧ (StoreOperation.run codec invalidated first).bundles.current[key]? = some other
    ∧ other.record_digest ≠ stale_row.record_digest :=
  stale_revival codec invalidated key detour (by decide) stale_row revived_row [.Source]
    invalidated_current rfl detour_current rfl

/-- **A bundle that was stale is current again.** No operation of the run is a rebuild. -/
theorem revived_after_stale :
    (∀ operation ∈ earlier ++ detour, operation.is_rebuild = false)
    ∧ (StoreOperation.run codec .empty earlier).bundles.current[key]? = some stale_row
    ∧ (StoreOperation.run codec (StoreOperation.run codec .empty earlier) detour).bundles.current[
      key]? = some revived_row
    ∧ stale_row.freshness = .Stale [.Source] ∧ revived_row.freshness = .Current
    ∧ revived_row.record_digest = stale_row.record_digest :=
  ⟨by decide, invalidated_current, detour_current, rfl, rfl, rfl⟩

end Revival

end OvcaCore
