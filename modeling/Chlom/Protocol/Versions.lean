import Chlom.Library.Selection
import Chlom.Protocol.Validation
import Mathlib.Data.Int.ConditionallyCompleteOrder

/-!
# Versions with disjoint windows

A list of configured records is accepted exactly when its version keys are distinct and
the windows of one id of one tenant are disjoint.
-/

namespace Chlom.Protocol

open Js Results Selection

variable {N : Type} [Numbers N]

/-- The moments at which a window is open. -/
def Window.moments (window : Window) : Set Int := Set.Ico window.start.time window.stop.time

theorem Window.active_iff {window : Window} {now : Int} :
    window.active now = true ↔ now ∈ window.moments := by
  rw [Window.active, Window.moments, Set.mem_Ico, Bool.and_eq_true, decide_eq_true_iff,
    decide_eq_true_iff]

/-- The tenant and the id of a configured record. -/
def Configured.account (value : Configured N) : Str × Str := (value.scope.tenantId, value.id)

/-- One of two records is of another account or closed whenever the other is open. -/
def Apart (value other : Configured N) : Prop :=
  value.account = other.account → Disjoint value.window.moments other.window.moments

theorem checkOverlaps_eq_ok {value : Configured N × Nat} {others : List (Configured N × Nat)} :
    checkOverlaps value others = .ok () ↔
      ∀ other ∈ others, value.2 ≠ other.2 → Apart value.1 other.1 := by
  induction others with
  | nil => simp [checkOverlaps]
  | cons other rest ih =>
      rw [List.forall_mem_cons, checkOverlaps]
      split_ifs with skipped overlap
      · rw [ih]
        refine ⟨fun all => ⟨fun differs same => ?_, all⟩, fun all => all.2⟩
        rcases skipped with equal | otherId | otherTenant
        · exact absurd equal differs
        · exact absurd (Prod.mk.inj same).2 otherId
        · exact absurd (Prod.mk.inj same).1 otherTenant
      · push Not at skipped
        refine ⟨nofun, fun all => ?_⟩
        have same : value.1.account = other.1.account := Prod.ext skipped.2.2 skipped.2.1
        exact absurd overlap ((disjoint_Ico_iff value.1.window.ordered other.1.window.ordered).mp
          (all.1 skipped.1 same))
      · rw [ih]
        refine ⟨fun all => ⟨fun _ _ => ?_, all⟩, fun all => all.2⟩
        exact (disjoint_Ico_iff value.1.window.ordered other.1.window.ordered).mpr overlap

theorem uniqueVersionsFrom_eq_ok {values rest : List (Configured N × Nat)} {keys : List Str} :
    uniqueVersionsFrom values keys rest = .ok () ↔
      (∀ value ∈ rest, versionKey value.1 ∉ keys) ∧ (rest.map fun value => versionKey value.1).Nodup ∧
        ∀ value ∈ rest, checkOverlaps value values = .ok () := by
  induction rest generalizing keys with
  | nil => simp [uniqueVersionsFrom]
  | cons value rest ih =>
      rw [uniqueVersionsFrom, List.forall_mem_cons, List.forall_mem_cons, List.map_cons,
        List.nodup_cons]
      split_ifs with known
      · exact ⟨nofun, fun all => absurd known all.1.1⟩
      · rw [bind_eq_ok]
        constructor
        · rintro ⟨_, checked, ranRest⟩
          obtain ⟨fresh, distinct, all⟩ := ih.mp ranRest
          refine ⟨⟨known, fun other member old => ?_⟩, ⟨fun again => ?_, distinct⟩, checked, all⟩
          · exact fresh other member (List.mem_cons_of_mem _ old)
          · obtain ⟨other, member, same⟩ := List.mem_map.mp again
            exact fresh other member (same ▸ List.mem_cons_self)
        · rintro ⟨⟨_, fresh⟩, ⟨notAgain, distinct⟩, checked, all⟩
          refine ⟨(), checked, ih.mpr ⟨fun other member old => ?_, distinct, all⟩⟩
          rcases List.mem_cons.mp old with same | old
          · exact notAgain (same ▸ List.mem_map.mpr ⟨other, member, rfl⟩)
          · exact fresh other member old

theorem uniqueVersions_eq_ok {values : List (Configured N)} :
    uniqueVersions values = .ok () ↔ (values.map versionKey).Nodup ∧
      DisjointWindows Configured.account (fun value => value.window.moments) values := by
  have keys : (values.zipIdx.map fun value => versionKey value.1) = values.map versionKey := by
    have split : (values.zipIdx.map fun value => versionKey value.1) =
        (values.zipIdx.map Prod.fst).map versionKey := by
      rw [List.map_map]
      rfl
    rw [split, List.zipIdx_map_fst]
  have symmetric : ∀ value other : Configured N, Apart value other → Apart other value :=
    fun _ _ apart same => (apart same.symm).symm
  rw [uniqueVersions, uniqueVersionsFrom_eq_ok, keys]
  simp only [checkOverlaps_eq_ok, List.not_mem_nil, not_false_eq_true, implies_true, true_and]
  exact and_congr_right fun _ => forall_zipIdx_iff_pairwise symmetric

/-- Whether versions are accepted does not depend on their order. -/
theorem uniqueVersions_perm {values others : List (Configured N)} (same : values.Perm others)
    (accepted : uniqueVersions values = .ok ()) : uniqueVersions others = .ok () := by
  rw [uniqueVersions_eq_ok] at accepted ⊢
  exact ⟨(same.map versionKey).nodup_iff.mp accepted.1, accepted.2.perm same⟩

/-- Of records with accepted versions, at every moment at most one of an account is active. -/
theorem uniqueVersions_atMostOne {α : Type} {f : α → Configured N} {items : List α}
    (accepted : uniqueVersions (items.map f) = .ok ()) {account : Str × Str} {now : Int}
    {p : α → Bool}
    (selects : ∀ item, p item = true → (f item).account = account ∧ (f item).window.active now = true) :
    AtMostOne p items := by
  have disjoint : DisjointWindows (fun item => (f item).account) (fun item => (f item).window.moments)
      items :=
    List.pairwise_map.mp (uniqueVersions_eq_ok.mp accepted).2
  have opened : ∀ item, p item = true → (f item).account = account ∧ now ∈ (f item).window.moments :=
    fun item matched => ⟨(selects item matched).1, Window.active_iff.mp (selects item matched).2⟩
  exact disjoint.atMostOne opened

end Chlom.Protocol
