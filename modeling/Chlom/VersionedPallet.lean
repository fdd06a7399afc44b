import Chlom.Frame
import Chlom.Library.VersionTable

/-!
# Pallets with version tables

A pallet that keeps a family of version tables and changes them only by
approvals and revocations at the current block.  Over every run its tables stay
well formed, and what a lookup answers for a past block stays fixed.
-/

namespace Chlom.Frame

variable {AccountId Block σ ε Call Key τ : Type} {w : Nat} [LinearOrder Block]
  [DatedTerms τ Block]

/-- Every successful call approves or revokes at the current block, or leaves a
table alone. -/
structure Versioned (pallet : Pallet AccountId Block σ ε Call)
    (table : σ → Key → VersionTable w τ Block) : Prop where
  changed : ∀ {env : Env AccountId Block} {origin : RawOrigin AccountId} {call : Call} {s s' : σ},
    (∀ key, (table s key).WellFormed env.blockNumber) → pallet env origin call s = .ok () s' →
      ∀ key, VersionTable.Changed env.blockNumber (table s key) (table s' key)

variable {pallet : Pallet AccountId Block σ ε Call} {table : σ → Key → VersionTable w τ Block}
  {start : World Block σ}

theorem Versioned.invariant (versioned : Versioned pallet table) :
    Invariant pallet fun now s => ∀ key, (table s key).WellFormed now where
  passes passed wellFormed key := (wellFormed key).later passed
  keeps wellFormed done key := (wellFormed key).changed (versioned.changed wellFormed done key)

theorem Versioned.wellFormed_run (versioned : Versioned pallet table)
    (wellFormed : ∀ key, (table start.storage key).WellFormed start.now)
    (inputs : List (Input AccountId Block Call)) (key : Key) :
    (table (run pallet start inputs).storage key).WellFormed (run pallet start inputs).now :=
  versioned.invariant.run wellFormed inputs key

/-- No later call changes the answer for a block before the current one. -/
theorem Versioned.active_run (versioned : Versioned pallet table)
    (wellFormed : ∀ key, (table start.storage key).WellFormed start.now) {block : Block}
    (past : block < start.now) (later : List (Input AccountId Block Call)) (key : Key) :
    (table (run pallet start later).storage key).active block =
      (table start.storage key).active block := by
  have invariant : Invariant pallet fun now s =>
      block < now ∧ ∀ key, (table s key).WellFormed now :=
    { passes := fun passed both =>
        ⟨both.1.trans_le passed, versioned.invariant.passes passed both.2⟩
      keeps := fun both done => ⟨both.1, versioned.invariant.keeps both.2 done⟩ }
  have kept : ∀ {env : Env AccountId Block} {origin : RawOrigin AccountId} {call : Call} {s s' : σ},
      (block < env.blockNumber ∧ ∀ key, (table s key).WellFormed env.blockNumber) →
        pallet env origin call s = .ok () s' →
          (table s key).active block = (table start.storage key).active block →
            (table s' key).active block = (table start.storage key).active block := by
    intro env origin call s s' both done before
    rw [(both.2 key).active_past (versioned.changed both.2 done key) both.1, before]
  exact invariant.lasts kept ⟨past, wellFormed⟩ rfl later

end Chlom.Frame
