import Chlom.Library.HashChain
import Chlom.Utility.Records
import Mathlib.Algebra.Order.Ring.Int
import Mathlib.Logic.Function.Basic

/-!
# The receipt log

The four storage items of the receipt chain spell out one list of entries.  A
ledger replayed from that list agrees with the stored balances at every step,
so the log alone accounts for the whole history of every balance.
-/

namespace Chlom.Utility

open Chlom.Frame

/-! ## Replaying a log -/

/-- A balance in unbounded arithmetic. -/
@[ext]
structure ExactBalance where
  allocated : Int
  available : Int
  reserved : Int
  consumed : Int
  deriving DecidableEq

def ExactBalance.zero : ExactBalance := ⟨0, 0, 0, 0⟩

def ResourceBalance.exact (balance : ResourceBalance) : ExactBalance :=
  ⟨balance.allocated.toNat, balance.available.toNat, balance.reserved.toNat,
    balance.consumed.toNat⟩

/-- How units move by kind: an allocation brings new units, a reservation sets
available ones aside, and a closure spends them or gives them back. -/
def ExactBalance.move (balance : ExactBalance) (units : Int) : OperationKind → ExactBalance
  | .allocate =>
      { balance with
        allocated := balance.allocated + units
        available := balance.available + units }
  | .reserve =>
      { balance with
        available := balance.available - units
        reserved := balance.reserved + units }
  | .consume =>
      { balance with
        reserved := balance.reserved - units
        consumed := balance.consumed + units }
  | .release =>
      { balance with
        reserved := balance.reserved - units
        available := balance.available + units }

theorem Moves.exact {units : Nat} {before after : ResourceBalance} {kind : OperationKind}
    (moves : Moves units before after kind) : after.exact = before.exact.move units kind := by
  cases kind <;> obtain ⟨allocated, available, reserved, consumed⟩ := moves <;> ext <;>
    simp only [ResourceBalance.exact, ExactBalance.move] <;> omega

variable {T : Config} {AccountId BlockNumber : Type}

/-- An entry of the log: the operation id and its receipt. -/
abbrev LogEntry (AccountId BlockNumber : Type) := Id32 × ResourceReceipt AccountId BlockNumber

/-- The key a log entry is stored under. -/
def entryKey (entry : LogEntry AccountId BlockNumber) : AccountId × Id32 :=
  (entry.2.account, entry.1)

/-- The balances of all accounts on all resources, in unbounded arithmetic. -/
abbrev Ledger (AccountId : Type) := AccountId × Id32 → ExactBalance

section Replay

variable [DecidableEq AccountId]

/-- Apply one receipt to a ledger. -/
def Ledger.apply (ledger : Ledger AccountId) (entry : LogEntry AccountId BlockNumber) :
    Ledger AccountId :=
  Function.update ledger (entry.2.account, entry.2.resourceId)
    ((ledger (entry.2.account, entry.2.resourceId)).move entry.2.units.toNat entry.2.kind)

/-- Fold a log from zero balances. -/
def replay (log : List (LogEntry AccountId BlockNumber)) : Ledger AccountId :=
  log.foldl Ledger.apply fun _ => .zero

theorem replay_append_singleton (log : List (LogEntry AccountId BlockNumber))
    (entry : LogEntry AccountId BlockNumber) :
    replay (log ++ [entry]) = (replay log).apply entry := by
  simp [replay]

end Replay

/-! ## The log spelled out by the storage -/

/-- The entry filed under a sequence number. -/
def Storage.entry (s : Storage T AccountId BlockNumber) (sequence : Nat) :
    Option (LogEntry AccountId BlockNumber) :=
  (s.receiptIndex.get (BitVec.ofNat 64 sequence)).bind fun key =>
    (s.receipts.get key).map fun receipt => (key.2, receipt)

/-- The stored receipts in sequence order. -/
def Storage.receiptLog (s : Storage T AccountId BlockNumber) :
    List (LogEntry AccountId BlockNumber) :=
  (List.range' 1 s.receiptCount.toNat).filterMap s.entry

section Representation

variable [DecidableEq AccountId] [Encode AccountId] [Encode BlockNumber]

/-- How an entry takes part in the hash chain of a pallet. -/
def receiptLink (T : Config) : HashChain.Link (LogEntry AccountId BlockNumber) Id32 where
  previous entry := entry.2.previousHash
  own entry := entry.2.receiptHash
  digest entry := T.blake2_256 (receiptPreimage entry.1 entry.2)

/-- The receipt storage spells out a log, and the log accounts for the balances. -/
structure Represents (s : Storage T AccountId BlockNumber)
    (log : List (LogEntry AccountId BlockNumber)) : Prop where
  count : s.receiptCount.toNat = log.length
  index : ∀ {sequence : U64} {key}, s.receiptIndex.get sequence = some key ↔
    ∃ position entry, log[position]? = some entry ∧ sequence.toNat = position + 1 ∧
      entryKey entry = key
  stored : ∀ {key receipt}, s.receipts.get key = some receipt ↔
    ∃ entry ∈ log, entryKey entry = key ∧ entry.2 = receipt
  distinct : (log.map entryKey).Nodup
  numbered : ∀ {position entry}, log[position]? = some entry →
    entry.2.sequence.toNat = position + 1
  linked : HashChain.Linked (receiptLink T) ZERO_ID log
  head : s.receiptHead = HashChain.head (receiptLink T) ZERO_ID log
  step : ∀ {position entry}, log[position]? = some entry →
    replay (log.take (position + 1)) (entry.2.account, entry.2.resourceId) =
      entry.2.balanceAfter.exact
  final : ∀ account resourceId, replay log (account, resourceId) =
    (s.balance account resourceId).exact

theorem represents_empty : Represents (.empty T AccountId BlockNumber) [] where
  count := rfl
  index := by simp [Storage.empty]
  stored := by simp [Storage.empty]
  distinct := List.nodup_nil
  numbered found := by cases found
  linked := trivial
  head := rfl
  step found := by cases found
  final _ _ := rfl

/-- Reading one position of a log that gained an entry. -/
theorem getElem?_append_singleton_eq_some {α : Type} {log : List α} {last entry : α}
    {position : Nat} :
    (log ++ [last])[position]? = some entry ↔
      log[position]? = some entry ∨ (position = log.length ∧ last = entry) := by
  rcases Nat.lt_trichotomy position log.length with before | here | beyond
  · rw [List.getElem?_append_left before]
    constructor
    · exact Or.inl
    · rintro (found | ⟨rfl, _⟩)
      · exact found
      · exact absurd before (Nat.lt_irrefl _)
  · subst here
    simp
  · have short : log.length + 1 ≤ position := beyond
    rw [List.getElem?_eq_none (by simpa using short), List.getElem?_eq_none (Nat.le_of_lt beyond)]
    simp only [reduceCtorEq, false_or, false_iff]
    omega

section Posting

variable {s : Storage T AccountId BlockNumber} {log : List (LogEntry AccountId BlockNumber)}
  {env : Env AccountId BlockNumber} {sequence : U64} {p : Posting AccountId}

/-- No entry of the log has a key that no receipt is stored under. -/
theorem Represents.absent (represents : Represents s log) {key : AccountId × Id32}
    (fresh : s.receipts.get key = none) : ∀ entry ∈ log, entryKey entry ≠ key := by
  intro entry member same
  have filed := represents.stored.mpr ⟨entry, member, same, rfl⟩
  rw [fresh] at filed
  cases filed

/-- Replaying the receipt of a posting after the log yields the balances after it. -/
theorem Represents.replay_post (represents : Represents s log)
    (moves : Moves p.units.toNat (s.balance p.account p.resourceId) p.balanceAfter p.kind)
    (account : AccountId) (resourceId : Id32) :
    replay (log ++ [(p.operationId, p.receipt T env s sequence)]) (account, resourceId) =
      ((s.post env sequence p).balance account resourceId).exact := by
  rw [replay_append_singleton, post_balance]
  change Function.update (replay log) (p.account, p.resourceId)
    ((replay log (p.account, p.resourceId)).move p.units.toNat p.kind) (account, resourceId) = _
  by_cases hit : p.account = account ∧ p.resourceId = resourceId
  · obtain ⟨rfl, rfl⟩ := hit
    rw [Function.update_self, if_pos ⟨rfl, rfl⟩, represents.final, moves.exact]
  · have ne : (account, resourceId) ≠ (p.account, p.resourceId) := by
      intro equal
      obtain ⟨rfl, rfl⟩ := Prod.mk.inj equal
      exact hit ⟨rfl, rfl⟩
    rw [Function.update_of_ne ne, if_neg hit, represents.final]

/-- The index after a posting lists the positions of the longer log. -/
theorem Represents.index_post (represents : Represents s log)
    (sequenceEq : sequence.toNat = log.length + 1) {other : U64} {key : AccountId × Id32} :
    (s.post env sequence p).receiptIndex.get other = some key ↔
      ∃ position entry,
        (log ++ [(p.operationId, p.receipt T env s sequence)])[position]? = some entry ∧
          other.toNat = position + 1 ∧ entryKey entry = key := by
  change (s.receiptIndex.insert sequence (p.account, p.operationId)).get other = some key ↔ _
  rw [StorageMap.get_insert]
  simp only [getElem?_append_singleton_eq_some]
  by_cases newest : other = sequence
  · subst newest
    rw [if_pos rfl]
    constructor
    · intro same
      exact ⟨log.length, _, .inr ⟨rfl, rfl⟩, sequenceEq, Option.some.inj same⟩
    · rintro ⟨position, entry, old | ⟨_, rfl⟩, number, rfl⟩
      · have bound := (List.getElem?_eq_some_iff.mp old).1
        omega
      · rfl
  · rw [if_neg newest, represents.index]
    constructor
    · rintro ⟨position, entry, found, rest⟩
      exact ⟨position, entry, .inl found, rest⟩
    · rintro ⟨position, entry, found | ⟨rfl, _⟩, number, same⟩
      · exact ⟨position, entry, found, number, same⟩
      · exact absurd (BitVec.eq_of_toNat_eq (number.trans sequenceEq.symm)) newest

/-- The receipts after a posting under a fresh key are those of the longer log. -/
theorem Represents.stored_post (represents : Represents s log)
    (fresh : s.receipts.get (p.account, p.operationId) = none) {key : AccountId × Id32}
    {receipt : ResourceReceipt AccountId BlockNumber} :
    (s.post env sequence p).receipts.get key = some receipt ↔
      ∃ entry ∈ log ++ [(p.operationId, p.receipt T env s sequence)],
        entryKey entry = key ∧ entry.2 = receipt := by
  change (s.receipts.insert (p.account, p.operationId) _).get key = some receipt ↔ _
  rw [StorageMap.get_insert]
  by_cases own : key = (p.account, p.operationId)
  · subst own
    rw [if_pos rfl]
    constructor
    · intro same
      exact ⟨_, List.mem_append_right _ (List.mem_singleton_self _), rfl, Option.some.inj same⟩
    · rintro ⟨entry, member, same, rfl⟩
      rcases List.mem_append.mp member with old | new
      · exact absurd same (represents.absent fresh entry old)
      · rw [List.mem_singleton.mp new]
  · rw [if_neg own, represents.stored]
    constructor
    · rintro ⟨entry, member, rest⟩
      exact ⟨entry, List.mem_append_left _ member, rest⟩
    · rintro ⟨entry, member, same, receiptEq⟩
      rcases List.mem_append.mp member with old | new
      · exact ⟨entry, old, same, receiptEq⟩
      · rw [List.mem_singleton.mp new] at same
        exact absurd same.symm own

/-- A posting extends the represented log by its receipt. -/
theorem Represents.post (represents : Represents s log) (env : Env AccountId BlockNumber)
    (fresh : s.receipts.get (p.account, p.operationId) = none)
    (follows : sequence.toNat = s.receiptCount.toNat + 1)
    (moves : Moves p.units.toNat (s.balance p.account p.resourceId) p.balanceAfter p.kind) :
    Represents (s.post env sequence p)
      (log ++ [(p.operationId, p.receipt T env s sequence)]) := by
  have sequenceEq : sequence.toNat = log.length + 1 := by rw [follows, represents.count]
  constructor
  case count =>
    change sequence.toNat = _
    simpa using sequenceEq
  case index => exact represents.index_post sequenceEq
  case stored => exact represents.stored_post fresh
  case distinct =>
    rw [List.map_append, List.nodup_append]
    refine ⟨represents.distinct, List.nodup_singleton _, ?_⟩
    intro key member other last
    obtain ⟨entry, entryMember, rfl⟩ := List.mem_map.mp member
    rw [List.mem_singleton.mp last]
    exact represents.absent fresh entry entryMember
  case numbered =>
    intro position entry found
    rcases getElem?_append_singleton_eq_some.mp found with old | ⟨rfl, rfl⟩
    · exact represents.numbered old
    · exact sequenceEq
  case linked =>
    exact HashChain.linked_append_singleton.mpr ⟨represents.linked, represents.head, rfl⟩
  case head =>
    rw [HashChain.head_append_singleton]
    rfl
  case step =>
    intro position entry found
    rcases getElem?_append_singleton_eq_some.mp found with old | ⟨rfl, rfl⟩
    · have bound := (List.getElem?_eq_some_iff.mp old).1
      rw [List.take_append_of_le_length (by omega)]
      exact represents.step old
    · rw [List.take_of_length_le (by simp), represents.replay_post moves, post_balance]
      exact congrArg ResourceBalance.exact (if_pos ⟨rfl, rfl⟩)
  case final => exact represents.replay_post moves

end Posting

/-- Only the receipt storage and the balances matter to the log. -/
theorem Represents.of_same {s s' : Storage T AccountId BlockNumber}
    {log : List (LogEntry AccountId BlockNumber)} (represents : Represents s log)
    (same : SameLog s s') : Represents s' log where
  count := same.count ▸ represents.count
  index := same.index ▸ represents.index
  stored := same.receipts ▸ represents.stored
  distinct := represents.distinct
  numbered := represents.numbered
  linked := represents.linked
  head := same.head ▸ represents.head
  step := represents.step
  final account resourceId := by
    rw [Storage.balance, same.balances]
    exact represents.final account resourceId

variable [LinearOrder BlockNumber] {env : Env AccountId BlockNumber}
  {s s' : Storage T AccountId BlockNumber} {origin : RawOrigin AccountId}
  {call : Call AccountId BlockNumber}

/-- A successful call leaves the log as it is or appends one entry to it. -/
theorem Effect.represents {log : List (LogEntry AccountId BlockNumber)}
    (represents : Represents s log) (effect : Effect env s origin call s') :
    ∃ appended, appended.length ≤ 1 ∧ Represents s' (log ++ appended) := by
  rcases effect.log_cases with same | ⟨sequence, p, request, posted, same⟩
  · refine ⟨[], Nat.zero_le _, ?_⟩
    rw [List.append_nil]
    exact represents.of_same same
  · have posting := represents.post env posted.fresh posted.sequence posted.moves
    exact ⟨[_], le_rfl, posting.of_same same⟩

theorem represents_invariant (T : Config) :
    Invariant (pallet T) fun _ (s : Storage T AccountId BlockNumber) =>
      ∃ log, Represents s log where
  passes _ represented := represented
  keeps := by
    rintro env origin call s s' ⟨log, represents⟩ done
    obtain ⟨appended, _, after⟩ := (pallet_effect done).represents represents
    exact ⟨log ++ appended, after⟩

theorem represents_run (T : Config) (genesis : BlockNumber)
    (inputs : List (Input AccountId BlockNumber (Call AccountId BlockNumber))) :
    ∃ log, Represents (run T genesis inputs).storage log :=
  (represents_invariant T).run ⟨[], represents_empty⟩ inputs

end Representation

/-! ## Reading the log off the storage -/

/-- Reading a list position by position gives the list back. -/
theorem filterMap_range'_getElem? {α : Type} (log : List α) (start : Nat) :
    (List.range' start log.length).filterMap (fun number => log[number - start]?) = log := by
  induction log generalizing start with
  | nil => rfl
  | cons first rest ih =>
      have shifted : (List.range' (start + 1) rest.length).filterMap
            (fun number => (first :: rest)[number - start]?) =
          (List.range' (start + 1) rest.length).filterMap
            (fun number => rest[number - (start + 1)]?) := by
        apply List.filterMap_congr
        intro number member
        have beyond := (List.mem_range'_1.mp member).1
        have position : number - start = number - (start + 1) + 1 := by omega
        rw [position, List.getElem?_cons_succ]
      rw [List.length_cons, List.range'_succ, List.filterMap_cons]
      simp only [Nat.sub_self, List.getElem?_cons_zero, shifted, ih]

section Reading

variable [DecidableEq AccountId] [Encode AccountId] [Encode BlockNumber]
  {s : Storage T AccountId BlockNumber} {log : List (LogEntry AccountId BlockNumber)}

/-- The receipt under an indexed key is the entry at that position of the log. -/
theorem Represents.entry_of_index (represents : Represents s log) {sequence : U64}
    {key : AccountId × Id32} {receipt : ResourceReceipt AccountId BlockNumber}
    (indexed : s.receiptIndex.get sequence = some key)
    (filed : s.receipts.get key = some receipt) :
    ∃ position, sequence.toNat = position + 1 ∧ log[position]? = some (key.2, receipt) := by
  obtain ⟨position, entry, found, number, rfl⟩ := represents.index.mp indexed
  obtain ⟨other, member, sameKey, rfl⟩ := represents.stored.mp filed
  obtain ⟨otherPosition, otherFound⟩ := List.mem_iff_getElem?.mp member
  have keyAt : (log.map entryKey)[position]? = some (entryKey entry) := by
    simp [List.getElem?_map, found]
  have otherKeyAt : (log.map entryKey)[otherPosition]? = some (entryKey entry) := by
    simp [List.getElem?_map, otherFound, sameKey]
  have bound := (List.getElem?_eq_some_iff.mp keyAt).1
  have same : position = otherPosition :=
    (List.getElem?_inj bound represents.distinct).mp (keyAt.trans otherKeyAt.symm)
  subst same
  obtain rfl := Option.some.inj (found.symm.trans otherFound)
  exact ⟨position, number, found⟩

theorem Represents.entry (represents : Represents s log) {position : Nat}
    (bound : position < log.length) : s.entry (position + 1) = log[position]? := by
  have countBound := s.receiptCount.isLt
  have number : (BitVec.ofNat 64 (position + 1)).toNat = position + 1 := by
    rw [BitVec.toNat_ofNat]
    apply Nat.mod_eq_of_lt
    rw [represents.count] at countBound
    omega
  have found : log[position]? = some log[position] := List.getElem?_eq_getElem bound
  have indexed := represents.index.mpr ⟨position, _, found, number, rfl⟩
  have filed := represents.stored.mpr ⟨log[position], List.getElem_mem bound, rfl, rfl⟩
  rw [Storage.entry, indexed, Option.bind_some, filed, found]
  rfl

/-- The represented log is the one the storage spells out. -/
theorem Represents.receiptLog (represents : Represents s log) : s.receiptLog = log := by
  calc
    s.receiptLog = (List.range' 1 log.length).filterMap s.entry := by
      rw [Storage.receiptLog, represents.count]
    _ = (List.range' 1 log.length).filterMap (fun number => log[number - 1]?) := by
      apply List.filterMap_congr
      intro number member
      obtain ⟨positive, bound⟩ := List.mem_range'_1.mp member
      have shifted := @Represents.entry _ _ _ _ _ _ _ _ represents (number - 1) (by omega)
      rwa [Nat.sub_add_cancel positive] at shifted
    _ = log := filterMap_range'_getElem? log 1

theorem Represents.sequenced (represents : Represents s log) {sequence : U64}
    {key : AccountId × Id32} {receipt : ResourceReceipt AccountId BlockNumber}
    (indexed : s.receiptIndex.get sequence = some key)
    (filed : s.receipts.get key = some receipt) : receipt.sequence = sequence := by
  obtain ⟨position, number, found⟩ := represents.entry_of_index indexed filed
  exact BitVec.eq_of_toNat_eq ((represents.numbered found).trans number.symm)

/-- The receipts of a state are a complete event source: the index runs through
them without a gap, they are chained by hash from the zero identifier to the
head, and replaying them yields every recorded balance. -/
structure EventSource (s : Storage T AccountId BlockNumber) : Prop where
  indexed : ∀ sequence : U64, s.receiptIndex.get sequence ≠ none ↔
    1 ≤ sequence.toNat ∧ sequence.toNat ≤ s.receiptCount.toNat
  injective : ∀ {first second key}, s.receiptIndex.get first = some key →
    s.receiptIndex.get second = some key → first = second
  onto : ∀ key, s.receipts.get key ≠ none ↔ ∃ sequence, s.receiptIndex.get sequence = some key
  sequenced : ∀ {sequence key receipt}, s.receiptIndex.get sequence = some key →
    s.receipts.get key = some receipt → receipt.sequence = sequence
  first : ∀ {key receipt}, s.receiptIndex.get 1 = some key →
    s.receipts.get key = some receipt → receipt.previousHash = ZERO_ID
  chained : ∀ {sequence next key nextKey receipt nextReceipt},
    next.toNat = sequence.toNat + 1 → s.receiptIndex.get sequence = some key →
      s.receipts.get key = some receipt → s.receiptIndex.get next = some nextKey →
        s.receipts.get nextKey = some nextReceipt →
          nextReceipt.previousHash = receipt.receiptHash
  hashed : ∀ {key receipt}, s.receipts.get key = some receipt →
    receipt.receiptHash = T.blake2_256 (receiptPreimage key.2 receipt)
  unwritten : s.receiptCount = 0 → s.receiptHead = ZERO_ID
  head : ∀ {key receipt}, s.receiptIndex.get s.receiptCount = some key →
    s.receipts.get key = some receipt → s.receiptHead = receipt.receiptHash
  replayed : ∀ {sequence key receipt}, s.receiptIndex.get sequence = some key →
    s.receipts.get key = some receipt →
      replay (s.receiptLog.take sequence.toNat) (receipt.account, receipt.resourceId) =
        receipt.balanceAfter.exact
  balances : ∀ account resourceId,
    replay s.receiptLog (account, resourceId) = (s.balance account resourceId).exact

theorem Represents.eventSource (represents : Represents s log) : EventSource s := by
  constructor
  case indexed =>
    intro sequence
    rw [Option.ne_none_iff_exists', represents.count]
    constructor
    · rintro ⟨key, indexed⟩
      obtain ⟨position, entry, found, number, _⟩ := represents.index.mp indexed
      have bound := (List.getElem?_eq_some_iff.mp found).1
      omega
    · rintro ⟨positive, bound⟩
      obtain ⟨entry, found⟩ : ∃ entry, log[sequence.toNat - 1]? = some entry :=
        ⟨_, List.getElem?_eq_getElem (by omega)⟩
      exact ⟨_, represents.index.mpr ⟨_, entry, found, by omega, rfl⟩⟩
  case injective =>
    intro first second key firstIndexed secondIndexed
    obtain ⟨position, entry, found, _, rfl⟩ := represents.index.mp firstIndexed
    have filed := represents.stored.mpr ⟨entry, List.mem_of_getElem? found, rfl, rfl⟩
    exact (represents.sequenced firstIndexed filed).symm.trans
      (represents.sequenced secondIndexed filed)
  case onto =>
    intro key
    rw [Option.ne_none_iff_exists']
    constructor
    · rintro ⟨receipt, filed⟩
      obtain ⟨entry, member, rfl, rfl⟩ := represents.stored.mp filed
      obtain ⟨position, found⟩ := List.mem_iff_getElem?.mp member
      exact ⟨_, represents.index.mpr ⟨_, _, found, represents.numbered found, rfl⟩⟩
    · rintro ⟨sequence, indexed⟩
      obtain ⟨position, entry, found, _, rfl⟩ := represents.index.mp indexed
      exact ⟨_, represents.stored.mpr ⟨entry, List.mem_of_getElem? found, rfl, rfl⟩⟩
  case sequenced => exact represents.sequenced
  case first =>
    intro key receipt indexed filed
    obtain ⟨position, number, found⟩ := represents.entry_of_index indexed filed
    obtain rfl : position = 0 := by simpa using number.symm
    exact (represents.linked.getElem? found).1
  case chained =>
    intro sequence next key nextKey receipt nextReceipt follows indexed filed nextIndexed nextFiled
    obtain ⟨position, number, found⟩ := represents.entry_of_index indexed filed
    obtain ⟨nextPosition, nextNumber, nextFound⟩ :=
      represents.entry_of_index nextIndexed nextFiled
    obtain rfl : nextPosition = position + 1 := by omega
    obtain ⟨bound, entryEq⟩ := List.getElem?_eq_some_iff.mp found
    have named := (represents.linked.getElem? nextFound).1
    rw [List.take_succ_eq_append_getElem bound, HashChain.head_append_singleton, entryEq] at named
    exact named
  case hashed =>
    intro key receipt filed
    obtain ⟨entry, member, rfl, rfl⟩ := represents.stored.mp filed
    obtain ⟨position, found⟩ := List.mem_iff_getElem?.mp member
    exact (represents.linked.getElem? found).2
  case unwritten =>
    intro none
    have short : log = [] := by
      apply List.eq_nil_of_length_eq_zero
      rw [← represents.count, none]
      rfl
    rw [represents.head, short]
    rfl
  case head =>
    intro key receipt indexed filed
    obtain ⟨position, number, found⟩ := represents.entry_of_index indexed filed
    rw [represents.count] at number
    rw [represents.head, HashChain.head, List.getLast?_eq_getElem?, number]
    simp only [Nat.add_sub_cancel, found]
    rfl
  case replayed =>
    intro sequence key receipt indexed filed
    obtain ⟨position, number, found⟩ := represents.entry_of_index indexed filed
    rw [represents.receiptLog, number]
    exact represents.step found
  case balances =>
    intro account resourceId
    rw [represents.receiptLog]
    exact represents.final account resourceId

end Reading

/-! ## The head commits to the log -/

section Commitment

variable [DecidableEq AccountId] [Encode AccountId] [Encode BlockNumber]
  {s s' : Storage T AccountId BlockNumber} {log other : List (LogEntry AccountId BlockNumber)}

/-- The bytes hashed into the stored receipts. -/
def Storage.receiptPreimages (s : Storage T AccountId BlockNumber) : Set (List UInt8) :=
  {bytes | ∃ key receipt, s.receipts.get key = some receipt ∧
    receiptPreimage key.2 receipt = bytes}

omit [DecidableEq AccountId] in
/-- The hashed bytes and the receipt's own hash determine the entry. -/
theorem entry_eq_of_preimage {first second : LogEntry AccountId BlockNumber}
    (preimages : receiptPreimage first.1 first.2 = receiptPreimage second.1 second.2)
    (hashes : first.2.receiptHash = second.2.receiptHash) : first = second := by
  have encodings := List.append_cancel_left preimages
  have tuples := Encode.encode_injective encodings
  obtain ⟨operations, zeroed⟩ := Prod.mk.inj tuples
  obtain ⟨operationId, receipt⟩ := first
  obtain ⟨otherOperationId, otherReceipt⟩ := second
  cases receipt
  cases otherReceipt
  simp_all

theorem Represents.mem_receiptPreimages (represents : Represents s log)
    {entry : LogEntry AccountId BlockNumber} (member : entry ∈ log) :
    receiptPreimage entry.1 entry.2 ∈ s.receiptPreimages :=
  ⟨entryKey entry, entry.2, represents.stored.mpr ⟨entry, member, rfl, rfl⟩, rfl⟩

/-- The hashed bytes, read off the log. -/
theorem Represents.exists_entry (represents : Represents s log) {bytes : List UInt8}
    (hashed : bytes ∈ s.receiptPreimages) :
    ∃ entry ∈ s.receiptLog, receiptPreimage entry.1 entry.2 = bytes := by
  obtain ⟨key, receipt, filed, rfl⟩ := hashed
  obtain ⟨entry, member, rfl, rfl⟩ := represents.stored.mp filed
  rw [represents.receiptLog]
  exact ⟨entry, member, rfl⟩

/-- Equal heads force equal logs. -/
theorem Represents.log_eq (represents : Represents s log) (otherRepresents : Represents s' other)
    (collisionFree : Set.InjOn T.blake2_256 (s.receiptPreimages ∪ s'.receiptPreimages))
    (nonzero : ∀ bytes ∈ s.receiptPreimages ∪ s'.receiptPreimages, T.blake2_256 bytes ≠ ZERO_ID)
    (heads : s.receiptHead = s'.receiptHead) : log = other := by
  rw [represents.head, otherRepresents.head] at heads
  refine HashChain.eq_of_head_eq represents.linked otherRepresents.linked ?_ ?_ ?_ heads
  · intro entry member otherEntry otherMember digests hashes
    have preimages := collisionFree (.inl (represents.mem_receiptPreimages member))
      (.inr (otherRepresents.mem_receiptPreimages otherMember)) digests
    exact entry_eq_of_preimage preimages hashes
  · intro entry member
    exact nonzero _ (.inl (represents.mem_receiptPreimages member))
  · intro entry member
    exact nonzero _ (.inr (otherRepresents.mem_receiptPreimages member))

/-- Two states that represent one log agree on all receipt storage. -/
theorem Represents.agree (represents : Represents s log) (otherRepresents : Represents s' log) :
    s.receiptCount = s'.receiptCount ∧ s.receiptIndex = s'.receiptIndex ∧
      s.receipts = s'.receipts := by
  refine ⟨?_, ?_, ?_⟩
  · apply BitVec.eq_of_toNat_eq
    rw [represents.count, otherRepresents.count]
  · apply StorageMap.ext
    funext sequence
    apply Option.ext
    intro key
    rw [represents.index, otherRepresents.index]
  · apply StorageMap.ext
    funext key
    apply Option.ext
    intro receipt
    rw [represents.stored, otherRepresents.stored]

end Commitment

/-! ## Reachable logs -/

section Runs

variable [DecidableEq AccountId] [Encode AccountId] [Encode BlockNumber] [LinearOrder BlockNumber]

/-- The receipt log of every reachable state is a complete, gap-free event
source for the stored balances. -/
theorem receipts_event_source (T : Config) (genesis : BlockNumber)
    (inputs : List (Input AccountId BlockNumber (Call AccountId BlockNumber))) :
    EventSource (run T genesis inputs).storage := by
  obtain ⟨log, represents⟩ := represents_run T genesis inputs
  exact represents.eventSource

/-- Two reachable states with the same receipt head have the same log, as far
as hashing separates the receipts at hand from each other and from the zero
identifier. -/
theorem receiptHead_commits (T : Config) (genesis otherGenesis : BlockNumber)
    (inputs otherInputs : List (Input AccountId BlockNumber (Call AccountId BlockNumber)))
    (collisionFree : Set.InjOn T.blake2_256
      ((run T genesis inputs).storage.receiptPreimages ∪
        (run T otherGenesis otherInputs).storage.receiptPreimages))
    (nonzero : ∀ bytes ∈ (run T genesis inputs).storage.receiptPreimages ∪
      (run T otherGenesis otherInputs).storage.receiptPreimages, T.blake2_256 bytes ≠ ZERO_ID)
    (heads : (run T genesis inputs).storage.receiptHead =
      (run T otherGenesis otherInputs).storage.receiptHead) :
    (run T genesis inputs).storage.receiptCount =
        (run T otherGenesis otherInputs).storage.receiptCount ∧
      ∀ sequence,
        (run T genesis inputs).storage.receiptIndex.get sequence =
            (run T otherGenesis otherInputs).storage.receiptIndex.get sequence ∧
          ∀ key, (run T genesis inputs).storage.receiptIndex.get sequence = some key →
            (run T genesis inputs).storage.receipts.get key =
              (run T otherGenesis otherInputs).storage.receipts.get key := by
  obtain ⟨log, represents⟩ := represents_run T genesis inputs
  obtain ⟨other, otherRepresents⟩ := represents_run T otherGenesis otherInputs
  obtain rfl := represents.log_eq otherRepresents collisionFree nonzero heads
  obtain ⟨counts, indices, receipts⟩ := represents.agree otherRepresents
  refine ⟨counts, fun sequence => ⟨by rw [indices], fun key _ => by rw [receipts]⟩⟩

open Sample in
/-- Rejected and repeated calls and the passing of time change neither the head of the
sample log nor its two receipts. -/
theorem receiptHead_commits_sample :
    (run config 1 reserving).storage.receiptCount =
        (run config 1 disturbedReserving).storage.receiptCount ∧
      (run config 1 reserving).storage.receiptIndex.get 2 =
        (run config 1 disturbedReserving).storage.receiptIndex.get 2 := by
  let preimages := [receiptPreimage (Id32.repeated 11)
      (allocateReceipt alice allocateHash 1 ZERO_ID allocateReceiptHash),
    receiptPreimage (Id32.repeated 12) reserveReceipt]
  have entries : ∀ entry ∈ (run config 1 reserving).storage.receiptLog,
      receiptPreimage entry.1 entry.2 ∈ preimages := by decide +kernel
  have otherEntries : ∀ entry ∈ (run config 1 disturbedReserving).storage.receiptLog,
      receiptPreimage entry.1 entry.2 ∈ preimages := by decide +kernel
  have hashed : ∀ bytes ∈ (run config 1 reserving).storage.receiptPreimages ∪
      (run config 1 disturbedReserving).storage.receiptPreimages, bytes ∈ preimages := by
    rintro bytes (found | found)
    · obtain ⟨log, represents⟩ := represents_run config (1 : U32) reserving
      obtain ⟨entry, member, rfl⟩ := represents.exists_entry found
      exact entries entry member
    · obtain ⟨log, represents⟩ := represents_run config (1 : U32) disturbedReserving
      obtain ⟨entry, member, rfl⟩ := represents.exists_entry found
      exact otherEntries entry member
  have separate : ∀ first ∈ preimages, ∀ second ∈ preimages,
      config.blake2_256 first = config.blake2_256 second → first = second := by decide +kernel
  have nonzero : ∀ bytes ∈ preimages, config.blake2_256 bytes ≠ ZERO_ID := by decide +kernel
  have commits := receiptHead_commits config 1 1 reserving disturbedReserving
    (fun first member second other => separate first (hashed first member) second
      (hashed second other))
    (fun bytes member => nonzero bytes (hashed bytes member)) (by decide +kernel)
  exact ⟨commits.1, (commits.2 2).1⟩

end Runs

end Chlom.Utility
