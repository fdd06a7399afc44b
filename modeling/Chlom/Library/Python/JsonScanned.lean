import Chlom.Library.Python.JsonOrder
import Chlom.Library.Results

/-!
# What a scanned value is made of

A property of values holds of everything that is read from a text if it holds of the atoms
and of the constants, and passes from the items of an array or an object to the whole.
-/

namespace Python

open Results

variable {F : Type}

/-! ## Items between brackets -/

section Elements

variable {α : Type} {close : CodePoint} {element : Str → Except JsonError (α × Str)}
  {P : α → Prop}

theorem scanElements_forall (each : ∀ s found, element s = .ok found → P found.1) {fuel : Nat}
    {s : Str} {found : List α × Str} (scanned : scanElements close element fuel s = .ok found) :
    ∀ item ∈ found.1, P item := by
  induction fuel generalizing s found with
  | zero => cases scanned
  | succ fuel ih =>
      rw [scanElements] at scanned
      obtain ⟨⟨first, rest⟩, ranFirst, scanned⟩ := bind_eq_ok.mp scanned
      dsimp only at scanned
      split at scanned
      · cases scanned
      · split at scanned
        · cases scanned
          intro item member
          obtain rfl := List.mem_singleton.mp member
          exact each _ _ ranFirst
        · split at scanned
          · obtain ⟨⟨others, after⟩, ranOthers, scanned⟩ := bind_eq_ok.mp scanned
            cases scanned
            exact List.forall_mem_cons.mpr ⟨each _ _ ranFirst, ih ranOthers⟩
          · cases scanned

theorem scanBracketed_forall (each : ∀ s found, element s = .ok found → P found.1) {fuel : Nat}
    {s : Str} {found : List α × Str} (scanned : scanBracketed close element fuel s = .ok found) :
    ∀ item ∈ found.1, P item := by
  unfold scanBracketed at scanned
  split at scanned
  · cases scanned
  · split at scanned
    · cases scanned
      exact fun _ member => nomatch member
    · exact scanElements_forall each scanned

/-- The key of a member is a string, and its value is one that was scanned. -/
theorem scanMember_eq_ok {value : Str → Except JsonError (Value F × Str)} {s : Str}
    {found : (Key × Value F) × Str} (scanned : scanMember value s = .ok found) :
    (∃ name, found.1.1 = .str name) ∧ ∃ t rest, value t = .ok (found.1.2, rest) := by
  cases s with
  | nil => cases scanned
  | cons mark s =>
      rw [scanMember] at scanned
      split at scanned
      · obtain ⟨⟨name, rest⟩, _, scanned⟩ := bind_eq_ok.mp scanned
        dsimp only at scanned
        split at scanned
        · cases scanned
        · split at scanned
          · obtain ⟨⟨v, after⟩, ranValue, scanned⟩ := bind_eq_ok.mp scanned
            cases scanned
            exact ⟨⟨name, rfl⟩, _, _, ranValue⟩
          · cases scanned
      · cases scanned

end Elements

/-! ## Values -/

variable [FloatFormat F] {hooks : Hooks F}

/-- A property of the atoms and constants that arrays and objects inherit. -/
structure Hooks.Inherits (hooks : Hooks F) (P : Value F → Prop) : Prop where
  none : P .none
  bool : ∀ b, P (.bool b)
  int : ∀ i, P (.int i)
  float : ∀ f, P (.float f)
  str : ∀ s, P (.str s)
  constant : ∀ name v, hooks.constant name = .ok v → P v
  list : ∀ items, (∀ v ∈ items, P v) → P (.list items)
  dict : ∀ entries kept, hooks.object entries = .ok kept → Entries.StringKeys entries →
    (∀ entry ∈ entries, P entry.2) → P (.dict kept)

variable {P : Value F → Prop}

theorem scanNumber_inherits (inherits : hooks.Inherits P) {s : Str} {found : Value F × Str}
    (scanned : scanNumber hooks.integer s = .ok found) : P found.1 := by
  unfold scanNumber at scanned
  dsimp only at scanned
  split at scanned
  · cases scanned
  · split at scanned
    · obtain ⟨i, _, rfl⟩ := map_eq_ok.mp scanned
      exact inherits.int i
    · cases scanned
      exact inherits.float _

theorem scanOnce_inherits (inherits : hooks.Inherits P) {fuel : Nat} {s : Str}
    {found : Value F × Str} (scanned : scanOnce hooks fuel s = .ok found) : P found.1 := by
  induction fuel generalizing s found with
  | zero => cases scanned
  | succ fuel ih =>
      cases s with
      | nil => cases scanned
      | cons c rest =>
          rw [scanOnce] at scanned
          split at scanned
          · obtain ⟨⟨text, after⟩, _, scanned⟩ := bind_eq_ok.mp scanned
            cases scanned
            exact inherits.str text
          split at scanned
          · obtain ⟨⟨entries, after⟩, ranEntries, scanned⟩ := bind_eq_ok.mp scanned
            obtain ⟨kept, ranObject, scanned⟩ := bind_eq_ok.mp scanned
            cases scanned
            have members := scanBracketed_forall (P := fun entry : Key × Value F =>
              (∃ name, entry.1 = .str name) ∧ P entry.2) ?_ ranEntries
            · exact inherits.dict entries kept ranObject (fun entry member => (members entry member).1)
                fun entry member => (members entry member).2
            · intro t member ranMember
              obtain ⟨keyed, u, after, ranValue⟩ := scanMember_eq_ok ranMember
              exact ⟨keyed, ih ranValue⟩
          split at scanned
          · obtain ⟨⟨items, after⟩, ranItems, scanned⟩ := bind_eq_ok.mp scanned
            cases scanned
            exact inherits.list items
              (scanBracketed_forall (fun t item ranItem => ih ranItem) ranItems)
          split at scanned
          · cases scanned
            exact inherits.none
          split at scanned
          · cases scanned
            exact inherits.bool true
          split at scanned
          · cases scanned
            exact inherits.bool false
          split at scanned
          · obtain ⟨v, ranConstant, scanned⟩ := bind_eq_ok.mp scanned
            cases scanned
            exact inherits.constant _ v ranConstant
          split at scanned
          · obtain ⟨v, ranConstant, scanned⟩ := bind_eq_ok.mp scanned
            cases scanned
            exact inherits.constant _ v ranConstant
          split at scanned
          · obtain ⟨v, ranConstant, scanned⟩ := bind_eq_ok.mp scanned
            cases scanned
            exact inherits.constant _ v ranConstant
          · exact scanNumber_inherits inherits scanned

/-- Everything that `json.loads` returns has an inherited property. -/
theorem loadsWith_inherits (inherits : hooks.Inherits P) {s : Str} {v : Value F}
    (loaded : loadsWith hooks s = .ok v) : P v := by
  unfold loadsWith at loaded
  split at loaded
  · cases loaded
  · obtain ⟨⟨found, rest⟩, scanned, loaded⟩ := bind_eq_ok.mp loaded
    dsimp only at loaded
    split at loaded
    · cases loaded
      exact scanOnce_inherits inherits scanned
    · cases loaded

/-! ## Keys -/

omit [FloatFormat F] in
theorem rejectDuplicateKeys_eq_ok {entries kept : Entries F}
    (accepted : rejectDuplicateKeys entries = .ok kept) : kept = entries := by
  have grown : ∀ built : Entries F, entries.foldlM (fun (built : Entries F) entry =>
      if entry.1 ∈ built.map Prod.fst then Except.error (JsonError.duplicate entry.1.text)
      else Except.ok (built ++ [entry])) built = .ok kept → kept = built ++ entries := by
    clear accepted
    induction entries with
    | nil =>
        intro built accepted
        cases accepted
        exact (List.append_nil _).symm
    | cons entry rest ih =>
        intro built accepted
        rw [List.foldlM_cons] at accepted
        obtain ⟨next, ranEntry, accepted⟩ := bind_eq_ok.mp accepted
        split at ranEntry
        · cases ranEntry
        · cases ranEntry
          rw [ih _ accepted, List.append_assoc, List.singleton_append]
  exact grown [] accepted

/-- Every key of every object that is read strictly is a string. -/
theorem allKeys_of_loadsWith_limited {limit : Nat} {s : Str} {v : Value F}
    (loaded : loadsWith (Hooks.strict.limited limit) s = .ok v) :
    v.AllKeys fun name => ∃ text, name = .str text := by
  refine loadsWith_inherits ?_ loaded
  exact {
    none := .atom nofun nofun
    bool := fun _ => .atom nofun nofun
    int := fun _ => .atom nofun nofun
    float := fun _ => .atom nofun nofun
    str := fun _ => .atom nofun nofun
    constant := fun _ _ refused => nomatch refused
    list := fun _ => .list
    dict := by
      intro entries kept accepted keys all
      obtain rfl := rejectDuplicateKeys_eq_ok accepted
      exact .dict keys all }

end Python
