/-!
# Maps in the order of their keys

A finite map with text keys, kept as a list of entries whose keys strictly ascend, by
code points. Two maps with the same entries are therefore the same list, and going
through a map goes in the order of its keys.

* `OrderedMap.modify` is the one operation that changes a map: it sets the value of a
  key from what was there before. Its result ascends again (`pairwise_modifyEntries`).
-/

namespace FlowScript

/-- A finite map from texts, its entries in strictly ascending order of the keys. -/
structure OrderedMap (α : Type) where
  /-- the entries -/
  entries : List (String × α)
  /-- the keys strictly ascend -/
  ascending : entries.Pairwise fun a b => a.1 < b.1

namespace OrderedMap

variable {α : Type}

/-- The map without entries. -/
def empty : OrderedMap α := ⟨[], .nil⟩

instance : Inhabited (OrderedMap α) := ⟨empty⟩

/-- The keys, ascending. -/
def keys (m : OrderedMap α) : List String := m.entries.map Prod.fst

/-- The values, in the order of their keys. -/
def values (m : OrderedMap α) : List α := m.entries.map Prod.snd

/-- The value of a key. -/
def get? (m : OrderedMap α) (key : String) : Option α :=
  (m.entries.find? fun entry => entry.1 == key).map Prod.snd

/-- Sets the value of a key in ascending entries from what was there before. -/
def modifyEntries (key : String) (f : Option α → α) : List (String × α) → List (String × α)
  | [] => [(key, f none)]
  | entry :: rest =>
    if key < entry.1 then (key, f none) :: entry :: rest
    else if key = entry.1 then (key, f (some entry.2)) :: rest
    else entry :: modifyEntries key f rest

/-- The keys after a change are the old ones and the changed one. -/
theorem fst_mem_modifyEntries {key : String} {f : Option α → α} {entries : List (String × α)}
    {entry : String × α} (h : entry ∈ modifyEntries key f entries) :
    entry.1 = key ∨ ∃ old ∈ entries, old.1 = entry.1 := by
  induction entries with
  | nil => simp [modifyEntries] at h; simp [h]
  | cons first rest ih =>
    rw [modifyEntries] at h
    split at h
    · rcases List.mem_cons.1 h with rfl | h
      · exact .inl rfl
      · exact .inr ⟨entry, h, rfl⟩
    · split at h
      · rcases List.mem_cons.1 h with rfl | h
        · exact .inl rfl
        · exact .inr ⟨entry, List.mem_cons_of_mem _ h, rfl⟩
      · rcases List.mem_cons.1 h with rfl | h
        · exact .inr ⟨entry, List.mem_cons_self .., rfl⟩
        · rcases ih h with h | ⟨old, hold, heq⟩
          · exact .inl h
          · exact .inr ⟨old, List.mem_cons_of_mem _ hold, heq⟩

/-- A text that is neither below another nor equal to it is above it. -/
theorem lt_of_not_lt_of_ne {a b : String} (h : ¬ a < b) (hne : a ≠ b) : b < a := by
  refine Decidable.byContradiction fun hba => hne ?_
  exact String.le_antisymm (String.not_lt.1 hba) (String.not_lt.1 h)

/-- A change keeps the entries in strictly ascending order. -/
theorem pairwise_modifyEntries {key : String} {f : Option α → α} {entries : List (String × α)}
    (h : entries.Pairwise fun a b => a.1 < b.1) :
    (modifyEntries key f entries).Pairwise fun a b => a.1 < b.1 := by
  induction entries with
  | nil => simp [modifyEntries]
  | cons first rest ih =>
    obtain ⟨hfirst, hrest⟩ := List.pairwise_cons.1 h
    rw [modifyEntries]
    split
    · next hlt =>
      refine List.pairwise_cons.2 ⟨fun entry hentry => ?_, h⟩
      rcases List.mem_cons.1 hentry with rfl | hentry
      · exact hlt
      · exact String.lt_trans hlt (hfirst entry hentry)
    · next hlt =>
      split
      · next heq =>
        refine List.pairwise_cons.2 ⟨fun entry hentry => ?_, hrest⟩
        exact heq ▸ hfirst entry hentry
      · next hne =>
        refine List.pairwise_cons.2 ⟨fun entry hentry => ?_, ih hrest⟩
        rcases fst_mem_modifyEntries hentry with heq | ⟨old, hold, heq⟩
        · exact heq ▸ lt_of_not_lt_of_ne hlt hne
        · exact heq ▸ hfirst old hold

/-- Sets the value of a key from what was there before. -/
def modify (m : OrderedMap α) (key : String) (f : Option α → α) : OrderedMap α :=
  ⟨modifyEntries key f m.entries, pairwise_modifyEntries m.ascending⟩

/-- Sets the value of a key; the last value set is the one that stays. -/
def insert (m : OrderedMap α) (key : String) (value : α) : OrderedMap α :=
  m.modify key fun _ => value

end OrderedMap

end FlowScript
