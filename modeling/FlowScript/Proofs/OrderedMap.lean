import FlowScript.OrderedMap

/-!
# What ordered maps hold

The entries of an ordered map ascend strictly, so a key stands in at most one of them and
looking a key up is the same as finding its entry. Every change goes through
`OrderedMap.modify`, and two lookups say all about it:

* the changed key has the new value (`get?_modify_self`);
* every other key has the value it had (`get?_modify_of_ne`).

The entries around the key stay where they are (`exists_around`).

A map is what its lookups say (`eq_of_get?`), so keys can be set in any order
(`insert_insert_of_ne`). Entries that are inserted in ascending order stay as they were
(`foldl_insert_entries`), which is how a map is read back from its written form.
-/

namespace FlowScript

namespace OrderedMap

variable {α : Type}

/-! ### Entries and lookups -/

/-- A lookup goes through the entries from the front, and the first of its key is the only one. -/
theorem get?_cons (first : String × α) (rest : List (String × α))
    (h : (first :: rest).Pairwise fun a b => a.1 < b.1) (key : String) :
    get? ⟨first :: rest, h⟩ key =
      if first.1 = key then some first.2 else get? ⟨rest, (List.pairwise_cons.1 h).2⟩ key := by
  by_cases hkey : first.1 = key
  · rw [if_pos hkey, get?, List.find?_cons_of_pos (by simpa using hkey)]
    rfl
  · rw [if_neg hkey, get?, List.find?_cons_of_neg (by simpa using hkey)]
    rfl

/-- A key has a value exactly when the two are an entry. -/
theorem get?_eq_some_iff {m : OrderedMap α} {key : String} {value : α} :
    m.get? key = some value ↔ (key, value) ∈ m.entries := by
  obtain ⟨entries, hascending⟩ := m
  induction entries with
  | nil => simp [get?]
  | cons first rest ih =>
    obtain ⟨hfirst, hrest⟩ := List.pairwise_cons.1 hascending
    rw [get?_cons, List.mem_cons]
    by_cases hkey : first.1 = key
    · rw [if_pos hkey]
      constructor
      · intro h
        exact .inl (by rw [← hkey, ← Option.some.inj h])
      · rintro (h | h)
        · rw [← h]
        · -- a second entry of the key would lie above itself
          have hlt : first.1 < key := hfirst (key, value) h
          exact absurd (hkey ▸ hlt) (String.lt_irrefl key)
    · rw [if_neg hkey, ih hrest]
      constructor
      · exact .inr
      · rintro (h | h)
        · exact absurd (congrArg Prod.fst h).symm hkey
        · exact h

/-- The keys of a map are those under which something is found. -/
theorem mem_keys_iff {m : OrderedMap α} {key : String} :
    key ∈ m.keys ↔ ∃ value, m.get? key = some value := by
  simp only [keys, List.mem_map, get?_eq_some_iff]
  constructor
  · rintro ⟨⟨_, value⟩, hentry, rfl⟩
    exact ⟨value, hentry⟩
  · rintro ⟨value, hentry⟩
    exact ⟨(key, value), hentry, rfl⟩

theorem get?_eq_none_iff {m : OrderedMap α} {key : String} :
    m.get? key = none ↔ key ∉ m.keys := by
  rw [mem_keys_iff]
  cases h : m.get? key <;> simp

/-- Below all entries nothing is found. -/
theorem get?_eq_none_of_lt {m : OrderedMap α} {key : String}
    (h : ∀ entry ∈ m.entries, key < entry.1) : m.get? key = none := by
  rw [get?_eq_none_iff]
  intro hmem
  obtain ⟨entry, hentry, rfl⟩ := List.mem_map.1 hmem
  exact String.lt_irrefl _ (h entry hentry)

/-! ### Changes -/

/-- **The changed key** has what was made of its old value, or of none. The induction follows the
search for its place among the entries. -/
theorem get?_modify_self (m : OrderedMap α) (key : String) (f : Option α → α) :
    (m.modify key f).get? key = some (f (m.get? key)) := by
  obtain ⟨entries, hascending⟩ := m
  induction entries with
  | nil => simp [modify, modifyEntries, get?]
  | cons first rest ih =>
    obtain ⟨hfirst, hrest⟩ := List.pairwise_cons.1 hascending
    rw [get?_eq_some_iff]
    change _ ∈ modifyEntries key f (first :: rest)
    rw [modifyEntries]
    by_cases hlt : key < first.1
    · have hnone : get? ⟨first :: rest, hascending⟩ key = none :=
        get?_eq_none_of_lt (List.forall_mem_cons.2
          ⟨hlt, fun entry hentry => String.lt_trans hlt (hfirst entry hentry)⟩)
      rw [if_pos hlt, hnone]
      exact List.mem_cons_self
    · rw [if_neg hlt, get?_cons]
      by_cases hkey : key = first.1
      · rw [if_pos hkey, if_pos hkey.symm]
        exact List.mem_cons_self
      · rw [if_neg hkey, if_neg (Ne.symm hkey)]
        exact List.mem_cons_of_mem _ (get?_eq_some_iff.1 (ih hrest))

/-- **Every other key** has what it had: the entries before the place stay, and so do those behind
it. -/
theorem get?_modify_of_ne (m : OrderedMap α) {key other : String} (f : Option α → α)
    (hne : other ≠ key) : (m.modify key f).get? other = m.get? other := by
  obtain ⟨entries, hascending⟩ := m
  induction entries with
  | nil => simp [modify, modifyEntries, get?, Ne.symm hne]
  | cons first rest ih =>
    obtain ⟨-, hrest⟩ := List.pairwise_cons.1 hascending
    have ih := ih hrest
    simp only [get?, modify, modifyEntries] at ih ⊢
    by_cases hlt : key < first.1
    · rw [if_pos hlt, List.find?_cons_of_neg (by simpa using Ne.symm hne)]
    · rw [if_neg hlt]
      by_cases hkey : key = first.1
      · rw [if_pos hkey, List.find?_cons_of_neg (by simpa using Ne.symm hne),
          List.find?_cons_of_neg (by simpa [← hkey] using Ne.symm hne)]
      · rw [if_neg hkey]
        by_cases hother : first.1 = other
        · rw [List.find?_cons_of_pos (by simpa using hother),
            List.find?_cons_of_pos (by simpa using hother)]
        · rw [List.find?_cons_of_neg (by simpa using hother),
            List.find?_cons_of_neg (by simpa using hother), ih]

/-- The two together, for a key that may or may not be the changed one. -/
theorem get?_modify (m : OrderedMap α) (key other : String) (f : Option α → α) :
    (m.modify key f).get? other = if other = key then some (f (m.get? key)) else m.get? other := by
  by_cases h : other = key
  · rw [if_pos h, h, get?_modify_self]
  · rw [if_neg h, get?_modify_of_ne m f h]

/-- To insert is to change to a value that does not depend on the old one. -/
theorem get?_insert (m : OrderedMap α) (key other : String) (value : α) :
    (m.insert key value).get? other = if other = key then some value else m.get? other :=
  get?_modify m key other fun _ => value

/-- The entries of a map around a key, which stay where they are when the key is changed. -/
structure Around (m : OrderedMap α) (key : String) (before behind : List (String × α)) : Prop where
  /-- the entry of the key, if there is one, stands between them -/
  entries_eq : m.entries = before ++ (m.get? key).toList.map (fun value => (key, value)) ++ behind
  /-- those before are below the key -/
  below : ∀ entry ∈ before, entry.1 < key
  /-- those behind are above the key -/
  above : ∀ entry ∈ behind, key < entry.1
  /-- a change is made in their midst -/
  entries_modify : ∀ f, (m.modify key f).entries = before ++ (key, f (m.get? key)) :: behind

/-- Every key has a place among the entries, with the lesser keys before it and the greater behind
it. -/
theorem exists_around (m : OrderedMap α) (key : String) :
    ∃ before behind, m.Around key before behind := by
  obtain ⟨entries, hascending⟩ := m
  induction entries with
  | nil => exact ⟨[], [], rfl, List.forall_mem_nil _, List.forall_mem_nil _, fun f => rfl⟩
  | cons first rest ih =>
    obtain ⟨hfirst, hrest⟩ := List.pairwise_cons.1 hascending
    by_cases hlt : key < first.1
    · have habove : ∀ entry ∈ first :: rest, key < entry.1 := List.forall_mem_cons.2
        ⟨hlt, fun entry hentry => String.lt_trans hlt (hfirst entry hentry)⟩
      have hnone : get? ⟨first :: rest, hascending⟩ key = none := get?_eq_none_of_lt habove
      refine ⟨[], first :: rest, ?_, List.forall_mem_nil _, habove, fun f => ?_⟩
      · rw [hnone]
        rfl
      · rw [hnone]
        exact if_pos hlt
    · by_cases hkey : key = first.1
      · have hsome : get? ⟨first :: rest, hascending⟩ key = some first.2 := by
          rw [get?_cons, if_pos hkey.symm]
        refine ⟨[], rest, ?_, List.forall_mem_nil _, hkey ▸ hfirst, fun f => ?_⟩
        · rw [hsome, hkey]
          rfl
        · rw [hsome]
          exact (if_neg hlt).trans (if_pos hkey)
      · obtain ⟨before, behind, hentries, hbelow, habove, hmodify⟩ := ih hrest
        have hget : get? ⟨first :: rest, hascending⟩ key = get? ⟨rest, hrest⟩ key := by
          rw [get?_cons, if_neg (Ne.symm hkey)]
        refine ⟨first :: before, behind, ?_, List.forall_mem_cons.2
          ⟨lt_of_not_lt_of_ne hlt hkey, hbelow⟩, habove, fun f => ?_⟩
        · rw [hget]
          exact congrArg (first :: ·) hentries
        · rw [hget]
          exact ((if_neg hlt).trans (if_neg hkey)).trans (congrArg (first :: ·) (hmodify f))

/-! ### Maps with the same lookups -/

/-- No entry stands twice, because its key does not. -/
theorem nodup_entries (m : OrderedMap α) : m.entries.Nodup := by
  refine List.Pairwise.imp ?_ m.ascending
  rintro a _ hlt rfl
  exact String.lt_irrefl a.1 hlt

/-- A map is what its lookups say. -/
theorem eq_of_get? {m n : OrderedMap α} (h : ∀ key, m.get? key = n.get? key) : m = n := by
  have hperm : m.entries.Perm n.entries := by
    rw [List.perm_ext_iff_of_nodup m.nodup_entries n.nodup_entries]
    intro entry
    rw [← get?_eq_some_iff, h, get?_eq_some_iff]
  have hentries : m.entries = n.entries :=
    hperm.eq_of_pairwise (fun a b _ _ hab hba => absurd hba (String.lt_asymm hab)) m.ascending
      n.ascending
  obtain ⟨entries, _⟩ := m
  obtain ⟨others, _⟩ := n
  obtain rfl : entries = others := hentries
  rfl

/-- Different keys can be set in either order. -/
theorem insert_insert_of_ne (m : OrderedMap α) {key other : String} (h : key ≠ other) (a b : α) :
    (m.insert key a).insert other b = (m.insert other b).insert key a := by
  refine eq_of_get? fun found => ?_
  simp only [get?_insert]
  by_cases hother : found = other
  · rw [if_pos hother, if_neg (hother ▸ h.symm), if_pos hother]
  · rw [if_neg hother, if_neg hother]

/-! ### Insertion in order -/

/-- A key above all others goes to the end. -/
theorem modifyEntries_of_lt {key : String} {f : Option α → α} {entries : List (String × α)}
    (h : ∀ entry ∈ entries, entry.1 < key) :
    modifyEntries key f entries = entries ++ [(key, f none)] := by
  induction entries with
  | nil => rfl
  | cons first rest ih =>
    have hfirst : first.1 < key := h first List.mem_cons_self
    have hne : key ≠ first.1 := fun heq => String.lt_irrefl key (heq ▸ hfirst)
    rw [modifyEntries, if_neg (String.lt_asymm hfirst), if_neg hne,
      ih fun entry hentry => h entry (List.mem_cons_of_mem _ hentry)]
    rfl

/-- Inserting ascending entries above those of a map puts them behind. -/
theorem entries_foldl_insert (entries : List (String × α)) (m : OrderedMap α)
    (h : (m.entries ++ entries).Pairwise fun a b => a.1 < b.1) :
    (entries.foldl (fun state entry => state.insert entry.1 entry.2) m).entries =
      m.entries ++ entries := by
  induction entries generalizing m with
  | nil => simp
  | cons entry rest ih =>
    have habove : ∀ old ∈ m.entries, old.1 < entry.1 := fun old hold =>
      (List.pairwise_append.1 h).2.2 old hold entry List.mem_cons_self
    have hinsert : (m.insert entry.1 entry.2).entries = m.entries ++ [entry] :=
      modifyEntries_of_lt habove
    have hpairwise : ((m.insert entry.1 entry.2).entries ++ rest).Pairwise
        fun a b => a.1 < b.1 := by
      rw [hinsert, List.append_assoc]
      exact h
    rw [List.foldl_cons, ih _ hpairwise, hinsert, List.append_assoc]
    rfl

/-- A map is put together again from its entries. -/
theorem foldl_insert_entries (m : OrderedMap α) :
    m.entries.foldl (fun state entry => state.insert entry.1 entry.2) .empty = m := by
  have h := entries_foldl_insert m.entries .empty m.ascending
  obtain ⟨entries, hascending⟩ := m
  generalize hresult : entries.foldl _ _ = result at h ⊢
  obtain ⟨resultEntries, _⟩ := result
  simpa [empty] using h

end OrderedMap

end FlowScript
