import FlowScript.Proofs.OrderedMap
import FlowScript.Validation
import Mathlib.Data.List.Nodup

/-!
# Warnings on names

Two passes look at the names of a workflow. The first finds names that occur again; the
second gathers the different names of each identifier. Together they are silent exactly
when no two nodes have names of one identifier (`nameWarnings_eq_nil_iff`): a name that
occurs again shares its identifier with itself, and the second pass sees the rest.

* `get?_namesByIdentifier` says what the second pass gathers: of the names of an
  identifier, each once, in the order of their first occurrence.
-/

namespace FlowScript

namespace Workflow

/-! ### Names that occur again -/

/-- As long as nothing has been reported, nothing is reported exactly when no name occurs
twice, neither among those to come nor among those seen. -/
theorem repeatedFrom_eq_nil_iff (seen names : List String) :
    repeatedFrom seen [] names = [] ↔ names.Nodup ∧ ∀ name ∈ names, name ∉ seen := by
  induction names generalizing seen with
  | nil => simp [repeatedFrom]
  | cons name rest ih =>
    rw [repeatedFrom]
    by_cases hseen : name ∈ seen
    · rw [if_pos (by simp [hseen])]
      constructor
      · intro h
        cases h
      · rintro ⟨-, hnew⟩
        exact absurd hseen (hnew name List.mem_cons_self)
    · rw [if_neg (by simp [hseen]), ih, List.nodup_cons]
      constructor
      · rintro ⟨hrest, hnew⟩
        refine ⟨⟨fun hmem => hnew name hmem List.mem_cons_self, hrest⟩, ?_⟩
        intro other hother
        rcases List.mem_cons.1 hother with rfl | hother
        · exact hseen
        · exact fun hmem => hnew other hother (List.mem_cons_of_mem _ hmem)
      · rintro ⟨⟨hname, hrest⟩, hnew⟩
        refine ⟨hrest, fun other hother hmem => ?_⟩
        rcases List.mem_cons.1 hmem with rfl | hmem
        · exact hname hother
        · exact hnew other (List.mem_cons_of_mem _ hother) hmem

/-- Nothing is reported exactly if no name occurs twice. -/
theorem repeatedNames_eq_nil_iff (workflow : Workflow) :
    workflow.repeatedNames = [] ↔ workflow.nodeNames.Nodup := by
  simp [repeatedNames, repeatedFrom_eq_nil_iff]

/-- A name is reported once it occurs for the second time, unless it has been reported: among the
names to come if it was seen before, and else twice among them. -/
theorem mem_repeatedFrom_iff {seen reported names : List String} {name : String} :
    name ∈ repeatedFrom seen reported names ↔
      name ∉ reported ∧ (name ∈ seen ∧ name ∈ names ∨ 2 ≤ names.count name) := by
  induction names generalizing seen reported with
  | nil => simp [repeatedFrom]
  | cons other rest ih =>
    rw [repeatedFrom]
    by_cases hother : other = name
    · subst hother
      split
      · next hfound => simp_all
      · next hfound =>
        -- a name that is not reported here was not seen, so it needs an occurrence among the rest
        rw [ih, List.count_cons_self]
        refine and_congr_right fun hreported => ?_
        have hseen : other ∉ seen := fun hseen => hfound (by simp [hseen, hreported])
        have hrest : 1 ≤ rest.count other ↔ other ∈ rest := List.one_le_count_iff
        simp only [List.mem_cons, true_or, true_and, hseen, false_and, false_or, ← hrest]
        omega
    · rw [List.count_cons_of_ne (by simpa using hother)]
      split
      · simp [ih, Ne.symm hother]
      · simp [ih, Ne.symm hother]

/-- A name is reported exactly if it occurs at least twice. -/
theorem mem_repeatedNames_iff {workflow : Workflow} {name : String} :
    name ∈ workflow.repeatedNames ↔ 2 ≤ workflow.nodeNames.count name := by
  simp [repeatedNames, mem_repeatedFrom_iff]

/-! ### Names of one identifier -/

/-- The names of an identifier. -/
def namesOf (identifier : String) (names : List String) : List String :=
  names.filter fun name => identifierOf name = identifier

theorem mem_namesOf {identifier name : String} {names : List String} :
    name ∈ namesOf identifier names ↔ name ∈ names ∧ identifierOf name = identifier := by
  simp [namesOf]

/-- One more name goes behind the different names before it, unless it is one of them. -/
theorem addName_eraseDups (name : String) (names : List String) :
    addName name (some names.eraseDups) = (names ++ [name]).eraseDups := by
  rw [List.eraseDups_append, addName]
  by_cases h : name ∈ names
  · simp [h, List.cons_removeAll]
  · simp [h, List.cons_removeAll, List.eraseDups_cons]

/-- What the groups of the names read so far hold: of each identifier that occurs, its
different names. -/
def Grouped (names : List String) (groups : OrderedMap (List String)) : Prop :=
  ∀ identifier, groups.get? identifier =
    if namesOf identifier names = [] then none else some (namesOf identifier names).eraseDups

theorem grouped_nil : Grouped [] .empty := fun _ => rfl

/-- **Step.** A name joins the group of its identifier, at the end, unless it is in it already. -/
theorem Grouped.add {names : List String} {groups : OrderedMap (List String)}
    (h : Grouped names groups) (name : String) :
    Grouped (names ++ [name]) (groups.modify (identifierOf name) (addName name)) := by
  intro identifier
  rw [OrderedMap.get?_modify]
  by_cases hid : identifier = identifierOf name
  · have happend : namesOf identifier (names ++ [name]) = namesOf identifier names ++ [name] := by
      simp [namesOf, hid]
    rw [if_pos hid, happend, if_neg (by simp), ← addName_eraseDups, ← hid, h identifier]
    by_cases hnone : namesOf identifier names = []
    · rw [if_pos hnone, hnone]
      rfl
    · rw [if_neg hnone]
  · have hsame : namesOf identifier (names ++ [name]) = namesOf identifier names := by
      simp [namesOf, Ne.symm hid]
    rw [if_neg hid, hsame, h identifier]

/-- **Run.** So after all names the groups are those of all names. -/
theorem Grouped.addAll {names : List String} {groups : OrderedMap (List String)}
    (h : Grouped names groups) (more : List String) :
    Grouped (names ++ more)
      (more.foldl (fun groups name => groups.modify (identifierOf name) (addName name))
        groups) := by
  induction more generalizing names groups with
  | nil => simpa using h
  | cons name rest ih =>
    rw [List.foldl_cons, ← List.singleton_append, ← List.append_assoc]
    exact ih (h.add name)

/-- The second pass gathers, of each identifier that some name has, its different names in
the order of their first occurrence. -/
theorem get?_namesByIdentifier (workflow : Workflow) :
    Grouped workflow.nodeNames workflow.namesByIdentifier := by
  have h := grouped_nil.addAll workflow.nodeNames
  rwa [List.nil_append] at h

/-- An entry of the second pass holds exactly the names of its identifier. -/
theorem eq_eraseDups_of_mem_namesByIdentifier {workflow : Workflow} {identifier : String}
    {group : List String} (h : (identifier, group) ∈ workflow.namesByIdentifier.entries) :
    group = (namesOf identifier workflow.nodeNames).eraseDups := by
  have hget := OrderedMap.get?_eq_some_iff.2 h
  rw [get?_namesByIdentifier] at hget
  split at hget
  · cases hget
  · exact (Option.some.inj hget).symm

/-- Every name is in the entry of its identifier. -/
theorem mem_namesByIdentifier {workflow : Workflow} {name : String}
    (h : name ∈ workflow.nodeNames) :
    (identifierOf name, (namesOf (identifierOf name) workflow.nodeNames).eraseDups) ∈
      workflow.namesByIdentifier.entries := by
  have hmem : name ∈ namesOf (identifierOf name) workflow.nodeNames := mem_namesOf.2 ⟨h, rfl⟩
  rw [← OrderedMap.get?_eq_some_iff, get?_namesByIdentifier, if_neg (List.ne_nil_of_mem hmem)]

/-! ### Both passes -/

theorem eq_of_mem_of_length_le_one {names : List String} (h : names.length ≤ 1) {a b : String}
    (ha : a ∈ names) (hb : b ∈ names) : a = b := by
  match names, h with
  | [], _ => cases ha
  | [only], _ => rw [List.mem_singleton.1 ha, List.mem_singleton.1 hb]

/-- Different names are left of some names if these are not all the same. -/
theorem one_lt_length_eraseDups_iff {names : List String} :
    1 < names.eraseDups.length ↔ ∃ a ∈ names, ∃ b ∈ names, a ≠ b := by
  constructor
  · intro h
    by_contra hsame
    push Not at hsame
    cases names with
    | nil => simp at h
    | cons first rest =>
      have hfilter : rest.filter (fun name => !name == first) = [] := by
        rw [List.filter_eq_nil_iff]
        intro name hname
        simp [hsame name (List.mem_cons_of_mem _ hname) first List.mem_cons_self]
      rw [List.eraseDups_cons, hfilter] at h
      simp at h
  · rintro ⟨a, ha, b, hb, hne⟩
    by_contra hlength
    exact hne (eq_of_mem_of_length_le_one (Nat.not_lt.1 hlength) (List.mem_eraseDups.2 ha)
      (List.mem_eraseDups.2 hb))

/-- Names without repetition that all are the same are at most one. -/
theorem length_le_one_of_nodup {names : List String} (h : names.Nodup)
    (hsame : ∀ a ∈ names, ∀ b ∈ names, a = b) : names.length ≤ 1 := by
  match names, h, hsame with
  | [], _, _ => simp
  | [_], _, _ => simp
  | first :: second :: rest, h, hsame =>
    have heq : first = second := hsame first (by simp) second (by simp)
    simp [heq] at h

/-- The second pass reports nothing exactly when different names have different
identifiers. -/
theorem collisions_eq_nil_iff (workflow : Workflow) (hnodup : workflow.nodeNames.Nodup) :
    (workflow.namesByIdentifier.entries.filter fun entry => 1 < entry.2.length) = [] ↔
      ∀ a ∈ workflow.nodeNames, ∀ b ∈ workflow.nodeNames,
        identifierOf a = identifierOf b → a = b := by
  rw [List.filter_eq_nil_iff]
  constructor
  · intro h a ha b hb hab
    have hlength := h _ (mem_namesByIdentifier ha)
    rw [decide_eq_true_eq, Nat.not_lt] at hlength
    refine eq_of_mem_of_length_le_one hlength ?_ ?_
    · rw [List.mem_eraseDups]
      exact mem_namesOf.2 ⟨ha, rfl⟩
    · rw [List.mem_eraseDups]
      exact mem_namesOf.2 ⟨hb, hab.symm⟩
  · rintro h ⟨identifier, group⟩ hentry
    have hlength : (namesOf identifier workflow.nodeNames).length ≤ 1 := by
      apply length_le_one_of_nodup (hnodup.filter _)
      intro a ha b hb
      obtain ⟨ha, haid⟩ := mem_namesOf.1 ha
      obtain ⟨hb, hbid⟩ := mem_namesOf.1 hb
      exact h a ha b hb (haid.trans hbid.symm)
    rw [eq_eraseDups_of_mem_namesByIdentifier hentry, decide_eq_true_eq, Nat.not_lt]
    -- of at most one name there is nothing to erase
    match namesOf identifier workflow.nodeNames, hlength with
    | [], _ => simp
    | [_], _ => simp [List.eraseDups_cons]

/-- There is no warning on names exactly when no two nodes have names of one identifier. -/
theorem nameWarnings_eq_nil_iff (workflow : Workflow) :
    workflow.nameWarnings = [] ↔ (workflow.nodeNames.map identifierOf).Nodup := by
  rw [nameWarnings, List.append_eq_nil_iff, List.map_eq_nil_iff, List.map_eq_nil_iff,
    repeatedNames_eq_nil_iff]
  constructor
  · rintro ⟨hnodup, hcollisions⟩
    exact hnodup.map_on ((collisions_eq_nil_iff workflow hnodup).1 hcollisions)
  · intro h
    have hnodup : workflow.nodeNames.Nodup := h.of_map
    exact ⟨hnodup, (collisions_eq_nil_iff workflow hnodup).2
      fun a ha b hb => List.inj_on_of_nodup_map h ha hb⟩

end Workflow

end FlowScript
