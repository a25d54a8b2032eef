import FlowScript.Proofs.Similarity.Distance
import FlowScript.Proofs.Validation.Connections

/-!
# Suggestions are the nearest names

The name that is suggested for an unknown one is the first of the nearest candidates
(`FirstNearest`), and there is one exactly if the nearest is similar enough. It is also what is
found if the far candidates are left out first and the rest is searched from the left
(`similarName?_eq_firstNearest?`).

A name that differs from the unknown one in case only is at distance zero
(`nameDistance_eq_zero_iff`), so it is suggested before all others. The warnings on unknown names
look among the names of all nodes, and hence what they suggest is a node (`Hints`).
-/

namespace FlowScript

open Text

variable {name chosen : String} {candidates : List String}

/-! ### Distances of names -/

theorem fewestChanges_nameDistance (a b : String) :
    FewestChanges (lowerCase a.toList) (lowerCase b.toList) (nameDistance a b) := by
  rw [nameDistance, editDistance_eq_gap]
  exact fewestChanges_gap _ _

/-- No changes are needed between names that are alike but for their case. -/
theorem nameDistance_eq_zero_iff {a b : String} :
    nameDistance a b = 0 ↔ lowerCase a.toList = lowerCase b.toList := by
  constructor
  · intro h
    obtain ⟨⟨changes, happly, hlength⟩, -⟩ := fewestChanges_nameDistance a b
    rw [h, List.length_eq_zero_iff] at hlength
    rw [hlength] at happly
    exact Option.some.inj happly
  · intro h
    rw [nameDistance, h, editDistance_eq_gap, gap_self]

/-! ### The first of the nearest -/

/-- Of the candidates, one is nearest to a name, and those before it are further away. -/
def FirstNearest (name : String) (candidates : List String) (chosen : String) : Prop :=
  ∃ before behind, candidates = before ++ chosen :: behind ∧
    (∀ other ∈ before, nameDistance name chosen < nameDistance name other) ∧
      ∀ other ∈ behind, nameDistance name chosen ≤ nameDistance name other

/-- A candidate before all others is chosen if none of them is nearer. -/
theorem firstNearest_head
    (h : ∀ other ∈ candidates, nameDistance name chosen ≤ nameDistance name other) :
    FirstNearest name (chosen :: candidates) chosen :=
  ⟨[], candidates, rfl, List.forall_mem_nil _, h⟩

/-- A candidate that is further away can stand before all others. -/
theorem FirstNearest.cons (h : FirstNearest name candidates chosen) {further : String}
    (hfurther : nameDistance name chosen < nameDistance name further) :
    FirstNearest name (further :: candidates) chosen := by
  obtain ⟨before, behind, rfl, hbefore, hbehind⟩ := h
  exact ⟨further :: before, behind, rfl, List.forall_mem_cons.2 ⟨hfurther, hbefore⟩, hbehind⟩

theorem FirstNearest.mem (h : FirstNearest name candidates chosen) : chosen ∈ candidates := by
  obtain ⟨before, behind, rfl, -, -⟩ := h
  exact List.mem_append_right _ List.mem_cons_self

/-- No candidate is nearer than the chosen one: those before it are further away, and those behind
it not nearer. -/
theorem FirstNearest.le (h : FirstNearest name candidates chosen) {other : String}
    (hother : other ∈ candidates) : nameDistance name chosen ≤ nameDistance name other := by
  obtain ⟨before, behind, rfl, hbefore, hbehind⟩ := h
  rcases List.mem_append.1 hother with hother | hother
  · exact Nat.le_of_lt (hbefore other hother)
  · rcases List.mem_cons.1 hother with rfl | hother
    · exact Nat.le_refl _
    · exact hbehind other hother

theorem nearest?_eq_none_iff : nearest? name candidates = none ↔ candidates = [] := by
  cases candidates with
  | nil => exact iff_of_true rfl rfl
  | cons candidate rest =>
    refine iff_of_false ?_ (List.cons_ne_nil _ _)
    rw [nearest?]
    split
    · split <;> exact Option.some_ne_none _
    · exact Option.some_ne_none _

/-- The search gives the first of the nearest, with its distance. -/
theorem firstNearest_of_nearest? {distance : Nat}
    (h : nearest? name candidates = some (chosen, distance)) :
    FirstNearest name candidates chosen ∧ distance = nameDistance name chosen := by
  -- the nearest of the rest is known first, and a candidate before it wins a tie
  induction candidates generalizing chosen distance with
  | nil => cases h
  | cons candidate rest ih =>
    rw [nearest?] at h
    split at h
    · next other least hother =>
      obtain ⟨hnearest, rfl⟩ := ih hother
      split at h
      · next hnearer =>
        cases h
        exact ⟨hnearest.cons hnearer, rfl⟩
      · next hfurther =>
        cases h
        refine ⟨firstNearest_head fun another hanother => ?_, rfl⟩
        exact Nat.le_trans (Nat.le_of_not_lt hfurther) (hnearest.le hanother)
    · next hnone =>
      cases h
      rw [nearest?_eq_none_iff.1 hnone]
      exact ⟨firstNearest_head (List.forall_mem_nil _), rfl⟩

/-! ### Names that are similar -/

/-- A name that is suggested is the first of the nearest, and within the bound. -/
theorem firstNearest_of_similarName? (h : similarName? name candidates = some chosen) :
    FirstNearest name candidates chosen ∧ nameDistance name chosen ≤ similarityBound name := by
  rw [similarName?] at h
  split at h
  · next candidate distance hnearest =>
    obtain ⟨hfirst, rfl⟩ := firstNearest_of_nearest? hnearest
    obtain ⟨hbound, ⟨⟩⟩ := Option.ite_none_right_eq_some.1 h
    exact ⟨hfirst, hbound⟩
  · cases h

/-- If any candidate is similar, so is the nearest. -/
theorem similarName?_eq_none_iff :
    similarName? name candidates = none ↔
      ∀ candidate ∈ candidates, similarityBound name < nameDistance name candidate := by
  rw [similarName?]
  split
  · next candidate distance hnearest =>
    obtain ⟨hfirst, rfl⟩ := firstNearest_of_nearest? hnearest
    rw [ite_eq_right_iff]
    constructor
    · intro h other hother
      have hfar : ¬ nameDistance name candidate ≤ similarityBound name := fun hnear =>
        Option.some_ne_none _ (h hnear)
      exact Nat.lt_of_lt_of_le (Nat.lt_of_not_le hfar) (hfirst.le hother)
    · intro h hnear
      exact absurd hnear (Nat.not_le_of_lt (h candidate hfirst.mem))
  · next hnone =>
    rw [nearest?_eq_none_iff.1 hnone]
    exact iff_of_true rfl (List.forall_mem_nil _)

/-! ### Far candidates are left out first -/

/-- Of two candidates with their distances the nearer one, and the first if neither is nearer. -/
def nearerOf (first second : String × Nat) : String × Nat :=
  if second.2 < first.2 then second else first

/-- The first of the nearest, found from the left. -/
def firstNearest? : List (String × Nat) → Option (String × Nat)
  | [] => none
  | first :: rest => some (rest.foldl nearerOf first)

/-- The candidates that are similar to a name, with their distances. -/
def similarOnes (name : String) (candidates : List String) : List (String × Nat) :=
  candidates.filterMap fun candidate =>
    let distance := nameDistance name candidate
    if distance ≤ similarityBound name then some (candidate, distance) else none

theorem nearerOf_of_lt {first second : String × Nat} (h : second.2 < first.2) :
    nearerOf first second = second :=
  if_pos h

theorem nearerOf_of_le {first second : String × Nat} (h : first.2 ≤ second.2) :
    nearerOf first second = first :=
  if_neg (Nat.not_lt_of_le h)

/-- It does not matter which of three are compared first. -/
theorem nearerOf_assoc (a b c : String × Nat) :
    nearerOf (nearerOf a b) c = nearerOf a (nearerOf b c) := by
  rcases Nat.lt_or_ge b.2 a.2 with hba | hab <;> rcases Nat.lt_or_ge c.2 b.2 with hcb | hbc
  · rw [nearerOf_of_lt hba, nearerOf_of_lt hcb, nearerOf_of_lt (hcb.trans hba)]
  · rw [nearerOf_of_lt hba, nearerOf_of_le hbc, nearerOf_of_lt hba]
  · rw [nearerOf_of_le hab, nearerOf_of_lt hcb]
  · rw [nearerOf_of_le hab, nearerOf_of_le hbc, nearerOf_of_le (hab.trans hbc), nearerOf_of_le hab]

instance : Std.Associative nearerOf := ⟨nearerOf_assoc⟩

/-- Comparisons can be made in any grouping, so the first candidate may as well be compared last,
with the nearest of the rest. -/
theorem firstNearest?_cons (first : String × Nat) (rest : List (String × Nat)) :
    firstNearest? (first :: rest) = (some first).merge nearerOf (firstNearest? rest) := by
  cases rest with
  | nil => rfl
  | cons second rest =>
    rw [firstNearest?, List.foldl_cons, List.foldl_assoc]
    rfl

/-- The nearest is the same from the left as from the right. -/
theorem nearest?_eq_firstNearest? (name : String) (candidates : List String) :
    nearest? name candidates =
      firstNearest? (candidates.map fun candidate => (candidate, nameDistance name candidate)) := by
  induction candidates with
  | nil => rfl
  | cons candidate rest ih =>
    rw [List.map_cons, firstNearest?_cons, ← ih, nearest?]
    cases nearest? name rest with
    | none => rfl
    | some other => rw [Option.merge_some_some, nearerOf, apply_ite some]

/-- One that is too far loses to every one that is not. -/
theorem filter_nearerOf (bound : Nat) (first second : String × Nat) :
    (some (nearerOf first second)).filter (·.2 ≤ bound) =
      ((some first).filter (·.2 ≤ bound)).merge nearerOf ((some second).filter (·.2 ≤ bound)) := by
  simp only [Option.filter_some, decide_eq_true_eq]
  by_cases hfirst : first.2 ≤ bound <;> by_cases hsecond : second.2 ≤ bound
  · have hboth : (nearerOf first second).2 ≤ bound := by
      rw [nearerOf]
      split <;> assumption
    rw [if_pos hboth, if_pos hfirst, if_pos hsecond, Option.merge_some_some]
  · rw [nearerOf_of_le (by omega), if_pos hfirst, if_neg hsecond, Option.merge_none_right]
  · rw [nearerOf_of_lt (by omega), if_neg hfirst, if_pos hsecond, Option.merge_none_left]
  · have hneither : ¬ (nearerOf first second).2 ≤ bound := by
      rw [nearerOf]
      split <;> assumption
    rw [if_neg hneither, if_neg hfirst, if_neg hsecond, Option.merge_none_left]

/-- **Far candidates do not matter.** Leaving them out before the search gives what the search
gives, if that is near enough, and nothing otherwise. -/
theorem firstNearest?_filter (bound : Nat) (found : List (String × Nat)) :
    firstNearest? (found.filter (·.2 ≤ bound)) = (firstNearest? found).filter (·.2 ≤ bound) := by
  induction found with
  | nil => rfl
  | cons first rest ih =>
    have hcons : firstNearest? ((first :: rest).filter (·.2 ≤ bound)) =
        ((some first).filter (·.2 ≤ bound)).merge nearerOf
          (firstNearest? (rest.filter (·.2 ≤ bound))) := by
      by_cases hfirst : first.2 ≤ bound
      · rw [List.filter_cons_of_pos (by simpa using hfirst), firstNearest?_cons, Option.filter_some,
          if_pos (by simpa using hfirst)]
      · rw [List.filter_cons_of_neg (by simpa using hfirst), Option.filter_some,
          if_neg (by simpa using hfirst), Option.merge_none_left]
    rw [hcons, ih, firstNearest?_cons]
    cases firstNearest? rest with
    | none => simp
    | some second => exact (filter_nearerOf bound first second).symm

/-- Leaving the far candidates out before the search and judging the nearest one behind it come to
the same: the bound does not depend on the candidate. -/
theorem similarName?_eq_firstNearest? (name : String) (candidates : List String) :
    similarName? name candidates = (firstNearest? (similarOnes name candidates)).map (·.1) := by
  have hsimilar : similarOnes name candidates =
      (candidates.map fun candidate => (candidate, nameDistance name candidate)).filter
        (·.2 ≤ similarityBound name) := by
    rw [← List.filterMap_eq_filter, List.filterMap_map]
    exact List.filterMap_congr fun candidate _ => by simp [Option.guard]
  rw [hsimilar, firstNearest?_filter, ← nearest?_eq_firstNearest?, similarName?]
  cases nearest? name candidates with
  | none => rfl
  | some found => simp [Option.filter_some, apply_ite]

/-! ### Hints -/

/-- The wording of a hint at a name. -/
def didYouMean (name : String) : String := ". Did you mean '" ++ name ++ "'?"

theorem suggestion_eq (name : String) (candidates : List String) :
    suggestion name candidates = ((similarName? name candidates).map didYouMean).getD "" := by
  rw [suggestion]
  cases similarName? name candidates <;> rfl

theorem didYouMean_ne_empty (name : String) : didYouMean name ≠ "" := by
  intro h
  have hfront : ". Did you mean '" = "" :=
    (String.append_eq_empty_iff.1 (String.append_eq_empty_iff.1 h).1).1
  exact absurd hfront (by decide)

/-- What a hint at the nodes of a workflow says, for a name that none of them has. -/
structure Hints (workflow : Workflow) (name hint : String) : Prop where
  /-- it says nothing exactly if no node has a similar name -/
  absent : hint = "" ↔
    ∀ node ∈ workflow.nodes, similarityBound name < nameDistance name node.name
  /-- if it says anything, it names a node, the first of those that are nearest -/
  present : hint ≠ "" → ∃ node ∈ workflow.nodes, hint = didYouMean node.name ∧
    node.name ≠ name ∧ FirstNearest name workflow.nodeNames node.name
  /-- if a node's name differs in case only, then so does the one that it names -/
  inCase : (∃ other ∈ workflow.nodes, lowerCase other.name.toList = lowerCase name.toList) →
    ∃ node ∈ workflow.nodes, hint = didYouMean node.name ∧ node.name ≠ name ∧
      lowerCase node.name.toList = lowerCase name.toList

/-- What is suggested for a name that no node has. A node that differs in case only is at distance
zero, which is within every bound and nearer than any other. -/
theorem hints_suggestion {workflow : Workflow} (h : name ∉ workflow.nodeNames) :
    Hints workflow name (suggestion name workflow.nodeNames) := by
  rw [suggestion_eq]
  have hunknown {node : Node} (hnode : node ∈ workflow.nodes) : node.name ≠ name := by
    rintro rfl
    exact h (List.mem_map_of_mem hnode)
  cases hsimilar : similarName? name workflow.nodeNames with
  | none =>
    have hfar := List.forall_mem_map.1 (similarName?_eq_none_iff.1 hsimilar)
    refine ⟨iff_of_true rfl hfar, fun hne => absurd rfl hne, ?_⟩
    rintro ⟨other, hother, hcase⟩
    have hfurther := hfar other hother
    rw [nameDistance_eq_zero_iff.2 hcase.symm] at hfurther
    exact absurd hfurther (Nat.not_lt_zero _)
  | some chosen =>
    obtain ⟨hfirst, hbound⟩ := firstNearest_of_similarName? hsimilar
    obtain ⟨node, hnode, rfl⟩ := List.mem_map.1 hfirst.mem
    refine ⟨iff_of_false (didYouMean_ne_empty _) fun hfar => ?_,
      fun _ => ⟨node, hnode, rfl, hunknown hnode, hfirst⟩, ?_⟩
    · exact absurd hbound (Nat.not_le_of_lt (hfar node hnode))
    · rintro ⟨other, hother, hcase⟩
      have hnearest := hfirst.le (List.mem_map_of_mem hother)
      rw [nameDistance_eq_zero_iff.2 hcase.symm] at hnearest
      have hzero := nameDistance_eq_zero_iff.1 (Nat.eq_zero_of_le_zero hnearest)
      exact ⟨node, hnode, rfl, hunknown hnode, hzero.symm⟩

namespace Workflow

variable {workflow : Workflow} {registry : Registry}

/-- A warning on an unknown source is about a name that no node has, and looks among all names of
nodes. -/
theorem unknownSource_mem_warningsWith {source : String} {available : List String}
    (h : Warning.unknownSource source available ∈ workflow.warningsWith registry) :
    source ∉ workflow.nodeNames ∧ available = workflow.nodeNames := by
  have hpass := mem_warningsWith_iff.1 h
  rw [Warning.subject, warningsOn, connectionWarnings_eq] at hpass
  rcases List.mem_append.1 hpass with hsource | hedge
  · obtain ⟨key, hkey, heq⟩ := List.mem_map.1 hsource
    cases heq
    exact ⟨by simpa using (List.mem_filter.1 hkey).2, rfl⟩
  · obtain ⟨edge, -, hedge⟩ := List.mem_filterMap.1 hedge
    cases edgeWarning?_eq_some_iff.1 hedge

theorem unknownTarget_mem_warningsWith {source target : String} {available : List String}
    (h : Warning.unknownTarget source target available ∈ workflow.warningsWith registry) :
    target ∉ workflow.nodeNames ∧ available = workflow.nodeNames := by
  have hpass := mem_warningsWith_iff.1 h
  rw [Warning.subject, warningsOn, connectionWarnings_eq] at hpass
  rcases List.mem_append.1 hpass with hsource | hedge
  · obtain ⟨key, -, heq⟩ := List.mem_map.1 hsource
    cases heq
  · obtain ⟨edge, -, hedge⟩ := List.mem_filterMap.1 hedge
    cases edgeWarning?_eq_some_iff.1 hedge with
    | unknownTarget _ htarget => exact ⟨htarget, rfl⟩

end Workflow

/-- **Suggestions are the nearest names.** The distance of two names is the fewest changes between
them in lower case. A name is suggested exactly if some candidate is within half the size of the
unknown name, and two more; it is a candidate of least distance among all of them, and the first of
these. So a warning on an unknown name hints at a node or at nothing, and it hints at one that
differs in case only if there is one. -/
theorem suggested_name_is_nearest (name : String) (candidates : List String) :
    (∀ candidate, FewestChanges (lowerCase name.toList) (lowerCase candidate.toList)
      (nameDistance name candidate)) ∧
    ((∃ chosen, similarName? name candidates = some chosen) ↔
      ∃ candidate ∈ candidates, nameDistance name candidate ≤ name.utf8ByteSize / 2 + 2) ∧
    (∀ chosen, similarName? name candidates = some chosen → FirstNearest name candidates chosen) ∧
    ∀ (workflow : Workflow) (registry : Registry), ∀ warning ∈ workflow.warningsWith registry,
      (∀ source available, warning = .unknownSource source available →
        ∃ hint, warning.message =
          "[W010] Connection source " ++ inQuotes source ++ " is not a node in this workflow" ++
            hint ∧ Hints workflow source hint) ∧
      ∀ source target available, warning = .unknownTarget source target available →
        ∃ hint, warning.message =
          "[W011] Node " ++ inQuotes source ++ " connects to unknown node " ++ inQuotes target ++
            hint ∧ Hints workflow target hint := by
  refine ⟨fewestChanges_nameDistance name, ?_, fun chosen h => (firstNearest_of_similarName? h).1,
    fun workflow registry warning hwarning => ⟨?_, ?_⟩⟩
  · rw [← Option.isSome_iff_exists, ← Option.ne_none_iff_isSome, ne_eq, similarName?_eq_none_iff]
    simp [similarityBound]
  · rintro source available rfl
    obtain ⟨hunknown, rfl⟩ := Workflow.unknownSource_mem_warningsWith hwarning
    exact ⟨_, rfl, hints_suggestion hunknown⟩
  · rintro source target available rfl
    obtain ⟨hunknown, rfl⟩ := Workflow.unknownTarget_mem_warningsWith hwarning
    exact ⟨_, rfl, hints_suggestion hunknown⟩

/-- Two nodes whose names differ from one another in case only, behind one that is close to both,
and connections to and from names that no node has. -/
def misspelt : Workflow :=
  let node (name : String) : Node := { name, type := "set" }
  (({ nodes := [node "Ghosts", node "GHOST", node "ghosT"] } : Workflow).withConnection "Ghost"
    "GHOST").withConnection "GHOST" "Toast"

/-- The first of the two nodes at distance three is suggested, and for a name that differs in case
only, no node that is close in another way. -/
theorem misspelt_suggested :
    similarName? "Toast" misspelt.nodeNames = some "GHOST" ∧
    FirstNearest "Toast" misspelt.nodeNames "GHOST" ∧
    ∃ node ∈ misspelt.nodes, node.name ≠ "Ghost" ∧
      lowerCase node.name.toList = lowerCase "Ghost".toList ∧
      (Warning.unknownSource "Ghost" misspelt.nodeNames).message =
        "[W010] Connection source " ++ inQuotes "Ghost" ++ " is not a node in this workflow" ++
          didYouMean node.name := by
  obtain ⟨-, -, hnearest, hwarnings⟩ := suggested_name_is_nearest "Toast" misspelt.nodeNames
  have hchosen : similarName? "Toast" misspelt.nodeNames = some "GHOST" := by decide +kernel
  refine ⟨hchosen, hnearest _ hchosen, ?_⟩
  obtain ⟨hint, hmessage, hhints⟩ := (hwarnings misspelt .standard
    (.unknownSource "Ghost" misspelt.nodeNames) (by decide +kernel)).1 _ _ rfl
  obtain ⟨node, hnode, rfl, hne, hcase⟩ := hhints.inCase
    ⟨{ name := "GHOST", type := "set" }, .tail _ (.head _), by decide +kernel⟩
  exact ⟨node, hnode, hne, hcase, hmessage⟩

end FlowScript
