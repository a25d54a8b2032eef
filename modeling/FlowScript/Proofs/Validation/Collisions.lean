import FlowScript.Proofs.Script.Identifier
import FlowScript.Proofs.Text.Utf8
import FlowScript.Proofs.Validation.Names
import FlowScript.Proofs.Validation.Subjects
import Mathlib.Data.List.Basic

/-!
# Warnings on names, one by one

The first pass over the names reports a name where it stands for the second time. Of the names
before, it has to know which there were and which it has reported (`Remembers`), and so its reports
come in the order of second occurrences (`Workflow.pairwise_repeatedNames`). The second pass gathers
the names in an ordered map, so its reports come in the order of identifiers, and the names in one
report as they first occur (`pairwise_idxOf_eraseDups`).
-/

namespace FlowScript

/-! ### Names that occur again -/

/-- What a pass over names knows of those before: which there were, and which were there twice. -/
structure Remembers (before seen reported : List String) : Prop where
  /-- the names before -/
  seen_iff : ∀ name, name ∈ seen ↔ name ∈ before
  /-- those that have been reported -/
  reported_iff : ∀ name, name ∈ reported ↔ 2 ≤ before.count name

namespace Remembers

variable {before seen reported : List String} {name : String}

theorem nil : Remembers [] [] [] := ⟨fun _ => Iff.rfl, fun _ => by simp⟩

/-- A name that is seen again and not yet reported was there once. -/
theorem count_eq_one (h : Remembers before seen reported) (hseen : name ∈ seen)
    (hreported : name ∉ reported) : before.count name = 1 := by
  have hpos := List.count_pos_iff.2 ((h.seen_iff name).1 hseen)
  rw [h.reported_iff] at hreported
  omega

/-- After a report. -/
theorem report (h : Remembers before seen reported) (hseen : name ∈ seen)
    (hreported : name ∉ reported) : Remembers (before ++ [name]) seen (name :: reported) := by
  have hone := h.count_eq_one hseen hreported
  refine ⟨fun other => ?_, fun other => ?_⟩
  · rw [h.seen_iff, List.mem_append, List.mem_singleton, or_iff_left_of_imp]
    rintro rfl
    exact (h.seen_iff other).1 hseen
  · rw [List.mem_cons, h.reported_iff, List.count_append]
    by_cases hother : other = name
    · subst hother
      simp [hone]
    · simp [hother, Ne.symm hother]

/-- After a name that is not reported: it is new, or it has been reported before. -/
theorem pass (h : Remembers before seen reported) (hpass : name ∈ seen → name ∈ reported) :
    Remembers (before ++ [name]) (name :: seen) reported := by
  refine ⟨fun other => ?_, fun other => ?_⟩
  · rw [List.mem_cons, h.seen_iff, List.mem_append, List.mem_singleton, or_comm]
  · rw [h.reported_iff, List.count_append]
    by_cases hother : other = name
    · subst hother
      by_cases hseen : other ∈ seen
      · have htwice := (h.reported_iff other).1 (hpass hseen)
        simp only [List.count_singleton_self]
        omega
      · have hnone := List.count_eq_zero.2 (mt (h.seen_iff other).2 hseen)
        simp [hnone]
    · simp [Ne.symm hother]

end Remembers

/-- Where an occurrence stands that all those in front of it precede. -/
theorem idxOfNth_append_self (before : List String) (name : String) (rest : List String) :
    (before ++ [name] ++ rest).idxOfNth name (before.count name) = before.length := by
  have hcount : (before ++ [name] ++ rest).countBefore name before.length = before.count name := by
    simp [List.countBefore_eq_count_take]
  rw [← hcount]
  exact List.idxOfNth_countBefore_of_lt_length_of_beq (h := by simp) (by simp)

/-- An occurrence with no fewer occurrences before it than are in front is not in front. -/
theorem length_le_idxOfNth_append {before : List String} {name : String} {n : Nat}
    (h : before.count name ≤ n) (rest : List String) :
    before.length ≤ (before ++ rest).idxOfNth name n := by
  induction before generalizing n with
  | nil => exact Nat.zero_le _
  | cons first before ih =>
    rw [List.cons_append, List.length_cons]
    by_cases hfirst : first = name
    · rw [hfirst, List.count_cons_self] at h
      obtain ⟨n, rfl⟩ := Nat.exists_eq_add_one_of_ne_zero (Nat.ne_zero_of_lt h)
      rw [List.idxOfNth_cons_succ_of_beq (by simpa using hfirst)]
      exact Nat.succ_le_succ (ih (Nat.le_of_succ_le_succ h))
    · rw [List.count_cons_of_ne (by simpa using hfirst)] at h
      rw [List.idxOfNth_cons_of_not_beq (by simpa using hfirst)]
      exact Nat.succ_le_succ (ih h)

namespace Workflow

/-- A name is reported at its second occurrence. The induction is on the names that are still to
come, with what the search has seen and reported held against the names before them. -/
theorem pairwise_repeatedFrom {before seen reported : List String}
    (h : Remembers before seen reported) (rest : List String) :
    (repeatedFrom seen reported rest).Pairwise fun a b =>
      (before ++ rest).idxOfNth a 1 < (before ++ rest).idxOfNth b 1 := by
  induction rest generalizing before seen reported with
  | nil => exact .nil
  | cons name rest ih =>
    rw [repeatedFrom, ← List.singleton_append, ← List.append_assoc]
    split
    · next hagain =>
      obtain ⟨hseen, hreported⟩ : name ∈ seen ∧ name ∉ reported := by simpa using hagain
      have hstep := h.report hseen hreported
      refine List.pairwise_cons.2 ⟨fun other hother => ?_, ih hstep⟩
      -- the name stands here for the second time, and all later reports are of later places
      have hname := idxOfNth_append_self before name rest
      rw [h.count_eq_one hseen hreported] at hname
      have hlater : (before ++ [name]).count other ≤ 1 := by
        have hnew := (mem_repeatedFrom_iff.1 hother).1
        rw [hstep.reported_iff] at hnew
        omega
      have hplace := length_le_idxOfNth_append hlater rest
      rw [List.length_append, List.length_singleton] at hplace
      omega
    · next hagain => exact ih (h.pass (by simpa using hagain))

theorem pairwise_repeatedNames (workflow : Workflow) :
    workflow.repeatedNames.Pairwise fun a b =>
      workflow.nodeNames.idxOfNth a 1 < workflow.nodeNames.idxOfNth b 1 :=
  pairwise_repeatedFrom .nil workflow.nodeNames

end Workflow

/-! ### Names in the order of their first occurrence -/

/-- Leaving out other names does not change which of two comes first. -/
theorem idxOf_lt_of_idxOf_filter_lt {keeps : String → Bool} {names : List String} {a b : String}
    (ha : keeps a = true) (hb : keeps b = true)
    (h : (names.filter keeps).idxOf a < (names.filter keeps).idxOf b) :
    names.idxOf a < names.idxOf b := by
  induction names with
  | nil => exact absurd h (Nat.lt_irrefl 0)
  | cons name names ih =>
    by_cases hname : keeps name = true
    · rw [List.filter_cons_of_pos hname] at h
      by_cases hbname : name = b
      · rw [hbname, List.idxOf_cons_self] at h
        exact absurd h (Nat.not_lt_zero _)
      · rw [List.idxOf_cons_ne _ hbname] at h ⊢
        by_cases haname : name = a
        · rw [haname, List.idxOf_cons_self]
          exact Nat.succ_pos _
        · rw [List.idxOf_cons_ne _ haname] at h ⊢
          exact Nat.succ_lt_succ (ih (Nat.lt_of_succ_lt_succ h))
    · rw [List.filter_cons_of_neg hname] at h
      rw [List.idxOf_cons_ne _ (by rintro rfl; exact hname ha),
        List.idxOf_cons_ne _ (by rintro rfl; exact hname hb)]
      exact Nat.succ_lt_succ (ih h)

/-- Of several occurrences the first is kept. -/
theorem pairwise_idxOf_eraseDups (names : List String) :
    names.eraseDups.Pairwise fun a b => names.idxOf a < names.idxOf b := by
  induction hlength : names.length using Nat.strongRecOn generalizing names with
  | ind length ih =>
    cases names with
    | nil => simp
    | cons name names =>
      subst hlength
      have hother {other : String}
          (h : other ∈ (names.filter fun other => !other == name).eraseDups) : name ≠ other := by
        rintro rfl
        simp at h
      rw [List.eraseDups_cons]
      refine List.pairwise_cons.2 ⟨fun other h => ?_, ?_⟩
      · rw [List.idxOf_cons_self, List.idxOf_cons_ne _ (hother h)]
        exact Nat.succ_pos _
      · refine (ih _ (Nat.lt_succ_of_le (List.length_filter_le _ _)) _ rfl).imp_of_mem ?_
        intro a b ha hb hlt
        rw [List.idxOf_cons_ne _ (hother ha), List.idxOf_cons_ne _ (hother hb)]
        refine Nat.succ_lt_succ (idxOf_lt_of_idxOf_filter_lt ?_ ?_ hlt)
        · simpa using (hother ha).symm
        · simpa using (hother hb).symm

namespace Workflow

/-- The names of an identifier keep the order in which they first occur. -/
theorem pairwise_idxOf_namesOf (identifier : String) (names : List String) :
    (namesOf identifier names).eraseDups.Pairwise fun a b => names.idxOf a < names.idxOf b := by
  refine (pairwise_idxOf_eraseDups _).imp_of_mem ?_
  intro a b ha hb hlt
  have ha := (mem_namesOf.1 (List.mem_eraseDups.1 ha)).2
  have hb := (mem_namesOf.1 (List.mem_eraseDups.1 hb)).2
  exact idxOf_lt_of_idxOf_filter_lt (by simpa using ha) (by simpa using hb) hlt

/-! ### Both passes -/

/-- The identifiers of several names, each with those names. -/
def collisions (workflow : Workflow) : List (String × List String) :=
  workflow.namesByIdentifier.entries.filter fun entry => 1 < entry.2.length

theorem nameWarnings_eq (workflow : Workflow) :
    workflow.nameWarnings = workflow.repeatedNames.map Warning.duplicateName ++
      workflow.collisions.map fun entry => .identifierCollision entry.1 entry.2 :=
  rfl

/-- A collision lists all names of its identifier, each once, and there are at least two. -/
theorem mem_collisions_iff {workflow : Workflow} {identifier : String} {names : List String} :
    (identifier, names) ∈ workflow.collisions ↔
      names = (namesOf identifier workflow.nodeNames).eraseDups ∧ 1 < names.length := by
  rw [collisions, List.mem_filter, decide_eq_true_eq]
  refine and_congr_left fun hlength => ⟨eq_eraseDups_of_mem_namesByIdentifier, ?_⟩
  rintro rfl
  -- some name becomes the identifier, and it leads to the entry
  obtain ⟨name, hname⟩ := List.exists_mem_of_length_pos (Nat.zero_lt_of_lt hlength)
  obtain ⟨hmem, rfl⟩ := mem_namesOf.1 (List.mem_eraseDups.1 hname)
  exact mem_namesByIdentifier hmem

/-- An identifier collides exactly if two different names become it. Two nodes of one name do not
make a collision; they are reported as repeated. -/
theorem exists_mem_collisions_iff {workflow : Workflow} {identifier : String} :
    (∃ names, (identifier, names) ∈ workflow.collisions) ↔
      ∃ a ∈ workflow.nodeNames, ∃ b ∈ workflow.nodeNames,
        a ≠ b ∧ identifierOf a = identifier ∧ identifierOf b = identifier := by
  simp only [mem_collisions_iff, exists_eq_left, one_lt_length_eraseDups_iff, mem_namesOf]
  constructor
  · rintro ⟨a, ⟨ha, haid⟩, b, ⟨hb, hbid⟩, hne⟩
    exact ⟨a, ha, b, hb, hne, haid, hbid⟩
  · rintro ⟨a, ha, b, hb, hne, haid, hbid⟩
    exact ⟨a, ⟨ha, haid⟩, b, ⟨hb, hbid⟩, hne⟩

/-- Collisions come in the order of the bytes of their identifiers, whatever order the nodes
have. -/
theorem pairwise_collisions (workflow : Workflow) :
    workflow.collisions.Pairwise fun a b =>
      Text.Utf8.encode a.1.toList < Text.Utf8.encode b.1.toList :=
  (workflow.namesByIdentifier.ascending.filter _).imp Text.Utf8.encode_lt_encode

/-- **The warnings on names** are these, in this order: one for each name that several nodes have,
by the place where it occurs for the second time; then one for each identifier that different names
become, by ascending bytes, with all those names, each once, by the place where it first occurs.
Two names become one identifier exactly if they are of one length and have, place by place, the
same character or two outside of `[A-Za-z0-9]`. -/
theorem name_warnings_in_order (workflow : Workflow) :
    (∃ (again : List String) (collisions : List (String × List String)),
      workflow.warnings.filter (·.subject = .names) =
        again.map .duplicateName ++
          collisions.map (fun entry => .identifierCollision entry.1 entry.2) ∧
      (∀ name, name ∈ again ↔ 2 ≤ workflow.nodeNames.count name) ∧
      (again.Pairwise fun a b =>
        workflow.nodeNames.idxOfNth a 1 < workflow.nodeNames.idxOfNth b 1) ∧
      (∀ identifier, (∃ names, (identifier, names) ∈ collisions) ↔
        ∃ a ∈ workflow.nodeNames, ∃ b ∈ workflow.nodeNames,
          a ≠ b ∧ identifierOf a = identifier ∧ identifierOf b = identifier) ∧
      (collisions.Pairwise fun a b =>
        Text.Utf8.encode a.1.toList < Text.Utf8.encode b.1.toList) ∧
      ∀ identifier names, (identifier, names) ∈ collisions →
        (∀ name, name ∈ names ↔ name ∈ workflow.nodeNames ∧ identifierOf name = identifier) ∧
        names.Pairwise fun a b => workflow.nodeNames.idxOf a < workflow.nodeNames.idxOf b) ∧
    ∀ a b : String, identifierOf a = identifierOf b ↔
      a.toList.length = b.toList.length ∧
        ∀ (i : Nat) (c d : Char), a.toList[i]? = some c → b.toList[i]? = some d →
          c = d ∨ ¬ IsLatin c ∧ ¬ IsLatin d := by
  refine ⟨⟨workflow.repeatedNames, workflow.collisions, ?_, fun _ => mem_repeatedNames_iff,
    workflow.pairwise_repeatedNames, fun _ => exists_mem_collisions_iff,
    workflow.pairwise_collisions, fun identifier names hentry => ?_⟩,
    fun _ _ => identifierOf_eq_iff⟩
  · rw [warnings, filter_subject_warningsWith]
    exact workflow.nameWarnings_eq
  · obtain ⟨rfl, -⟩ := mem_collisions_iff.1 hentry
    refine ⟨fun name => ?_, pairwise_idxOf_namesOf identifier workflow.nodeNames⟩
    rw [List.mem_eraseDups, mem_namesOf]

/-- Names that occur again in another order than they first occur in, and names of one
identifier. -/
def crowded : Workflow where
  nodes := ["a b", "é", "B!", "é", "a-b", "a b", "B?", "é"].map fun name => { name, type := "set" }

theorem crowded_warned_in_order :
    crowded.warnings.filter (·.subject = .names) =
      [.duplicateName "é", .duplicateName "a b", .identifierCollision "B_" ["B!", "B?"],
        .identifierCollision "a_b" ["a b", "a-b"]] ∧
    crowded.nodeNames.idxOfNth "é" 1 = 3 ∧ crowded.nodeNames.idxOfNth "a b" 1 = 5 ∧
    (∀ name, name ∈ ["B!", "B?"] ↔ name ∈ crowded.nodeNames ∧ identifierOf name = "B_") ∧
    ('é' = '_' ∨ ¬ IsLatin 'é' ∧ ¬ IsLatin '_') := by
  have hlist : crowded.warnings.filter (·.subject = .names) =
      [.duplicateName "é", .duplicateName "a b", .identifierCollision "B_" ["B!", "B?"],
        .identifierCollision "a_b" ["a b", "a-b"]] := by
    decide +kernel
  obtain ⟨⟨again, collisions, hwarnings, -, -, -, -, hnames⟩, hidentifiers⟩ :=
    name_warnings_in_order crowded
  have hmem : Warning.identifierCollision "B_" ["B!", "B?"] ∈
      crowded.warnings.filter (·.subject = .names) := by
    rw [hlist]
    simp
  rw [hwarnings] at hmem
  have hentry : ("B_", ["B!", "B?"]) ∈ collisions := by simpa using hmem
  have hplaces := (hidentifiers "a-é" "a__").1 (by decide +kernel)
  exact ⟨hlist, by decide +kernel, by decide +kernel, (hnames _ _ hentry).1,
    hplaces.2 2 'é' '_' rfl rfl⟩

end Workflow

end FlowScript
