import FlowScript.Cli.VariableFile

/-!
# Variables that a file uses

A value in a file of variables can use other variables. Which ones it uses can be told by
following its reader: a variable is looked up where a name ends (`Reading.lookedUp?`). Where
these variables are the same, so is the value (`valueOf_congr`), whatever the others are. And
where they are the same in all environments that are alike in some way, a file keeps the
environments alike (`loadLines_related`).

Loading fails for one reason only, a null character in a value that would be set
(`load_eq_error_iff`). It is then the same variable in environments that are alike.
-/

namespace FlowScript

namespace VariableFile

/-! ### Values -/

namespace Reading

/-- The name that is looked up when a character comes next within a value, if one is. -/
def lookedUpWithin? (reading : Reading) (c : Char) : Option String :=
  if reading.escaped ∨ reading.quotes = .strong then none
  else
    match reading.use with
    | .none => none
    | .bare name =>
      if Text.isAlphanumeric c || (c = '\x7b' && name.isEmpty) then none
      else some (String.ofList name)
    | .braced name => if c = '\x7d' then some (String.ofList name) else none

/-- The name that is looked up when a character comes next, if one is. -/
def lookedUp? (reading : Reading) (c : Char) : Option String :=
  if reading.rest = .value then reading.lookedUpWithin? c else none

/-- The name that is looked up when nothing comes next, if one is. -/
def lookedUpLast? (reading : Reading) : Option String :=
  match reading.use with
  | .bare name => some (String.ofList name)
  | _ => none

variable {environment other : Environment} {reading : Reading} {c : Char}

/-- An expansion looks up one variable, so environments that agree on it expand alike. The lemmas
from here to `readLine_congr` carry this from one character of a line to the whole of it. -/
theorem expand_congr {name : List Char}
    (h : environment (String.ofList name) = other (String.ofList name)) :
    reading.expand environment name = reading.expand other name := by
  rw [expand, expand, h]

/-- One character of a value looks up a variable only if it ends a name behind a dollar sign. -/
theorem readWithin_congr
    (h : ∀ name ∈ reading.lookedUpWithin? c, environment name = other name) :
    reading.readWithin environment c = reading.readWithin other c := by
  unfold readWithin
  split
  · rfl
  · next hescaped =>
    split
    · rfl
    · next hquotes =>
      -- here a variable may be in use, and its name may end
      rw [lookedUpWithin?, if_neg (by simp [hescaped, hquotes])] at h
      split
      · rfl
      · next name huse =>
        rw [huse] at h
        dsimp only at h
        split
        · rfl
        · next hletter =>
          split
          · rfl
          · next hbrace =>
            rw [if_neg (by simp [hletter, hbrace])] at h
            rw [expand_congr (h _ rfl)]
      · next name huse =>
        rw [huse] at h
        dsimp only at h
        split
        · next hbrace =>
          rw [if_pos hbrace] at h
          rw [expand_congr (h _ rfl)]
        · rfl

/-- A character means the same where the variable that it makes the reader look up is the same. -/
theorem next_congr (h : ∀ name ∈ reading.lookedUp? c, environment name = other name) :
    reading.next environment c = reading.next other c := by
  unfold next
  split
  · rfl
  · rfl
  · next hrest =>
    rw [lookedUp?, if_pos hrest] at h
    exact readWithin_congr h

/-- At the end of a line a name may still be open, and is looked up then. -/
theorem finish_congr (h : ∀ name ∈ reading.lookedUpLast?, environment name = other name) :
    reading.finish environment = reading.finish other := by
  unfold finish
  split
  · rfl
  · split
    · rfl
    · next name huse =>
      rw [lookedUpLast?, huse] at h
      rw [expand_congr (h _ rfl)]
    · rfl

/-- The names that are looked up while the characters to come are read. -/
def usedFrom (environment : Environment) (reading : Reading) : List Char → List String
  | [] => reading.lookedUpLast?.toList
  | c :: rest =>
    (reading.lookedUp? c).toList ++
      (reading.next environment c).elim [] fun after => after.usedFrom environment rest

/-- The rest of a line looks up the variables that its characters do, one after the other. Which
these are depends on the environment, since a line that fails is not read on. -/
theorem foldlM_next_congr {cs : List Char}
    (h : ∀ name ∈ reading.usedFrom environment cs, environment name = other name) :
    (cs.foldlM (next environment) reading).bind (finish environment) =
      (cs.foldlM (next other) reading).bind (finish other) := by
  induction cs generalizing reading with
  | nil => exact finish_congr fun name hname => h name (Option.mem_toList.2 hname)
  | cons c rest ih =>
    rw [usedFrom, List.forall_mem_append] at h
    have hnext : reading.next environment c = reading.next other c :=
      next_congr fun name hname => h.1 name (Option.mem_toList.2 hname)
    rw [List.foldlM_cons, List.foldlM_cons, ← hnext]
    cases hafter : reading.next environment c with
    | none => rfl
    | some after =>
      rw [hafter] at h
      exact ih h.2

end Reading

/-- The names that are looked up while a value is read. -/
def usedInValue (environment : Environment) (cs : List Char) : List String :=
  Reading.usedFrom environment { } cs

variable {environment other : Environment}

/-- A value is the same where the variables that it uses are the same. -/
theorem valueOf_congr {cs : List Char}
    (h : ∀ name ∈ usedInValue environment cs, environment name = other name) :
    valueOf environment cs = valueOf other cs :=
  Reading.foldlM_next_congr h

/-! ### Lines -/

/-- The names that are looked up while a line is read: those that its value uses, if there is a
value to take apart. -/
def usedInLine (environment : Environment) (line : List Char) : List String :=
  (cutAssignment? (Text.trimStart (Text.trimEnd line))).elim [] fun assignment =>
    if assignment.2.isEmpty || assignment.2.head? = some '#' then []
    else usedInValue environment assignment.2

/-- **A line** is read alike by environments that agree on what it uses. -/
theorem readLine_congr {line : List Char}
    (h : ∀ name ∈ usedInLine environment line, environment name = other name) :
    readLine environment line = readLine other line := by
  unfold readLine
  dsimp only
  split
  · rfl
  · rw [usedInLine] at h
    cases hcut : cutAssignment? (Text.trimStart (Text.trimEnd line)) with
    | none => rfl
    | some assignment =>
      rw [hcut, Option.elim_some] at h
      dsimp only
      split
      · rfl
      · next htext =>
        rw [if_neg htext] at h
        rw [valueOf_congr h]

/-- The names that are looked up while lines are read. A line that is malformed ends the
reading, and so does a variable that cannot be set. -/
def usedInLines (environment : Environment) : List (List Char) → List String
  | [] => []
  | line :: rest =>
    usedInLine environment line ++
      if readLine environment line = .malformed then []
      else (loadLines environment [line]).toOption.elim [] fun after => usedInLines after rest

/-- The names that are looked up while a file is read. -/
def used (environment : Environment) (content : List UInt8) : List String :=
  usedInLines environment (lines content)

/-! ### Setting variables -/

variable {name value : String} {line : List Char} {rest : List (List Char)}

theorem loadLines_of_blank (h : readLine environment line = .blank) (rest : List (List Char)) :
    loadLines environment (line :: rest) = loadLines environment rest := by
  rw [loadLines, h]

theorem loadLines_of_assignment (h : readLine environment line = .assignment name value)
    (rest : List (List Char)) :
    loadLines environment (line :: rest) =
      assign environment name value >>= fun after => loadLines after rest := by
  rw [loadLines, h]

theorem loadLines_of_malformed (h : readLine environment line = .malformed)
    (rest : List (List Char)) : loadLines environment (line :: rest) = .ok environment := by
  rw [loadLines, h]

/-- Two attempts to load variables fail with the same variable, or give environments that are
alike. -/
def Together (Alike : Environment → Environment → Prop)
    (first second : Except Unsettable Environment) : Prop :=
  (∃ unsettable, first = .error unsettable ∧ second = .error unsettable) ∨
    ∃ a b, first = .ok a ∧ second = .ok b ∧ Alike a b

section Related

variable {Alike : Environment → Environment → Prop}
  (hadd : ∀ {a b : Environment} (name value : String), Alike a b →
    Alike (a.addNew name value) (b.addNew name value))
  (hset : ∀ {a b : Environment} (name : String), Alike a b → (a name = none ↔ b name = none))

include hadd hset

/-- What can be set in one of two environments can be set in the other, as long as they have the
same variables. -/
theorem assign_related (halike : Alike environment other) (name value : String) :
    Together Alike (assign environment name value) (assign other name value) := by
  rw [assign, assign]
  simp only [← hset name halike]
  split
  · exact .inl ⟨_, rfl, rfl⟩
  · exact .inr ⟨_, _, rfl, rfl, hadd name value halike⟩

/-- Environments that are alike in some way stay alike when variables are taken from lines, if they
agree on what the lines use. -/
theorem loadLines_related {lines : List (List Char)} (halike : Alike environment other)
    (hused : ∀ name ∈ usedInLines environment lines, ∀ {a b : Environment}, Alike a b →
      a name = b name) :
    Together Alike (loadLines environment lines) (loadLines other lines) := by
  induction lines generalizing environment other with
  | nil => exact .inr ⟨_, _, rfl, rfl, halike⟩
  | cons line rest ih =>
    rw [usedInLines, List.forall_mem_append] at hused
    have hsame : readLine environment line = readLine other line :=
      readLine_congr fun name hname => hused.1 name hname halike
    have hrest := hused.2
    cases hline : readLine environment line with
    | blank =>
      rw [loadLines_of_blank hline, loadLines_of_blank (hsame ▸ hline)]
      rw [loadLines_of_blank hline, if_neg (by simp [hline])] at hrest
      exact ih halike hrest
    | malformed =>
      rw [loadLines_of_malformed hline, loadLines_of_malformed (hsame ▸ hline)]
      exact .inr ⟨_, _, rfl, rfl, halike⟩
    | assignment name value =>
      rw [loadLines_of_assignment hline, loadLines_of_assignment (hsame ▸ hline)]
      rw [loadLines_of_assignment hline, if_neg (by simp [hline])] at hrest
      rcases assign_related hadd hset halike name value with ⟨unsettable, hfirst, hsecond⟩ |
        ⟨a, b, hfirst, hsecond, hafter⟩
      · rw [hfirst, hsecond]
        exact .inl ⟨unsettable, rfl, rfl⟩
      · rw [hfirst] at hrest ⊢
        rw [hsecond]
        exact ih hafter hrest

end Related

end VariableFile

end FlowScript
