import FlowScript.Cli.Command
import FlowScript.Proofs.Json.Record
import Mathlib.Data.List.Forall2

/-!
# How options are spelled

The words behind a command are read one by one, and a value that comes as a word of its own is only
taken into account later. What is accepted can be said without that order of events: the words are
spellings of options one behind the other (`Spelled`), no option occurs twice, and each can take
its value (`Admits`).

One spelling adds its option to those that were found (`readOptions_of_spelling`), and whatever is
read begins with a spelling (`exists_spelling_of_readOptions`), so reading words comes to adding
what they spell (`readOptions_eq_ok_iff`).
-/

namespace FlowScript

namespace Cli

open Json (bind_eq_ok bind_eq_ok_iff error_ne_ok)

/-! ### Options by their names -/

/-- A search finds an element exactly if it is there and passes, provided that no other does. The
order of the elements does not matter then. -/
theorem find?_eq_some_iff_of_unique {α : Type} {p : α → Bool} {options : List α} {option : α}
    (hunique : ∀ a ∈ options, ∀ b ∈ options, p a = true → p b = true → a = b) :
    options.find? p = some option ↔ option ∈ options ∧ p option = true := by
  constructor
  · exact fun h => ⟨List.mem_of_find?_eq_some h, List.find?_some h⟩
  · rintro ⟨hmem, hp⟩
    cases hfound : options.find? p with
    | none => exact absurd hp (by simpa using List.find?_eq_none.1 hfound option hmem)
    | some other =>
      rw [hunique other (List.mem_of_find?_eq_some hfound) option hmem (List.find?_some hfound) hp]

namespace CommandName

variable {command : CommandName} {option : OptionSpec}

/-- No two options of a command have one name. -/
theorem eq_of_long {other : OptionSpec} (hoption : option ∈ command.options)
    (hother : other ∈ command.options) (h : option.long = other.long) : option = other := by
  have hunique : ∀ a ∈ command.options, ∀ b ∈ command.options, a.long = b.long → a = b := by
    cases command <;> decide
  exact hunique option hoption other hother h

/-- So an option is found by its name exactly if the command has it. -/
theorem find?_long {name : String} :
    (command.options.find? fun option => option.long == name) = some option ↔
      option ∈ command.options ∧ option.long = name := by
  rw [find?_eq_some_iff_of_unique fun a ha b hb hlong hname =>
    eq_of_long ha hb ((eq_of_beq hlong).trans (eq_of_beq hname).symm), beq_iff_eq]

/-- An option is found by its letter exactly if the command has it; not all options have letters. -/
theorem find?_letter {c : Char} :
    (command.options.find? fun option => option.letter == some c) = some option ↔
      option ∈ command.options ∧ option.letter = some c := by
  have hunique : ∀ a ∈ command.options, ∀ b ∈ command.options, a.letter.isSome →
      a.letter = b.letter → a = b := by
    cases command <;> decide
  rw [find?_eq_some_iff_of_unique fun a ha b hb hletter hname => ?_, beq_iff_eq]
  rw [beq_iff_eq] at hletter hname
  exact hunique a ha b hb (by rw [hletter]; rfl) (hletter.trans hname.symm)

/-- No flag has a letter but the one that asks for help. -/
theorem takesValue_or_help_of_letter (hoption : option ∈ command.options)
    (hletter : option.letter.isSome) : option.kind.takesValue = true ∨ option.kind = .help := by
  revert option
  cases command <;> decide

theorem kind_of_not_takesValue (hoption : option ∈ command.options)
    (hkind : option.kind.takesValue = false) : option.kind = .flag ∨ option.kind = .help := by
  revert option
  cases command <;> decide

end CommandName

/-! ### Spellings -/

/-- A word announces a value of an option. -/
inductive Opens (option : OptionSpec) : Word → Prop where
  /-- by the name of the option -/
  | long : Opens option (.long option.long none)
  /-- by its letter -/
  | letter {c : Char} (h : option.letter = some c) : Opens option (.letters c [])

/-- A word has an option and its value. -/
inductive Carries (option : OptionSpec) (value : String) : Word → Prop where
  /-- behind the name and an equals sign -/
  | long : Carries option value (.long option.long (some value))
  /-- behind the letter and an equals sign -/
  | equals {c : Char} (h : option.letter = some c) :
    Carries option value (.letters c ('=' :: value.toList))
  /-- directly behind the letter -/
  | joined {c d : Char} {rest : List Char} (h : option.letter = some c)
    (hvalue : value.toList = d :: rest) (hd : d ≠ '=') :
    Carries option value (.letters c value.toList)

/-- Words that give one option of a command with its value, which is empty for a flag. -/
inductive Spelling (command : CommandName) : OptionSpec × String → List Word → Prop where
  /-- the name of a flag -/
  | flag {option : OptionSpec} (hoption : option ∈ command.options) (hkind : option.kind = .flag) :
    Spelling command (option, "") [.long option.long none]
  /-- a word with the value in it -/
  | attached {option : OptionSpec} {value : String} {word : Word}
    (hoption : option ∈ command.options) (hkind : option.kind.takesValue = true)
    (hword : Carries option value word) : Spelling command (option, value) [word]
  /-- a word, and the value as the next one -/
  | separate {option : OptionSpec} {value : String} {word : Word}
    (hoption : option ∈ command.options) (hkind : option.kind.takesValue = true)
    (hword : Opens option word) : Spelling command (option, value) [word, .plain value]

/-- Words give options with their values, in order; two hyphens may stand behind them. -/
def Spelled (command : CommandName) (words : List Word) (given : List (OptionSpec × String)) :
    Prop :=
  ∃ spellings ending, List.Forall₂ (Spelling command) given spellings ∧
    (ending = [] ∨ ending = [.separator]) ∧ words = spellings.flatten ++ ending

/-- Options may be added to those that were found: none of them is there already, none comes twice,
and all can take their values. -/
structure Admits (found given : List (OptionSpec × String)) : Prop where
  /-- they are not there already -/
  fresh : ∀ entry ∈ given, entry.1 ∉ found.map Prod.fst
  /-- none of them comes twice -/
  distinct : (given.map Prod.fst).Nodup
  /-- they can take their values -/
  valid : ∀ entry ∈ given, entry.1.kind.check entry.2 = .ok ()

theorem admits_nil (found : List (OptionSpec × String)) : Admits found [] :=
  ⟨by simp, List.nodup_nil, by simp⟩

/-- Entries are admitted one after the other: each must be new and of its kind, and then it is among
those before the next. -/
theorem admits_cons_iff {found given : List (OptionSpec × String)} {entry : OptionSpec × String} :
    Admits found (entry :: given) ↔
      entry.1 ∉ found.map Prod.fst ∧ entry.1.kind.check entry.2 = .ok () ∧
        Admits (found ++ [entry]) given := by
  constructor
  · rintro ⟨hfresh, hdistinct, hvalid⟩
    obtain ⟨hentry, hfresh⟩ := List.forall_mem_cons.1 hfresh
    obtain ⟨hvalue, hvalid⟩ := List.forall_mem_cons.1 hvalid
    obtain ⟨honce, hdistinct⟩ := List.nodup_cons.1 hdistinct
    refine ⟨hentry, hvalue, fun other hother => ?_, hdistinct, hvalid⟩
    rw [List.map_append, List.mem_append, not_or]
    refine ⟨hfresh other hother, fun hsame => honce ?_⟩
    rw [← List.mem_singleton.1 hsame]
    exact List.mem_map_of_mem hother
  · rintro ⟨hentry, hvalue, hfresh, hdistinct, hvalid⟩
    simp only [List.map_append, List.mem_append, not_or] at hfresh
    refine ⟨List.forall_mem_cons.2 ⟨hentry, fun other hother => (hfresh other hother).1⟩,
      List.nodup_cons.2 ⟨fun hmem => ?_, hdistinct⟩, List.forall_mem_cons.2 ⟨hvalue, hvalid⟩⟩
    obtain ⟨other, hother, hsame⟩ := List.mem_map.1 hmem
    exact (hfresh other hother).2 (List.mem_singleton.2 hsame)

/-! ### One word -/

namespace Progress

variable {command : CommandName} {found : List (OptionSpec × String)} {option : OptionSpec}
  {value : String} {word : Word} {progress next : Progress}

/-- Meets a word that does not end the options. -/
def meet (progress : Progress) : Word → Except UsageError Progress
  | .separator => .error .unknownWord
  | .long name value => progress.meetLong name value
  | .letters first others => progress.meetLetters (first :: others)
  | .plain text => progress.meetPlain text

/-- A word that is not the separator is met where the reading stands, and the rest is read from
there. -/
theorem readOptions_cons (hword : word ≠ .separator) (progress : Progress) (rest : List Word) :
    readOptions progress (word :: rest) = progress.meet word >>= (readOptions · rest) := by
  cases word with
  | separator => exact absurd rfl hword
  | _ => rfl

theorem isSome_value?_iff :
    (progress.value? option).isSome = true ↔ option ∈ progress.found.map Prod.fst := by
  rw [value?, List.lookup_isSome_iff, List.mem_map]
  exact exists_congr fun entry => and_congr_right fun _ => beq_iff_eq.trans eq_comm

/-- An entry is added if it is new and passes the check of its kind, and nothing else changes. -/
theorem add_eq_ok_iff :
    progress.add option value = .ok next ↔
      option ∉ progress.found.map Prod.fst ∧ option.kind.check value = .ok () ∧
        next = { progress with found := progress.found ++ [(option, value)] } := by
  rw [add]
  by_cases h : (progress.value? option).isSome = true
  · rw [if_pos h]
    exact iff_of_false error_ne_ok fun hnew => hnew.1 (isSome_value?_iff.1 h)
  · rw [if_neg h]
    cases hcheck : option.kind.check value with
    | error error => exact iff_of_false error_ne_ok fun hnew => error_ne_ok hnew.2.1
    | ok _ =>
      rw [Except.ok.injEq, eq_comm]
      exact ⟨fun hnext => ⟨mt isSome_value?_iff.2 h, rfl, hnext⟩, fun hnew => hnew.2.2⟩

theorem settle_of_waiting (h : progress.waiting = none) : progress.settle = .ok progress := by
  rw [settle, h]

/-- Nothing waits for a value behind a settlement, and the command is still the same. -/
theorem settled_of_settle (h : progress.settle = .ok next) :
    next.command = progress.command ∧ next.waiting = none := by
  rw [settle] at h
  split at h
  · next hnone =>
    cases h
    exact ⟨rfl, hnone⟩
  · cases h
  · obtain ⟨-, -, rfl⟩ := add_eq_ok_iff.1 h
    exact ⟨rfl, rfl⟩

/-- What is settled stays as it is. -/
theorem settle_of_settle (h : progress.settle = .ok next) : next.settle = .ok next :=
  settle_of_waiting (settled_of_settle h).2

/-- An option that takes a value settles what was before. -/
theorem meetOption_eq_bind (progress : Progress) (option : OptionSpec) (attached : Option String) :
    progress.meetOption option attached = progress.settle >>= (·.meetOption option attached) := by
  rw [meetOption]
  cases h : progress.settle with
  | error error => rfl
  | ok next => rw [Json.ok_bind, Json.ok_bind, meetOption, settle_of_settle h, Json.ok_bind]

/-- A flag settles what waits before it takes effect, so the two can be done apart. -/
theorem meetFlag_eq_bind (progress : Progress) (option : OptionSpec) :
    progress.meetFlag option = progress.settle >>= (·.meetFlag option) := by
  rw [meetFlag]
  cases h : progress.settle with
  | error error => rfl
  | ok next =>
    rw [Json.ok_bind, Json.ok_bind, meetFlag, settle_of_settle h, Json.ok_bind,
      (settled_of_settle h).1]

/-- A word that asks for help ends the reading, and there is no progress behind it. -/
theorem meetFlag_help (hkind : option.kind = .help) : progress.meetFlag option ≠ .ok next := by
  intro h
  rw [meetFlag, hkind] at h
  obtain ⟨settled, -, h⟩ := bind_eq_ok h
  cases h

/-- What a word with an option asks for. -/
inductive Action where
  /-- to meet an option that takes a value, with the value or without -/
  | option (option : OptionSpec) (attached : Option String)
  /-- to meet a flag -/
  | flag (option : OptionSpec)

/-- Does what a word asks for. -/
def perform (progress : Progress) : Action → Except UsageError Progress
  | .option option attached => progress.meetOption option attached
  | .flag option => progress.meetFlag option

/-- What a word asks for behind a command. -/
inductive Means (command : CommandName) (word : Word) : Action → Prop where
  /-- the value of an option is to come -/
  | opens {option : OptionSpec} (hoption : option ∈ command.options)
    (hkind : option.kind.takesValue = true) (hword : Opens option word) :
    Means command word (.option option none)
  /-- an option has its value -/
  | carries {option : OptionSpec} {value : String} (hoption : option ∈ command.options)
    (hkind : option.kind.takesValue = true) (hword : Carries option value word) :
    Means command word (.option option (some value))
  /-- there is a flag -/
  | flag {option : OptionSpec} (hoption : option ∈ command.options) (hkind : option.kind = .flag)
    (hword : word = .long option.long none) : Means command word (.flag option)

/-- What was before is settled first. -/
theorem perform_eq_bind (progress : Progress) (action : Action) :
    progress.perform action = progress.settle >>= (·.perform action) := by
  cases action with
  | option option attached => exact progress.meetOption_eq_bind option attached
  | flag option => exact progress.meetFlag_eq_bind option

/-- A long option that was accepted means one of the actions: it gives a value that was attached,
waits for one, or is a flag. The branches of the reader are gone through once, here. -/
theorem exists_means_of_meetLong {name : String} {attached : Option String}
    (h : progress.meetLong name attached = .ok next) :
    ∃ action, Means progress.command (.long name attached) action ∧
      progress.perform action = .ok next := by
  rw [meetLong] at h
  split at h
  · cases h
  · next option hfound =>
    obtain ⟨hoption, rfl⟩ := CommandName.find?_long.1 hfound
    split at h
    · next hkind =>
      cases attached with
      | none => exact ⟨_, .opens hoption hkind .long, h⟩
      | some value => exact ⟨_, .carries hoption hkind .long, h⟩
    · next hkind =>
      cases attached with
      | some value => cases h
      | none =>
        rcases CommandName.kind_of_not_takesValue hoption (by simpa using hkind) with hflag | hhelp
        · exact ⟨_, .flag hoption hflag rfl, h⟩
        · exact absurd h (meetFlag_help hhelp)

/-- The same for letters. A letter that takes a value takes the rest of the word for it. -/
theorem exists_means_of_meetLetters {c : Char} {rest : List Char}
    (h : progress.meetLetters (c :: rest) = .ok next) :
    ∃ action, Means progress.command (.letters c rest) action ∧
      progress.perform action = .ok next := by
  unfold meetLetters at h
  split at h
  · cases h
  · next option hfound =>
    obtain ⟨hoption, hletter⟩ := CommandName.find?_letter.1 hfound
    split at h
    · next hkind =>
      split at h
      · exact ⟨_, .opens hoption hkind (.letter hletter), h⟩
      · next value =>
        have hword : Carries option (String.ofList value)
            (.letters c ('=' :: (String.ofList value).toList)) := .equals hletter
        rw [String.toList_ofList] at hword
        exact ⟨_, .carries hoption hkind hword, h⟩
      · next value hnil hequals =>
        cases rest with
        | nil => exact absurd rfl hnil
        | cons d rest =>
          have hd : d ≠ '=' := fun hd => hequals rest (hd ▸ rfl)
          have hword : Carries option (String.ofList (d :: rest))
              (.letters c (String.ofList (d :: rest)).toList) :=
            .joined hletter String.toList_ofList hd
          rw [String.toList_ofList] at hword
          exact ⟨_, .carries hoption hkind hword, h⟩
    · next hkind =>
      have hhelp := (CommandName.takesValue_or_help_of_letter hoption
        (by rw [hletter]; rfl)).resolve_left hkind
      split at h
      · cases h
      · next hflag => exact absurd hflag (meetFlag_help hhelp)

/-- A word is met as it means. Together with the two lemmas before, an accepted word is one that
means something. -/
theorem meet_of_means {action : Action} (h : Means progress.command word action) :
    progress.meet word = progress.perform action := by
  cases h with
  | opens hoption hkind hword =>
    cases hword with
    | long => rw [meet, meetLong, CommandName.find?_long.2 ⟨hoption, rfl⟩]; exact if_pos hkind
    | letter hletter =>
      rw [meet, meetLetters, CommandName.find?_letter.2 ⟨hoption, hletter⟩]
      exact if_pos hkind
  | carries hoption hkind hword =>
    cases hword with
    | long => rw [meet, meetLong, CommandName.find?_long.2 ⟨hoption, rfl⟩]; exact if_pos hkind
    | equals hletter =>
      rw [meet, meetLetters, CommandName.find?_letter.2 ⟨hoption, hletter⟩, String.ofList_toList]
      exact if_pos hkind
    | joined hletter hvalue hd =>
      rw [meet, meetLetters, CommandName.find?_letter.2 ⟨hoption, hletter⟩, String.ofList_toList]
      · exact if_pos hkind
      · rw [hvalue]
        exact List.cons_ne_nil _ _
      · rw [hvalue]
        rintro rest ⟨⟩
        exact hd rfl
  | flag hoption hkind hword =>
    rw [hword, meet, meetLong, CommandName.find?_long.2 ⟨hoption, rfl⟩]
    dsimp only
    rw [hkind]
    rfl

/-- **One word.** A word is accepted exactly if it means an action that can be performed. From here
on the branches of the reader are not looked at again. -/
theorem meet_eq_ok_iff (hword : ∀ text, word ≠ .plain text) :
    progress.meet word = .ok next ↔
      ∃ action, Means progress.command word action ∧ progress.perform action = .ok next := by
  constructor
  · intro h
    cases word with
    | separator => cases h
    | long name attached => exact exists_means_of_meetLong h
    | letters first others => exact exists_means_of_meetLetters h
    | plain text => exact absurd rfl (hword text)
  · rintro ⟨action, hmeans, h⟩
    rwa [meet_of_means hmeans]

/-- A word with an option settles what was before it. -/
theorem meet_iff_settle (hword : ∀ text, word ≠ .plain text) :
    progress.meet word = .ok next ↔
      ∃ settled, progress.settle = .ok settled ∧ settled.meet word = .ok next := by
  simp only [meet_eq_ok_iff hword]
  constructor
  · rintro ⟨action, hmeans, h⟩
    rw [perform_eq_bind] at h
    obtain ⟨settled, hsettled, h⟩ := bind_eq_ok h
    rw [← (settled_of_settle hsettled).1] at hmeans
    exact ⟨settled, hsettled, action, hmeans, h⟩
  · rintro ⟨settled, hsettled, action, hmeans, h⟩
    rw [(settled_of_settle hsettled).1] at hmeans
    refine ⟨action, hmeans, ?_⟩
    rwa [perform_eq_bind, hsettled]

end Progress

/-! ### All words -/

section Reading

open Progress

variable {command : CommandName} {found given : List (OptionSpec × String)} {option : OptionSpec}
  {value : String} {words rest : List Word} {result : Progress}

/-- To settle twice is to settle once. -/
theorem settle_eq_ok_iff {progress : Progress} :
    progress.settle = .ok result ↔
      ∃ settled, progress.settle = .ok settled ∧ settled.settle = .ok result := by
  constructor
  · exact fun h => ⟨result, h, settle_of_settle h⟩
  · rintro ⟨settled, hsettled, h⟩
    rwa [settle_of_settle hsettled, ← hsettled] at h

/-- A value that has come can be taken into account at once. -/
theorem readOptions_iff_settle {progress : Progress}
    (hready : ∀ option, progress.waiting ≠ some (option, none)) :
    readOptions progress words = .ok result ↔
      ∃ settled, progress.settle = .ok settled ∧ readOptions settled words = .ok result := by
  cases words with
  | nil => exact settle_eq_ok_iff
  | cons word rest =>
    by_cases hseparator : word = .separator
    · rw [hseparator]
      cases rest with
      | nil => exact settle_eq_ok_iff
      | cons next rest =>
        refine iff_of_false error_ne_ok ?_
        rintro ⟨settled, -, h⟩
        exact error_ne_ok h
    simp only [readOptions_cons hseparator, bind_eq_ok_iff]
    by_cases hplain : ∃ text, word = .plain text
    · obtain ⟨text, rfl⟩ := hplain
      have hnone {progress : Progress} (hready : ∀ option, progress.waiting ≠ some (option, none))
          {next : Progress} : progress.meet (.plain text) ≠ .ok next := by
        rw [meet, meetPlain]
        split
        · next option hwaiting => exact absurd hwaiting (hready option)
        · exact error_ne_ok
      refine iff_of_false (fun h => ?_) fun h => ?_
      · obtain ⟨next, hnext, -⟩ := h
        exact hnone hready hnext
      · obtain ⟨settled, hsettled, next, hnext, -⟩ := h
        exact hnone (by simp [(settled_of_settle hsettled).2]) hnext
    · have hoption : ∀ text, word ≠ .plain text := fun text h => hplain ⟨text, h⟩
      constructor
      · rintro ⟨next, hnext, h⟩
        obtain ⟨settled, hsettled, hnext⟩ := (meet_iff_settle hoption).1 hnext
        exact ⟨settled, hsettled, next, hnext, h⟩
      · rintro ⟨settled, hsettled, next, hnext, h⟩
        exact ⟨next, (meet_iff_settle hoption).2 ⟨settled, hsettled, hnext⟩, h⟩

/-- What is read while a value is waited for begins with the value. -/
theorem exists_plain_of_awaiting
    (h : readOptions { command, found, waiting := some (option, none) } words = .ok result) :
    ∃ value rest, words = .plain value :: rest ∧
      readOptions { command, found, waiting := some (option, some value) } rest = .ok result := by
  have hunsettled {settled : Progress} :
      settle { command, found, waiting := some (option, none) } ≠ .ok settled := error_ne_ok
  cases words with
  | nil => exact absurd h hunsettled
  | cons word rest =>
    by_cases hplain : ∃ text, word = .plain text
    · obtain ⟨value, rfl⟩ := hplain
      exact ⟨value, rest, rfl, h⟩
    have hoption : ∀ text, word ≠ .plain text := fun text h => hplain ⟨text, h⟩
    by_cases hseparator : word = .separator
    · rw [hseparator, readOptions] at h
      split at h
      · exact absurd h hunsettled
      · cases h
    rw [readOptions_cons hseparator] at h
    obtain ⟨next, hnext, -⟩ := bind_eq_ok h
    obtain ⟨settled, hsettled, -⟩ := (meet_iff_settle hoption).1 hnext
    exact absurd hsettled hunsettled

/-- One spelling adds its option to what was found. -/
theorem readOptions_of_spelling {entry : OptionSpec × String} {spelling : List Word}
    (hspelling : Spelling command entry spelling) (rest : List Word) :
    readOptions { command, found } (spelling ++ rest) = .ok result ↔
      ∃ settled, add { command, found } entry.1 entry.2 = .ok settled ∧
        readOptions settled rest = .ok result := by
  have hsettled : settle { command, found } = .ok { command, found } := rfl
  cases hspelling with
  | @flag option hoption hkind =>
    have hmeet : meet { command, found } (.long option.long none) =
        add { command, found } option "" := by
      rw [meet_of_means (.flag hoption hkind rfl), perform, meetFlag, hsettled, hkind]
      rfl
    rw [List.singleton_append, readOptions_cons Word.noConfusion, hmeet, bind_eq_ok_iff]
  | @attached option value word hoption hkind hword =>
    have hmeet : meet { command, found } word = add { command, found } option value := by
      rw [meet_of_means (.carries hoption hkind hword), perform, meetOption, hsettled]
      rfl
    rw [List.singleton_append, readOptions_cons (by rintro rfl; cases hword), hmeet, bind_eq_ok_iff]
  | @separate option value word hoption hkind hword =>
    have hmeet : meet { command, found } word =
        .ok { command, found, waiting := some (option, none) } := by
      rw [meet_of_means (.opens hoption hkind hword), perform, meetOption, hsettled]
      rfl
    have hplain : readOptions { command, found, waiting := some (option, none) }
        (.plain value :: rest) =
          readOptions { command, found, waiting := some (option, some value) } rest := rfl
    rw [List.cons_append, List.singleton_append, readOptions_cons (by rintro rfl; cases hword),
      hmeet, Json.ok_bind, hplain, readOptions_iff_settle (by simp)]
    rfl

/-- Whatever is read begins with a spelling, or else there are only two hyphens. -/
theorem exists_spelling_of_readOptions {word : Word}
    (h : readOptions { command, found } (word :: rest) = .ok result) :
    word = .separator ∧ rest = [] ∨
      ∃ entry spelling behind, Spelling command entry spelling ∧
        word :: rest = spelling ++ behind := by
  by_cases hseparator : word = .separator
  · rw [hseparator, readOptions] at h
    split at h
    · next hempty => exact .inl ⟨hseparator, List.isEmpty_iff.1 hempty⟩
    · cases h
  right
  rw [readOptions_cons hseparator] at h
  obtain ⟨next, hnext, h⟩ := bind_eq_ok h
  have hoption (text : String) : word ≠ .plain text := by
    rintro rfl
    cases hnext
  obtain ⟨action, hmeans, hperform⟩ := (meet_eq_ok_iff hoption).1 hnext
  cases hmeans with
  | opens hmem hkind hword =>
    cases hperform
    obtain ⟨value, behind, rfl, -⟩ := exists_plain_of_awaiting h
    exact ⟨_, _, behind, .separate hmem hkind hword, rfl⟩
  | carries hmem hkind hword => exact ⟨_, _, rest, .attached hmem hkind hword, rfl⟩
  | flag hmem hkind hword =>
    rw [hword]
    exact ⟨_, _, rest, .flag hmem hkind, rfl⟩

/-- A spelling of one more entry in front. -/
theorem spelled_cons {entry : OptionSpec × String} {spelling : List Word}
    (hspelling : Spelling command entry spelling) (h : Spelled command words given) :
    Spelled command (spelling ++ words) (entry :: given) := by
  obtain ⟨spellings, ending, hspellings, hending, rfl⟩ := h
  refine ⟨spelling :: spellings, ending, .cons hspelling hspellings, hending, ?_⟩
  rw [List.flatten_cons, List.append_assoc]

theorem Spelling.length_pos {entry : OptionSpec × String} {spelling : List Word}
    (h : Spelling command entry spelling) : 0 < spelling.length := by
  cases h <;> exact Nat.succ_pos _

/-- **What is read was spelled.** The induction is on the number of words, since an option with its
value behind it takes two of them. -/
theorem exists_spelled_of_readOptions
    (h : readOptions { command, found } words = .ok result) :
    ∃ given, Spelled command words given ∧ Admits found given ∧
      result = { command, found := found ++ given } := by
  -- a spelling can be of two words, so the induction is on the number of words
  induction hlength : words.length using Nat.strongRecOn generalizing words found with
  | ind length ih =>
    subst hlength
    cases words with
    | nil =>
      cases h
      exact ⟨[], ⟨[], [], .nil, .inl rfl, rfl⟩, admits_nil found, by rw [List.append_nil]⟩
    | cons word rest =>
      rcases exists_spelling_of_readOptions h with ⟨rfl, rfl⟩ |
        ⟨entry, spelling, behind, hspelling, hwords⟩
      · cases h
        exact ⟨[], ⟨[], _, .nil, .inr rfl, rfl⟩, admits_nil found, by rw [List.append_nil]⟩
      · rw [hwords] at h ih ⊢
        obtain ⟨settled, hsettled, h⟩ := (readOptions_of_spelling hspelling behind).1 h
        obtain ⟨hfresh, hvalid, rfl⟩ := add_eq_ok_iff.1 hsettled
        have hshorter : behind.length < (spelling ++ behind).length := by
          have hpos := hspelling.length_pos
          rw [List.length_append]
          omega
        obtain ⟨given, hspelled, hadmits, rfl⟩ := ih behind.length hshorter h rfl
        refine ⟨entry :: given, spelled_cons hspelling hspelled,
          admits_cons_iff.2 ⟨hfresh, hvalid, hadmits⟩, ?_⟩
        rw [List.append_assoc, List.singleton_append]

/-- **What is spelled is read**, entry by entry. With the lemma before this gives the
equivalence. -/
theorem readOptions_of_spellings {spellings : List (List Word)} {ending : List Word}
    (hending : ending = [] ∨ ending = [.separator])
    (hspellings : List.Forall₂ (Spelling command) given spellings) (hadmits : Admits found given) :
    readOptions { command, found } (spellings.flatten ++ ending) =
      .ok { command, found := found ++ given } := by
  induction hspellings generalizing found with
  | nil =>
    rw [List.append_nil]
    rcases hending with rfl | rfl
    · rfl
    · rfl
  | @cons entry spelling given spellings hspelling hspellings ih =>
    obtain ⟨hfresh, hvalid, hadmits⟩ := admits_cons_iff.1 hadmits
    have hadd : add { command, found } entry.1 entry.2 =
        .ok { command, found := found ++ [entry] } := add_eq_ok_iff.2 ⟨hfresh, hvalid, rfl⟩
    have hread := ih hadmits
    rw [List.append_assoc, List.singleton_append] at hread
    rw [List.flatten_cons, List.append_assoc]
    exact (readOptions_of_spelling hspelling _).2 ⟨_, hadd, hread⟩

/-- **Options are read as they are spelled**: words are accepted exactly if they spell options that
may be added to those that were found, and these are then added in order. -/
theorem readOptions_eq_ok_iff :
    readOptions { command, found } words = .ok result ↔
      ∃ given, Spelled command words given ∧ Admits found given ∧
        result = { command, found := found ++ given } := by
  refine ⟨exists_spelled_of_readOptions, ?_⟩
  rintro ⟨given, ⟨spellings, ending, hspellings, hending, rfl⟩, hadmits, rfl⟩
  exact readOptions_of_spellings hending hspellings hadmits

end Reading

end Cli

end FlowScript
