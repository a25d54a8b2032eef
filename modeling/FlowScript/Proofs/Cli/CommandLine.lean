import FlowScript.Proofs.Cli.Options
import FlowScript.Proofs.Text.Lines
import Mathlib.Data.List.TakeWhile

/-!
# What a command line says

A command line is accepted exactly if it is the word of a command and spells options behind it, none
of them twice, that make up a command (`parse_eq_ok_iff`). A command that needs a workflow takes it
from the store or from a file. The type of a command admits both and neither; but among the options
of a command line that is accepted there is exactly one source (`exists_parse_iff`), and exactly one
text of it names a source (`givenOnce_of_parse`), however the options are ordered and spelled.
-/

namespace FlowScript

namespace Cli

/-! ### Words in a text -/

namespace Word

theorem ofText_eq_plain {text value : String} (h : ofText text = .plain value) : value = text := by
  rw [ofText] at h
  split at h
  · cases h
  · split at h <;> cases h
  · cases h
  · cases h
    rfl

/-- A long name stands behind two hyphens, with its value behind an equals sign. -/
theorem toList_of_ofText {text name : String} {attached : Option String}
    (h : ofText text = .long name attached) :
    text.toList =
      '-' :: '-' :: (name.toList ++ attached.elim [] fun value => '=' :: value.toList) := by
  rw [ofText] at h
  split at h
  · cases h
  · next rest _ htext =>
    rw [htext]
    split at h
    · next stop value hrest =>
      cases h
      have hstop : stop = '=' := by
        have hfirst := List.head?_dropWhile_not (· != '=') rest
        rw [hrest] at hfirst
        simpa using hfirst
      have hsplit := List.takeWhile_append_dropWhile (p := (· != '=')) (l := rest)
      rw [hrest, hstop] at hsplit
      simp [hsplit]
    · cases h
      simp
  · cases h
  · cases h

/-- Two dashes begin a long option, whose name ends at the first equals sign. The value behind it
may have further ones. -/
theorem ofText_dashes {name : String} (hne : name.toList ≠ []) {attached : Option String}
    (hname : '=' ∉ name.toList) {text : String}
    (htext : text.toList =
      '-' :: '-' :: (name.toList ++ attached.elim [] fun value => '=' :: value.toList)) :
    ofText text = .long name attached := by
  have hgoes : ∀ c ∈ name.toList, (c != '=') = true := by
    rintro c hc
    exact bne_iff_ne.2 fun heq => hname (heq ▸ hc)
  obtain ⟨c, rest, hrest⟩ := List.exists_cons_of_ne_nil hne
  rw [ofText, htext]
  cases attached with
  | none =>
    have hdrop : name.toList.dropWhile (· != '=') = [] := List.dropWhile_eq_nil_iff.2 hgoes
    rw [Option.elim_none, List.append_nil]
    rw [hrest] at hdrop ⊢
    simp only [hdrop]
    rw [← hrest, String.ofList_toList]
  | some value =>
    have htake : (name.toList ++ '=' :: value.toList).takeWhile (· != '=') = name.toList := by
      rw [Text.takeWhile_append_stop (by decide), List.takeWhile_eq_self_iff.2 hgoes]
    have hdrop : (name.toList ++ '=' :: value.toList).dropWhile (· != '=') =
        '=' :: value.toList := by
      rw [Text.dropWhile_append_stop (by decide), List.dropWhile_eq_nil_iff.2 hgoes,
        List.nil_append]
    rw [Option.elim_some]
    rw [hrest, List.cons_append] at htake hdrop ⊢
    simp only [htake, hdrop]
    rw [← hrest, String.ofList_toList, String.ofList_toList]

/-- So a name without an equals sign is written in one way for every value, and in one without a
value. -/
theorem ofText_eq_long_iff {text name : String} {attached : Option String} (hne : name.toList ≠ [])
    (hname : '=' ∉ name.toList) :
    ofText text = .long name attached ↔
      text = "--" ++ name ++ attached.elim "" fun value => "=" ++ value := by
  have hlist : ("--" ++ name ++ attached.elim "" fun value => "=" ++ value).toList =
      '-' :: '-' :: (name.toList ++ attached.elim [] fun value => '=' :: value.toList) := by
    cases attached <;> simp
  rw [← String.toList_inj, hlist]
  exact ⟨toList_of_ofText, ofText_dashes hne hname⟩

end Word

/-! ### Commands in a command line -/

theorem CommandName.ofWord?_eq_some_iff {text : String} {name : CommandName} :
    ofWord? text = some name ↔ text = name.word := by
  constructor
  · intro h
    have hword : (name.word == text) = true :=
      List.find?_some (p := fun name : CommandName => name.word == text) h
    exact (eq_of_beq hword).symm
  · rintro rfl
    cases name <;> decide +kernel

theorem Word.ofText_word (name : CommandName) : ofText name.word = .plain name.word := by
  cases name <;> decide +kernel

/-- A command line is accepted exactly if it is the word of a command and spells options behind it,
none of them twice, that make up a command. -/
theorem parse_eq_ok_iff {words : List String} {command : Command} :
    Command.parse words = .ok command ↔
      ∃ name texts given, words = name.word :: texts ∧
        Spelled name (texts.map Word.ofText) given ∧ Admits [] given ∧
          Progress.finish { command := name, found := given } = .ok command := by
  constructor
  · intro h
    cases words with
    | nil => cases h
    | cons word rest =>
      unfold Command.parse at h
      dsimp only at h
      split at h
      · split at h
        · cases h
        · split at h <;> cases h
      · split at h <;> cases h
      · cases h
      · next text hword =>
        split at h
        · next name hname =>
          obtain ⟨progress, hread, hfinish⟩ := Json.bind_eq_ok h
          obtain ⟨given, hspelled, hadmits, rfl⟩ := readOptions_eq_ok_iff.1 hread
          rw [Word.ofText_eq_plain hword, CommandName.ofWord?_eq_some_iff] at hname
          exact ⟨name, rest, given, by rw [hname], hspelled, hadmits, hfinish⟩
        · cases h
  · rintro ⟨name, texts, given, rfl, hspelled, hadmits, hfinish⟩
    have hread := readOptions_eq_ok_iff.2 ⟨given, hspelled, hadmits, rfl⟩
    unfold Command.parse
    dsimp only
    rw [Word.ofText_word]
    dsimp only
    rw [CommandName.ofWord?_eq_some_iff.2 rfl]
    dsimp only
    rw [hread]
    exact hfinish

/-! ### Sources among words -/

/-- The options that name a source. -/
def sourceOptions : List OptionSpec := [.workflowId, .file]

/-- A word names a source, with a value or without. -/
def Word.NamesSource (word : Word) : Prop :=
  ∃ source ∈ sourceOptions, ∃ attached, word = .long source.long attached

section Sources

variable {name : CommandName} {source : OptionSpec} {value : String}
  {given : List (OptionSpec × String)}

theorem Spelling.mem_options {entry : OptionSpec × String} {spelling : List Word}
    (h : Spelling name entry spelling) : entry.1 ∈ name.options := by
  cases h <;> assumption

/-- A spelling names its own option only. -/
theorem Spelling.long_eq {entry : OptionSpec × String} {spelling : List Word}
    (h : Spelling name entry spelling) {long : String} {attached : Option String}
    (hmem : .long long attached ∈ spelling) : long = entry.1.long := by
  cases h with
  | flag => cases List.mem_singleton.1 hmem; rfl
  | attached _ _ hword =>
    rw [← List.mem_singleton.1 hmem] at hword
    cases hword
    rfl
  | separate _ _ hword =>
    rcases List.mem_cons.1 hmem with hmem | hmem
    · rw [← hmem] at hword
      cases hword
      rfl
    · cases List.mem_singleton.1 hmem

/-- Sources have no letters, and they are no flags. -/
theorem Spelling.of_source {spelling : List Word} (hsource : source ∈ sourceOptions)
    (h : Spelling name (source, value) spelling) :
    spelling = [.long source.long (some value)] ∨
      spelling = [.long source.long none, .plain value] := by
  have hplain : ∀ source ∈ sourceOptions, source.letter = none ∧ source.kind ≠ .flag := by decide
  obtain ⟨hletter, hflag⟩ := hplain source hsource
  cases h with
  | flag _ hkind => exact absurd hkind hflag
  | attached _ _ hword =>
    cases hword with
    | long => exact .inl rfl
    | equals h => rw [hletter] at h; cases h
    | joined h => rw [hletter] at h; cases h
  | separate _ _ hword =>
    cases hword with
    | long => exact .inr rfl
    | letter h => rw [hletter] at h; cases h

/-- Options that are no sources have no word that names one. -/
theorem not_namesSource_of_spellings {spellings : List (List Word)}
    (hname : sourceOptions ⊆ name.options) (h : List.Forall₂ (Spelling name) given spellings)
    (hgiven : ∀ entry ∈ given, entry.1 ∉ sourceOptions) :
    ∀ word ∈ spellings.flatten, ¬ word.NamesSource := by
  rintro _ hword ⟨source, hsource, attached, rfl⟩
  induction h with
  | nil => cases hword
  | @cons entry spelling given spellings hspelling _ ih =>
    obtain ⟨hentry, hgiven⟩ := List.forall_mem_cons.1 hgiven
    rcases List.mem_append.1 hword with hword | hword
    · refine hentry ?_
      rwa [← CommandName.eq_of_long (hname hsource) hspelling.mem_options (hspelling.long_eq hword)]
    · exact ih hgiven hword

/-- A spelling of entries in two parts falls into the spellings of the parts. -/
theorem exists_append_of_forall₂ {α β : Type} {R : α → β → Prop} {front back : List α}
    {bs : List β} (h : List.Forall₂ R (front ++ back) bs) :
    ∃ bsFront bsBack, bs = bsFront ++ bsBack ∧ List.Forall₂ R front bsFront ∧
      List.Forall₂ R back bsBack :=
  ⟨bs.take front.length, bs.drop front.length, (List.take_append_drop _ bs).symm,
    (List.forall₂_take_append bs front back h.flip).flip,
    (List.forall₂_drop_append bs front back h.flip).flip⟩

/-- A source that is given beside options of other kinds is named by one word. -/
theorem exists_word_of_spelled {front back : List (OptionSpec × String)} {words : List Word}
    (hname : sourceOptions ⊆ name.options) (hsource : source ∈ sourceOptions)
    (h : Spelled name words (front ++ (source, value) :: back))
    (hothers : ∀ entry ∈ front ++ back, entry.1 ∉ sourceOptions) :
    ∃ before word behind, words = before ++ word :: behind ∧
      (word = .long source.long (some value) ∨
        word = .long source.long none ∧ behind.head? = some (.plain value)) ∧
      ∀ other ∈ before ++ behind, ¬ other.NamesSource := by
  obtain ⟨spellings, ending, hspellings, hending, rfl⟩ := h
  obtain ⟨spellingsFront, _, rfl, hfront, hrest⟩ := exists_append_of_forall₂ hspellings
  obtain ⟨spelling, spellingsBack, hspelling, hback, rfl⟩ := List.forall₂_cons_left_iff.1 hrest
  rw [List.forall_mem_append] at hothers
  have hbefore := not_namesSource_of_spellings hname hfront hothers.1
  have hbehind : ∀ word ∈ spellingsBack.flatten ++ ending, ¬ word.NamesSource := by
    refine List.forall_mem_append.2 ⟨not_namesSource_of_spellings hname hback hothers.2, ?_⟩
    rintro _ hword ⟨source, -, attached, rfl⟩
    rcases hending with rfl | rfl
    · cases hword
    · cases List.mem_singleton.1 hword
  rw [List.flatten_append, List.flatten_cons, List.append_assoc, List.append_assoc]
  rcases hspelling.of_source hsource with rfl | rfl
  · exact ⟨_, _, _, rfl, .inl rfl, List.forall_mem_append.2 ⟨hbefore, hbehind⟩⟩
  · refine ⟨_, _, _, rfl, .inr ⟨rfl, rfl⟩, List.forall_mem_append.2 ⟨hbefore, ?_⟩⟩
    refine List.forall_mem_cons.2 ⟨?_, hbehind⟩
    rintro ⟨source, -, attached, hplain⟩
    cases hplain

/-! ### Sources in a command line -/

/-- A text names an option, with a value or without. -/
def NamesOption (option : OptionSpec) (text : String) : Prop :=
  text = "--" ++ option.long ∨ ∃ value, text = "--" ++ option.long ++ "=" ++ value

/-- One text has an option with its value, or has its value behind it; and no other text names a
source. -/
def GivenOnce (option : OptionSpec) (value : String) (texts : List String) : Prop :=
  ∃ before text behind, texts = before ++ text :: behind ∧
    (text = "--" ++ option.long ++ "=" ++ value ∨
      text = "--" ++ option.long ∧ behind.head? = some value) ∧
    ∀ other ∈ before ++ behind, ∀ source ∈ sourceOptions, ¬ NamesOption source other

/-- The names of the two sources have no equals sign, so a word that names a source is known by its
text. -/
theorem ofText_eq_source_iff (hsource : source ∈ sourceOptions) {text : String}
    {attached : Option String} :
    Word.ofText text = .long source.long attached ↔
      text = "--" ++ source.long ++ attached.elim "" fun value => "=" ++ value := by
  have hlong : ∀ source ∈ sourceOptions, source.long.toList ≠ [] ∧ '=' ∉ source.long.toList := by
    decide +kernel
  obtain ⟨hne, hequals⟩ := hlong source hsource
  exact Word.ofText_eq_long_iff hne hequals

/-- A word that begins as an option of a source is read as naming a source. -/
theorem namesSource_of_namesOption (hsource : source ∈ sourceOptions) {text : String}
    (h : NamesOption source text) : (Word.ofText text).NamesSource := by
  refine ⟨source, hsource, ?_⟩
  simp only [ofText_eq_source_iff hsource]
  rcases h with rfl | ⟨value, rfl⟩
  · exact ⟨none, String.append_empty.symm⟩
  · exact ⟨some value, String.append_assoc⟩

/-- If one entry of a spelling is a source and no other is, then one of the words gives the source
and no other word names any. The spellings of the entries before it and behind it are searched for
that. -/
theorem givenOnce_of_spelled {front back : List (OptionSpec × String)} {texts : List String}
    (hname : sourceOptions ⊆ name.options) (hsource : source ∈ sourceOptions)
    (h : Spelled name (texts.map Word.ofText) (front ++ (source, value) :: back))
    (hothers : ∀ entry ∈ front ++ back, entry.1 ∉ sourceOptions) :
    GivenOnce source value texts := by
  obtain ⟨_, word, _, hwords, hword, hnone⟩ := exists_word_of_spelled hname hsource h hothers
  obtain ⟨before, _, rfl, rfl, hrest⟩ := List.map_eq_append_iff.1 hwords
  obtain ⟨text, behind, rfl, rfl, rfl⟩ := List.map_eq_cons_iff.1 hrest
  refine ⟨before, text, behind, rfl, ?_, fun other hother option hoption hnames => ?_⟩
  · rw [ofText_eq_source_iff hsource, ofText_eq_source_iff hsource, Option.elim_some,
      Option.elim_none, String.append_empty, ← String.append_assoc, List.head?_map,
      Option.map_eq_some_iff] at hword
    rcases hword with htext | ⟨htext, next, hnext, hplain⟩
    · exact .inl htext
    · exact .inr ⟨htext, by rw [hnext, Word.ofText_eq_plain hplain]⟩
  · rw [← List.map_append] at hnone
    exact hnone _ (List.mem_map_of_mem hother) (namesSource_of_namesOption hoption hnames)

/-! ### Commands that need a source -/

/-- The source of a command that needs a workflow. -/
def Command.source? : Command → Option Source
  | .convert source _ _ => some source
  | .validate source => some source
  | _ => none

/-- Options with at most one value each give a source if they have exactly one of the two. -/
theorem source_eq_ok_iff {progress : Progress} {source : Source} :
    progress.source = .ok source ↔
      (∃ id, progress.value? .workflowId = some id ∧ progress.value? .file = none ∧
        source = { workflowId := some id }) ∨
      ∃ path, progress.value? .file = some path ∧ progress.value? .workflowId = none ∧
        source = { file := some path } := by
  rw [Progress.source]
  cases progress.value? .workflowId with
  | none =>
    cases progress.value? .file with
    | none => simp
    | some path => simp [eq_comm]
  | some id =>
    cases progress.value? .file with
    | none => simp [eq_comm]
    | some path => simp

/-- A command with a source is finished only where the source was found to be one, and only commands
that take sources have one. -/
theorem source_of_finish {progress : Progress} {command : Command} {source : Source}
    (h : progress.finish = .ok command) (hsource : command.source? = some source) :
    progress.source = .ok source ∧ sourceOptions ⊆ progress.command.options := by
  rw [Progress.finish] at h
  split at h
  · next hname =>
    obtain ⟨found, hfound, rfl⟩ := Json.map_eq_ok h
    cases hsource
    exact ⟨hfound, by rw [hname]; decide⟩
  · cases h
    cases hsource
  · cases h
    cases hsource
  · next hname =>
    obtain ⟨found, hfound, rfl⟩ := Json.map_eq_ok h
    cases hsource
    exact ⟨hfound, by rw [hname]; decide⟩
  · cases h
    cases hsource

/-- The source that has a value, where the other has none, is given once. -/
theorem givenOnce_of_value? {other : OptionSpec} {texts : List String}
    (hboth : ∀ option ∈ sourceOptions, option = source ∨ option = other)
    (hsource : source ∈ sourceOptions) (hname : sourceOptions ⊆ name.options)
    (hspelled : Spelled name (texts.map Word.ofText) given) (hadmits : Admits [] given)
    (hvalue : Progress.value? { command := name, found := given } source = some value)
    (hnone : Progress.value? { command := name, found := given } other = none) :
    GivenOnce source value texts := by
  obtain ⟨front, back, rfl, -⟩ := List.lookup_eq_some_iff.1 hvalue
  refine givenOnce_of_spelled hname hsource hspelled fun entry hentry hmem => ?_
  rcases hboth entry.1 hmem with heq | heq
  · -- the options are distinct, so the source is not there a second time
    have hdistinct := hadmits.distinct
    rw [List.map_append, List.map_cons, List.nodup_middle, List.nodup_cons, ← List.map_append]
      at hdistinct
    have hagain := List.mem_map_of_mem (f := Prod.fst) hentry
    rw [heq] at hagain
    exact hdistinct.1 hagain
  · have hentry : entry ∈ front ++ (source, value) :: back := by
      rw [List.mem_append, List.mem_cons]
      exact (List.mem_append.1 hentry).imp_right .inr
    exact absurd heq.symm (by simpa using List.lookup_eq_none_iff.1 hnone entry hentry)

/-- Sources are counted by the two options for them. -/
theorem countP_sourceOptions (given : List (OptionSpec × String)) :
    given.countP (fun entry => entry.1 ∈ sourceOptions) =
      (given.map Prod.fst).count .workflowId + (given.map Prod.fst).count .file := by
  have hone (option : OptionSpec) : (if option ∈ sourceOptions then 1 else 0) =
      (if option = .workflowId then 1 else 0) + if option = .file then 1 else 0 := by
    by_cases hid : option = .workflowId
    · rw [hid]
      decide
    by_cases hfile : option = .file
    · rw [hfile]
      decide
    · simp [sourceOptions, hid, hfile]
  induction given with
  | nil => rfl
  | cons entry given ih =>
    simp only [List.countP_cons, List.map_cons, List.count_cons, ih, decide_eq_true_eq, hone,
      beq_iff_eq]
    omega

/-- Distinct options make up a source exactly if one of them is a source. -/
theorem exists_source_iff (hadmits : Admits [] given) :
    (∃ source, Progress.source { command := name, found := given } = .ok source) ↔
      given.countP (fun entry => entry.1 ∈ sourceOptions) = 1 := by
  have hcount (option : OptionSpec) : (given.map Prod.fst).count option =
      if (Progress.value? { command := name, found := given } option).isSome then 1 else 0 := by
    have hfound : (Progress.value? { command := name, found := given } option).isSome = true ↔
        option ∈ given.map Prod.fst := Progress.isSome_value?_iff
    rw [hadmits.distinct.count]
    exact if_congr hfound.symm rfl rfl
  simp only [source_eq_ok_iff]
  rw [countP_sourceOptions, hcount, hcount]
  cases Progress.value? { command := name, found := given } .workflowId with
  | none => cases Progress.value? { command := name, found := given } .file <;> simp
  | some id => cases Progress.value? { command := name, found := given } .file <;> simp

/-- A command that takes a source is finished exactly if it was given one: neither none nor both. -/
theorem exists_finish_iff (hname : name = .convert ∨ name = .validate) :
    (∃ command, Progress.finish { command := name, found := given } = .ok command) ↔
      ∃ source, Progress.source { command := name, found := given } = .ok source := by
  rcases hname with rfl | rfl
  · rw [Progress.finish]
    cases Progress.source { command := .convert, found := given } <;> simp [Except.map]
  · rw [Progress.finish]
    cases Progress.source { command := .validate, found := given } <;> simp [Except.map]

/-- A command that needs a source is accepted exactly if its options are spelled well, distinct and
valid, and one of them is a source. -/
theorem exists_parse_iff (hname : name = .convert ∨ name = .validate) (texts : List String) :
    (∃ command, Command.parse (name.word :: texts) = .ok command) ↔
      ∃ given, Spelled name (texts.map Word.ofText) given ∧ Admits [] given ∧
        given.countP (fun entry => entry.1 ∈ sourceOptions) = 1 := by
  have hword {other : CommandName} (h : name.word = other.word) : name = other := by
    have hfound := CommandName.ofWord?_eq_some_iff.2 h
    rwa [CommandName.ofWord?_eq_some_iff.2 rfl, Option.some.injEq] at hfound
  simp only [parse_eq_ok_iff]
  constructor
  · rintro ⟨command, other, _, given, hwords, hspelled, hadmits, hfinish⟩
    obtain ⟨hsame, rfl⟩ := List.cons_eq_cons.1 hwords
    obtain rfl := hword hsame
    exact ⟨given, hspelled, hadmits,
      (exists_source_iff hadmits).1 ((exists_finish_iff hname).1 ⟨command, hfinish⟩)⟩
  · rintro ⟨given, hspelled, hadmits, hone⟩
    obtain ⟨command, hfinish⟩ := (exists_finish_iff hname).2 ((exists_source_iff hadmits).2 hone)
    exact ⟨command, name, texts, given, rfl, hspelled, hadmits, hfinish⟩

/-- An accepted command has one source, which its command line gives once. -/
theorem givenOnce_of_parse {words : List String} {command : Command} {source : Source}
    (h : Command.parse words = .ok command) (hsource : command.source? = some source) :
    (∃ id, source = { workflowId := some id } ∧ GivenOnce .workflowId id words.tail) ∨
      ∃ path, source = { file := some path } ∧ GivenOnce .file path words.tail := by
  obtain ⟨name, texts, given, rfl, hspelled, hadmits, hfinish⟩ := parse_eq_ok_iff.1 h
  obtain ⟨hfound, hname⟩ := source_of_finish hfinish hsource
  rcases source_eq_ok_iff.1 hfound with ⟨id, hvalue, hnone, rfl⟩ | ⟨path, hvalue, hnone, rfl⟩
  · exact .inl ⟨id, rfl, givenOnce_of_value? (by decide) (by decide) hname hspelled hadmits hvalue
      hnone⟩
  · exact .inr ⟨path, rfl, givenOnce_of_value? (by decide) (by decide) hname hspelled hadmits hvalue
      hnone⟩

end Sources

end Cli

end FlowScript
