import FlowScript.Text.CharClass
import FlowScript.Text.Lines

/-!
# Refactoring rules

A rule replaces whole words. It is triggered by a phrase in the intent, and goes through
each line of the code from left to right: where a word of the rule begins behind no word
character and ends before none, it is replaced. The rule knows nothing of the language;
words inside strings and comments are replaced as well.
-/

namespace FlowScript

/-- A replacement of whole words, and the phrase that asks for it. -/
structure Rule where
  /-- what the rule is called -/
  name : String
  /-- the phrase in the intent that triggers the rule -/
  trigger : String
  /-- the words that are replaced -/
  words : List String
  /-- what they are replaced by -/
  replacement : String

/-- Whether one list stands somewhere inside another. -/
def occursIn (needle : List Char) : List Char → Bool
  | [] => needle.isEmpty
  | c :: rest => needle.isPrefixOf (c :: rest) || occursIn needle rest

namespace Rule

/-- Whether an intent triggers the rule. -/
def triggeredBy (rule : Rule) (intent : String) : Bool :=
  occursIn rule.trigger.toList intent.toList

/-- Whether a word stands at the front of a text and ends there. -/
def wordAt (word rest : List Char) : Bool :=
  word.isPrefixOf rest && !((rest.drop word.length).head?.any Text.isWordChar)

/-- The first of the rule's words that stands at the front of a text and ends there. -/
def match? (rule : Rule) (rest : List Char) : Option (List Char) :=
  (rule.words.map String.toList).find? fun word => wordAt word rest

/-- Applies the rule to the rest of a line, behind a character that is a word character
or not; the first `skip` characters belong to a word that was replaced. -/
def applyFrom (rule : Rule) (skip : Nat) (behindWord : Bool) : List Char → List Char
  | [] => []
  | c :: rest =>
    match skip with
    | more + 1 => rule.applyFrom more (Text.isWordChar c) rest
    | 0 =>
      match if behindWord then none else rule.match? (c :: rest) with
      | some word =>
        rule.replacement.toList ++ rule.applyFrom (word.length - 1) (Text.isWordChar c) rest
      | none => c :: rule.applyFrom 0 (Text.isWordChar c) rest

/-- Applies the rule to a line. -/
def applyLine (rule : Rule) (line : List Char) : List Char := rule.applyFrom 0 false line

/-- Applies the rule to every line of a text. -/
def apply (rule : Rule) (code : String) : String :=
  String.ofList (Text.joinLines ((Text.cutLines code.toList).map rule.applyLine))

end Rule

/-- Constants in place of variables. -/
def preferConst : Rule where
  name := "prefer-const"
  trigger := "use const"
  words := ["let", "var"]
  replacement := "const"

/-- All rules, in the order in which they are applied. -/
def rules : List Rule := [preferConst]

/-- The rules that an intent triggers. -/
def triggeredRules (intent : String) : List Rule := rules.filter fun rule => rule.triggeredBy intent

/-- The code behind all rules that an intent triggers. -/
def applyRules (code intent : String) : String :=
  (triggeredRules intent).foldl (fun code rule => rule.apply code) code

end FlowScript
