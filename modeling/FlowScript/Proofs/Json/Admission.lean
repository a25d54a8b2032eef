import FlowScript.Json.Schema
import FlowScript.Proofs.Json.Shapes

/-!
# What a schema admits

The meaning of a schema, as a test of values. Each keyword restricts the values of one kind and
lets others pass; annotations restrict nothing. A schema with a reference is the schema to which
it refers, whatever else stands in it.

References are followed by name. A definition may refer to others, so how often a reference may
lead to a further one is a bound on the test (`RootSchema.admitsWithin`), and a value is admitted
when it passes within some bound (`RootSchema.Admits`).
-/

namespace FlowScript

/-- A finite number in multiples of `2 ^ (-1074)`. -/
def Binary64.signedUnits (x : Binary64) : Int :=
  if x.isNegative then -(x.units : Int) else x.units

namespace Json

/-- A number in multiples of `2 ^ (-1074)`. -/
def Number.signedUnits : Number → Int
  | .int i => i.val * (Nat.pow 2 1074 : Nat)
  | .real x => x.val.signedUnits

/-- Whether a value has a type; an integer is also a number. -/
def BasicType.has : BasicType → Value → Bool
  | .null, .null => true
  | .boolean, .bool _ => true
  | .integer, .num (.int _) => true
  | .number, .num _ => true
  | .string, .str _ => true
  | .array, .arr _ => true
  | .object, .obj _ => true
  | _, _ => false

/-- The members of an object. -/
def Value.asObject? : Value → Option Members
  | .obj members => some members
  | _ => none

/-- The number that a value is. -/
def Value.asNumber? : Value → Option Number
  | .num n => some n
  | _ => none

/-- The keys for which a keyword has schemas. -/
def Keyword.propertyNames : Keyword → List String
  | .properties fields => fields.map Prod.fst
  | _ => []

/-- Whether a keyword stands for another schema. -/
def Keyword.isReference : Keyword → Bool
  | .reference _ => true
  | _ => false

mutual

/-- Whether a value meets a keyword that stands among others; `named` tells what the definitions
admit. -/
def Keyword.admits (named : String → Value → Bool) (siblings : List Keyword) :
    Keyword → Value → Bool
  | .title _, _ => true
  | .description _, _ => true
  | .default _, _ => true
  | .format _, _ => true
  | .types allowed, v => allowed.any fun type => type.has v
  | .minimum bound, v => v.asNumber?.all fun n => bound.signedUnits ≤ n.signedUnits
  | .required names, v =>
    v.asObject?.all fun members => names.all fun name => (Members.get? members name).isSome
  | .properties fields, v => v.asObject?.all fun members => fieldsAdmit named fields members
  | .additionalAny, _ => true
  | .additional schema, v =>
    v.asObject?.all fun members => members.all fun member =>
      (siblings.flatMap Keyword.propertyNames).contains member.1 ||
        keywordsAdmit named schema schema member.2
  | .items schema, v =>
    v.asArray?.all fun items => items.all fun item => keywordsAdmit named schema schema item
  | .maxItems count, v => v.asArray?.all fun items => items.length ≤ count.toNat
  | .minItems count, v => v.asArray?.all fun items => count.toNat ≤ items.length
  | .reference definition, v => named definition v

/-- Whether a value meets all keywords of a list that stand among others. Beside a reference no
other keyword counts. -/
def keywordsAdmit (named : String → Value → Bool) (siblings : List Keyword) :
    List Keyword → Value → Bool
  | [], _ => true
  | keyword :: rest, v =>
    (siblings.any Keyword.isReference && !keyword.isReference ||
        keyword.admits named siblings v) &&
      keywordsAdmit named siblings rest v

/-- Whether the members with the given keys are admitted by their schemas. -/
def fieldsAdmit (named : String → Value → Bool) :
    List (String × List Keyword) → Members → Bool
  | [], _ => true
  | (name, schema) :: rest, members =>
    ((Members.get? members name).all fun value => keywordsAdmit named schema schema value) &&
      fieldsAdmit named rest members

end

namespace Schema

/-- Whether a schema admits a value. -/
def admits (schema : Schema) (named : String → Value → Bool) (v : Value) : Bool :=
  keywordsAdmit named schema schema v

end Schema

namespace RootSchema

/-- What a definition admits, when a reference may lead to further ones so many times. -/
def named (root : RootSchema) : Nat → String → Value → Bool
  | 0, _, _ => false
  | depth + 1, name, v =>
    (root.definitions.lookup name).any fun schema => Schema.admits schema (root.named depth) v

/-- Whether a document is admitted within a number of references that lead on. -/
def admitsWithin (root : RootSchema) (depth : Nat) (v : Value) : Bool :=
  Schema.admits root.schema (root.named depth) v

/-- A document is admitted. -/
def Admits (root : RootSchema) (v : Value) : Prop := ∃ depth, root.admitsWithin depth v = true

end RootSchema

/-! ### Schemas of one shape -/

/-- Whether a keyword restricts nothing, wherever it stands. -/
def Keyword.isAnnotation : Keyword → Bool
  | .title _ | .description _ | .default _ | .format _ | .additionalAny => true
  | _ => false

namespace Schema

variable {named : String → Value → Bool}

/-- A keyword sees the others only through the keys that they have schemas for. -/
theorem keyword_admits_congr {siblings others : List Keyword}
    (hnames : siblings.flatMap Keyword.propertyNames = others.flatMap Keyword.propertyNames)
    (keyword : Keyword) (v : Value) :
    keyword.admits named siblings v = keyword.admits named others v := by
  cases keyword with
  | additional schema => rw [Keyword.admits, Keyword.admits, hnames]
  | _ => simp only [Keyword.admits]

/-- An annotation can be taken out of a schema. It restricts nothing itself; it is no reference, so
it does not switch the other keywords off; and it has no schemas for keys, so it does not change
which keys count as additional. -/
theorem admits_annotation {keyword : Keyword} (h : keyword.isAnnotation = true) (schema : Schema) :
    admits (keyword :: schema) named = admits schema named := by
  have hadmits : ∀ siblings v, keyword.admits named siblings v = true := by
    intro siblings v
    cases keyword <;> first | rfl | cases h
  have hreference : keyword.isReference = false := by
    cases keyword <;> first | rfl | cases h
  have hnames : (keyword :: schema).flatMap Keyword.propertyNames =
      schema.flatMap Keyword.propertyNames := by
    cases keyword <;> first | rfl | cases h
  -- below the first keyword the list shrinks while the siblings stay
  have hrest : ∀ (keywords : List Keyword) (v : Value),
      keywordsAdmit named (keyword :: schema) keywords v =
        keywordsAdmit named schema keywords v := by
    intro keywords v
    induction keywords with
    | nil => rfl
    | cons next rest ih =>
      rw [keywordsAdmit, keywordsAdmit, ih, keyword_admits_congr hnames, List.any_cons, hreference,
        Bool.false_or]
  funext v
  rw [admits, keywordsAdmit, hadmits, Bool.or_true, Bool.true_and, hrest, admits]

theorem admits_title (text : String) (schema : Schema) :
    admits (.title text :: schema) named = admits schema named := admits_annotation rfl schema

theorem admits_description (text : String) (schema : Schema) :
    admits (.description text :: schema) named = admits schema named := admits_annotation rfl schema

theorem admits_default (value : Value) (schema : Schema) :
    admits (.default value :: schema) named = admits schema named := admits_annotation rfl schema

/-- A schema that is a reference admits what its definition admits. -/
theorem admits_reference (definition : String) :
    admits [.reference definition] named = named definition := by
  funext v
  change (named definition v && true) = named definition v
  rw [Bool.and_true]

/-- An array of any length, every item of which the schema of items admits. -/
theorem admits_list (item : Schema) :
    admits [.types [.array], .items item] named = Value.isListOf (admits item named) := by
  funext v
  cases v with
  | arr items =>
    change (true && (items.all (admits item named) && true)) = items.all (admits item named)
    rw [Bool.true_and, Bool.and_true]
  | _ => rfl

/-- An object all of whose members count as additional, since no key has a schema of its own. That
makes it a table of values of one shape. -/
theorem admits_table (item : Schema) :
    admits [.types [.object], .additional item] named = Value.isTableOf (admits item named) := by
  funext v
  cases v with
  | obj members =>
    change (true && ((members.all fun member => admits item named member.2) && true)) =
      members.all fun member => admits item named member.2
    rw [Bool.true_and, Bool.and_true]
  | _ => rfl

/-- The members with schemas of their own are looked at one by one; a member that is absent
passes. -/
theorem fieldsAdmit_eq_all (fields : List (String × List Keyword)) (members : Members) :
    fieldsAdmit named fields members = fields.all fun field =>
      (Members.get? members field.1).all (admits field.2 named) := by
  induction fields with
  | nil => rfl
  | cons field rest ih =>
    rw [fieldsAdmit, ih, List.all_cons]
    rfl

/-- An object with some members that must be there, and schemas for some members that need not. All
records of a document have this shape, so their schemas are read off by this one equation. -/
theorem admits_record (names : List String) (fields : List (String × Schema)) (v : Value) :
    admits [.types [.object], .required names, .properties fields] named v =
      v.asObject?.any fun members =>
        (names.all fun name => (Members.get? members name).isSome) &&
          fields.all fun field => (Members.get? members field.1).all (admits field.2 named) := by
  cases v with
  | obj members =>
    rw [Value.asObject?, Option.any_some, ← fieldsAdmit_eq_all]
    change (true && ((names.all fun name => (Members.get? members name).isSome) &&
      (fieldsAdmit named fields members && true))) = _
    rw [Bool.true_and, Bool.and_true]
  | _ => rfl

end Schema

/-! ### References that lead on

A definition that admits more makes every schema that refers to it admit more, so an admission
within some bound stays one within every greater bound. -/

section Mono

variable {named other : String → Value → Bool}

mutual

/-- The more the definitions admit, the more does a keyword. A schema has no negation, so every
keyword is built from what its parts admit by `and` and `all` only. -/
theorem Keyword.admits_mono
    (hnamed : ∀ name v, named name v = true → other name v = true) (siblings : List Keyword) :
    ∀ (keyword : Keyword) (v : Value), keyword.admits named siblings v = true →
      keyword.admits other siblings v = true
  | .title _, _, h => h
  | .description _, _, h => h
  | .default _, _, h => h
  | .format _, _, h => h
  | .types _, _, h => h
  | .minimum _, _, h => h
  | .required _, _, h => h
  | .additionalAny, _, h => h
  | .maxItems _, _, h => h
  | .minItems _, _, h => h
  | .properties fields, v, h => by
    rw [Keyword.admits, Option.all_eq_true] at h ⊢
    exact fun members hmembers => fieldsAdmit_mono hnamed fields members (h members hmembers)
  | .additional schema, v, h => by
    simp only [Keyword.admits, Option.all_eq_true, List.all_eq_true, Bool.or_eq_true] at h ⊢
    intro members hmembers member hmember
    exact (h members hmembers member hmember).imp_right
      (keywordsAdmit_mono hnamed schema schema member.2)
  | .items schema, v, h => by
    simp only [Keyword.admits, Option.all_eq_true, List.all_eq_true] at h ⊢
    intro items hitems item hitem
    exact keywordsAdmit_mono hnamed schema schema item (h items hitems item hitem)
  | .reference definition, v, h => hnamed definition v h

/-- A list of keywords admits more if each of them does; which of them count does not depend on the
definitions. -/
theorem keywordsAdmit_mono
    (hnamed : ∀ name v, named name v = true → other name v = true) (siblings : List Keyword) :
    ∀ (keywords : List Keyword) (v : Value), keywordsAdmit named siblings keywords v = true →
      keywordsAdmit other siblings keywords v = true
  | [], _, _ => rfl
  | keyword :: rest, v, h => by
    simp only [keywordsAdmit, Bool.and_eq_true, Bool.or_eq_true] at h ⊢
    exact ⟨h.1.imp_right (Keyword.admits_mono hnamed siblings keyword v),
      keywordsAdmit_mono hnamed siblings rest v h.2⟩

theorem fieldsAdmit_mono
    (hnamed : ∀ name v, named name v = true → other name v = true) :
    ∀ (fields : List (String × List Keyword)) (members : Members),
      fieldsAdmit named fields members = true → fieldsAdmit other fields members = true
  | [], _, _ => rfl
  | (name, schema) :: rest, members, h => by
    simp only [fieldsAdmit, Bool.and_eq_true, Option.all_eq_true] at h ⊢
    exact ⟨fun value hvalue => keywordsAdmit_mono hnamed schema schema value (h.1 value hvalue),
      fieldsAdmit_mono hnamed rest members h.2⟩

end

end Mono

namespace RootSchema

variable {root : RootSchema}

/-- A definition that admits a value within a number of references admits it within one more. The
induction is on that number, and what the references inside lead to is the same statement with one
reference less. -/
theorem named_succ (depth : Nat) (name : String) (v : Value) (h : root.named depth name v = true) :
    root.named (depth + 1) name v = true := by
  -- without further references nothing is admitted, so there is nothing to keep
  induction depth generalizing name v with
  | zero => exact absurd h Bool.false_ne_true
  | succ depth ih =>
    rw [named, Option.any_eq_true] at h ⊢
    obtain ⟨schema, hfound, hadmits⟩ := h
    exact ⟨schema, hfound, keywordsAdmit_mono ih schema schema v hadmits⟩

/-- So the bound is no restriction in the end: what is admitted within some bound is admitted within
all greater ones. -/
theorem admitsWithin_succ {depth : Nat} {v : Value} (h : root.admitsWithin depth v = true) :
    root.admitsWithin (depth + 1) v = true :=
  keywordsAdmit_mono (named_succ depth) root.schema root.schema v h

/-- The bound may be taken as great as wanted. -/
theorem admits_iff_of_le (least : Nat) {v : Value} :
    root.Admits v ↔ ∃ depth, least ≤ depth ∧ root.admitsWithin depth v = true := by
  constructor
  · rintro ⟨depth, h⟩
    refine ⟨depth + least, Nat.le_add_left .., ?_⟩
    induction least with
    | zero => exact h
    | succ least ih => exact admitsWithin_succ ih
  · rintro ⟨depth, -, h⟩
    exact ⟨depth, h⟩

end RootSchema

end Json

end FlowScript
