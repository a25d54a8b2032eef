import FlowScript.Proofs.OrderedMap
import FlowScript.Proofs.Text.Lines
import FlowScript.Script.Emission
import Mathlib.Data.List.TakeWhile

/-!
# The standard registry

A registry serves a type by the emitter of the type itself, or else of its last segment
(`resolve?_eq_some_iff`). The standard registry looks both up in a map that is filled kind by
kind. What it finds is the emitter of the type's kind (`resolve?_standard`): a type that is a key
is its own last segment.

So the code of a node is made by its kind (`emit_standard`), from nothing but its name, type
and parameters (`emit_standard_congr`).
-/

namespace FlowScript

/-! ### Segments -/

/-- A text is the last segment of a dotted one: what stands behind the last dot, or all of it. -/
def IsLastSegment (segment type : String) : Prop :=
  '.' ∉ segment.toList ∧ (type = segment ∨ ∃ front, type = front ++ "." ++ segment)

/-- A last segment has no dot in it and nothing behind it, so it is what is read from the end up to
a dot. -/
theorem typeKey_of_isLastSegment {segment type : String} (h : IsLastSegment segment type) :
    typeKey type = segment := by
  obtain ⟨hdots, htype⟩ := h
  have hgoes : segment.toList.reverse.takeWhile (· != '.') = segment.toList.reverse := by
    refine List.takeWhile_eq_self_iff.2 fun c hc => bne_iff_ne.2 ?_
    rintro rfl
    exact hdots (List.mem_reverse.1 hc)
  have htake : type.toList.reverse.takeWhile (· != '.') = segment.toList.reverse := by
    rcases htype with rfl | ⟨front, rfl⟩
    · exact hgoes
    · have hreverse : (front ++ "." ++ segment).toList.reverse =
          segment.toList.reverse ++ '.' :: front.toList.reverse := by
        simp [String.toList_append]
      rw [hreverse, Text.takeWhile_append_stop (by decide), hgoes]
  rw [typeKey, lastSegment, htake, List.reverse_reverse, String.ofList_toList]

/-- What is read from the end up to a dot is a last segment. -/
theorem isLastSegment_typeKey (type : String) : IsLastSegment (typeKey type) type := by
  have hsplit := congrArg List.reverse
    (List.takeWhile_append_dropWhile (p := (· != '.')) (l := type.toList.reverse))
  rw [List.reverse_append, List.reverse_reverse] at hsplit
  constructor
  · rw [typeKey, String.toList_ofList, lastSegment, List.mem_reverse]
    exact fun hmem => absurd (List.mem_takeWhile_imp hmem) (by decide)
  · cases hrest : type.toList.reverse.dropWhile (· != '.') with
    | nil =>
      left
      rw [hrest, List.reverse_nil, List.nil_append] at hsplit
      rw [typeKey, lastSegment, hsplit, String.ofList_toList]
    | cons c rest =>
      right
      -- what is left begins where taking stopped
      have hdot : c = '.' := by
        have hstop := List.head?_dropWhile_not (· != '.') type.toList.reverse
        rw [hrest] at hstop
        simpa using hstop
      refine ⟨String.ofList rest.reverse, ?_⟩
      rw [hrest, hdot, List.reverse_cons] at hsplit
      rw [← String.toList_inj, ← hsplit, typeKey, lastSegment]
      simp [String.toList_append]

/-- So a type has exactly one last segment. -/
theorem typeKey_eq_iff {segment type : String} :
    typeKey type = segment ↔ IsLastSegment segment type :=
  ⟨fun h => h ▸ isLastSegment_typeKey type, typeKey_of_isLastSegment⟩

/-! ### Keys -/

namespace Kind

/-- Kinds have different keys, and a key is the key of one kind at most. -/
theorem ofKey?_eq_some_iff {key : String} {kind : Kind} :
    ofKey? key = some kind ↔ key = kind.key := by
  constructor
  · intro h
    have hkey : (kind.key == key) = true :=
      List.find?_some (p := fun kind : Kind => kind.key == key) h
    exact (eq_of_beq hkey).symm
  · rintro rfl
    cases kind <;> decide +kernel

/-- A key has no dots. -/
theorem typeKey_key (kind : Kind) : typeKey kind.key = kind.key := by
  cases kind <;> decide +kernel

theorem ofType?_key (kind : Kind) : ofType? kind.key = some kind := by
  rw [ofType?, typeKey_key, ofKey?_eq_some_iff]

/-- A type is of a kind exactly if the kind's key is its last segment, whatever stands before. -/
theorem ofType?_eq_some_iff {type : String} {kind : Kind} :
    ofType? type = some kind ↔ IsLastSegment kind.key type := by
  rw [ofType?, ofKey?_eq_some_iff, typeKey_eq_iff]

end Kind

/-! ### Emitters -/

/-- Code is made of names and parameters. Positions, versions and the rest are not looked at. -/
theorem Kind.emitter_congr (kind : Kind) {node other : Node} (hname : node.name = other.name)
    (hparameters : node.parameters = other.parameters) :
    kind.emitter node = kind.emitter other := by
  cases kind with
  | httpRequest =>
    simp [emitter, emitRequest, Node.requestMethod, Node.requestUrl, Node.stringParameter?, hname,
      hparameters]
  | set => simp [emitter, emitSet, Node.namedValues, hparameters]
  | function => simp [emitter, emitFunction, Node.stringParameter?, hparameters]

/-- A node whose code is different for every kind. -/
def probe : Node where
  name := ""
  type := ""
  parameters := [("functionCode", .str "return;")]

/-- The kind that the code of the probe tells. -/
def kindOfProbe (emission : Emission) : Kind :=
  if emission.bindings ≠ [] then .httpRequest else if emission.lines = [] then .set else .function

/-- Different kinds have different emitters. -/
theorem Kind.emitter_injective {kind other : Kind} (h : kind.emitter = other.emitter) :
    kind = other := by
  have htold (kind : Kind) : kindOfProbe (kind.emitter probe) = kind := by
    cases kind <;> decide +kernel
  rw [← htold kind, h, htold]

namespace Registry

open OrderedMap

/-- An emitter serves a type: it is registered for the type, or for its last segment if none is for
the type. -/
inductive Serves (registry : Registry) (type : String) (emitter : Emitter) : Prop where
  | byType (h : (type, emitter) ∈ registry.emitters.entries)
  | bySegment {segment : String} (hkey : type ∉ registry.emitters.keys)
      (hsegment : IsLastSegment segment type) (h : (segment, emitter) ∈ registry.emitters.entries)

/-- The emitter of a type is the one that serves it: its own, or else that of its last segment. -/
theorem resolve?_eq_some_iff {registry : Registry} {type : String} {emitter : Emitter} :
    registry.resolve? type = some emitter ↔ registry.Serves type emitter := by
  rw [resolve?]
  constructor
  · intro h
    cases hfound : registry.emitters.get? type with
    | some found =>
      rw [hfound, Option.some_or] at h
      exact .byType (get?_eq_some_iff.1 (hfound.trans h))
    | none =>
      rw [hfound, Option.none_or] at h
      exact .bySegment (get?_eq_none_iff.1 hfound) (isLastSegment_typeKey type)
        (get?_eq_some_iff.1 h)
  · rintro (h | ⟨hkey, hsegment, h⟩)
    · rw [get?_eq_some_iff.2 h, Option.some_or]
    · rw [get?_eq_none_iff.2 hkey, Option.none_or, typeKey_of_isLastSegment hsegment,
        get?_eq_some_iff.2 h]

/-- The standard registry has the keys of the kinds, each with its emitter, and no others. -/
theorem get?_standard (key : String) :
    standard.emitters.get? key = (Kind.ofKey? key).map Kind.emitter := by
  have hinserted : standard.emitters.get? key =
      if key = Kind.function.key then some Kind.function.emitter
      else if key = Kind.set.key then some Kind.set.emitter
      else if key = Kind.httpRequest.key then some Kind.httpRequest.emitter
      else none := by
    -- the last kind to be registered is asked first
    simp only [standard, Kind.all, List.foldl_cons, List.foldl_nil, register, get?_insert]
    rfl
  rw [hinserted]
  cases h : Kind.ofKey? key with
  | some kind =>
    rw [Kind.ofKey?_eq_some_iff.1 h]
    cases kind <;> rfl
  | none =>
    have hkey (kind : Kind) : key ≠ kind.key := fun heq => by
      rw [Kind.ofKey?_eq_some_iff.2 heq] at h
      cases h
    rw [if_neg (hkey _), if_neg (hkey _), if_neg (hkey _), Option.map_none]

/-- A type is served by the emitter of its kind. -/
theorem resolve?_standard (type : String) :
    standard.resolve? type = (Kind.ofType? type).map Kind.emitter := by
  rw [resolve?, get?_standard, get?_standard]
  cases h : Kind.ofKey? type with
  | some kind =>
    -- found by the whole type, which has then no dots
    rw [Kind.ofKey?_eq_some_iff.1 h, Kind.ofType?_key]
    rfl
  | none => rfl

/-- No key of a kind has a dot, so in the standard registry the last segment of a type decides. -/
theorem resolve?_standard_eq_some_iff {type : String} {kind : Kind} :
    standard.resolve? type = some kind.emitter ↔ Kind.ofType? type = some kind := by
  rw [resolve?_standard, Option.map_eq_some_iff]
  constructor
  · rintro ⟨other, hother, hsame⟩
    rw [hother, Kind.emitter_injective hsame]
  · exact fun h => ⟨kind, h, rfl⟩

/-- **Code by kind.** A node of a kind has the code of the kind, and others have a comment. The
registry does not appear in this any more. -/
theorem emit_standard (node : Node) :
    standard.emit node = (node.kind?.map Kind.emitter).getD emitUnhandled node := by
  rw [emit, resolve?_standard, Node.kind?]
  cases Kind.ofType? node.type <;> rfl

theorem emit_of_kind {node : Node} {kind : Kind} (h : node.kind? = some kind) :
    standard.emit node = kind.emitter node := by
  rw [emit_standard, h]
  rfl

/-- The code of a node is made from its name, its type and its parameters. -/
theorem emit_standard_congr {node other : Node} (hname : node.name = other.name)
    (htype : node.type = other.type) (hparameters : node.parameters = other.parameters) :
    standard.emit node = standard.emit other := by
  rw [emit_standard, emit_standard, Node.kind?, Node.kind?, htype]
  cases Kind.ofType? other.type with
  | some kind => exact kind.emitter_congr hname hparameters
  | none => simp [emitUnhandled, htype]

end Registry

end FlowScript
