import FlowScript.Proofs.Script.Registry
import Mathlib.Data.List.Induction

/-!
# Registering again

A registry is changed by registering, one key at a time. What a key has in the end was decided by
the last registration for it (`GivenLast`), and the registrations for other keys do not matter
(`get?_emitters_registerAll`). A type asks for two keys, itself and its last segment, so:

* a registration concerns the type that is its key, and the types with the key for their last
  segment that are no keys themselves (`Concerns`); for no other type does anything change
  (`resolve?_register_of_not_concerns`);
* registrations can be put in any other order that keeps the order of those for one key
  (`registerAll_eq_of_filter_eq`).
-/

namespace FlowScript

namespace Registry

open OrderedMap

variable {registry start : Registry} {calls others : List (String × Emitter)}
  {key type : String} {emitter : Emitter}

/-! ### Registrations in a row -/

/-- Registers emitters one after the other. -/
def registerAll (registry : Registry) (calls : List (String × Emitter)) : Registry :=
  calls.foldl (fun registry call => registry.register call.1 call.2) registry

/-- The last call of a sequence is made behind the others. -/
theorem registerAll_append_singleton (registry : Registry) (calls : List (String × Emitter))
    (call : String × Emitter) :
    registry.registerAll (calls ++ [call]) =
      (registry.registerAll calls).register call.1 call.2 := by
  simp [registerAll]

/-- To register is to set one key; the others have what they had. -/
theorem get?_emitters_register (registry : Registry) (key other : String) (emitter : Emitter) :
    (registry.register key emitter).emitters.get? other =
      if other = key then some emitter else registry.emitters.get? other :=
  get?_insert registry.emitters key other emitter

/-- The registrations for a key. -/
def callsFor (key : String) (calls : List (String × Emitter)) : List (String × Emitter) :=
  calls.filter fun call => call.1 = key

/-- A key has the emitter of the last registration for it, or the one that it had before. -/
theorem get?_emitters_registerAll (start : Registry) (calls : List (String × Emitter))
    (key : String) :
    (start.registerAll calls).emitters.get? key =
      ((callsFor key calls).getLast?.map Prod.snd).or (start.emitters.get? key) := by
  induction calls using List.reverseRecOn with
  | nil => rfl
  | append_singleton calls call ih =>
    rw [registerAll_append_singleton, get?_emitters_register, callsFor, List.filter_append]
    by_cases hkey : key = call.1
    · simp [hkey]
    · have hother : [call].filter (fun call => call.1 = key) = [] := by simp [Ne.symm hkey]
      rw [if_neg hkey, hother, List.append_nil, ih, callsFor]

/-- Two sequences of calls that agree on each key make one registry, however the calls for different
keys are interleaved. -/
theorem registerAll_eq_of_filter_eq (h : ∀ key, callsFor key calls = callsFor key others) :
    start.registerAll calls = start.registerAll others := by
  have hemitters : (start.registerAll calls).emitters = (start.registerAll others).emitters := by
    apply eq_of_get?
    intro key
    rw [get?_emitters_registerAll, get?_emitters_registerAll, h]
  exact congrArg Registry.mk hemitters

/-- If no key is registered twice, all orders are alike. -/
theorem registerAll_eq_of_perm (h : calls.Perm others) (hkeys : (calls.map Prod.fst).Nodup) :
    start.registerAll calls = start.registerAll others := by
  apply registerAll_eq_of_filter_eq
  intro key
  have hperm : (callsFor key calls).Perm (callsFor key others) := h.filter _
  have hone : (callsFor key calls).Pairwise fun a b => a.1 ≠ b.1 :=
    (List.pairwise_map.1 hkeys).filter _
  have hkey : ∀ call ∈ callsFor key calls, call.1 = key := by
    intro call hcall
    simpa using (List.mem_filter.1 hcall).2
  -- two registrations would be for one key
  rcases hcalls : callsFor key calls with _ | ⟨first, _ | ⟨second, rest⟩⟩
  · rw [hcalls] at hperm
    exact hperm.nil_eq
  · rw [hcalls] at hperm
    exact List.singleton_perm.1 hperm
  · rw [hcalls] at hone hkey
    refine absurd ?_ ((List.pairwise_cons.1 hone).1 second List.mem_cons_self)
    rw [hkey first List.mem_cons_self, hkey second (List.mem_cons_of_mem _ List.mem_cons_self)]

/-! ### The last registration -/

/-- The emitter that a key was given last. -/
inductive GivenLast (start : Registry) (calls : List (String × Emitter)) (key : String)
    (emitter : Emitter) : Prop where
  /-- by a registration, and none behind it is for the key -/
  | called {before behind : List (String × Emitter)}
    (h : calls = before ++ (key, emitter) :: behind) (hlast : key ∉ behind.map Prod.fst)
  /-- before all of the registrations, of which none is for the key -/
  | kept (h : key ∉ calls.map Prod.fst) (hstart : (key, emitter) ∈ start.emitters.entries)

theorem callsFor_eq_nil_iff : callsFor key calls = [] ↔ key ∉ calls.map Prod.fst := by
  rw [callsFor, List.filter_eq_nil_iff, List.mem_map]
  constructor
  · rintro h ⟨call, hcall, rfl⟩
    exact h call hcall (by simp)
  · intro h call hcall hkey
    exact h ⟨call, hcall, by simpa using hkey⟩

/-- The last call for a key stands somewhere in the sequence, and no later one is for the key. -/
theorem getLast?_callsFor_eq_some {call : String × Emitter}
    (h : (callsFor key calls).getLast? = some call) :
    ∃ before behind, calls = before ++ (key, call.2) :: behind ∧ key ∉ behind.map Prod.fst := by
  obtain ⟨front, hfront⟩ := List.getLast?_eq_some_iff.1 h
  obtain ⟨before, rest, rfl, -, hrest⟩ := List.filter_eq_append_iff.1 hfront
  obtain ⟨between, behind, rfl, -, hcall, hbehind⟩ := List.filter_eq_cons_iff.1 hrest
  obtain rfl : call.1 = key := by simpa using hcall
  exact ⟨before ++ between, behind, by simp, callsFor_eq_nil_iff.1 hbehind⟩

/-- **The last registration counts**: a key has the emitter of its last call, or of the start if
there was no call for it. -/
theorem get?_emitters_registerAll_eq_some_iff :
    (start.registerAll calls).emitters.get? key = some emitter ↔
      start.GivenLast calls key emitter := by
  rw [get?_emitters_registerAll]
  constructor
  · intro h
    cases hlast : (callsFor key calls).getLast? with
    | none =>
      rw [hlast, Option.map_none, Option.none_or] at h
      have hnone : callsFor key calls = [] := List.getLast?_eq_none_iff.1 hlast
      exact .kept (callsFor_eq_nil_iff.1 hnone) (get?_eq_some_iff.1 h)
    | some call =>
      rw [hlast, Option.map_some, Option.some_or] at h
      obtain ⟨before, behind, hcalls, hbehind⟩ := getLast?_callsFor_eq_some hlast
      exact .called (Option.some.inj h ▸ hcalls) hbehind
  · rintro (⟨rfl, hbehind⟩ | ⟨hkey, hstart⟩)
    · have hnone := callsFor_eq_nil_iff.2 hbehind
      rw [callsFor] at hnone
      simp [callsFor, hnone]
    · rw [callsFor_eq_nil_iff.2 hkey, get?_eq_some_iff.2 hstart]
      rfl

theorem mem_keys_registerAll_iff :
    key ∈ (start.registerAll calls).emitters.keys ↔
      ∃ emitter, start.GivenLast calls key emitter := by
  simp only [mem_keys_iff, get?_emitters_registerAll_eq_some_iff]

/-- What serves a type behind a sequence of calls: what was last given for the type itself, or else
for its last segment. -/
theorem serves_registerAll_iff :
    (start.registerAll calls).Serves type emitter ↔
      start.GivenLast calls type emitter ∨
        (∀ other, ¬ start.GivenLast calls type other) ∧
          ∃ segment, IsLastSegment segment type ∧ start.GivenLast calls segment emitter := by
  have hentry (key : String) : (key, emitter) ∈ (start.registerAll calls).emitters.entries ↔
      start.GivenLast calls key emitter := by
    rw [← get?_eq_some_iff, get?_emitters_registerAll_eq_some_iff]
  constructor
  · rintro (h | ⟨hkey, hsegment, h⟩)
    · exact .inl ((hentry type).1 h)
    · rw [mem_keys_registerAll_iff, not_exists] at hkey
      exact .inr ⟨hkey, _, hsegment, (hentry _).1 h⟩
  · rintro (h | ⟨hkey, segment, hsegment, h⟩)
    · exact .byType ((hentry type).2 h)
    · rw [← not_exists, ← mem_keys_registerAll_iff] at hkey
      exact .bySegment hkey hsegment ((hentry segment).2 h)

/-! ### One more registration -/

/-- A registration for a key concerns a type: the type is the key, or has it for its last segment
and is no key itself. -/
def Concerns (registry : Registry) (key type : String) : Prop :=
  type = key ∨ IsLastSegment key type ∧ type ∉ registry.emitters.keys

/-- A call that concerns a type decides what serves it. -/
theorem resolve?_register_of_concerns (h : registry.Concerns key type) (emitter : Emitter) :
    (registry.register key emitter).resolve? type = some emitter := by
  rw [resolve?, get?_emitters_register, get?_emitters_register]
  rcases h with rfl | ⟨hsegment, hkey⟩
  · rw [if_pos rfl, Option.some_or]
  · rw [typeKey_of_isLastSegment hsegment, get?_eq_none_iff.2 hkey, if_pos rfl]
    by_cases htype : type = key
    · rw [if_pos htype, Option.some_or]
    · rw [if_neg htype, Option.none_or]

/-- A call that does not concern a type has no effect on it: the type has a key of its own, or the
key is neither the type nor its last segment. -/
theorem resolve?_register_of_not_concerns (h : ¬ registry.Concerns key type) (emitter : Emitter) :
    (registry.register key emitter).resolve? type = registry.resolve? type := by
  rw [Concerns, not_or, not_and, not_not] at h
  obtain ⟨htype, hsegment⟩ := h
  rw [resolve?, resolve?, get?_emitters_register, get?_emitters_register, if_neg htype]
  by_cases hkey : typeKey type = key
  · -- the segment is not asked for, as the type is a key
    obtain ⟨found, hfound⟩ := mem_keys_iff.1 (hsegment (typeKey_eq_iff.1 hkey))
    rw [hfound, Option.some_or, Option.some_or]
  · rw [if_neg hkey]

/-- Nothing serves a type exactly if no call was for it or its last segment, and the start had
neither. -/
theorem resolve?_registerAll_eq_none_iff :
    (start.registerAll calls).resolve? type = none ↔
      ∀ key emitter, key = type ∨ IsLastSegment key type → ¬ start.GivenLast calls key emitter := by
  rw [resolve?, Option.or_eq_none_iff, get?_eq_none_iff, get?_eq_none_iff, mem_keys_registerAll_iff,
    mem_keys_registerAll_iff, not_exists, not_exists]
  constructor
  · rintro ⟨htype, hsegment⟩ key emitter (rfl | hkey)
    · exact htype emitter
    · exact typeKey_of_isLastSegment hkey ▸ hsegment emitter
  · intro h
    exact ⟨fun emitter => h type emitter (.inl rfl),
      fun emitter => h _ emitter (.inr (isLastSegment_typeKey type))⟩

/-- No last segment has a dot. -/
theorem concerns_iff_of_dot_mem (hdot : '.' ∈ key.toList) :
    registry.Concerns key type ↔ type = key := by
  constructor
  · rintro (htype | ⟨hsegment, -⟩)
    · exact htype
    · exact absurd hdot hsegment.1
  · exact .inl

/-! ### All registrations -/

/-- **The last registration serves.** After any registrations, a type is served by the emitter that
the type itself was given last, or else by the one that its last segment was given last, or by
none. One more registration serves the types that it concerns, and changes nothing for the others;
if its key has a dot, it concerns that one type alone. The order of registrations for different
keys does not matter. -/
theorem last_registration_serves (start : Registry) (calls : List (String × Emitter)) :
    let registry := start.registerAll calls
    (∀ type emitter, registry.resolve? type = some emitter ↔
      start.GivenLast calls type emitter ∨
        (∀ other, ¬ start.GivenLast calls type other) ∧
          ∃ segment, IsLastSegment segment type ∧ start.GivenLast calls segment emitter) ∧
    (∀ type, registry.resolve? type = none ↔
      ∀ key emitter, key = type ∨ IsLastSegment key type → ¬ start.GivenLast calls key emitter) ∧
    (∀ key emitter type,
      (type = key ∨ IsLastSegment key type ∧ type ∉ registry.emitters.keys →
        (registry.register key emitter).resolve? type = some emitter) ∧
      (¬ (type = key ∨ IsLastSegment key type ∧ type ∉ registry.emitters.keys) →
        (registry.register key emitter).resolve? type = registry.resolve? type)) ∧
    (∀ key emitter type, '.' ∈ key.toList → type ≠ key →
      (registry.register key emitter).resolve? type = registry.resolve? type) ∧
    (∀ others, (∀ key, callsFor key others = callsFor key calls) →
      start.registerAll others = registry) ∧
    ∀ others, others.Perm calls → (others.map Prod.fst).Nodup →
      start.registerAll others = registry := by
  intro registry
  refine ⟨fun type emitter => ?_, fun type => resolve?_registerAll_eq_none_iff,
    fun key emitter type => ⟨fun h => resolve?_register_of_concerns h emitter,
      fun h => resolve?_register_of_not_concerns h emitter⟩, fun key emitter type hdot htype => ?_,
    fun others h => registerAll_eq_of_filter_eq h, fun others h => registerAll_eq_of_perm h⟩
  · rw [resolve?_eq_some_iff]
    exact serves_registerAll_iff
  · exact resolve?_register_of_not_concerns (mt (concerns_iff_of_dot_mem hdot).1 htype) emitter

/-- An emitter that leaves a remark. -/
def remark (text : String) : Emitter := fun _ => { lines := ["// " ++ text] }

/-- A dotted key that is registered twice, and between the two the last segment of it. -/
def custom : List (String × Emitter) :=
  [("custom.set", remark "first"), ("set", remark "plain"), ("custom.set", remark "second")]

theorem custom_served :
    (standard.registerAll custom).resolve? "custom.set" = some (remark "second") ∧
    (standard.registerAll custom).resolve? "n8n-nodes-base.set" = some (remark "plain") ∧
    ((standard.registerAll custom).register "n8n-nodes-base.set" (remark "third")).resolve? "set" =
      some (remark "plain") ∧
    ((standard.registerAll custom).register "set" (remark "third")).resolve? "custom.set" =
      some (remark "second") ∧
    standard.registerAll [("set", remark "plain"), ("custom.set", remark "first"),
      ("custom.set", remark "second")] = standard.registerAll custom := by
  obtain ⟨hserved, -, hframe, hdotted, hreordered, -⟩ := last_registration_serves standard custom
  have hcustom : standard.GivenLast custom "custom.set" (remark "second") :=
    .called (show custom = [_, _] ++ [_] from rfl) (by simp)
  have hplain : standard.GivenLast custom "set" (remark "plain") :=
    .called (show custom = [_] ++ [_, _] from rfl) (by simp)
  have hset := (hserved "set" (remark "plain")).2 (.inl hplain)
  have hexact := (hserved "custom.set" (remark "second")).2 (.inl hcustom)
  have hkey : "custom.set" ∈ (standard.registerAll custom).emitters.keys :=
    mem_keys_registerAll_iff.2 ⟨_, hcustom⟩
  have hother : "n8n-nodes-base.set" ∉ (standard.registerAll custom).emitters.keys := by
    decide +kernel
  rw [mem_keys_registerAll_iff, not_exists] at hother
  have hsegment : IsLastSegment "set" "n8n-nodes-base.set" := typeKey_eq_iff.1 (by decide +kernel)
  refine ⟨hexact, (hserved _ _).2 (.inr ⟨hother, _, hsegment, hplain⟩), ?_, ?_, ?_⟩
  · rw [hdotted _ _ _ (by decide) (by decide), hset]
  · rw [(hframe _ _ _).2 (by simp [hkey]), hexact]
  · apply hreordered
    intro key
    by_cases hset : "set" = key
    · subst hset
      rfl
    · simp [callsFor, custom, List.filter_cons, hset]

end Registry

end FlowScript
