import Missive.Proofs.Eval.Interpreter
import Missive.Proofs.Value.Parts

/-!
# What operators answer with

The tables of the direct interpreter make nothing but numbers, strings and nil.  Any other value
that an operator answers with was there before: `Direct.operator?_ok`.
-/

namespace Missive

/-- A value without parts that stands for itself. -/
inductive Value.Datum : Value → Prop
  | nil : Datum nil
  | integer (value : Int64) : Datum (integer value)
  | float (value : Float) : Datum (float value)
  | string (value : String) : Datum (string value)

lemma Value.Datum.parts_eq_nil {value : Value} (h : value.Datum) : value.parts = [] := by
  cases h <;> rfl

/-- Nothing occurs in a datum but the datum. -/
lemma Value.Datum.everywhere {p : Value → Prop} {value : Value} (h : value.Datum) (hp : p value) :
    value.Everywhere p := by
  refine everywhere_iff.2 ⟨hp, fun part hpart => ?_⟩
  rw [h.parts_eq_nil] at hpart
  cases hpart

namespace Direct

variable {subject object result : Value} {verb : String}

/-- Arithmetic makes numbers and strings. -/
lemma datum_of_arithmetic? (h : arithmetic? subject verb object = some (.ok result)) :
    result.Datum := by
  have hintegers : ∀ {op a}, integers op a object = .ok result → result.Datum := by
    intro op a h
    unfold integers at h
    split at h <;> cases h
    exact .integer _
  have hfloats : ∀ {op a}, floats op a object = .ok result → result.Datum := by
    intro op a h
    unfold floats at h
    split at h <;> cases h
    exact .float _
  have hstrings : ∀ {a}, strings a object = .ok result → result.Datum := by
    intro a h
    unfold strings at h
    split at h <;> cases h
    exact .string _
  unfold arithmetic? at h
  split at h
  · exact hintegers (Option.some.inj h)
  · exact hintegers (Option.some.inj h)
  · exact hintegers (Option.some.inj h)
  · exact hfloats (Option.some.inj h)
  · exact hfloats (Option.some.inj h)
  · exact hfloats (Option.some.inj h)
  · exact hfloats (Option.some.inj h)
  · exact hstrings (Option.some.inj h)
  · cases h

/-- A comparison of two values of one type answers with the first or with nil. -/
lemma datum_of_compared {test : Option Ordering → Bool} (hsubject : subject.Datum)
    (h : compared test subject object = .ok result) : result.Datum := by
  unfold compared at h
  split_ifs at h <;> cases h
  · exact hsubject
  · exact .nil

/-- A comparison of nil answers with nil or one, or else with the operand. -/
lemma comparedNil?_eq_some (h : comparedNil? verb object = some result) :
    result.Datum ∨ verb = "!=" ∧ result = object := by
  unfold comparedNil? at h
  split at h <;> cases h
  · exact .inl .nil
  · exact .inl .nil
  · exact .inl .nil
  · exact .inl .nil
  · split_ifs
    · exact .inl (.integer 1)
    · exact .inl .nil
  · split_ifs
    · exact .inl .nil
    · exact .inr ⟨rfl, rfl⟩

lemma comparison?_ok (h : comparison? subject verb object = some (.ok result)) :
    result.Datum ∨ subject = .nil ∧ verb = "!=" ∧ result = object := by
  unfold comparison? at h
  split at h
  · obtain ⟨value, hvalue, hresult⟩ := Option.map_eq_some_iff.1 h
    obtain rfl := Except.ok.inj hresult
    exact (comparedNil?_eq_some hvalue).imp_right fun hobject => ⟨rfl, hobject⟩
  · obtain ⟨test, -, hresult⟩ := Option.map_eq_some_iff.1 h
    exact .inl (datum_of_compared (.integer _) hresult)
  · obtain ⟨test, -, hresult⟩ := Option.map_eq_some_iff.1 h
    exact .inl (datum_of_compared (.float _) hresult)
  · obtain ⟨test, -, hresult⟩ := Option.map_eq_some_iff.1 h
    exact .inl (datum_of_compared (.string _) hresult)
  · cases h

/-- A map gives out its values. -/
lemma access?_ok (h : access? subject verb object = some (.ok result)) :
    result.Datum ∨
      ∃ entries key, subject = .map entries ∧ verb = "." ∧ object = .string key ∧
        result ∈ subject.parts := by
  unfold access? at h
  split at h <;> cases h
  rename_i entries key
  cases hlookup : entries.lookup key with
  | none => exact .inl .nil
  | some value =>
      obtain ⟨before, after, rfl, -⟩ := List.lookup_eq_some_iff.1 hlookup
      exact .inr ⟨_, key, rfl, rfl, rfl, by simp⟩

/-- **Nothing but numbers, strings and nil is made.**  Otherwise the answer of an operator is the
operand, or a value of the map that is the subject. -/
theorem operator?_ok (h : operator? subject verb object = some (.ok result)) :
    result.Datum ∨ (subject = .nil ∧ verb = "!=" ∧ result = object) ∨
      ∃ entries key, subject = .map entries ∧ verb = "." ∧ object = .string key ∧
        result ∈ subject.parts := by
  rw [operator?, Option.or_eq_some_iff, Option.or_eq_some_iff] at h
  rcases h with h | ⟨-, h | ⟨-, h⟩⟩
  · exact .inl (datum_of_arithmetic? h)
  · exact (comparison?_ok h).imp_right .inl
  · exact (access?_ok h).imp_right .inr

end Direct

end Missive
