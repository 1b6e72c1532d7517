import LeadFlow.Value.Basic

set_option autoImplicit false

/-!
# Value: objects that differ in one text

Two edits of one object, each of which puts a text under a key, count as equal only if they have the
same value under every key.  So it makes no difference which of them is kept.

Main statement: `Edited.get?_eq_of_same`.
-/

namespace LeadFlow

namespace Value

theorem eq_of_str_same {x : String} {w : Value} (h : (str x).same w = true) : w = str x := by
  cases w with
  | str y =>
    rw [same, beq_iff_eq] at h
    rw [h]
  | _ => simp [same] at h

theorem eq_of_same_str {v : Value} {y : String} (h : v.same (str y) = true) : v = str y := by
  cases v with
  | str x =>
    rw [same, beq_iff_eq] at h
    rw [h]
  | _ => simp [same, sameNum, Num.ofValue?] at h

theorem same_of_sameFields {fs gs : Fields} (h : sameFields fs gs = true) {k : String} {v : Value}
    (hv : fs.get? k = some v) : ∃ w, gs.get? k = some w ∧ v.same w = true := by
  induction fs with
  | nil => cases hv
  | cons f rest ih =>
    obtain ⟨k', v'⟩ := f
    rw [sameFields, Bool.and_eq_true] at h
    by_cases hk : k = k'
    · subst hk
      obtain rfl : v' = v := by simpa [Fields.get?] using hv
      obtain ⟨h, -⟩ := h
      split at h
      · rename_i w hw
        exact ⟨w, hw, h⟩
      · cases h
    · refine ih h.2 ?_
      simpa [Fields.get?, List.lookup_cons, beq_false_of_ne hk] using hv

end Value

namespace Fields

theorem length_put (key : String) (v : Value) (fields : Fields) :
    (put key v fields).length = fields.length + if fields.has key then 0 else 1 := by
  induction fields with
  | nil => rfl
  | cons f rest ih =>
    obtain ⟨k, w⟩ := f
    by_cases h : k = key
    · subst h
      simp [put, has, get?]
    · have h' : ¬ key = k := fun e => h e.symm
      have hhas : has ((k, w) :: rest) key = has rest key := by
        simp [has, get?, List.lookup_cons, beq_false_of_ne h']
      rw [put, if_neg h, List.length_cons, ih, hhas, List.length_cons]
      omega

/-- An object, or the object with a text put under a key. -/
inductive Edited (fields : Fields) : Fields → Prop where
  | same : Edited fields fields
  | put (key text : String) : Edited fields (Fields.put key (.str text) fields)

namespace Edited

variable {fields a b : Fields}

/-- What is under a key is the old value or a text. -/
theorem get?_or (h : Edited fields a) (key : String) :
    a.get? key = fields.get? key ∨ ∃ text, a.get? key = some (.str text) := by
  cases h with
  | same => exact .inl rfl
  | put key' text =>
    by_cases hkey : key = key'
    · subst hkey
      exact .inr ⟨text, get?_put_self key _ fields⟩
    · exact .inl (get?_put_of_ne hkey _ fields)

/-- Where there is nothing now, there was nothing before. -/
theorem get?_eq_none (h : Edited fields a) {key : String} (hkey : a.get? key = none) :
    fields.get? key = none := by
  obtain heq | ⟨text, htext⟩ := h.get?_or key
  · rw [← heq, hkey]
  · rw [hkey] at htext
    cases htext

/-- A new key is the one that was put. -/
theorem eq_put_of_new (h : Edited fields a) {key : String} {v : Value} (hnew : fields.get? key = none)
    (hkey : a.get? key = some v) : ∃ text, a = Fields.put key (.str text) fields := by
  cases h with
  | same =>
    rw [hnew] at hkey
    cases hkey
  | put key' text =>
    by_cases hkey' : key = key'
    · subst hkey'
      exact ⟨text, rfl⟩
    · rw [get?_put_of_ne hkey', hnew] at hkey
      cases hkey

/-- An object that is longer has a new key. -/
theorem exists_new_of_length (h : Edited fields a) (hlength : a.length = fields.length + 1) :
    ∃ key v, fields.get? key = none ∧ a.get? key = some v := by
  cases h with
  | same => omega
  | put key text =>
    rw [length_put] at hlength
    refine ⟨key, _, ?_, get?_put_self key _ fields⟩
    cases hkey : fields.get? key with
    | none => rfl
    | some v => simp [has, hkey] at hlength

/-- Edits that count as equal have the same values under all keys. -/
theorem get?_eq_of_same (ha : Edited fields a) (hb : Edited fields b)
    (h : (Value.object a).same (.object b) = true) (key : String) : a.get? key = b.get? key := by
  rw [Value.same, Bool.and_eq_true, beq_iff_eq] at h
  obtain ⟨hlength, hsame⟩ := h
  cases hkey : a.get? key with
  | some v =>
    obtain ⟨w, hw, hvw⟩ := Value.same_of_sameFields hsame hkey
    obtain hold | ⟨x, hx⟩ := ha.get?_or key
    · obtain hold' | ⟨y, hy⟩ := hb.get?_or key
      · rw [hold', ← hold, hkey]
      · obtain rfl : w = .str y := Option.some.inj (hw.symm.trans hy)
        rw [hw, Value.eq_of_same_str hvw]
    · obtain rfl : v = .str x := Option.some.inj (hkey.symm.trans hx)
      rw [hw, Value.eq_of_str_same hvw]
  | none =>
    have hnone := ha.get?_eq_none hkey
    cases hw : b.get? key with
    | none => rfl
    | some w =>
      -- both objects are longer by one key, and the key of the first is not in the second
      obtain ⟨text, rfl⟩ := hb.eq_put_of_new hnone hw
      rw [length_put, has, hnone] at hlength
      obtain ⟨key', v, hnew, hv⟩ := ha.exists_new_of_length hlength
      have hne : key' ≠ key := by
        rintro rfl
        rw [hkey] at hv
        cases hv
      obtain ⟨w', hw', -⟩ := Value.same_of_sameFields hsame hv
      rw [get?_put_of_ne hne, hnew] at hw'
      cases hw'

end Edited

end Fields

end LeadFlow
