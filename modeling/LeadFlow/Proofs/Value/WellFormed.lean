import LeadFlow.Proofs.Value.Edited
import Mathlib.Data.List.Nodup

set_option autoImplicit false

/-!
# Value: objects with distinct keys

Data as it is read from a text has no object with the same key twice.  Of such an object every value is
found under its key, and putting the fields of one into another, under keys that the other does not have,
is the same as adding them at the end.

Main statements: `Value.isWellFormed`, `Fields.foldl_put_of_new`.
-/

namespace LeadFlow

namespace Value

mutual
/-- Every object in the value has distinct keys. -/
def isWellFormed : Value → Bool
  | list xs => areWellFormed xs
  | object fs => decide (fs.map Prod.fst).Nodup && fieldsAreWellFormed fs
  | _ => true

/-- Every object in the items has distinct keys. -/
def areWellFormed : List Value → Bool
  | [] => true
  | x :: xs => x.isWellFormed && areWellFormed xs

/-- Every object in the values of the fields has distinct keys. -/
def fieldsAreWellFormed : List (String × Value) → Bool
  | [] => true
  | (_, v) :: fs => v.isWellFormed && fieldsAreWellFormed fs
end

@[simp] theorem isWellFormed_object (fs : Fields) :
    (object fs).isWellFormed = true ↔ (fs.map Prod.fst).Nodup ∧ fieldsAreWellFormed fs = true := by
  rw [isWellFormed, Bool.and_eq_true, decide_eq_true_iff]

theorem isWellFormed_of_mem {xs : List Value} (h : (list xs).isWellFormed = true) {x : Value}
    (hx : x ∈ xs) : x.isWellFormed = true := by
  rw [isWellFormed] at h
  induction xs with
  | nil => cases hx
  | cons y ys ih =>
    rw [areWellFormed, Bool.and_eq_true] at h
    obtain rfl | hx := List.mem_cons.mp hx
    · exact h.1
    · exact ih h.2 hx

theorem isWellFormed_of_get? {fs : Fields} (h : fieldsAreWellFormed fs = true) {key : String} {v : Value}
    (hv : fs.get? key = some v) : v.isWellFormed = true := by
  induction fs with
  | nil => cases hv
  | cons f rest ih =>
    obtain ⟨k, w⟩ := f
    rw [fieldsAreWellFormed, Bool.and_eq_true] at h
    by_cases hk : key = k
    · subst hk
      obtain rfl : w = v := by simpa [Fields.get?] using hv
      exact h.1
    · refine ih h.2 ?_
      simpa [Fields.get?, List.lookup_cons, beq_false_of_ne hk] using hv

end Value

namespace Fields

theorem first?_eq_some {fields : Fields} {keys : List String} {f : String × Value}
    (h : fields.first? keys = some f) : f.1 ∈ keys ∧ fields.get? f.1 = some f.2 := by
  induction keys with
  | nil => cases h
  | cons k ks ih =>
    rw [first?] at h
    split at h
    · rename_i v hv
      cases h
      exact ⟨List.mem_cons_self, hv⟩
    · exact ⟨List.mem_cons_of_mem _ (ih h).1, (ih h).2⟩

/-- The value under a key is not looked at by those who ask for others. -/
theorem first?_put_of_not_mem {key : String} {keys : List String} (h : key ∉ keys) (v : Value)
    (fields : Fields) : (put key v fields).first? keys = fields.first? keys := by
  induction keys with
  | nil => rfl
  | cons k ks ih =>
    obtain ⟨hk, hks⟩ := not_or.mp (mt List.mem_cons.mpr h)
    rw [first?, first?, get?_put_of_ne (Ne.symm hk), ih hks]

theorem get?_eq_none_iff {fields : Fields} {key : String} :
    fields.get? key = none ↔ key ∉ fields.map Prod.fst := by
  rw [get?, List.lookup_eq_none_iff, List.mem_map]
  simp only [not_exists, not_and, bne_iff_ne]
  exact ⟨fun h f hf hkey => h f hf hkey.symm, fun h f hf hkey => h f hf hkey.symm⟩

/-- What comes behind does not hide what is there. -/
theorem get?_append_of_some {fields more : Fields} {key : String} {v : Value}
    (h : fields.get? key = some v) : Fields.get? (fields ++ more) key = some v := by
  rw [get?] at h
  rw [get?, List.lookup_append, h, Option.some_or]

theorem put_of_new {key : String} (v : Value) {fields : Fields} (h : key ∉ fields.map Prod.fst) :
    put key v fields = fields ++ [(key, v)] := by
  induction fields with
  | nil => rfl
  | cons f rest ih =>
    obtain ⟨k, w⟩ := f
    obtain ⟨hk, hrest⟩ := not_or.mp (mt List.mem_cons.mpr h)
    rw [put, if_neg (Ne.symm hk), ih hrest, List.cons_append]

/-- New fields come last. -/
theorem foldl_put_of_new {extras fields : Fields} (hdistinct : (extras.map Prod.fst).Nodup)
    (hnew : ∀ key ∈ extras.map Prod.fst, key ∉ fields.map Prod.fst) :
    extras.foldl (fun fs (k, v) => put k v fs) fields = fields ++ extras := by
  induction extras generalizing fields with
  | nil => rw [List.foldl_nil, List.append_nil]
  | cons f extras ih =>
    obtain ⟨key, v⟩ := f
    obtain ⟨hkey, hdistinct⟩ := List.nodup_cons.mp hdistinct
    obtain ⟨hfirst, hrest⟩ := List.forall_mem_cons.mp hnew
    rw [List.foldl_cons]
    dsimp only at hfirst ⊢
    rw [put_of_new v hfirst, ih hdistinct, List.append_assoc, List.singleton_append]
    intro k hk hmem
    rw [List.map_append, List.mem_append] at hmem
    obtain hmem | hmem := hmem
    · exact hrest k hk hmem
    · obtain rfl := List.mem_singleton.mp hmem
      exact hkey hk

end Fields

end LeadFlow
