import LeadFlow.Decode.Moment
import Mathlib.Data.List.Forall2

set_option autoImplicit false

/-!
# Decode: what decoding comes to

Decoding comes to data, to issues, or to a fault.  Data comes of data only: a record decodes if every
field does.  A fault comes of a fault only, and the first one wins, whatever issues there are beside
it; so a decoder that is put together from decoders without faults has none.
-/

namespace LeadFlow

namespace Decode

variable {α β : Type}

namespace Checked

/-- The fault, if decoding ended in one. -/
def fault? : Checked α → Option Fault
  | fault f => some f
  | _ => none

theorem seq_eq_ok {f : Checked (α → β)} {x : Checked α} {b : β} (h : f <*> x = .ok b) :
    ∃ g a, f = .ok g ∧ x = .ok a ∧ b = g a := by
  change f.seq x = .ok b at h
  cases f <;> cases x <;> cases h
  exact ⟨_, _, rfl, rfl, rfl⟩

theorem map_eq_ok {f : α → β} {x : Checked α} {b : β} (h : x.map f = .ok b) :
    ∃ a, x = .ok a ∧ b = f a := by
  cases x <;> cases h
  exact ⟨_, rfl, rfl⟩

theorem andThen_eq_ok {x : Checked α} {f : α → Checked β} {b : β} (h : x.andThen f = .ok b) :
    ∃ a, x = .ok a ∧ f a = .ok b := by
  cases x with
  | ok a => exact ⟨a, rfl, h⟩
  | issues is => cases h
  | fault e => cases h

@[simp] theorem under_eq_ok {p : Place} {x : Checked α} {a : α} : x.under p = .ok a ↔ x = .ok a := by
  cases x <;> simp [under]

theorem toOutcome_eq_ok {x : Checked α} {describe : List Issue → Fault} {a : α}
    (h : x.toOutcome describe = .ok a) : x = .ok a := by
  cases x <;> cases h
  rfl

@[simp] theorem fault?_pure (a : α) : (pure a : Checked α).fault? = none := rfl

@[simp] theorem fault?_map (f : α → β) (x : Checked α) : (x.map f).fault? = x.fault? := by
  cases x <;> rfl

@[simp] theorem fault?_functorMap (f : α → β) (x : Checked α) : (f <$> x).fault? = x.fault? :=
  fault?_map f x

@[simp] theorem fault?_under (p : Place) (x : Checked α) : (x.under p).fault? = x.fault? := by
  cases x <;> rfl

/-- Of two parts the first that faults says how. -/
@[simp] theorem fault?_seq (f : Checked (α → β)) (x : Checked α) :
    (f <*> x).fault? = f.fault?.or x.fault? := by
  cases f <;> cases x <;> rfl

/-- Decoding ends in data, in the refusal that lists the issues, or in the fault. -/
theorem toOutcome_of_fault? (x : Checked α) (describe : List Issue → Fault) :
    match x.fault? with
    | some f => x.toOutcome describe = .error f
    | none => (∃ a, x.toOutcome describe = .ok a) ∨ ∃ is, x.toOutcome describe = .error (describe is) := by
  cases x with
  | ok a => exact .inl ⟨a, rfl⟩
  | issues is => exact .inr ⟨is, rfl⟩
  | fault f => rfl

end Checked

open Checked

/-! ## Decoders that never fault -/

/-- Whatever the value, decoding it comes to data or issues. -/
def Decoder.Steady (d : Decoder α) : Prop := ∀ v, (d v).fault? = none

theorem any_steady : Decoder.Steady any := fun _ => rfl

theorem text_steady : Decoder.Steady text := by
  intro v
  cases v <;> rfl

theorem Decoder.Steady.map {d : Decoder α} (hd : Steady d) (f : α → β) : Steady fun v => (d v).map f := by
  intro v
  rw [fault?_map, hd v]

theorem Decoder.Steady.optional {d : Decoder α} (hd : Steady d) : Steady (optional d) := by
  intro v
  cases v with
  | null => rfl
  | _ => exact (fault?_map _ _).trans (hd _)

theorem choice_steady (members : List (String × α)) : Decoder.Steady (choice members) := by
  intro v
  unfold choice
  dsimp only
  split <;> rfl

theorem whole_steady : Decoder.Steady whole := by
  intro v
  unfold whole
  repeat' split
  all_goals rfl

theorem number_steady : Decoder.Steady number := by
  intro v
  unfold number
  repeat' split
  all_goals rfl

theorem truth_steady : Decoder.Steady truth := by
  intro v
  unfold truth
  dsimp only
  repeat' split
  all_goals rfl

theorem momentOr_steady (v : Value) (r : Except MomentCause Calendar.Moment) :
    (momentOr v r).fault? = none := by
  cases r <;> rfl

theorem moment_steady : Decoder.Steady moment := by
  intro v
  unfold moment
  split
  · split
    · exact momentOr_steady _ _
    · unfold momentOfCountText
      dsimp only
      split <;> rfl
  · split
    · exact momentOr_steady _ _
    · rfl
  · exact momentOr_steady _ _
  · rfl

/-! ## Fields -/

theorem fault?_required (fs : Fields) (name second : String) {d : Decoder α} (hd : d.Steady) :
    (required fs name second d).fault? = none := by
  unfold required
  split
  · rw [fault?_under, hd]
  · rfl

theorem fault?_defaulted (fs : Fields) (name second : String) (default : α) {d : Decoder α} :
    (defaulted fs name second default d).fault? =
      (fs.first? [name, second]).bind fun f => (d f.2).fault? := by
  unfold defaulted
  split <;> rename_i h
  · rw [h, fault?_under, Option.bind_some]
  · rw [h]
    rfl

theorem fault?_defaulted_of_steady (fs : Fields) (name second : String) (default : α) {d : Decoder α}
    (hd : d.Steady) : (defaulted fs name second default d).fault? = none := by
  rw [fault?_defaulted]
  cases fs.first? [name, second] with
  | none => rfl
  | some f => exact hd f.2

theorem fault?_anyNamed (fs : Fields) (names : List String) (default : α) {d : Decoder α} :
    (anyNamed fs names default d).fault? = (fs.first? names).bind fun f => (d f.2).fault? := by
  unfold anyNamed
  split <;> rename_i h
  · rw [h, fault?_under, Option.bind_some]
  · rw [h]
    rfl

/-- What is no object is refused, which is no fault. -/
theorem fault?_record_andThen (cause : Cause) (v : Value) (f : Fields → Checked α) :
    ((record cause v).andThen f).fault? = v.fields?.bind fun fs => (f fs).fault? := by
  cases v <;> rfl

/-! ## Items -/

/-- The first item whose decoding faults says how. -/
theorem fault?_itemsFrom (d : Decoder α) (i : Nat) (vs : List Value) :
    (itemsFrom d i vs).fault? = vs.findSome? fun v => (d v).fault? := by
  induction vs generalizing i with
  | nil => rfl
  | cons v vs ih =>
    have hseq : (itemsFrom d i (v :: vs)).fault? =
        (((d v).under (.index i)).map List.cons).fault?.or (itemsFrom d (i + 1) vs).fault? :=
      fault?_seq _ _
    rw [hseq, fault?_map, fault?_under, ih, List.findSome?_cons]
    cases (d v).fault? <;> rfl

/-- A list decodes if every item does. -/
theorem forall₂_of_itemsFrom {d : Decoder α} {i : Nat} {vs : List Value} {as : List α}
    (h : itemsFrom d i vs = .ok as) : List.Forall₂ (fun v a => d v = .ok a) vs as := by
  induction vs generalizing i as with
  | nil =>
    cases h
    exact .nil
  | cons v vs ih =>
    obtain ⟨g, rest, hg, hrest, rfl⟩ := seq_eq_ok (f := ((d v).under (.index i)).map List.cons)
      (x := itemsFrom d (i + 1) vs) h
    obtain ⟨a, ha, rfl⟩ := map_eq_ok hg
    exact .cons (under_eq_ok.mp ha) (ih hrest)

theorem itemsFrom_of_forall₂ {d : Decoder α} {vs : List Value} {as : List α}
    (h : List.Forall₂ (fun v a => d v = .ok a) vs as) (i : Nat) : itemsFrom d i vs = .ok as := by
  induction h generalizing i with
  | nil => rfl
  | cons hv _ ih =>
    unfold itemsFrom
    rw [hv, ih]
    rfl

end Decode

end LeadFlow
