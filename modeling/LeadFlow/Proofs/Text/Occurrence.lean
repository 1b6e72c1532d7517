import LeadFlow.Text.Search
import Mathlib

set_option autoImplicit false

/-!
# Text: occurrences

The search for a part of a text finds the first place where it stands.  It says that there is one just if
the part is a stretch of the text, and so what occurs in a text still does when the text gets longer.

Main statements: `cutAt?_append`, `hasPart_iff`.
-/

namespace LeadFlow.Text

theorem after?_eq_some_iff {part cs rest : List Char} :
    after? part cs = some rest ↔ cs = part ++ rest := by
  induction part generalizing cs with
  | nil => simp [after?, eq_comm]
  | cons c part ih =>
    cases cs with
    | nil => simp [after?]
    | cons d cs =>
      by_cases h : c = d
      · simp [after?, h, ih]
      · simp [after?, h, Ne.symm h]

theorem after?_eq_none {part cs : List Char} (h : ¬ part <+: cs) : after? part cs = none := by
  cases hafter : after? part cs with
  | none => rfl
  | some rest => exact absurd ⟨rest, (after?_eq_some_iff.mp hafter).symm⟩ h

theorem cutAt?_eq_none {part cs : List Char} (h : ¬ part <:+: cs) : cutAt? part cs = none := by
  induction cs with
  | nil =>
    rw [cutAt?, after?_eq_none fun hstarts => h hstarts.isInfix]
    rfl
  | cons c cs ih =>
    rw [cutAt?, after?_eq_none fun hstarts => h hstarts.isInfix,
      ih fun hpart => h (List.infix_cons hpart)]
    rfl

/-- The first occurrence is where none starts before. -/
theorem cutAt?_append {part front rest : List Char}
    (h : ∀ tail, tail ≠ [] → tail <:+ front → ¬ part <+: tail ++ (part ++ rest)) :
    cutAt? part (front ++ (part ++ rest)) = some (front, rest) := by
  induction front with
  | nil =>
    have hafter : after? part (part ++ rest) = some rest := after?_append part rest
    rw [List.nil_append]
    cases hcs : part ++ rest with
    | nil =>
      rw [hcs] at hafter
      rw [cutAt?, hafter]
      rfl
    | cons c cs =>
      rw [hcs] at hafter
      rw [cutAt?, hafter]
  | cons c front ih =>
    have hnone := after?_eq_none (h (c :: front) (by simp) List.suffix_rfl)
    have hrest := ih fun tail hne htail => h tail hne (htail.trans (List.suffix_cons c front))
    rw [List.cons_append] at hnone ⊢
    rw [cutAt?, hnone, hrest]
    rfl

/-- What does not hold a character occurs before it or behind it. -/
theorem prefix_of_prefix_append {part front rest : List Char} {c : Char} (hc : c ∉ part)
    (h : part <+: front ++ c :: rest) : part <+: front := by
  induction front generalizing part with
  | nil =>
    obtain rfl | ⟨part, rfl, -⟩ := List.prefix_cons_iff.mp h
    · exact List.nil_prefix
    · exact absurd List.mem_cons_self hc
  | cons d front ih =>
    obtain rfl | ⟨part, rfl, hpart⟩ := List.prefix_cons_iff.mp h
    · exact List.nil_prefix
    · exact (List.prefix_cons_inj d).mpr (ih (fun hmem => hc (List.mem_cons_of_mem d hmem)) hpart)

/-- The search finds a part just if it is a stretch of the text. -/
theorem hasPart_iff {part cs : List Char} : hasPart part cs = true ↔ part <:+: cs := by
  constructor
  · intro h
    by_contra hnot
    rw [hasPart, cutAt?_eq_none hnot] at h
    cases h
  · rintro ⟨front, rest, rfl⟩
    rw [List.append_assoc]
    exact hasPart_append front part rest

theorem contains_iff {text part : String} : contains text part = true ↔ part.toList <:+: text.toList :=
  hasPart_iff

/-- What occurs in a text occurs in every longer one. -/
theorem contains_of_prefix {text longer part : String} (hlonger : text.toList <+: longer.toList)
    (h : contains text part = true) : contains longer part = true := by
  rw [contains_iff] at *
  exact h.trans hlonger.isInfix

end LeadFlow.Text
