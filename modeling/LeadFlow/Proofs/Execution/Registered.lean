import LeadFlow.Execution.Registry
import Mathlib.Data.List.Basic

set_option autoImplicit false

/-!
# Execution: after registrations

A registry is asked for handlers in two ways: by looking up an action type, which may be missing, and by
sending an action step to its handler.  Both read the table of registrations, in which the last handler
registered for a type is found.  They part where the table has nothing to say.  A lookup without a type falls
back on the handler that was the generic one when the registry was made, a step without a type goes to the one
that is the generic one now, and a type that nobody registered falls back on the old one in both ways.

Main statements: `lookup_registerAll` for the table, `agrees_iff` for when both ways come to the handler that is
due.
-/

namespace LeadFlow.Execution

/-- An action type and the handler it is to have. -/
abbrev Registration := String × Handler

namespace Registry

/-- Registers handlers one after the other. -/
def registerAll (r : Registry) (rs : List Registration) : Registry :=
  rs.foldl (fun r p => r.register p.1 p.2) r

/-- All registrations up to now: those of the built-in handlers, then others. -/
def history (rs : List Registration) : List Registration := (Handler.builtIn.map fun h => (h.type, h)) ++ rs

/-- The handler is the last one that has been registered for the type. -/
def Latest (rs : List Registration) (type : String) (h : Handler) : Prop :=
  ∃ before after, rs = before ++ (type, h) :: after ∧ ∀ p ∈ after, p.1 ≠ type

/-! ## The table -/

section Table

variable {rs : List Registration} {type : String} {h g : Handler}

/-- The registration found from the end is the latest one. -/
theorem lookup_reverse_eq_some_iff : rs.reverse.lookup type = some h ↔ Latest rs type h := by
  rw [List.lookup_eq_some_iff]
  constructor
  · rintro ⟨after, before, hsplit, hafter⟩
    refine ⟨before.reverse, after.reverse, ?_, fun p hp => ?_⟩
    · rw [← List.reverse_reverse rs, hsplit]
      simp
    · have hne := hafter p (List.mem_reverse.mp hp)
      exact Ne.symm (bne_iff_ne.mp hne)
  · rintro ⟨before, after, rfl, hafter⟩
    refine ⟨after.reverse, before.reverse, by simp, fun p hp => ?_⟩
    exact bne_iff_ne.mpr (Ne.symm (hafter p (List.mem_reverse.mp hp)))

theorem lookup_reverse_eq_none_iff : rs.reverse.lookup type = none ↔ ∀ h, ¬ Latest rs type h := by
  rw [Option.eq_none_iff_forall_ne_some]
  exact forall_congr' fun _ => not_congr lookup_reverse_eq_some_iff

/-- A type has one latest handler at most. -/
theorem Latest.unique (hh : Latest rs type h) (hg : Latest rs type g) : h = g :=
  Option.some.inj ((lookup_reverse_eq_some_iff.mpr hh).symm.trans (lookup_reverse_eq_some_iff.mpr hg))

theorem lookup_registration (p : Registration) (hs : List Registration) (type : String) :
    List.lookup type (p :: hs) = if type = p.1 then some p.2 else hs.lookup type := by
  by_cases htype : type = p.1
  · rw [List.lookup_cons, if_pos htype, beq_iff_eq.mpr htype]
  · rw [List.lookup_cons, if_neg htype, beq_eq_false_iff_ne.mpr htype]

/-- A handler takes the place of the one that its type had, and no other. -/
theorem lookup_put (type : String) (h : Handler) (hs : List Registration) (u : String) :
    (put type h hs).lookup u = if u = type then some h else hs.lookup u := by
  induction hs with
  | nil => exact lookup_registration (type, h) [] u
  | cons p rest ih =>
    obtain ⟨t, g⟩ := p
    rw [put, lookup_registration (t, g) rest]
    by_cases ht : t = type
    · rw [if_pos ht, lookup_registration, ht]
      by_cases hu : u = type <;> simp [hu]
    · rw [if_neg ht, lookup_registration, ih]
      by_cases hu : u = t
      · simp [hu, ht]
      · simp [hu]

/-- After registrations a type has its latest handler, or the one it had before. -/
theorem lookup_registerAll (r : Registry) (rs : List Registration) (type : String) :
    (r.registerAll rs).handlers.lookup type = (rs.reverse.lookup type).or (r.handlers.lookup type) := by
  induction rs generalizing r with
  | nil => rfl
  | cons p rs ih =>
    have hrest : (r.registerAll (p :: rs)).handlers.lookup type =
        (rs.reverse.lookup type).or ((put p.1 p.2 r.handlers).lookup type) := ih (r.register p.1 p.2)
    rw [hrest, lookup_put, List.reverse_cons, List.lookup_append, Option.or_assoc, lookup_registration]
    by_cases htype : type = p.1 <;> simp [htype]

/-- Registrations leave alone what a registry falls back on. -/
theorem fallback_registerAll (r : Registry) (rs : List Registration) :
    (r.registerAll rs).fallback = r.fallback := by
  induction rs generalizing r with
  | nil => rfl
  | cons p rs ih => exact ih (r.register p.1 p.2)

/-- The registry of built-in handlers has come about by registering them. -/
theorem builtIn_eq_registerAll : builtIn = registerAll ⟨[], .generic⟩ (history []) := rfl

theorem registerAll_builtIn (rs : List Registration) :
    builtIn.registerAll rs = registerAll ⟨[], .generic⟩ (history rs) := by
  rw [builtIn_eq_registerAll, registerAll, registerAll, ← List.foldl_append]
  rfl

/-- The handler of a type is the latest one, or else what the registry falls back on. -/
theorem resolve_registerAll (rs : List Registration) (type : String) :
    (builtIn.registerAll rs).resolve type = ((history rs).reverse.lookup type).getD .generic := by
  rw [registerAll_builtIn, resolve, lookup_registerAll, fallback_registerAll]
  simp

theorem resolve_of_latest (hlatest : Latest (history rs) type h) :
    (builtIn.registerAll rs).resolve type = h := by
  rw [resolve_registerAll, lookup_reverse_eq_some_iff.mpr hlatest, Option.getD_some]

theorem resolve_of_unregistered (hnone : ∀ h, ¬ Latest (history rs) type h) :
    (builtIn.registerAll rs).resolve type = .generic := by
  rw [resolve_registerAll, lookup_reverse_eq_none_iff.mpr hnone, Option.getD_none]

/-- The generic type always has a handler. -/
theorem exists_latest_generic (rs : List Registration) :
    ∃ h, Latest (history rs) ActionType.generic.word h := by
  cases hlookup : (history rs).reverse.lookup ActionType.generic.word with
  | some h => exact ⟨h, lookup_reverse_eq_some_iff.mp hlookup⟩
  | none =>
    have hmem : (ActionType.generic.word, Handler.generic) ∈ (history rs).reverse := by
      simp [history, Handler.builtIn, Handler.generic, ActionType.word]
    exact absurd (List.lookup_eq_none_iff.mp hlookup _ hmem) (by simp)

end Table

/-! ## Lookup and dispatch -/

/-- Every action step of an action type goes to the handler.  The settings of a step without a type have the
empty one. -/
def Dispatches (r : Registry) (type? : Option String) (h : Handler) : Prop :=
  ∀ c : ActionConfig, c.actionType = type?.getD "" → r.handlerOf c = h ∧
    ∀ (step : Step) (lead : Lead) (context : Context), step.body = .action c →
      r.work step lead context = h.run ⟨step.id, step.title, c⟩ lead context

/-- What an action type is looked up as and what its steps are sent to.  A type that has been registered has its
latest handler.  A type that has not falls back on the handler that the registry was made with, and so does a
lookup without a type, but a step without one goes to the latest generic handler. -/
inductive Found (rs : List Registration) : Option String → Handler → Handler → Prop
  | registered {type : String} {h : Handler} : type ≠ "" → Latest rs type h → Found rs (some type) h h
  | unregistered {type : String} : type ≠ "" → (∀ h, ¬ Latest rs type h) →
      Found rs (some type) .generic .generic
  | unnamed {type? : Option String} {h : Handler} : type?.getD "" = "" →
      Latest rs ActionType.generic.word h → Found rs type? .generic h

/-- The handler that is due for an action type: the latest one of a type that has been registered, and else the
latest generic one. -/
inductive Due (rs : List Registration) : Option String → Handler → Prop
  | registered {type : String} {h : Handler} : type ≠ "" → Latest rs type h → Due rs (some type) h
  | unregistered {type : String} {h : Handler} : type ≠ "" → (∀ g, ¬ Latest rs type g) →
      Latest rs ActionType.generic.word h → Due rs (some type) h
  | unnamed {type? : Option String} {h : Handler} : type?.getD "" = "" →
      Latest rs ActionType.generic.word h → Due rs type? h

/-- After registrations lookup and dispatch come to the same handler for an action type, the one that is due. -/
def Agrees (rs : List Registration) (type? : Option String) : Prop :=
  ∃ h, Due (history rs) type? h ∧ (builtIn.registerAll rs).handler type? = h ∧
    (builtIn.registerAll rs).Dispatches type? h

section Finding

variable {rs : List Registration} {type? : Option String} {type : String} {looked sent h g : Handler}
  {r : Registry}

theorem dispatches_iff : r.Dispatches type? h ↔
    r.resolve (if type?.getD "" = "" then ActionType.generic.word else type?.getD "") = h := by
  constructor
  · intro hgoes
    exact (hgoes ⟨type?.getD "", none, none, none, false, .immediate, false, .createTask, none, none, none, []⟩
      rfl).1
  · intro hresolve c hc
    have hhandler : r.handlerOf c = h := by rw [handlerOf, hc, hresolve]
    refine ⟨hhandler, fun step lead context hbody => ?_⟩
    simp only [work, hbody, hhandler]

theorem Dispatches.unique (hh : r.Dispatches type? h) (hg : r.Dispatches type? g) : h = g :=
  (dispatches_iff.mp hh).symm.trans (dispatches_iff.mp hg)

theorem handler_of_ne_empty (r : Registry) (htype : type ≠ "") : r.handler (some type) = r.resolve type := by
  unfold handler
  split
  · rename_i hempty
    exact absurd (Option.some.inj hempty) htype
  · rename_i hnone
    cases hnone
  · rename_i t hsome
    rw [Option.some.inj hsome]

theorem handler_of_unnamed (r : Registry) (hunnamed : type?.getD "" = "") : r.handler type? = r.fallback := by
  cases type? with
  | none => rfl
  | some type =>
    obtain rfl : type = "" := hunnamed
    rfl

/-- A named type is looked up as its steps are sent. -/
theorem handler_of_resolve (htype : type ≠ "") (hresolve : r.resolve type = h) :
    r.handler (some type) = h ∧ r.Dispatches (some type) h :=
  ⟨(handler_of_ne_empty r htype).trans hresolve, dispatches_iff.mpr (by simpa [htype] using hresolve)⟩

theorem handler_of_found (hfound : Found (history rs) type? looked sent) :
    (builtIn.registerAll rs).handler type? = looked ∧ (builtIn.registerAll rs).Dispatches type? sent := by
  cases hfound with
  | registered htype hlatest => exact handler_of_resolve htype (resolve_of_latest hlatest)
  | unregistered htype hnone => exact handler_of_resolve htype (resolve_of_unregistered hnone)
  | unnamed hunnamed hgeneric =>
    refine ⟨(handler_of_unnamed _ hunnamed).trans (fallback_registerAll _ _), dispatches_iff.mpr ?_⟩
    rw [if_pos hunnamed]
    exact resolve_of_latest hgeneric

/-- There is something to be found for every action type. -/
theorem exists_found (rs : List Registration) (type? : Option String) :
    ∃ looked sent, Found (history rs) type? looked sent := by
  by_cases hunnamed : type?.getD "" = ""
  · obtain ⟨h, hgeneric⟩ := exists_latest_generic rs
    exact ⟨.generic, h, .unnamed hunnamed hgeneric⟩
  obtain ⟨type, rfl⟩ : ∃ type, type? = some type := by
    cases type? with
    | none => exact absurd rfl hunnamed
    | some type => exact ⟨type, rfl⟩
  by_cases hnone : ∀ h, ¬ Latest (history rs) type h
  · exact ⟨.generic, .generic, .unregistered hunnamed hnone⟩
  · obtain ⟨h, hlatest⟩ := not_forall_not.mp hnone
    exact ⟨h, h, .registered hunnamed hlatest⟩

/-- Lookup and dispatch agree if they have found the same handler and it is due. -/
theorem agrees_iff_due (hfound : Found (history rs) type? looked sent) :
    Agrees rs type? ↔ Due (history rs) type? looked ∧ looked = sent := by
  obtain ⟨hlook, hsend⟩ := handler_of_found hfound
  constructor
  · rintro ⟨h, hdue, hhandler, hdispatch⟩
    obtain rfl : looked = h := hlook.symm.trans hhandler
    exact ⟨hdue, hdispatch.unique hsend⟩
  · rintro ⟨hdue, rfl⟩
    exact ⟨looked, hdue, hlook, hsend⟩

/-- Where a type has no handler of its own, the handler that the registry was made with is due as long as it is
the latest generic one. -/
theorem due_generic_iff (hnone : ∀ type h, type? = some type → type ≠ "" → ¬ Latest rs type h) :
    Due rs type? .generic ↔ Latest rs ActionType.generic.word .generic := by
  constructor
  · intro hdue
    cases hdue with
    | registered htype hlatest => exact absurd hlatest (hnone _ _ rfl htype)
    | unregistered _ _ hgeneric => exact hgeneric
    | unnamed _ hgeneric => exact hgeneric
  · intro hgeneric
    by_cases hunnamed : type?.getD "" = ""
    · exact .unnamed hunnamed hgeneric
    cases type? with
    | none => exact absurd rfl hunnamed
    | some type => exact .unregistered hunnamed (fun h => hnone type h rfl hunnamed) hgeneric

/-- Both ways come to the handler that is due just if the type has been registered, or the generic handler is
still the one that the registry was made with. -/
theorem agrees_iff : Agrees rs type? ↔
    (∃ type h, type? = some type ∧ type ≠ "" ∧ Latest (history rs) type h) ∨
      Latest (history rs) ActionType.generic.word .generic := by
  obtain ⟨looked, sent, hfound⟩ := exists_found rs type?
  rw [agrees_iff_due hfound]
  cases hfound with
  | registered htype hlatest =>
    exact iff_of_true ⟨.registered htype hlatest, rfl⟩ (.inl ⟨_, _, rfl, htype, hlatest⟩)
  | @unregistered type htype hnone =>
    have hnot : ∀ t h, some type = some t → t ≠ "" → ¬ Latest (history rs) t h := by
      rintro t h hsome -
      exact Option.some.inj hsome ▸ hnone h
    rw [due_generic_iff hnot, and_iff_left rfl, or_iff_right]
    rintro ⟨t, h, hsome, ht, hlatest⟩
    exact hnot t h hsome ht hlatest
  | unnamed hunnamed hgeneric =>
    have hnot : ∀ t h, type? = some t → t ≠ "" → ¬ Latest (history rs) t h := by
      rintro t h rfl ht
      exact absurd hunnamed ht
    rw [due_generic_iff hnot, and_iff_left_of_imp fun hkept => hkept.unique hgeneric, or_iff_right]
    rintro ⟨t, h, hsome, ht, hlatest⟩
    exact hnot t h hsome ht hlatest

/-- Steps are sent to the handler that is looked up just if they have a type, or the generic handler is still
the one that the registry was made with. -/
theorem same_iff (hfound : Found (history rs) type? looked sent) :
    looked = sent ↔ type?.getD "" ≠ "" ∨ Latest (history rs) ActionType.generic.word .generic := by
  cases hfound with
  | registered htype _ => exact iff_of_true rfl (.inl htype)
  | unregistered htype _ => exact iff_of_true rfl (.inl htype)
  | unnamed hunnamed hgeneric =>
    rw [or_iff_right (not_not.mpr hunnamed)]
    exact ⟨fun hsame => hsame ▸ hgeneric, fun hkept => hkept.unique hgeneric⟩

/-! ## What registrations come to -/

/-- After any registrations every action type has a handler that it is looked up as and one that its steps are
sent to.  Lookup and dispatch both come to the handler that is due just if the type has been registered, or the
generic handler has not been replaced; they come to the same one just if there is a type, or the generic
handler has not been replaced. -/
theorem registrations_found (rs : List Registration) (type? : Option String) :
    ∃ looked sent, (builtIn.registerAll rs).handler type? = looked ∧
      (builtIn.registerAll rs).Dispatches type? sent ∧ Found (history rs) type? looked sent ∧
      (Agrees rs type? ↔ (∃ type h, type? = some type ∧ type ≠ "" ∧ Latest (history rs) type h) ∨
        Latest (history rs) ActionType.generic.word .generic) ∧
      (looked = sent ↔ type?.getD "" ≠ "" ∨ Latest (history rs) ActionType.generic.word .generic) := by
  obtain ⟨looked, sent, hfound⟩ := exists_found rs type?
  obtain ⟨hlook, hsend⟩ := handler_of_found hfound
  exact ⟨looked, sent, hlook, hsend, hfound, agrees_iff, same_iff hfound⟩

/-- The generic handler is replaced by the one that adds tags. -/
def tagging : List Registration := [("generic", .addTag)]

theorem not_latest_generic_tagging : ¬ Latest (history tagging) ActionType.generic.word .generic := by
  intro hkept
  have hlatest : Latest (history tagging) ActionType.generic.word .addTag :=
    lookup_reverse_eq_some_iff.mp rfl
  exact absurd (congrArg Handler.type (hkept.unique hlatest)) (by decide)

/-- With the generic handler replaced, a type that nobody registered is still looked up as the old one, and so is
a missing type, whose steps go to the new one. -/
theorem registrations_found_tagging :
    ((builtIn.registerAll tagging).handler (some "teleport") = .generic ∧ ¬ Agrees tagging (some "teleport")) ∧
      ∃ looked sent, (builtIn.registerAll tagging).handler none = looked ∧
        (builtIn.registerAll tagging).Dispatches none sent ∧ looked ≠ sent := by
  have hunregistered : ∀ h, ¬ Latest (history tagging) "teleport" h := lookup_reverse_eq_none_iff.mp rfl
  obtain ⟨looked, sent, hlook, -, hfound, hagrees, -⟩ := registrations_found tagging (some "teleport")
  obtain ⟨looked', sent', hlook', hsend', -, -, hsame⟩ := registrations_found tagging none
  refine ⟨⟨rfl, fun h => ?_⟩, looked', sent', hlook', hsend', fun h => ?_⟩
  · obtain ⟨type, g, hsome, -, hlatest⟩ | hkept := hagrees.mp h
    · cases hsome
      exact hunregistered g hlatest
    · exact not_latest_generic_tagging hkept
  · obtain hnamed | hkept := hsame.mp h
    · exact hnamed rfl
    · exact not_latest_generic_tagging hkept

/-- Lookup and dispatch do not agree for every action type after any registrations. -/
theorem not_forall_agrees : ¬ ∀ rs type?, Agrees rs type? := by
  intro hall
  obtain ⟨type, g, hsome, -, -⟩ | hkept := agrees_iff.mp (hall tagging none)
  · cases hsome
  · exact not_latest_generic_tagging hkept

end Finding

end Registry

end LeadFlow.Execution
