import LeadFlow.Proofs.Writer.Requests
import LeadFlow.Writer.Client
import Mathlib

set_option autoImplicit false

/-!
# Writer: requests accounted for

Every request should be counted once, as a failure unless its answer is handed on, and the tokens of that
answer added to the totals.  A success whose body cannot be read, or whose counts cannot be added, is the
exception: its fault goes to the caller as it is, before the request is counted in full.

Main statement: `ask_accounted`, that these are the only exceptions.
-/

namespace LeadFlow.Writer

open Http Program Calendar

/-- The totals and the outcome account for so many requests: a fault is one of the collaborator, every
request is counted and is a failure unless its answer is the outcome, and the tokens are those of it. -/
structure Accounted (u u' : Usage) (posts : Nat) (result : Outcome Fields) : Prop where
  fault : ∀ f, result = .error f → f.kind = .collaborator
  requests : u'.requests = u.requests + posts
  failures : u'.failures + (if result.isOk then 1 else 0) = u.failures + posts
  tokens :
    match result with
    | .ok data => ∃ input output, countsIn data = .ok (input, output) ∧
        Usage.plus u.inputTokens input = .ok u'.inputTokens ∧
        Usage.plus u.outputTokens output = .ok u'.outputTokens
    | .error _ => u'.inputTokens = u.inputTokens ∧ u'.outputTokens = u.outputTokens

/-- A success can be accounted for: its body is an object, and its counts can be added to the totals. -/
def Countable (u : Usage) (response : Response) : Prop :=
  ∃ data input output i o, response.json = .ok (.object data) ∧ countsIn data = .ok (input, output) ∧
    Usage.plus u.inputTokens input = .ok i ∧ Usage.plus u.outputTokens output = .ok o

/-! ## The last answer -/

/-- An answer whose counts can be added. -/
theorem answered_of_plus {u : Usage} {input output : Value} {i o : Num}
    (hinput : Usage.plus u.inputTokens input = .ok i) (houtput : Usage.plus u.outputTokens output = .ok o) :
    u.answered input output = (.ok (), ⟨u.requests + 1, u.failures, i, o⟩) := by
  simp only [Usage.answered, hinput, houtput]

/-- One whose counts cannot is no failure by the totals. -/
theorem answered_failures (u : Usage) (input output : Value) :
    (u.answered input output).2.failures = u.failures := by
  unfold Usage.answered
  dsimp only
  split
  · rfl
  · split
    · rfl
    · rfl

/-- Counts that were added can be. -/
theorem plus_of_answered {u : Usage} {input output : Value} (h : (u.answered input output).1 = .ok ()) :
    ∃ i o, Usage.plus u.inputTokens input = .ok i ∧ Usage.plus u.outputTokens output = .ok o := by
  unfold Usage.answered at h
  dsimp only at h
  split at h
  · cases h
  · rename_i i hinput
    split at h
    · cases h
    · rename_i o houtput
      exact ⟨i, o, hinput, houtput⟩

section Concluding

variable {u : Usage} {k : Nat} (hk : 1 ≤ k)

include hk

/-- Attempts of which none was a success are accounted for. -/
theorem accounted_of_refused (reason : String) (busy : Bool) :
    Accounted u (concluded k (u.failedTimes (k - 1)) (.refused reason busy)).2 k
      (concluded k (u.failedTimes (k - 1)) (.refused reason busy)).1 where
  fault := by
    intro f hf
    obtain rfl := Except.error.inj hf
    rfl
  requests := by
    change u.requests + (k - 1) + 1 = u.requests + k
    omega
  failures := by
    change u.failures + (k - 1) + 1 + 0 = u.failures + k
    omega
  tokens := ⟨rfl, rfl⟩

/-- A success whose counts are added is accounted for. -/
theorem accounted_of_plus {data : Fields} {input output : Value} {i o : Num}
    (hcounts : countsIn data = .ok (input, output)) (hinput : Usage.plus u.inputTokens input = .ok i)
    (houtput : Usage.plus u.outputTokens output = .ok o) :
    Accounted u (concluded k (u.failedTimes (k - 1)) (.answered data input output)).2 k
      (concluded k (u.failedTimes (k - 1)) (.answered data input output)).1 := by
  have hadded : (u.failedTimes (k - 1)).answered input output =
      (.ok (), ⟨u.requests + (k - 1) + 1, u.failures + (k - 1), i, o⟩) := answered_of_plus hinput houtput
  simp only [concluded, hadded]
  refine ⟨?_, ?_, ?_, input, output, hcounts, hinput, houtput⟩
  · intro f hf
    cases hf
  · change u.requests + (k - 1) + 1 = u.requests + k
    omega
  · change u.failures + (k - 1) + 1 = u.failures + k
    omega

/-- A success that is accounted for had its counts added. -/
theorem plus_of_accounted {data : Fields} {input output : Value}
    (h : Accounted u (concluded k (u.failedTimes (k - 1)) (.answered data input output)).2 k
      (concluded k (u.failedTimes (k - 1)) (.answered data input output)).1) :
    ∃ i o, Usage.plus u.inputTokens input = .ok i ∧ Usage.plus u.outputTokens output = .ok o := by
  have hfailures := h.failures
  have hkept : (concluded k (u.failedTimes (k - 1)) (.answered data input output)).2.failures =
      u.failures + (k - 1) := answered_failures _ input output
  cases hadded : ((u.failedTimes (k - 1)).answered input output).1 with
  | ok done => exact plus_of_answered (u := u.failedTimes (k - 1)) hadded
  | error f =>
    have hresult : (concluded k (u.failedTimes (k - 1)) (.answered data input output)).1 = .error f := by
      change ((u.failedTimes (k - 1)).answered input output).1.map (fun _ => data) = _
      rw [hadded]
      rfl
    rw [hkept, hresult] at hfailures
    change u.failures + (k - 1) + 0 = u.failures + k at hfailures
    omega

/-- By its last answer a row of attempts is accounted for just if that answer is no success or can be. -/
theorem accounted_iff {answer : Outcome Response} (hhost : IsOfHost answer) :
    Accounted u (concluded k (u.failedTimes (k - 1)) (judge answer)).2 k
        (concluded k (u.failedTimes (k - 1)) (judge answer)).1 ↔
      ∀ response, answer = .ok response → response.status = 200 → Countable u response := by
  by_cases hsuccess : IsSuccess answer
  · obtain ⟨response, rfl, hstatus⟩ := hsuccess
    rw [judge_of_success hstatus]
    constructor
    · intro haccounted response' hresponse _
      obtain rfl := Except.ok.inj hresponse
      cases hread : readAnswer response with
      | error f =>
        rw [hread] at haccounted
        have hrequests : u.requests + (k - 1) = u.requests + k := haccounted.requests
        omega
      | ok x =>
        obtain ⟨data, input, output⟩ := x
        rw [hread] at haccounted
        obtain ⟨hjson, hcounts⟩ := readAnswer_eq_ok_iff.mp hread
        obtain ⟨i, o, hinput, houtput⟩ := plus_of_accounted hk haccounted
        exact ⟨data, input, output, i, o, hjson, hcounts, hinput, houtput⟩
    · intro hcountable
      obtain ⟨data, input, output, i, o, hjson, hcounts, hinput, houtput⟩ := hcountable response rfl hstatus
      rw [readAnswer_eq_ok_iff.mpr ⟨hjson, hcounts⟩]
      exact accounted_of_plus hk hcounts hinput houtput
  · rw [judge_of_not_success hhost hsuccess]
    constructor
    · intro _ response hanswer hstatus
      exact absurd ⟨response, hanswer, hstatus⟩ hsuccess
    · intro _
      exact accounted_of_refused hk _ _

end Concluding

/-! ## Questions -/

/-- Every request of a question that can be put to the host is accounted for, and a fault is one of the
collaborator, just if the answer that ends the question is no success or a success that can be counted.  A
question that cannot be put makes no request, and a fault of another kind. -/
theorem ask_accounted (s : Settings) (q : Question) (u : Usage) (hkey : isConfigured s = true)
    (hattempts : s.modelAttempts ≤ 1000)
    (answers : Nat → (c : network.Call) → Outcome (network.Reply c)) (now : Moment)
    (hhost : ∀ i, IsOfHost (answers i (q.request s))) :
    (CanAsk s q →
      ∃ k, IsLeast (Final (fun i => isFinal (answers i (q.request s))) 1 (attempts s)) k ∧
        ∃ acts result u', (ask s q u).inTurn answers now 1 = (acts, .ok (result, u')) ∧
          acts.filterMap Act.call? = List.replicate k (q.request s) ∧
          (Accounted u u' k result ↔ ∀ response, answers k (q.request s) = .ok response →
            response.status = 200 → Countable u response)) ∧
    (¬ CanAsk s q → ∃ f, f.kind ≠ .collaborator ∧
      (ask s q u).inTurn answers now 1 = ([], .ok (.error f, u))) := by
  constructor
  · intro hask
    obtain ⟨k, hk, waits, hwaits, hacts⟩ := ask_inTurn now hask hattempts hhost u
    have hfirst : 1 ≤ k := hk.1.1
    refine ⟨k, hk, _, _, _, hacts, ?_, accounted_iff hfirst (hhost k)⟩
    have hcount : waits.length + 1 = k := by
      rw [hwaits.length_eq]
      omega
    have hcalls := Act.calls_repeated (I := network) (q.request s) waits
    rw [hcount] at hcalls
    exact hcalls
  · intro hask
    obtain ⟨f, hkind, hf⟩ := ask_of_not_canAsk hask u
    refine ⟨f, hkind hkey, ?_⟩
    rw [hf]
    rfl

/-- A host that says it succeeded, and no more. -/
def mutteringHost (_ : Nat) (_ : network.Call) : Outcome Response := .ok ⟨200, "not json"⟩

/-- A success that is no JSON is not accounted for. -/
theorem ask_accounted_muttering : ∃ acts result u',
    (ask keyedSettings blankQuestion .zero).inTurn mutteringHost ⟨0, none, false⟩ 1 = (acts, .ok (result, u')) ∧
      acts.filterMap Act.call? = [blankQuestion.request keyedSettings] ∧ ¬ Accounted .zero u' 1 result := by
  obtain ⟨k, hk, acts, result, u', hacts, hcalls, hiff⟩ :=
    (ask_accounted keyedSettings blankQuestion .zero (by decide +kernel) (by decide) mutteringHost
      ⟨0, none, false⟩ fun _ => trivial).1 canAsk_keyedSettings
  obtain rfl : k = 1 := hk.unique (lastAttempt_isLeast
    (fun i => isFinal (mutteringHost i (blankQuestion.request keyedSettings))) 1 1)
  refine ⟨acts, result, u', hacts, hcalls, ?_⟩
  intro haccounted
  have hcountable : Countable .zero ⟨200, "not json"⟩ := hiff.mp haccounted ⟨200, "not json"⟩ rfl rfl
  obtain ⟨data, input, output, i, o, hjson, -⟩ := hcountable
  have hbroken : (Response.json ⟨200, "not json"⟩).isOk = false := by decide +kernel
  rw [hjson] at hbroken
  cases hbroken

end LeadFlow.Writer
