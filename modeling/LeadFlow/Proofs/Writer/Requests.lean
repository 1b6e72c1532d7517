import LeadFlow.Proofs.Program.Attempts
import LeadFlow.Writer.Client
import Mathlib

set_option autoImplicit false

/-!
# Writer: requests in turn

A question is put to the host until an answer is final or no attempt is left, with doubling waits between,
and what it comes to is decided by the last answer alone (`requestFrom_inTurn`).  Each answer before that
one is counted as a failed request.

Main statement: `ask_inTurn`.
-/

namespace LeadFlow.Writer

open Http Program Calendar

/-! ## Answers -/

/-- What a host can come back with: a response, or a fault of the network. -/
def IsOfHost : Outcome Response → Prop
  | .ok _ => True
  | .error f => f.kind.network?.isSome = true

/-- No other attempt is made after the answer: it is a success, or an error of a host that is not busy. -/
def isFinal : Outcome Response → Bool
  | .ok r => r.status == 200 || !busyStatuses.contains r.status
  | .error _ => false

/-- What went wrong with an attempt that was no success. -/
def lastError : Outcome Response → String
  | .ok r => s!"API error {r.status}: {Text.take 200 r.text}"
  | .error f =>
    match f.kind.network? with
    | some cause => if cause.isTimeout then "Request timed out" else f.text
    | none => f.text

/-- The answer is a success. -/
def IsSuccess (answer : Outcome Response) : Prop := ∃ r, answer = .ok r ∧ r.status = 200

/-- The judgement ends a row of attempts. -/
def Judgement.isFinal : Judgement → Bool
  | .refused _ busy => !busy
  | _ => true

theorem judge_of_success {r : Response} (h : r.status = 200) :
    judge (.ok r) =
      match readAnswer r with
      | .ok (data, input, output) => .answered data input output
      | .error f => .broken f :=
  if_pos h

theorem judge_of_not_success {answer : Outcome Response} (hhost : IsOfHost answer) (h : ¬ IsSuccess answer) :
    judge answer = .refused (lastError answer) (!isFinal answer) := by
  cases answer with
  | ok r =>
    have hstatus : r.status ≠ 200 := fun hr => h ⟨r, rfl, hr⟩
    have hbeq : (r.status == 200) = false := beq_eq_false_iff_ne.mpr hstatus
    rw [judge, if_neg hstatus, isFinal, hbeq, Bool.false_or, Bool.not_not]
    rfl
  | error f =>
    obtain ⟨cause, hcause⟩ := Option.isSome_iff_exists.mp hhost
    rw [judge, lastError, hcause]
    rfl

/-- A judgement is final just if the answer is. -/
theorem isFinal_judge {answer : Outcome Response} (hhost : IsOfHost answer) :
    (judge answer).isFinal = isFinal answer := by
  by_cases h : IsSuccess answer
  · obtain ⟨r, rfl, hstatus⟩ := h
    have hfinal : isFinal (.ok r) = true := by
      rw [isFinal, hstatus]
      rfl
    rw [judge_of_success hstatus, hfinal]
    cases readAnswer r with
    | ok x => rfl
    | error f => rfl
  · rw [judge_of_not_success hhost h]
    exact Bool.not_not _

/-! ## Rows of requests -/

/-- The totals after so many requests that failed. -/
def Usage.failedTimes (n : Nat) (u : Usage) : Usage :=
  { u with requests := u.requests + n, failures := u.failures + n }

theorem Usage.failedTimes_failed (n : Nat) (u : Usage) : u.failed.failedTimes n = u.failedTimes (n + 1) := by
  simp only [Usage.failedTimes, Usage.failed, Nat.add_assoc, Nat.add_comm n 1]

variable {answers : Nat → (c : network.Call) → Outcome (network.Reply c)} {now : Moment} {s : Settings}
  {r : Request}

/-- With no attempt left, any answer is the last. -/
theorem requestFrom_zero (attempt : Nat) (u : Usage) :
    (requestFrom s r 0 attempt u).inTurn answers now attempt =
      ([.call r], .ok (concluded attempt u (judge (answers attempt r)))) := by
  rw [requestFrom]
  rfl

/-- A final answer is the last. -/
theorem requestFrom_final {left attempt : Nat} (u : Usage)
    (h : (judge (answers attempt r)).isFinal = true) :
    (requestFrom s r (left + 1) attempt u).inTurn answers now attempt =
      ([.call r], .ok (concluded attempt u (judge (answers attempt r)))) := by
  rw [requestFrom]
  refine (inTurn_call _ _ _ _ _).trans ?_
  split
  · rename_i hjudge
    rw [hjudge] at h
    cases h
  · rfl

/-- Any other is followed by a wait and the next attempt. -/
theorem requestFrom_again {left attempt : Nat} (u : Usage) {seconds : Float}
    (h : (judge (answers attempt r)).isFinal = false)
    (hwait : (RetryStrategy.forModel s).waitFor attempt = .ok seconds) :
    (requestFrom s r (left + 1) attempt u).inTurn answers now attempt =
      let rest := (requestFrom s r left (attempt + 1) u.failed).inTurn answers now (attempt + 1)
      (.call r :: .pause seconds :: rest.1, rest.2) := by
  rw [requestFrom]
  refine (inTurn_call _ _ _ _ _).trans ?_
  split
  · simp only [hwait]
    rfl
  · rename_i hjudge
    cases hlast : judge (answers attempt r) with
    | broken f =>
      rw [hlast] at h
      cases h
    | answered data input output =>
      rw [hlast] at h
      cases h
    | refused reason busy =>
      rw [hlast] at h
      obtain rfl : busy = true := by simpa [Judgement.isFinal] using h
      exact absurd hlast (hjudge reason)

/-- Requests are made up to the first final answer, or to the last attempt, and that answer decides. -/
theorem requestFrom_inTurn (answers : Nat → (c : network.Call) → Outcome (network.Reply c)) (now : Moment)
    (r : Request) (left attempt : Nat) (u : Usage)
    (hwaits : ∀ i, attempt ≤ i → i < attempt + left →
      ∃ seconds, (RetryStrategy.forModel s).waitFor i = .ok seconds) :
    let k := lastAttempt (fun i => (judge (answers i r)).isFinal) left attempt
    ∃ waits, Waits (.forModel s) attempt k waits ∧
      (requestFrom s r left attempt u).inTurn answers now attempt =
        (Act.repeated r waits, .ok (concluded k (u.failedTimes (k - attempt)) (judge (answers k r)))) := by
  -- the totals take up one failure with each attempt that is passed
  induction left generalizing attempt u with
  | zero =>
    refine ⟨[], by simp [Waits, lastAttempt], ?_⟩
    rw [requestFrom_zero, lastAttempt, Nat.sub_self]
    rfl
  | succ left ih =>
    rw [lastAttempt]
    cases hfinal : (judge (answers attempt r)).isFinal with
    | true =>
      refine ⟨[], by simp [Waits], ?_⟩
      rw [requestFrom_final u hfinal, if_pos rfl, Nat.sub_self]
      rfl
    | false =>
      obtain ⟨seconds, hseconds⟩ := hwaits attempt (Nat.le_refl _) (by omega)
      obtain ⟨waits, hrest, hacts⟩ := ih (attempt + 1) u.failed fun i hi hi' => hwaits i (by omega) (by omega)
      have hlater := (lastAttempt_isLeast (fun i => (judge (answers i r)).isFinal) left (attempt + 1)).1.1
      refine ⟨seconds :: waits, hrest.cons hseconds hlater, ?_⟩
      have hcount : lastAttempt (fun i => (judge (answers i r)).isFinal) left (attempt + 1) - (attempt + 1) + 1 =
          lastAttempt (fun i => (judge (answers i r)).isFinal) left (attempt + 1) - attempt := by omega
      rw [requestFrom_again u hfinal hseconds, hacts, Usage.failedTimes_failed, hcount]
      rfl

/-! ## Questions -/

/-- The question can be put to the host: a connection can be opened, and no number of the request is
infinite or NaN. -/
structure CanAsk (s : Settings) (q : Question) : Prop where
  connects : connectFault? s = none
  finite : (q.request s).body.isFinite = true

theorem ask_of_canAsk {q : Question} (h : CanAsk s q) (u : Usage) :
    ask s q u = requestFrom s (q.request s) (RetryStrategy.forModel s).limit 1 u := by
  rw [ask, h.connects, Request.written, if_pos h.finite]

/-- A key that is set but of no use makes another fault than one of the collaborator. -/
theorem kind_of_connectFault {s : Settings} (hkey : isConfigured s = true) {f : Fault}
    (h : connectFault? s = some f) : f.kind ≠ .collaborator := by
  unfold connectFault? at h
  split at h
  · rename_i hnone
    rw [hkey] at hnone
    cases hnone
  · split at h
    · rename_i htimeout
      obtain rfl := Option.some.inj h
      unfold doubleOf at htimeout
      split at htimeout
      · cases htimeout
      · obtain rfl := Except.error.inj htimeout
        exact FaultKind.noConfusion
    · obtain ⟨what, -, rfl⟩ := Option.map_eq_some_iff.mp h
      exact FaultKind.noConfusion

/-- Without that, nothing is asked and nothing counted. -/
theorem ask_of_not_canAsk {q : Question} (h : ¬ CanAsk s q) (u : Usage) :
    ∃ f, (isConfigured s = true → f.kind ≠ .collaborator) ∧ ask s q u = .done (.error f, u) := by
  cases hconnects : connectFault? s with
  | some f => exact ⟨f, fun hkey => kind_of_connectFault hkey hconnects, by rw [ask, hconnects]⟩
  | none =>
    have hbody : ¬ (q.request s).body.isFinite = true := fun hfinite => h ⟨hconnects, hfinite⟩
    refine ⟨_, fun _ => ?_, by rw [ask, hconnects, Request.written, if_neg hbody]⟩
    exact FaultKind.noConfusion

/-- The attempts that a question has. -/
def attempts (s : Settings) : Nat := (max s.modelAttempts 1).toNat

theorem limit_forModel (s : Settings) : (RetryStrategy.forModel s).limit + 1 = attempts s := by
  have hlimit : (RetryStrategy.forModel s).limit = (max s.modelAttempts 1 - 1).toNat := rfl
  unfold attempts
  omega

/-- A question that can be put makes its attempts, with the waits between them, and comes to what the last
answer says. -/
theorem ask_inTurn (now : Moment) {q : Question} (hask : CanAsk s q) (hattempts : s.modelAttempts ≤ 1000)
    (hhost : ∀ i, IsOfHost (answers i (q.request s))) (u : Usage) :
    ∃ k, IsLeast (Final (fun i => isFinal (answers i (q.request s))) 1 (attempts s)) k ∧
      ∃ waits, Waits (.forModel s) 1 k waits ∧
        (ask s q u).inTurn answers now 1 = (Act.repeated (q.request s) waits,
          .ok (concluded k (u.failedTimes (k - 1)) (judge (answers k (q.request s))))) := by
  have hlimit := limit_forModel s
  have hsmall : attempts s ≤ 1000 := by
    unfold attempts
    omega
  have hjudge : (fun i => (judge (answers i (q.request s))).isFinal) = fun i => isFinal (answers i (q.request s)) :=
    funext fun i => isFinal_judge (hhost i)
  have hleast := lastAttempt_isLeast (fun i => isFinal (answers i (q.request s)))
    (RetryStrategy.forModel s).limit 1
  obtain ⟨waits, hwaits, hacts⟩ := requestFrom_inTurn answers now (q.request s)
    (RetryStrategy.forModel s).limit 1 u fun i _ hi => exists_waitFor_doubling _ _ _ (by omega)
  rw [Nat.add_comm 1, hlimit] at hleast
  rw [hjudge] at hwaits hacts
  rw [ask_of_canAsk hask]
  exact ⟨_, hleast, waits, hwaits, hacts⟩

/-! ## What comes back -/

/-- The data say in whole numbers how many tokens they took, or do not say. -/
def HasCounts (data : Fields) : Prop :=
  ∃ usage, (Fields.get? data "usage").getD (.object []) = .object usage ∧
    ∀ key ∈ ["input_tokens", "output_tokens"], ∃ n, (Fields.get? usage key).getD (.int 0) = .int n

theorem countsIn_of_hasCounts {data : Fields} (h : HasCounts data) :
    ∃ n m, countsIn data = .ok (.int n, .int m) := by
  obtain ⟨usage, husage, hcounts⟩ := h
  obtain ⟨n, hn⟩ := hcounts "input_tokens" (by simp)
  obtain ⟨m, hm⟩ := hcounts "output_tokens" (by simp)
  refine ⟨n, m, ?_⟩
  rw [countsIn, husage, ← hn, ← hm]
  rfl

/-- A successful answer is read if its body is an object and its counts are found. -/
theorem readAnswer_eq_ok_iff {response : Response} {data : Fields} {input output : Value} :
    readAnswer response = .ok (data, input, output) ↔
      response.json = .ok (.object data) ∧ countsIn data = .ok (input, output) := by
  rw [readAnswer]
  cases response.json with
  | error f =>
    constructor
    · intro h
      cases h
    · rintro ⟨h, -⟩
      cases h
  | ok v =>
    change ((fieldsIn v).bind fun data => (countsIn data).bind fun counts => .ok (data, counts)) = _ ↔ _
    constructor
    · intro h
      cases v with
      | object fs =>
        cases hcounts : countsIn fs with
        | error f =>
          rw [fieldsIn, Except.bind, hcounts] at h
          cases h
        | ok counts =>
          rw [fieldsIn, Except.bind, hcounts] at h
          obtain ⟨rfl, rfl⟩ := Prod.mk.inj (Except.ok.inj h)
          exact ⟨rfl, hcounts⟩
      | _ => cases h
    · rintro ⟨hv, hcounts⟩
      obtain rfl := Except.ok.inj hv
      rw [fieldsIn, Except.bind, hcounts]
      rfl

/-- Whole numbers add up. -/
theorem answered_of_whole {u : Usage} {a b : Int} (ha : u.inputTokens = .int a) (hb : u.outputTokens = .int b)
    (n m : Int) : (u.answered (.int n) (.int m)).1 = .ok () := by
  have hn : Usage.plus u.inputTokens (.int n) = .ok (.int (a + n)) := by
    rw [ha]
    rfl
  have hm : Usage.plus u.outputTokens (.int m) = .ok (.int (b + m)) := by
    rw [hb]
    rfl
  simp only [Usage.answered, hn, hm]

theorem concluded_of_hasCounts {u : Usage} {a b : Int} (ha : u.inputTokens = .int a)
    (hb : u.outputTokens = .int b) (attempt : Nat) {response : Response} {data : Fields}
    (hstatus : response.status = 200) (hjson : response.json = .ok (.object data)) (h : HasCounts data) :
    (concluded attempt u (judge (.ok response))).1 = .ok data := by
  obtain ⟨n, m, hcounts⟩ := countsIn_of_hasCounts h
  have hread := readAnswer_eq_ok_iff.mpr ⟨hjson, hcounts⟩
  have hadded := answered_of_whole ha hb n m
  rw [judge_of_success hstatus, hread]
  change (u.answered (.int n) (.int m)).1.map (fun _ => data) = .ok data
  rw [hadded]
  rfl

/-- A question that can be put to the host is asked up to the first answer that is final, or to the last
attempt, always in the same words, with the waits of the strategy between the requests and none behind the
last.  A success whose counts are whole numbers is handed on; where the last answer is none, the fault
names the number of attempts and what went wrong with the last.  A question that cannot be put is not asked
at all. -/
theorem ask_attempts (s : Settings) (q : Question) (u : Usage) :
    (CanAsk s q → s.modelAttempts ≤ 1000 →
      ∀ (answers : Nat → (c : network.Call) → Outcome (network.Reply c)) (now : Moment),
        (∀ i, IsOfHost (answers i (q.request s))) →
        ∃ k, IsLeast (Final (fun i => isFinal (answers i (q.request s))) 1 (attempts s)) k ∧
          ∃ waits result u', Waits (.forModel s) 1 k waits ∧
            (ask s q u).inTurn answers now 1 = (Act.repeated (q.request s) waits, .ok (result, u')) ∧
            (∀ response data a b, answers k (q.request s) = .ok response → response.status = 200 →
              response.json = .ok (.object data) → HasCounts data →
              u.inputTokens = .int a → u.outputTokens = .int b → result = .ok data) ∧
            (¬ IsSuccess (answers k (q.request s)) →
              result = .error (exhausted k (lastError (answers k (q.request s)))))) ∧
    (¬ CanAsk s q → ∃ f, ∀ (answers : Nat → (c : network.Call) → Outcome (network.Reply c)) (now : Moment),
      (ask s q u).inTurn answers now 1 = ([], .ok (.error f, u))) := by
  constructor
  · intro hask hattempts answers now hhost
    obtain ⟨k, hk, waits, hwaits, hacts⟩ := ask_inTurn now hask hattempts hhost u
    refine ⟨k, hk, waits, _, _, hwaits, hacts, ?_, ?_⟩
    · intro response data a b hanswer hstatus hjson hcounts ha hb
      have ha' : (u.failedTimes (k - 1)).inputTokens = .int a := ha
      have hb' : (u.failedTimes (k - 1)).outputTokens = .int b := hb
      rw [hanswer]
      exact concluded_of_hasCounts ha' hb' k hstatus hjson hcounts
    · intro hfailed
      rw [judge_of_not_success (hhost k) hfailed]
  · intro hask
    obtain ⟨f, -, hf⟩ := ask_of_not_canAsk hask u
    refine ⟨f, fun answers now => ?_⟩
    rw [hf]
    rfl

/-- Settings with a key. -/
def keyedSettings : Settings := { Settings.default with modelKey := "k" }

/-- A question without words. -/
def blankQuestion : Question := ⟨.list [], .null, .null, .null⟩

theorem canAsk_keyedSettings : CanAsk keyedSettings blankQuestion := ⟨by decide +kernel, by decide +kernel⟩

/-- The host is busy at first. -/
def busyAtFirst (turn : Nat) (_ : network.Call) : Outcome Response :=
  if turn = 1 then .ok ⟨529, "busy"⟩ else .ok ⟨200, "\x7b\x7d"⟩

/-- A host that is busy once is asked again after one wait, and its answer is handed on. -/
theorem ask_attempts_busy : ∃ seconds u',
    (ask keyedSettings blankQuestion .zero).inTurn busyAtFirst ⟨0, none, false⟩ 1 =
      ([.call (blankQuestion.request keyedSettings), .pause seconds,
        .call (blankQuestion.request keyedSettings)], .ok (.ok [], u')) := by
  obtain ⟨k, hk, waits, result, u', hwaits, hacts, hsuccess, -⟩ :=
    (ask_attempts keyedSettings blankQuestion .zero).1 canAsk_keyedSettings (by decide) busyAtFirst
      ⟨0, none, false⟩ fun i => by
        unfold busyAtFirst
        split
        · trivial
        · trivial
  obtain rfl : k = 2 := hk.unique (lastAttempt_isLeast
    (fun i => isFinal (busyAtFirst i (blankQuestion.request keyedSettings))) 1 1)
  have hlength := hwaits.length_eq
  match waits, hlength with
  | [seconds], _ =>
    have hempty : Response.json ⟨200, "\x7b\x7d"⟩ = .ok (.object []) := by cbv
    have hcounts : HasCounts [] := ⟨[], rfl, fun key _ => ⟨0, rfl⟩⟩
    rw [hsuccess _ [] 0 0 rfl rfl hempty hcounts rfl rfl] at hacts
    exact ⟨seconds, u', hacts⟩

/-- The host answers every request. -/
def readyHost (_ : Nat) (_ : network.Call) : Outcome Response := .ok ⟨200, "\x7b\x7d"⟩

/-- No attempt is made with the settings, although there is a key and the host would answer. -/
structure Unsent (s : Settings) : Prop where
  configured : isConfigured s = true
  bounded : s.modelAttempts ≤ 1000
  silent : ((ask s blankQuestion .zero).inTurn readyHost ⟨0, none, false⟩ 1).1 = []
  unattempted : ¬ ∃ k, IsLeast (Final (fun i => isFinal (readyHost i (blankQuestion.request s))) 1 (attempts s)) k ∧
    ∃ waits, Waits (.forModel s) 1 k waits ∧
      ((ask s blankQuestion .zero).inTurn readyHost ⟨0, none, false⟩ 1).1 =
        Act.repeated (blankQuestion.request s) waits

theorem unsent_of_not_canAsk {s : Settings} (hkey : isConfigured s = true) (hattempts : s.modelAttempts ≤ 1000)
    (hask : ¬ CanAsk s blankQuestion) : Unsent s := by
  obtain ⟨f, -, hf⟩ := ask_of_not_canAsk hask .zero
  refine ⟨hkey, hattempts, ?_, ?_⟩
  · rw [hf]
    rfl
  · rintro ⟨k, -, waits, -, hacts⟩
    rw [hf] at hacts
    cases hacts

/-- Settings with a key that cannot stand in a header. -/
def accentedSettings : Settings := { keyedSettings with modelKey := "clé" }

/-- Settings with a temperature that is no number. -/
def feverishSettings : Settings := { keyedSettings with modelTemperature := .ofBits 0x7ff8000000000000 }

/-- Settings with a time limit that is no double. -/
def patientSettings : Settings := { keyedSettings with modelTimeout := 10 ^ 400 }

/-- Three settings with a key that keep every request from being made. -/
theorem ask_unsendable : Unsent accentedSettings ∧ Unsent feverishSettings ∧ Unsent patientSettings := by
  have hkey : (connectFault? accentedSettings).isSome = true := by decide +kernel
  have htemperature : (blankQuestion.request feverishSettings).body.isFinite = false := by decide +kernel
  have htimeout : (connectFault? patientSettings).isSome = true := by decide +kernel
  refine ⟨?_, ?_, ?_⟩
  · refine unsent_of_not_canAsk (by decide +kernel) (by decide) fun h => ?_
    rw [h.connects] at hkey
    cases hkey
  · refine unsent_of_not_canAsk (by decide +kernel) (by decide) fun h => ?_
    rw [h.finite] at htemperature
    cases htemperature
  · refine unsent_of_not_canAsk (by decide +kernel) (by decide) fun h => ?_
    rw [h.connects] at htimeout
    cases htimeout

end LeadFlow.Writer
