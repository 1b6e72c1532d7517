import LeadFlow.Program.Course
import LeadFlow.Program.Retried
import Mathlib

set_option autoImplicit false

/-!
# Programs: attempts in turn

What a program does where every call gets the answer whose turn it is: its calls and waits in order, and
how it ends.  A run that no time limit cuts off does just that (`run_inTurn_of_finished`).

Main statement: `retried_inTurn`.  A retried call is made up to the first attempt that settles it, with the
waits of its strategy between the attempts, and ends as that attempt did.
-/

namespace LeadFlow

open Calendar

/-- What a program does that shows outside. -/
inductive Act (I : Interface) where
  | call (c : I.Call)
  | pause (seconds : Float)

namespace Act

variable {I : Interface}

/-- The call, if it is one. -/
def call? : Act I → Option I.Call
  | call c => some c
  | pause _ => none

/-- A call, and the same call again after each wait. -/
def repeated (c : I.Call) (waits : List Float) : List (Act I) :=
  call c :: waits.flatMap fun seconds => [pause seconds, call c]

theorem repeated_cons (c : I.Call) (seconds : Float) (waits : List Float) :
    repeated c (seconds :: waits) = call c :: pause seconds :: repeated c waits := rfl

/-- There is one call more than waits. -/
theorem calls_repeated (c : I.Call) (waits : List Float) :
    (repeated c waits).filterMap call? = List.replicate (waits.length + 1) c := by
  induction waits with
  | nil => rfl
  | cons seconds waits ih =>
    rw [repeated_cons, List.length_cons, List.replicate_succ, ← ih]
    rfl

end Act

namespace Program

variable {I : Interface} {α β : Type}

/-- What a program does and how it ends if its next call gets answer number `turn`, the one after it the
next answer, and so on, while the clock shows one time. -/
def inTurn (answers : Nat → (c : I.Call) → Outcome (I.Reply c)) (now : Moment) :
    Nat → Program I α → List (Act I) × Outcome α
  | _, done a => ([], .ok a)
  | _, fail f => ([], .error f)
  | turn, call c next =>
    let rest := inTurn answers now (turn + 1) (next (answers turn c))
    (.call c :: rest.1, rest.2)
  | turn, pause seconds next =>
    let rest := inTurn answers now turn next
    (.pause seconds :: rest.1, rest.2)
  | turn, .now next => inTurn answers now turn (next now)

/-- A program that starts with a call. -/
theorem inTurn_call (answers : Nat → (c : I.Call) → Outcome (I.Reply c)) (now : Moment) (turn : Nat)
    (c : I.Call) (next : Outcome (I.Reply c) → Program I α) :
    (call c next).inTurn answers now turn =
      (.call c :: ((next (answers turn c)).inTurn answers now (turn + 1)).1,
        ((next (answers turn c)).inTurn answers now (turn + 1)).2) := rfl

section Runs

/-- The program does not read the clock. -/
def Clockless : Program I α → Prop
  | done _ => True
  | fail _ => True
  | call _ next => ∀ answer, (next answer).Clockless
  | pause _ next => next.Clockless
  | .now _ => False

/-- The outside counts the calls and answers each as its turn says. -/
structure AnswersInTurn {τ σ : Type} (outside : Outside I τ σ) (turn : σ → Nat)
    (answers : Nat → (c : I.Call) → Outcome (I.Reply c)) : Prop where
  outcome : ∀ now c world, (outside now c world).outcome = answers (turn world) c
  next : ∀ now c world, turn (outside now c world).world = turn world + 1

variable {τ σ : Type} [Timeline τ] {outside : Outside I τ σ} {turn : σ → Nat}
  {answers : Nat → (c : I.Call) → Outcome (I.Reply c)}

/-- A program that does not read the clock makes the calls of its acts and ends as they do, unless a time
limit cuts it off. -/
theorem run_inTurn_of_finished (h : AnswersInTurn outside turn answers) {p : Program I α}
    (hp : p.Clockless) (now : Moment) {stop : Option τ} {c c' : Course I τ σ} {o : Outcome α}
    (hrun : p.run outside stop c = (.finished o, c')) :
    o = (p.inTurn answers now (turn c.world)).2 ∧
      c'.calls.map (·.2) =
        c.calls.map (·.2) ++ (p.inTurn answers now (turn c.world)).1.filterMap Act.call? := by
  induction p generalizing c with
  | done a =>
    obtain ⟨rfl, rfl⟩ : Except.ok a = o ∧ c = c' := by simpa [run] using hrun
    exact ⟨rfl, (List.append_nil _).symm⟩
  | fail f =>
    obtain ⟨rfl, rfl⟩ : Except.error f = o ∧ c = c' := by simpa [run] using hrun
    exact ⟨rfl, (List.append_nil _).symm⟩
  | now next _ => exact hp.elim
  | pause seconds next ih =>
    simp only [run] at hrun
    split at hrun
    · rename_i t _
      exact @ih hp { c with time := t } hrun
    · cases hrun
  | call k next ih =>
    simp only [run] at hrun
    split at hrun
    · rename_i t _
      obtain ⟨c₁, hc₁⟩ : ∃ c₁ : Course I τ σ,
        { c.noting k (outside c.now k c.world).world with time := t } = c₁ := ⟨_, rfl⟩
      have hturn : turn c₁.world = turn c.world + 1 := by
        rw [← hc₁]
        exact h.next c.now k c.world
      have hcalls : c₁.calls.map (·.2) = c.calls.map (·.2) ++ [k] := by
        simp [← hc₁, Course.noting]
      rw [h.outcome, hc₁] at hrun
      obtain ⟨hending, hmade⟩ := ih _ (hp _) hrun
      rw [hturn] at hending hmade
      rw [hcalls, List.append_assoc] at hmade
      exact ⟨hending, hmade⟩
    · cases hrun

/-- Without a stop, nothing is cut off. -/
theorem after_none (time wait : τ) : ∃ t, Timeline.after none time wait = some t := by
  unfold Timeline.after
  split
  · exact ⟨_, rfl⟩
  · exact ⟨_, rfl⟩

theorem run_none_finished (outside : Outside I τ σ) (p : Program I α) (c : Course I τ σ) :
    ∃ o c', p.run outside none c = (.finished o, c') := by
  induction p generalizing c with
  | done a => exact ⟨.ok a, c, rfl⟩
  | fail f => exact ⟨.error f, c, rfl⟩
  | now next ih => exact ih c.now c
  | pause seconds next ih =>
    obtain ⟨t, ht⟩ := after_none c.time (Timeline.ofSeconds seconds)
    simp only [run, ht]
    exact ih { c with time := t }
  | call k next ih =>
    obtain ⟨t, ht⟩ := after_none c.time (outside c.now k c.world).delay
    simp only [run, ht]
    exact ih _ _

/-- Without a time limit, the program makes all of those calls. -/
theorem run_inTurn (h : AnswersInTurn outside turn answers) {p : Program I α} (hp : p.Clockless)
    (now : Moment) (c : Course I τ σ) :
    (p.run outside none c).1 = .finished (p.inTurn answers now (turn c.world)).2 ∧
      (p.run outside none c).2.calls.map (·.2) =
        c.calls.map (·.2) ++ (p.inTurn answers now (turn c.world)).1.filterMap Act.call? := by
  obtain ⟨o, c', hrun⟩ := run_none_finished outside p c
  obtain ⟨hending, hmade⟩ := run_inTurn_of_finished h hp now hrun
  rw [hrun]
  exact ⟨congrArg Ending.finished hending, hmade⟩

end Runs

/-! ## Rows of attempts -/

/-- The attempt that ends a row of them: the first that settles the matter, or the last of `left` further
ones. -/
def lastAttempt (settles : Nat → Bool) : Nat → Nat → Nat
  | 0, attempt => attempt
  | left + 1, attempt => if settles attempt then attempt else lastAttempt settles left (attempt + 1)

/-- The attempts that may end a row: those that settle the matter, and the last that is allowed. -/
def Final (settles : Nat → Bool) (first last : Nat) : Set Nat :=
  {k | first ≤ k ∧ (settles k = true ∨ k = last)}

theorem lastAttempt_isLeast (settles : Nat → Bool) (left attempt : Nat) :
    IsLeast (Final settles attempt (attempt + left)) (lastAttempt settles left attempt) := by
  induction left generalizing attempt with
  | zero =>
    refine ⟨⟨Nat.le_refl _, .inr rfl⟩, ?_⟩
    rintro k ⟨hk, -⟩
    exact hk
  | succ left ih =>
    unfold lastAttempt
    split
    · rename_i hsettles
      refine ⟨⟨Nat.le_refl _, .inl hsettles⟩, ?_⟩
      rintro k ⟨hk, -⟩
      exact hk
    · rename_i hgoes
      obtain ⟨⟨hfirst, hfinal⟩, hleast⟩ := ih (attempt + 1)
      have hlast : attempt + 1 + left = attempt + (left + 1) := by omega
      rw [hlast] at hfinal hleast
      refine ⟨⟨by omega, hfinal⟩, ?_⟩
      rintro k ⟨hk, hk'⟩
      have hne : k ≠ attempt := by
        rintro rfl
        rcases hk' with hsettles | heq
        · exact hgoes hsettles
        · omega
      exact hleast ⟨by omega, hk'⟩

/-- The waits before the attempts from `first` to `last`, if each is defined. -/
def Waits (s : RetryStrategy) (first last : Nat) (waits : List Float) : Prop :=
  waits.map Except.ok = (List.range' first (last - first)).map s.waitFor

theorem Waits.length_eq {s : RetryStrategy} {first last : Nat} {waits : List Float}
    (h : Waits s first last waits) : waits.length = last - first := by
  simpa using congrArg List.length h

theorem Waits.cons {s : RetryStrategy} {first last : Nat} {seconds : Float} {waits : List Float}
    (hfirst : s.waitFor first = .ok seconds) (hlast : first < last) (h : Waits s (first + 1) last waits) :
    Waits s first last (seconds :: waits) := by
  unfold Waits at h ⊢
  obtain ⟨n, hn⟩ : ∃ n, last - first = n + 1 := ⟨last - first - 1, by omega⟩
  have hrest : last - (first + 1) = n := by omega
  rw [hrest] at h
  rw [hn, List.range'_succ, List.map_cons, List.map_cons, h, hfirst]

/-- The wait before a retry whose growth is known. -/
theorem delayFor_eq {s : RetryStrategy} {retry growth : Num} {i : Int}
    (hretry : (retry.lt (.int 1) || s.delay.le (.int 0)) = false) (hi : retry.add (.int (-1)) = .ok (.int i))
    (hgrowth : s.factor.power? (.int i) = .ok (some growth)) :
    s.delayFor retry = (s.delay.mul growth).map fun wait => (wait.least s.maxDelay).roundTo 3 := by
  rw [RetryStrategy.delayFor, hretry, hi]
  change (s.factor.power? (.int i)).bind _ = _
  rw [hgrowth]
  change (s.delay.mul growth).bind _ = _
  cases s.delay.mul growth with
  | ok wait => rfl
  | error f => rfl

/-- Waits that double are defined as long as the power of two is a double. -/
theorem exists_waitFor_doubling (retries : Num) (delay maxDelay : Float) {i : Nat} (hi : i ≤ 1024) :
    ∃ seconds, (RetryStrategy.backoff retries (.float delay) (.float maxDelay) (.float 2)).waitFor i =
      .ok seconds := by
  obtain ⟨s, hs⟩ : ∃ s, RetryStrategy.backoff retries (.float delay) (.float maxDelay) (.float 2) = s :=
    ⟨_, rfl⟩
  rw [hs]
  cases hretry : ((Num.int i).lt (.int 1) || s.delay.le (.int 0)) with
  | true =>
    refine ⟨0, ?_⟩
    rw [RetryStrategy.waitFor, RetryStrategy.delayFor, hretry]
    rfl
  | false =>
    have htwo : ((2 : Float) == 2) = true := rfl
    have hsmall : ((i : Int) + -1).toNat < 1024 := by omega
    have hgrowth : s.factor.power? (.int ((i : Int) + -1)) =
        .ok (some (.float (Num.powerOfTwo ((i : Int) + -1).toNat))) := by
      rw [← hs, RetryStrategy.backoff, Num.power?, htwo, decide_eq_true hsmall]
      rfl
    obtain ⟨x, hx⟩ : ∃ x, ((Num.float (delay * Num.powerOfTwo ((i : Int) + -1).toNat)).least
        (.float maxDelay)).roundTo 3 = .float x := by
      unfold Num.least
      split
      · exact ⟨_, rfl⟩
      · exact ⟨_, rfl⟩
    refine ⟨x, ?_⟩
    rw [RetryStrategy.waitFor, delayFor_eq hretry rfl hgrowth, ← hs]
    exact congrArg Num.toFloat hx

/-! ## Retried calls -/

/-- An attempt that is not repeated: it gave a value, or its fault does not look like a passing one. -/
def settled {ρ : Type} : Outcome ρ → Bool
  | .ok _ => true
  | .error f => !f.isTransient

variable {answers : Nat → (c : I.Call) → Outcome (I.Reply c)} {now : Moment} {s : RetryStrategy} {c : I.Call}

theorem perform_inTurn (turn : Nat) : (perform c).inTurn answers now turn = ([.call c], answers turn c) := by
  rw [perform, inTurn]
  cases answers turn c with
  | ok r => rfl
  | error f => rfl

/-- An attempt that settles the matter is the last. -/
theorem retriedFrom_settled (left : Nat) {attempt : Nat} (h : settled (answers attempt c) = true) :
    (retriedFrom s c (left + 1) attempt).inTurn answers now attempt = ([.call c], answers attempt c) := by
  rw [retriedFrom, inTurn]
  cases hanswer : answers attempt c with
  | ok r => rfl
  | error f =>
    have hlasting : f.isTransient = false := by simpa [hanswer, settled] using h
    simp only [hlasting]
    rfl

/-- Any other is followed by a wait and the next attempt. -/
theorem retriedFrom_again (left : Nat) {attempt : Nat} {seconds : Float}
    (h : settled (answers attempt c) = false) (hwait : s.waitFor attempt = .ok seconds) :
    (retriedFrom s c (left + 1) attempt).inTurn answers now attempt =
      let rest := (retriedFrom s c left (attempt + 1)).inTurn answers now (attempt + 1)
      (.call c :: .pause seconds :: rest.1, rest.2) := by
  rw [retriedFrom, inTurn]
  cases hanswer : answers attempt c with
  | ok r =>
    rw [hanswer] at h
    cases h
  | error f =>
    have hpassing : f.isTransient = true := by simpa [hanswer, settled] using h
    simp only [hpassing, hwait]
    rfl

/-- A retried call makes its attempts, with the waits between them, and ends as the last of them did. -/
theorem retriedFrom_acts (now : Moment) (left attempt : Nat)
    (hwaits : ∀ i, attempt ≤ i → i < lastAttempt (fun i => settled (answers i c)) left attempt →
      ∃ seconds, s.waitFor i = .ok seconds) :
    let k := lastAttempt (fun i => settled (answers i c)) left attempt
    ∃ waits, Waits s attempt k waits ∧
      (retriedFrom s c left attempt).inTurn answers now attempt = (Act.repeated c waits, answers k c) := by
  -- the number of the next call is that of the attempt all along
  induction left generalizing attempt with
  | zero => exact ⟨[], by simp [Waits, lastAttempt], perform_inTurn attempt⟩
  | succ left ih =>
    rw [lastAttempt] at hwaits ⊢
    cases hsettled : settled (answers attempt c) with
    | true => exact ⟨[], by simp [Waits], retriedFrom_settled left hsettled⟩
    | false =>
      simp only [hsettled] at hwaits
      have hlater := (lastAttempt_isLeast (fun i => settled (answers i c)) left (attempt + 1)).1.1
      obtain ⟨seconds, hseconds⟩ := hwaits attempt (Nat.le_refl _) hlater
      obtain ⟨waits, hrest, hacts⟩ := ih (attempt + 1) fun i hi hi' => hwaits i (by omega) hi'
      refine ⟨seconds :: waits, hrest.cons hseconds hlater, ?_⟩
      rw [retriedFrom_again left hsettled hseconds, hacts]
      rfl

/-- So it does if every wait that may come up is defined. -/
theorem retriedFrom_inTurn (now : Moment) (left attempt : Nat)
    (hwaits : ∀ i, attempt ≤ i → i < attempt + left → ∃ seconds, s.waitFor i = .ok seconds) :
    let k := lastAttempt (fun i => settled (answers i c)) left attempt
    ∃ waits, Waits s attempt k waits ∧
      (retriedFrom s c left attempt).inTurn answers now attempt = (Act.repeated c waits, answers k c) := by
  obtain ⟨-, hleast⟩ := lastAttempt_isLeast (fun i => settled (answers i c)) left attempt
  have hlast : lastAttempt (fun i => settled (answers i c)) left attempt ≤ attempt + left :=
    hleast ⟨by omega, .inr rfl⟩
  exact retriedFrom_acts now left attempt fun i hi hi' => hwaits i hi (by omega)

theorem retriedFrom_clockless (left attempt : Nat) : (retriedFrom s c left attempt).Clockless := by
  induction left generalizing attempt with
  | zero =>
    intro answer
    cases answer with
    | ok r => trivial
    | error f => trivial
  | succ left ih =>
    intro answer
    cases answer with
    | ok r => trivial
    | error f =>
      dsimp only
      split
      · split
        · exact ih _
        · trivial
      · trivial

/-- A run of a retried call without a time limit makes that call as often as it has attempts. -/
theorem run_retriedFrom {τ σ : Type} [Timeline τ] {outside : Outside I τ σ} {turn : σ → Nat}
    (h : AnswersInTurn outside turn answers) (left : Nat) (j : Course I τ σ)
    (hwaits : ∀ i, turn j.world ≤ i → i < turn j.world + left → ∃ seconds, s.waitFor i = .ok seconds) :
    ∃ k, IsLeast (Final (fun i => settled (answers i c)) (turn j.world) (turn j.world + left)) k ∧
      ((retriedFrom s c left (turn j.world)).run outside none j).1 = .finished (answers k c) ∧
      ((retriedFrom s c left (turn j.world)).run outside none j).2.calls.map (·.2) =
        j.calls.map (·.2) ++ List.replicate (k - turn j.world + 1) c := by
  obtain ⟨waits, hwaits', hacts⟩ := retriedFrom_inTurn (c := c) j.now left (turn j.world) hwaits
  obtain ⟨hending, hmade⟩ := run_inTurn h (retriedFrom_clockless left (turn j.world)) j.now j
  rw [hacts] at hending hmade
  refine ⟨_, lastAttempt_isLeast _ left (turn j.world), hending, ?_⟩
  rw [hmade, Act.calls_repeated, hwaits'.length_eq]

/-- A run of a retried call that is not cut off makes that call up to the attempt that settles it. -/
theorem run_retried_of_finished {τ σ : Type} [Timeline τ] {outside : Outside I τ σ} {turn : σ → Nat}
    (h : AnswersInTurn outside turn answers) {stop : Option τ} {j j' : Course I τ σ}
    (hfirst : turn j.world = 1) {k : Nat}
    (hk : IsLeast (Final (fun i => settled (answers i c)) 1 (s.limit + 1)) k)
    (hwaits : ∀ i, 1 ≤ i → i < k → ∃ seconds, s.waitFor i = .ok seconds) {o : Outcome (I.Reply c)}
    (hrun : (retried s c).run outside stop j = (.finished o, j')) :
    o = answers k c ∧ j'.calls.map (·.2) = j.calls.map (·.2) ++ List.replicate k c := by
  have hlast := lastAttempt_isLeast (fun i => settled (answers i c)) s.limit 1
  rw [Nat.add_comm] at hlast
  obtain rfl := hk.unique hlast
  obtain ⟨waits, hwaits', hacts⟩ := retriedFrom_acts j.now s.limit 1 hwaits
  obtain ⟨hending, hmade⟩ := run_inTurn_of_finished h (retriedFrom_clockless s.limit 1) j.now hrun
  rw [hfirst, hacts] at hending hmade
  refine ⟨hending, ?_⟩
  rw [hmade, Act.calls_repeated, hwaits'.length_eq, Nat.sub_add_cancel hk.1.1]

/-- Exactly the attempts that are allowed: a retried call is made again, with the waits of its strategy
between, until an attempt settles the matter or none is left, and it ends as the last of them did.  For
storage, a number of retries that is negative counts as none. -/
theorem retried_inTurn :
    (∀ (I : Interface) (s : RetryStrategy) (n : Nat) (c : I.Call)
        (answers : Nat → (c : I.Call) → Outcome (I.Reply c)) (now : Moment), s.retries = .int n →
      (∀ i, 1 ≤ i → i ≤ n → ∃ seconds, s.waitFor i = .ok seconds) →
      ∃ k, IsLeast (Final (fun i => settled (answers i c)) 1 (n + 1)) k ∧ k ≤ n + 1 ∧
        ∃ waits, Waits s 1 k waits ∧
          (retried s c).inTurn answers now 1 = (Act.repeated c waits, answers k c)) ∧
    ∀ settings, (RetryStrategy.forStorage settings).retries = .int (max settings.storageRetries 0) := by
  constructor
  · intro I s n c answers now hretries hwaits
    have hlimit : s.limit = n := by
      unfold RetryStrategy.limit
      rw [hretries]
      exact Int.toNat_natCast n
    obtain ⟨hmem, hleast⟩ := lastAttempt_isLeast (fun i => settled (answers i c)) n 1
    rw [Nat.add_comm 1 n] at hmem hleast
    refine ⟨_, ⟨hmem, hleast⟩, hleast ⟨by omega, .inr rfl⟩, ?_⟩
    rw [retried, hlimit]
    exact retriedFrom_inTurn now n 1 fun i hi hi' => hwaits i hi (by omega)
  · intro settings
    unfold RetryStrategy.forStorage
    split
    · rename_i hnone
      rw [max_eq_right hnone]
      rfl
    · rename_i hsome
      rw [max_eq_left (by omega)]
      rfl

/-- One call, answered by a number. -/
def asking : Interface := ⟨Unit, fun _ => Nat⟩

/-- The first answer comes too late. -/
def lateAtFirst (turn : Nat) (_ : asking.Call) : Outcome Nat :=
  if turn = 1 then .error ⟨.timeout, none⟩ else .ok 7

/-- A call that times out once is made again after one wait, and ends with the second answer. -/
theorem retried_inTurn_once : ∃ seconds : Float,
    (retried (I := asking) (.backoff (.int 2) (.float 1) (.float 30) (.float 2)) ()).inTurn lateAtFirst
        ⟨0, none, false⟩ 1 = ([.call (), .pause seconds, .call ()], .ok (7 : Nat)) := by
  obtain ⟨k, hk, -, waits, hwaits, hacts⟩ := retried_inTurn.1 asking
    (.backoff (.int 2) (.float 1) (.float 30) (.float 2)) 2 () lateAtFirst ⟨0, none, false⟩ rfl
    fun i _ hi => exists_waitFor_doubling _ _ _ (by omega)
  obtain rfl : k = 2 := hk.unique (lastAttempt_isLeast (fun i => settled (lateAtFirst i ())) 2 1)
  have hlength := hwaits.length_eq
  match waits, hlength with
  | [seconds], _ => exact ⟨seconds, hacts⟩

end Program

end LeadFlow
