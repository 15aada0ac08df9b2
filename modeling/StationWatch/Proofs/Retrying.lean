import StationWatch.Service

/-!
# Calls that are tried again

A function is called through a policy, one call after another, and its outcomes are given.  A call
uses up outcomes from the first one on, each for one invocation with the arguments of the call, and
pauses between two invocations.  It ends with the first outcome that does not pass by itself, or
when no further attempt is allowed.  The next call starts with the outcome after that, and it counts
its attempts from the first one again.

How long the pauses are is up to whoever repeats the calls; what is said of them here holds for
exponential backoff, where a pause is the multiplier, doubled from attempt to attempt, within the
bounds of the policy.

## Main definitions

* `Script` — a function with given outcomes, and what was seen of it.
* `Backoff.IsExponential` — pauses that double from attempt to attempt.
* `RetryPolicy.Ends` — the outcome with which a call ends.
* `RetryPolicy.seen` — what is seen of a call.
* `RetryPolicy.Calls` — calls in a row.

## Main results

* `RetryPolicy.Ends.run_attempt` — a call that ends with an outcome.
* `RetryPolicy.exists_calls`, `RetryPolicy.Calls.unique` — calls in a row, and that they are
  determined.
* `Service.run_send` — a request is such a call.
* `calls_follow_policy` — all of this, for any function and for the requests of a service.

## References

`SPEC_FULL.md`, section 10.2, on repeated requests.
-/

namespace StationWatch

/-! ### A function with given outcomes -/

/-- What is seen of a function that is tried again. -/
inductive Mark (β : Type)
  | invoked (arguments : β)
  | paused (seconds : Float)
  deriving Repr, Inhabited

/-- A function with given outcomes. -/
structure Script (β ε α : Type) where
  /-- The outcomes to come, the next one first. -/
  outcomes : Nat → Except ε α
  /-- What was seen so far, the first one first. -/
  trace : List (Mark β)

namespace Script

variable {β ε α : Type}

/-- A script when outcomes are used up and more is seen. -/
def after (s : Script β ε α) (used : Nat) (more : List (Mark β)) : Script β ε α :=
  ⟨fun i => s.outcomes (used + i), s.trace ++ more⟩

/-- An invocation has the next outcome. -/
def invoke (arguments : β) : StateM (Script β ε α) (Except ε α) := fun s =>
  (s.outcomes 0, s.after 1 [.invoked arguments])

/-- A pause leaves the outcomes as they are. -/
def pause (seconds : Float) : StateM (Script β ε α) Unit := fun s =>
  ((), s.after 0 [.paused seconds])

/-- Around the attempts only the pauses are seen. -/
def around : Around (StateM (Script β ε α)) ε where
  failed _ _ := pure ()
  retry _ _ := pure ()
  pause := pause

@[simp] theorem run_invoke (s : Script β ε α) (arguments : β) :
    (invoke arguments).run s = pure (s.outcomes 0, s.after 1 [.invoked arguments]) := rfl

@[simp] theorem run_pause (s : Script β ε α) (seconds : Float) :
    (pause seconds).run s = pure ((), s.after 0 [.paused seconds]) := rfl

@[simp] theorem outcomes_after (s : Script β ε α) (used i : Nat) (more : List (Mark β)) :
    (s.after used more).outcomes i = s.outcomes (used + i) := rfl

@[simp] theorem after_nil (s : Script β ε α) : s.after 0 [] = s := by
  simp [after]

@[simp] theorem after_after (s : Script β ε α) (used later : Nat) (more others : List (Mark β)) :
    (s.after used more).after later others = s.after (used + later) (more ++ others) := by
  simp [after, Nat.add_assoc]

end Script

/-- Exponential backoff: after the first attempt the pause is the multiplier, and it doubles with
every further one, within the bounds of the policy; it is the greatest pause as soon as the power of
two is no double. -/
def Backoff.IsExponential (b : Backoff) : Prop :=
  ∀ (p : RetryPolicy) (doublings : Nat), b.pauseAfter p (doublings + 1) = p.doubled doublings

theorem Backoff.isExponential_exponential : exponential.IsExponential := fun _ _ => rfl

namespace RetryPolicy

variable {β ε α : Type}

/-! ### One call -/

/-- How often the function may be invoked in a call. -/
def limit (p : RetryPolicy) : Nat := (max 1 p.attempts).toNat

theorem limit_eq (p : RetryPolicy) : p.limit = (p.attempts - 1).toNat + 1 := by
  unfold limit
  omega

/-- A call that may use up so many outcomes ends with the one at this place: all before it are
failures that pass by themselves, and it is not, unless no further attempt is allowed. -/
structure Ends (passing : ε → Bool) (limit : Nat) (outcomes : Nat → Except ε α) (last : Nat) :
    Prop where
  /-- What is tried again has failed and may pass by itself. -/
  again : ∀ i < last, ∃ failure, outcomes i = .error failure ∧ passing failure = true
  /-- There are no more attempts than allowed. -/
  allowed : last < limit
  /-- A failure that may pass by itself is the last one only if all attempts were made. -/
  spent : ∀ failure, outcomes last = .error failure → passing failure = true → last + 1 = limit

variable {passing : ε → Bool} {limit last : Nat} {outcomes : Nat → Except ε α}

/-- There is only one outcome that ends a call. -/
theorem Ends.unique {other : Nat} (h : Ends passing limit outcomes last)
    (hother : Ends passing limit outcomes other) : last = other := by
  -- The earlier one of two would be tried again, and is not the last one that is allowed.
  have hle : ∀ {m n : Nat}, Ends passing limit outcomes m → Ends passing limit outcomes n →
      n ≤ m := by
    intro m n hm hn
    refine Nat.le_of_not_lt fun hlt => ?_
    obtain ⟨failure, hfailure, hpassing⟩ := hn.again m (by omega)
    have hspent := hm.spent failure hfailure hpassing
    have hallowed := hn.allowed
    omega
  exact Nat.le_antisymm (hle hother h) (hle h hother)

/-- A call ends with its first outcome if that is final or no other attempt is allowed. -/
theorem Ends.first (hpos : 0 < limit)
    (h : ∀ failure, outcomes 0 = .error failure → passing failure = true → limit = 1) :
    Ends passing limit outcomes 0 where
  again i hi := absurd hi (Nat.not_lt_zero i)
  allowed := hpos
  spent failure hfailure hpassing := (h failure hfailure hpassing).symm

/-- A call that is tried again ends as the rest of it. -/
theorem Ends.succ {failure : ε} (hfailure : outcomes 0 = .error failure)
    (hpassing : passing failure = true)
    (h : Ends passing limit (fun i => outcomes (1 + i)) last) :
    Ends passing (limit + 1) outcomes (1 + last) where
  again i hi := by
    cases i with
    | zero => exact ⟨failure, hfailure, hpassing⟩
    | succ i =>
      rw [Nat.add_comm i 1]
      exact h.again i (by omega)
  allowed := by
    have hallowed := h.allowed
    omega
  spent other hother hagain := by
    have hspent := h.spent other hother hagain
    omega

/-- What is left of a call after a failed attempt. -/
theorem Ends.tail (h : Ends passing (limit + 1) outcomes (1 + last)) :
    Ends passing limit (fun i => outcomes (1 + i)) last where
  again i hi := h.again (1 + i) (by omega)
  allowed := by
    have hallowed := h.allowed
    omega
  spent failure hfailure hpassing := by
    have hspent := h.spent failure hfailure hpassing
    omega

/-- Every call ends. -/
theorem exists_ends (passing : ε → Bool) (hpos : 0 < limit) (outcomes : Nat → Except ε α) :
    ∃ last, Ends passing limit outcomes last := by
  induction limit generalizing outcomes with
  | zero => omega
  | succ left ih =>
    by_cases hagain : ∃ failure, outcomes 0 = .error failure ∧ passing failure = true ∧ 0 < left
    · obtain ⟨failure, hfailure, hpassing, hleft⟩ := hagain
      obtain ⟨last, h⟩ := ih hleft fun i => outcomes (1 + i)
      exact ⟨1 + last, h.succ hfailure hpassing⟩
    · refine ⟨0, .first hpos ?_⟩
      intro failure hfailure hpassing
      have hnone : ¬ 0 < left := fun hleft => hagain ⟨failure, hfailure, hpassing, hleft⟩
      omega

/-- What is seen of a call after so many doublings, with so many more attempts after the first one:
invocations with the arguments of the call, and between two of them one pause. -/
def seen (p : RetryPolicy) (doublings : Nat) (arguments : β) (more : Nat) : List (Mark β) :=
  .invoked arguments ::
    (List.range more).flatMap fun i => [.paused (p.doubled (doublings + i)), .invoked arguments]

theorem seen_succ (p : RetryPolicy) (doublings : Nat) (arguments : β) (more : Nat) :
    p.seen doublings arguments (1 + more) =
      [.invoked arguments, .paused (p.doubled doublings)] ++
        p.seen (doublings + 1) arguments more := by
  rw [seen, Nat.add_comm, List.range_succ_eq_map, List.flatMap_cons, List.flatMap_map]
  simp [seen, Nat.add_assoc, Nat.add_comm 1]

section

variable (pauseAfter : Nat → Float) (arguments : β) {left : Nat} (n : Nat) {s : Script β ε α}

/-- A final outcome ends a call. -/
theorem run_attempt_of_final
    (h : ∀ failure, s.outcomes 0 = .error failure → passing failure = true → left = 0) :
    (attempt Script.around pauseAfter passing (Script.invoke arguments) left n).run s =
      pure (s.outcomes 0, s.after 1 [.invoked arguments]) := by
  cases hfirst : s.outcomes 0 with
  | ok value => cases left <;> simp [attempt, tryOnce, hfirst]
  | error failure =>
    cases hpassing : passing failure with
    | false => cases left <;> simp [attempt, tryOnce, hfirst, hpassing]
    | true =>
      obtain rfl := h failure hfirst hpassing
      simp [attempt, tryOnce, hfirst, Script.around]

/-- Another one is followed by a pause and another attempt. -/
theorem run_attempt_of_again {failure : ε} (hfailure : s.outcomes 0 = .error failure)
    (hpassing : passing failure = true) :
    (attempt Script.around pauseAfter passing (Script.invoke arguments) (left + 1) n).run s =
      (attempt Script.around pauseAfter passing (Script.invoke arguments) left (n + 1)).run
        (s.after 1 [.invoked arguments, .paused (pauseAfter n)]) := by
  rw [attempt]
  simp [tryOnce, hfailure, hpassing, Script.around]

end

section

variable {b : Backoff} (hb : b.IsExponential) (p : RetryPolicy) (arguments : β) {left : Nat}
include hb

/-- A call ends with its outcome, however many attempts were made before. -/
theorem Ends.run_attempt (doublings : Nat) {s : Script β ε α}
    (h : Ends passing (left + 1) s.outcomes last) :
    (attempt Script.around (b.pauseAfter p) passing (Script.invoke arguments) left
        (doublings + 1)).run s =
      pure (s.outcomes last, s.after (last + 1) (p.seen doublings arguments last)) := by
  -- With each failure there is one outcome and one attempt less.
  induction last generalizing left doublings s with
  | zero =>
    refine run_attempt_of_final _ arguments _ fun failure hfailure hpassing => ?_
    have hspent := h.spent failure hfailure hpassing
    omega
  | succ last ih =>
    obtain ⟨failure, hfailure, hpassing⟩ := h.again 0 (Nat.succ_pos last)
    have hallowed := h.allowed
    obtain ⟨left, rfl⟩ : ∃ less, left = less + 1 := ⟨left - 1, by omega⟩
    rw [Nat.add_comm last 1] at h ⊢
    rw [run_attempt_of_again _ arguments _ hfailure hpassing, hb, ih (doublings + 1) h.tail,
      seen_succ]
    simp [Nat.add_assoc]

/-- Every call ends, with the outcome that ends it. -/
theorem exists_ends_run (passing : ε → Bool) (s : Script β ε α) :
    ∃ last, Ends passing p.limit s.outcomes last ∧
      (p.run b Script.around passing (Script.invoke arguments)).run s =
        pure (s.outcomes last, s.after (last + 1) (p.seen 0 arguments last)) := by
  have hpos : 0 < p.limit := by
    rw [limit_eq]
    omega
  obtain ⟨last, h⟩ := exists_ends passing hpos s.outcomes
  refine ⟨last, h, ?_⟩
  rw [limit_eq] at h
  exact h.run_attempt hb p arguments 0

end

/-! ### Calls in a row -/

/-- Calls in a row, by their arguments, with the outcomes that are given when the first one begins:
their results, what is seen of them, and how many outcomes they use up.  Each call begins with the
outcome after those of the calls before it, and all of them begin with the first attempt. -/
inductive Calls (p : RetryPolicy) (passing : ε → Bool) :
    (Nat → Except ε α) → List β → List (Except ε α) → List (Mark β) → Nat → Prop
  | nil (outcomes : Nat → Except ε α) : Calls p passing outcomes [] [] [] 0
  | cons {outcomes : Nat → Except ε α} {last : Nat} (arguments : β) {rest : List β}
      {results : List (Except ε α)} {more : List (Mark β)} {used : Nat}
      (hends : Ends passing p.limit outcomes last)
      (hrest : Calls p passing (fun i => outcomes (last + 1 + i)) rest results more used) :
      Calls p passing outcomes (arguments :: rest) (outcomes last :: results)
        (p.seen 0 arguments last ++ more) (last + 1 + used)

/-- What calls in a row come to is determined by the outcomes. -/
theorem Calls.unique {p : RetryPolicy} {calls : List β} {results others : List (Except ε α)}
    {more later : List (Mark β)} {used spent : Nat}
    (h : Calls p passing outcomes calls results more used)
    (hother : Calls p passing outcomes calls others later spent) :
    results = others ∧ more = later ∧ used = spent := by
  induction h generalizing others later spent with
  | nil outcomes =>
    cases hother
    exact ⟨rfl, rfl, rfl⟩
  | cons arguments hends hrest ih =>
    cases hother with
    | cons _ hends' hrest' =>
      cases hends.unique hends'
      obtain ⟨rfl, rfl, rfl⟩ := ih hrest'
      exact ⟨rfl, rfl, rfl⟩

/-- Calls in a row are as they should be. -/
theorem exists_calls {b : Backoff} (hb : b.IsExponential) (p : RetryPolicy) (passing : ε → Bool)
    (calls : List β) (s : Script β ε α) :
    ∃ results more used, Calls p passing s.outcomes calls results more used ∧
      (calls.mapM fun arguments =>
        p.run b Script.around passing (Script.invoke arguments)).run s =
          pure (results, s.after used more) := by
  induction calls generalizing s with
  | nil => exact ⟨[], [], 0, .nil _, by simp⟩
  | cons arguments rest ih =>
    obtain ⟨last, hends, hrun⟩ := exists_ends_run hb p arguments passing s
    obtain ⟨results, more, used, hcalls, hrest⟩ :=
      ih (s.after (last + 1) (p.seen 0 arguments last))
    refine ⟨_, _, _, .cons arguments hends hcalls, ?_⟩
    simp [List.mapM_cons, hrun, hrest]

end RetryPolicy

/-! ### The requests of a service -/

namespace Script

/-- A network that answers requests with the outcomes. -/
def answer (r : Request) (s : Script Request NetworkFailure Response) :
    Reply × Script Request NetworkFailure Response :=
  match s.outcomes 0 with
  | .ok response => (.response response, s.after 1 [.invoked r])
  | .error failure => (.failure failure, s.after 1 [.invoked r])

/-- Of all effects only the pauses are seen. -/
def note (effect : Effect) (s : Script Request NetworkFailure Response) :
    Script Request NetworkFailure Response :=
  match effect with
  | .pause seconds => s.after 0 [.paused seconds]
  | _ => s

end Script

namespace Service

theorem run_request (r : Request) (s : Script Request NetworkFailure Response) :
    (Reply.result <$> Dialogue.request r).run Script.answer Script.note s =
      (s.outcomes 0, s.after 1 [.invoked r]) := by
  rw [map_eq_pure_bind, Dialogue.run_bind]
  show ((Script.answer r s).1.result, (Script.answer r s).2) = _
  rw [Script.answer]
  cases s.outcomes 0 <;> rfl

/-- A failure that passes by itself is reported, and then comes what follows it. -/
theorem run_failed (c : Service) (n : Nat) (failure : NetworkFailure)
    (again : Dialogue (Except NetworkFailure Response))
    (s : Script Request NetworkFailure Response) :
    (do c.around.failed n failure; again).run Script.answer Script.note s =
      again.run Script.answer Script.note s := rfl

/-- So is the pause before the next attempt, which alone is seen. -/
theorem run_retry (c : Service) (seconds : Float) (failure : NetworkFailure)
    (again : Dialogue (Except NetworkFailure Response))
    (s : Script Request NetworkFailure Response) :
    (do c.around.retry seconds failure; c.around.pause seconds; again).run
        Script.answer Script.note s =
      again.run Script.answer Script.note (s.after 0 [.paused seconds]) := rfl

/-- The attempts at a request are those at a call with it. -/
theorem run_attempt (c : Service) (pauseAfter : Nat → Float) (r : Request) (left n : Nat)
    (s : Script Request NetworkFailure Response) :
    (RetryPolicy.attempt c.around pauseAfter NetworkFailure.isTransient
        (Reply.result <$> Dialogue.request r) left n).run Script.answer Script.note s =
      (RetryPolicy.attempt Script.around pauseAfter NetworkFailure.isTransient (Script.invoke r)
        left n).run s := by
  induction left generalizing n s with
  | zero =>
    rw [RetryPolicy.run_attempt_of_final pauseAfter r n fun _ _ _ => rfl, RetryPolicy.attempt,
      RetryPolicy.tryOnce, Dialogue.run_bind, run_request]
    cases hfirst : s.outcomes 0 with
    | ok response => rfl
    | error failure => cases hpassing : failure.isTransient <;> simp only [hpassing] <;> rfl
  | succ left ih =>
    rw [RetryPolicy.attempt, RetryPolicy.tryOnce, Dialogue.run_bind, run_request]
    cases hfirst : s.outcomes 0 with
    | ok response =>
      rw [RetryPolicy.run_attempt_of_final pauseAfter r n (by simp [hfirst]), hfirst]
      rfl
    | error failure =>
      cases hpassing : failure.isTransient with
      | false =>
        rw [RetryPolicy.run_attempt_of_final pauseAfter r n (by simp [hfirst, hpassing]), hfirst]
        simp only [hpassing]
        rfl
      | true =>
        rw [RetryPolicy.run_attempt_of_again pauseAfter r n hfirst hpassing]
        simp only [hpassing, if_true, run_failed, run_retry, ih, Script.after_after]
        rfl

/-- The requests of a service are calls with its policy. -/
theorem run_send (c : Service) (url : RawText) (s : Script Request NetworkFailure Response) :
    (c.send url).run Script.answer Script.note s =
      (c.policy.run c.platform.backoff Script.around NetworkFailure.isTransient
        (Script.invoke (c.requestFor url))).run s :=
  c.run_attempt _ (c.requestFor url) _ 1 s

theorem run_sends (c : Service) (urls : List RawText)
    (s : Script Request NetworkFailure Response) :
    (urls.mapM c.send).run Script.answer Script.note s =
      ((urls.map c.requestFor).mapM fun r =>
        c.policy.run c.platform.backoff Script.around NetworkFailure.isTransient
          (Script.invoke r)).run s := by
  induction urls generalizing s with
  | nil => rfl
  | cons url urls ih =>
    rw [List.mapM_cons, Dialogue.run_bind, Dialogue.run_bind, run_send, ih, List.map_cons,
      List.mapM_cons]
    rfl

end Service

/-- **Calls that are tried again.**  With exponential backoff each of a row of calls invokes the
function with its arguments up to the first outcome that is neither a failure of the connection nor
one of the time limit, or up to the number of attempts, of which there is at least one.  The result
is the outcome of the last invocation.  Between two invocations, and nowhere else, there is one
pause: the multiplier doubled from attempt to attempt, within the bounds.  Every call starts with
the first pause again.  The requests of a service are calls of this kind. -/
theorem calls_follow_policy :
    (∀ {β ε α : Type} (b : Backoff) (p : RetryPolicy) (isConnection isTimeout : ε → Bool)
      (calls : List β) (s : Script β ε α), b.IsExponential →
      let passing := fun failure => isConnection failure || isTimeout failure
      ∃ results more used, p.Calls passing s.outcomes calls results more used ∧
        (calls.mapM fun arguments =>
          p.run b Script.around passing (Script.invoke arguments)).run s =
            (results, s.after used more)) ∧
    ∀ (c : Service) (urls : List RawText) (s : Script Request NetworkFailure Response),
      c.platform.backoff.IsExponential →
      let passing := fun failure : NetworkFailure =>
        failure.kind.isConnection || failure.kind.isTimeout
      ∃ results more used,
        c.policy.Calls passing s.outcomes (urls.map c.requestFor) results more used ∧
        (urls.mapM c.send).run Script.answer Script.note s = (results, s.after used more) := by
  refine ⟨?_, ?_⟩
  · intro β ε α b p isConnection isTimeout calls s hb passing
    exact RetryPolicy.exists_calls hb p passing calls s
  · intro c urls s hb passing
    obtain ⟨results, more, used, hcalls, hrun⟩ :=
      RetryPolicy.exists_calls hb c.policy passing (urls.map c.requestFor) s
    exact ⟨results, more, used, hcalls, (c.run_sends urls s).trans hrun⟩

/-- Two calls: the first one succeeds at the third attempt, and the second one at its first. -/
theorem third_attempt_succeeds :
    let p : RetryPolicy := { attempts := 3, minWait := 0.0, maxWait := 3.5 }
    let s : Script String NetworkFailure Nat :=
      ⟨fun i => if i < 2 then .error ⟨.timeout, "late"⟩ else .ok i, []⟩
    let passing := fun failure : NetworkFailure =>
      failure.kind.isConnection || failure.kind.isTimeout
    ((["a", "b"].mapM fun arguments =>
        p.run .exponential Script.around passing (Script.invoke arguments)).run s).1 =
      [.ok 2, .ok 3] ∧
    ((["a", "b"].mapM fun arguments =>
        p.run .exponential Script.around passing (Script.invoke arguments)).run s).2.trace =
      [.invoked "a", .paused 2.0, .invoked "a", .paused 3.5, .invoked "a", .invoked "b"] := by
  intro p s passing
  obtain ⟨results, more, used, hcalls, hrun⟩ :=
    calls_follow_policy.1 .exponential p (fun failure : NetworkFailure => failure.kind.isConnection)
      (fun failure => failure.kind.isTimeout) ["a", "b"] s Backoff.isExponential_exponential
  have hfirst : RetryPolicy.Ends passing p.limit s.outcomes 2 :=
    ⟨fun i hi => ⟨_, if_pos hi, rfl⟩, by decide, fun _ h => by cases h⟩
  have hsecond : RetryPolicy.Ends passing p.limit (fun i => s.outcomes (2 + 1 + i)) 0 :=
    ⟨fun i hi => absurd hi (Nat.not_lt_zero i), by decide, fun _ h => by cases h⟩
  obtain ⟨rfl, rfl, rfl⟩ := hcalls.unique (.cons "a" hfirst (.cons "b" hsecond (.nil _)))
  have honce : p.doubled 0 = 2.0 := by decide +kernel
  have htwice : p.doubled 1 = 3.5 := by decide +kernel
  rw [hrun, ← honce, ← htwice]
  exact ⟨rfl, rfl⟩

end StationWatch
