import StationWatch.Log
import StationWatch.Network
import StationWatch.Status

/-!
# Dialogues with the outside

What the watch does towards the outside is a dialogue: requests that wait for a reply, and effects
that do not.  A dialogue is a tree with one branch for every reply, so the same description serves
any network: a run gives meaning to requests and effects on a state of its own.

## Main definitions

* `Effect` — pausing, reporting, entering a phase.
* `Dialogue` — the tree.
* `Dialogue.run` — a run on a state.

## Main results

* `run_bind` — a run of two dialogues in a row is a run of each.
* `run_preserves` — what replies and effects keep, a run keeps.
-/

namespace StationWatch

/-- Something done without an answer. -/
inductive Effect
  | pause (seconds : Float)
  | log (entry : LogEntry)
  | enter (phase : Phase)
  deriving Repr, Inhabited

/-- Requests and effects in order, with one branch for every reply. -/
inductive Dialogue (α : Type)
  /-- The end, with its result. -/
  | done (result : α)
  /-- An effect, and what follows. -/
  | act (effect : Effect) (rest : Dialogue α)
  /-- A request, and what follows each reply. -/
  | ask (request : Request) (next : Reply → Dialogue α)

namespace Dialogue

variable {α β γ σ : Type}

/-- One dialogue after another, which may depend on the result of the first. -/
def bind : Dialogue α → (α → Dialogue β) → Dialogue β
  | .done result, f => f result
  | .act effect rest, f => .act effect (bind rest f)
  | .ask request next, f => .ask request fun reply => bind (next reply) f

instance : Monad Dialogue where
  pure := .done
  bind := bind

/-- A single request. -/
def request (r : Request) : Dialogue Reply := .ask r .done

/-- A single effect. -/
def perform (effect : Effect) : Dialogue Unit := .act effect (.done ())

/-- Waiting. -/
def pause (seconds : Float) : Dialogue Unit := perform (.pause seconds)

/-- Reporting. -/
def log (level : Level) (source : Source) (message : RawText) : Dialogue Unit :=
  perform (.log ⟨level, source, message⟩)

/-- Entering a phase. -/
def enter (phase : Phase) : Dialogue Unit := perform (.enter phase)

/-- A run on a state: `reply` answers requests, `act` carries out effects. -/
def run (reply : Request → σ → Reply × σ) (act : Effect → σ → σ) : Dialogue α → σ → α × σ
  | .done result, s => (result, s)
  | .act effect rest, s => run reply act rest (act effect s)
  | .ask request next, s =>
    let answered := reply request s
    run reply act (next answered.1) answered.2

variable (reply : Request → σ → Reply × σ) (act : Effect → σ → σ)

@[simp] theorem run_done (result : α) (s : σ) : run reply act (.done result) s = (result, s) := rfl

@[simp] theorem run_pure (result : α) (s : σ) :
    run reply act (pure result) s = (result, s) := rfl

@[simp] theorem run_act (effect : Effect) (rest : Dialogue α) (s : σ) :
    run reply act (.act effect rest) s = run reply act rest (act effect s) := rfl

@[simp] theorem run_ask (r : Request) (next : Reply → Dialogue α) (s : σ) :
    run reply act (.ask r next) s = run reply act (next (reply r s).1) (reply r s).2 := rfl

/-- A run of two dialogues in a row is a run of each. -/
@[simp] theorem run_bind (d : Dialogue α) (f : α → Dialogue β) (s : σ) :
    run reply act (d >>= f) s = run reply act (f (run reply act d s).1) (run reply act d s).2 := by
  change run reply act (bind d f) s = _
  induction d generalizing s with
  | done result => rfl
  | act effect rest ih => exact ih (act effect s)
  | ask r next ih => exact ih (reply r s).1 (reply r s).2

/-- What replies and effects keep, a run keeps. -/
theorem run_preserves {P : σ → Prop} (hreply : ∀ r s, P s → P (reply r s).2)
    (hact : ∀ e s, P s → P (act e s)) (d : Dialogue α) (s : σ) (h : P s) :
    P (run reply act d s).2 := by
  induction d generalizing s with
  | done result => exact h
  | act effect rest ih => exact ih _ (hact effect s h)
  | ask r next ih => exact ih _ _ (hreply r s h)

theorem bind_done (d : Dialogue α) : bind d .done = d := by
  induction d with
  | done result => rfl
  | act effect rest ih => simp [bind, ih]
  | ask r next ih => simp [bind, ih]

theorem bind_assoc (d : Dialogue α) (f : α → Dialogue β) (g : β → Dialogue γ) :
    bind (bind d f) g = bind d fun a => bind (f a) g := by
  induction d with
  | done result => rfl
  | act effect rest ih => simp [bind, ih]
  | ask r next ih => simp [bind, ih]

instance : LawfulMonad Dialogue := by
  refine LawfulMonad.mk' Dialogue ?_ ?_ ?_
  · intro _ d
    exact bind_done d
  · intros
    rfl
  · intro _ _ _ d f g
    exact bind_assoc d f g

end Dialogue

end StationWatch
