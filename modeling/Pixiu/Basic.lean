/-
**Go's error results, and operations that keep their effects when they fail.**

A Go function here returns `(value, error)` and mutates the world through the calls it makes
(the API server, the database). When a later call fails the function returns the error, but
what the earlier calls did stays done. `Op σ ε α` is that: a function of the world `σ` that
returns `Except ε α` together with the world it leaves, on failure as on success.

* `Op.bind_ok` — a sequence succeeded exactly when its first part succeeded and the rest
  succeeded from the world the first part left;
* `Op.bind_error` — a sequence failed exactly when its first part failed, or the first part
  succeeded and the rest failed from there.

Every operation of the model is inverted through these two, never by unfolding a whole
operation.
-/

import Mathlib.Data.List.Basic

namespace Pixiu

/-- Results compare by their error or value, so that runs on fixed inputs can be decided. -/
instance instDecidableEqExcept {ε α : Type} [DecidableEq ε] [DecidableEq α] :
    DecidableEq (Except ε α)
  | .error a, .error b =>
    if same : a = b then isTrue (same ▸ rfl) else isFalse fun h => same (Except.error.inj h)
  | .ok a, .ok b =>
    if same : a = b then isTrue (same ▸ rfl) else isFalse fun h => same (Except.ok.inj h)
  | .error _, .ok _ => isFalse Except.noConfusion
  | .ok _, .error _ => isFalse Except.noConfusion

/-- The errors the modelled code returns, by the Go value it returns. -/
inductive Error where
  /-- `clientError`: no client set for the cloud. -/
  | client
  /-- The API server refused a create: the object exists. -/
  | alreadyExists (name : String)
  /-- The API server has no such object. -/
  | notFound (name : String)
  /-- `errors.ErrRecordNotFound`. -/
  | recordNotFound
  /-- `dberrors.ErrRecordNotUpdate`. -/
  | recordNotUpdate
  /-- `errors.ErrServerInternal`. -/
  | serverInternal
  /-- A runtime panic: index out of range. -/
  | indexOutOfRange
  /-- An error built by `fmt.Errorf` or `errors.New`. -/
  | message (text : String)
  /-- An error from outside the model (network, database, cipher, yaml), passed through. -/
  | external (text : String)
deriving DecidableEq, Repr

/-- An operation against a world `σ`: its result, and the world it leaves, also when it
fails. -/
def Op (σ ε α : Type) := σ → Except ε α × σ

namespace Op

variable {σ ε α β : Type}

instance : Monad (Op σ ε) where
  pure a := fun s => (.ok a, s)
  bind x f := fun s => match x s with
    | (.ok a, s₁) => f a s₁
    | (.error e, s₁) => (.error e, s₁)

instance : MonadExceptOf ε (Op σ ε) where
  throw e := fun s => (.error e, s)
  tryCatch x handle := fun s => match x s with
    | (.error e, s₁) => handle e s₁
    | result => result

instance : MonadStateOf σ (Op σ ε) where
  get := fun s => (.ok s, s)
  set s := fun _ => (.ok (), s)
  modifyGet f := fun s => let (a, s') := f s; (.ok a, s')

/-- A pure Go call that returns `(value, error)`, lifted. -/
def lift (result : Except ε α) : Op σ ε α := fun s => (result, s)

@[simp] theorem bind_apply (x : Op σ ε α) (f : α → Op σ ε β) (s : σ) :
    (x >>= f) s = match x s with
      | (.ok a, s₁) => f a s₁
      | (.error e, s₁) => (.error e, s₁) := rfl

@[simp] theorem pure_apply (a : α) (s : σ) : (pure a : Op σ ε α) s = (.ok a, s) := rfl

@[simp] theorem throw_apply (e : ε) (s : σ) : (throw e : Op σ ε α) s = (.error e, s) := rfl

@[simp] theorem get_apply (s : σ) : (get : Op σ ε σ) s = (.ok s, s) := rfl

@[simp] theorem set_apply (s s' : σ) : (set s' : Op σ ε Unit) s = (.ok (), s') := rfl

@[simp] theorem lift_apply (result : Except ε α) (s : σ) : lift result s = (result, s) := rfl

/-- **A sequence succeeded** exactly when both of its parts did, the second from the world
the first left. -/
theorem bind_ok {x : Op σ ε α} {f : α → Op σ ε β} {s s' : σ} {b : β} :
    (x >>= f) s = (.ok b, s') ↔ ∃ a s₁, x s = (.ok a, s₁) ∧ f a s₁ = (.ok b, s') := by
  rw [bind_apply]
  rcases x s with ⟨e | a, s₁⟩
  · simp
  · exact ⟨fun h => ⟨a, s₁, rfl, h⟩, fun ⟨_, _, first, h⟩ => by cases first; exact h⟩

/-- **A sequence failed** exactly when its first part failed, or the first part succeeded and
the second failed from the world the first left. -/
theorem bind_error {x : Op σ ε α} {f : α → Op σ ε β} {s s' : σ} {e : ε} :
    (x >>= f) s = (.error e, s') ↔
      x s = (.error e, s') ∨ ∃ a s₁, x s = (.ok a, s₁) ∧ f a s₁ = (.error e, s') := by
  rw [bind_apply]
  rcases x s with ⟨e₁ | a, s₁⟩
  · simp
  · exact ⟨fun h => .inr ⟨a, s₁, rfl, h⟩, fun
      | .inl first => by cases first
      | .inr ⟨_, _, first, h⟩ => by cases first; exact h⟩

/-- Every run of `x` leaves `view` of the world as it was. -/
def Keeps {β : Type} (view : σ → β) (x : Op σ ε α) : Prop :=
  ∀ s r s', x s = (r, s') → view s' = view s

/-- Every failing run of `x` leaves `view` of the world as it was. -/
def KeepsOnError {β : Type} (view : σ → β) (x : Op σ ε α) : Prop :=
  ∀ s e s', x s = (.error e, s') → view s' = view s

variable {γ : Type} {view : σ → γ}

theorem keeps_pure (a : α) : Keeps view (pure a : Op σ ε α) := by
  intro s r s' run; cases run; rfl

theorem keeps_throw (e : ε) : Keeps view (throw e : Op σ ε α) := by
  intro s r s' run; cases run; rfl

theorem keeps_lift (result : Except ε α) : Keeps view (lift result : Op σ ε α) := by
  intro s r s' run; cases run; rfl

/-- A sequence of parts that keep a view keeps it. -/
theorem Keeps.bind {x : Op σ ε α} {f : α → Op σ ε β} (first : Keeps view x)
    (rest : ∀ a, Keeps view (f a)) : Keeps view (x >>= f) := by
  intro s r s' run
  rw [bind_apply] at run
  rcases firstRun : x s with ⟨e | a, s₁⟩ <;> rw [firstRun] at run
  · cases run; exact first s _ _ firstRun
  · exact (rest a s₁ r s' run).trans (first s _ s₁ firstRun)

/-- A part that keeps a view, followed by one that keeps it when it fails, keeps it when the
sequence fails. -/
theorem KeepsOnError.bind {x : Op σ ε α} {f : α → Op σ ε β} (first : Keeps view x)
    (rest : ∀ a, KeepsOnError view (f a)) : KeepsOnError view (x >>= f) := by
  intro s e s' run
  rcases bind_error.mp run with failed | ⟨a, s₁, ok, failed⟩
  · exact first s _ s' failed
  · exact (rest a s₁ e s' failed).trans (first s _ s₁ ok)

/-- A part that keeps a view when it fails, followed by a plain return, keeps it when the
sequence fails. -/
theorem KeepsOnError.bind_pure {x : Op σ ε α} {g : α → β} (first : KeepsOnError view x) :
    KeepsOnError view (x >>= fun a => pure (g a)) := by
  intro s e s' run
  rcases bind_error.mp run with failed | ⟨a, s₁, _, failed⟩
  · exact first s e s' failed
  · cases failed

/-- A run that leaves the whole world as it was leaves every view of it. -/
theorem KeepsOnError.ofId {x : Op σ ε α} (clean : KeepsOnError id x) (view : σ → γ) :
    KeepsOnError view x :=
  fun s e s' run => congrArg view (clean s e s' run)

end Op

end Pixiu
