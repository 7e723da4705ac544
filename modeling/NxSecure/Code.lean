import NxSecure.Session

/-!
# C function bodies with early returns

The body of a NetX Secure function is a sequence of statements over the `State`, any of which
may `return(status)` to the caller. `Code α` is such a stretch of code: from a state it falls
through to the next statement with a value (`Flow.next`), returns a status to the caller
(`Flow.ret`), or never returns (`Flow.stuck`: a call through a null function pointer, or a loop
that has not ended when its fuel is spent).

## Main definitions

- `Code` — state-passing code with early return, a `Monad` so that bodies read as `do` blocks
- `Code.wp` — the weakest precondition: what must hold of a state for `x` to fall through into
  `Q` or to return into `E`

## Design notes

The `wp_*` lemmas compute the weakest precondition of a body statement by statement, so that
`simp` turns a property of a body into a formula over the answers of its callees. A body that
never returns satisfies every precondition: every property of the key exchange is about the calls
that return to their caller, and that a call returns is proved separately, from the fuel its loop
needs.
-/

namespace NxSecure

/-- How a stretch of code ends. -/
inductive Flow (α : Type) where
  | next (a : α) (s : State)
  | ret (status : TlsStatus) (s : State)
  | stuck

/-- A stretch of a function body. -/
def Code (α : Type) : Type := State → Flow α

namespace Code

variable {α β : Type}

/-- Run `x`, then `f` on its value, unless `x` returned or got stuck. -/
def bind (x : Code α) (f : α → Code β) : Code β := fun s =>
  match x s with
  | .next a s' => f a s'
  | .ret status s' => .ret status s'
  | .stuck => .stuck

instance : Monad Code where
  pure a := fun s => .next a s
  bind := Code.bind

/-- `return(status)`. -/
def exit (status : TlsStatus) : Code α := fun s => .ret status s

/-- A call that never returns. -/
def stuck : Code α := fun _ => .stuck

/-- The current state. -/
def get : Code State := fun s => .next s s

/-- Change the state. -/
def modify (f : State → State) : Code Unit := fun s => .next () (f s)

/-- The value behind a pointer, or `return(status)` when it is null. -/
def ofOption (o : Option α) (status : TlsStatus) : Code α := fun s =>
  match o with
  | some a => .next a s
  | none => .ret status s

theorem bind_apply (x : Code α) (f : α → Code β) (s : State) :
    (x >>= f) s = match x s with
      | .next a s' => f a s'
      | .ret status s' => .ret status s'
      | .stuck => .stuck := rfl

/-- The continuation matters only at the values and states `x` falls through with. -/
theorem bind_congr_next {x : Code α} {f g : α → Code β}
    (h : ∀ s a s', x s = .next a s' → f a s' = g a s') : x >>= f = x >>= g := by
  funext s
  rw [bind_apply, bind_apply]
  cases hx : x s with
  | next a s' => exact h s a s' hx
  | ret => rfl
  | stuck => rfl

/-- The postcondition of a `Flow`: `Q` if it falls through, `E` if it returns. -/
def Post (Q : α → State → Prop) (E : TlsStatus → State → Prop) : Flow α → Prop
  | .next a s => Q a s
  | .ret status s => E status s
  | .stuck => True

/-- **Weakest precondition**: from `s`, `x` falls through into `Q` or returns into `E`, if it
ends at all. -/
def wp (x : Code α) (Q : α → State → Prop) (E : TlsStatus → State → Prop) (s : State) : Prop :=
  Post Q E (x s)

variable {Q Q' : α → State → Prop} {E E' : TlsStatus → State → Prop} {s : State}

-- ════════════════════════════════════════════════════════════════════════
-- One lemma per statement
-- ════════════════════════════════════════════════════════════════════════

@[simp] theorem wp_pure (a : α) : wp (pure a) Q E s = Q a s := rfl

@[simp] theorem wp_exit (status : TlsStatus) : wp (exit status) Q E s = E status s := rfl

@[simp] theorem wp_stuck : wp (stuck : Code α) Q E s = True := rfl

@[simp] theorem wp_get {Q : State → State → Prop} : wp get Q E s = Q s s := rfl

@[simp] theorem wp_modify {Q : Unit → State → Prop} (f : State → State) :
    wp (modify f) Q E s = Q () (f s) := rfl

@[simp] theorem wp_ofOption (o : Option α) (status : TlsStatus) :
    wp (ofOption o status) Q E s = ((∀ a, o = some a → Q a s) ∧ (o = none → E status s)) := by
  cases o <;> simp [wp, ofOption, Post]

@[simp] theorem wp_bind (x : Code α) (f : α → Code β) {Q : β → State → Prop} :
    wp (x >>= f) Q E s = wp x (fun a s' => wp (f a) Q E s') E s := by
  simp only [wp, bind_apply]
  cases x s <;> rfl

@[simp] theorem wp_ite {c : Prop} [Decidable c] (x y : Code α) :
    wp (if c then x else y) Q E s = ((c → wp x Q E s) ∧ (¬c → wp y Q E s)) := by
  by_cases hc : c <;> simp [hc]

/-- Weaken both postconditions. -/
theorem wp_mono {x : Code α} (hQ : ∀ a s, Q a s → Q' a s) (hE : ∀ st s, E st s → E' st s)
    (h : wp x Q E s) : wp x Q' E' s := by
  revert h
  unfold wp
  cases x s <;> simp only [Post] <;> first | exact hQ _ _ | exact hE _ _ | exact id

/-- A return of `x` from `s` satisfies `E`, for `E` in any weakest precondition of `x`. -/
theorem wp_next {x : Code α} {a : α} {s' : State} (h : x s = .next a s')
    (hwp : wp x Q E s) : Q a s' := by
  simpa only [wp, h, Post] using hwp

theorem wp_ret {x : Code α} {status : TlsStatus} {s' : State} (h : x s = .ret status s')
    (hwp : wp x Q E s) : E status s' := by
  simpa only [wp, h, Post] using hwp

@[simp] theorem pure_bind (a : α) (f : α → Code β) : (pure a >>= f : Code β) = f a := rfl

@[simp] theorem exit_bind (status : TlsStatus) (f : α → Code β) :
    (exit status >>= f : Code β) = exit status := rfl

-- ════════════════════════════════════════════════════════════════════════
-- Hoare triples
-- ════════════════════════════════════════════════════════════════════════

/-- **Hoare triple**: from every state satisfying `P`, `x` falls through into `Q` or returns into
`E`, if it ends at all. A property of a branch is a chain of triples, one per statement, whose
intermediate assertions say what holds at that point of the source. -/
def Triple (P : State → Prop) (x : Code α) (Q : α → State → Prop)
    (E : TlsStatus → State → Prop) : Prop :=
  ∀ s, P s → wp x Q E s

namespace Triple

variable {P P' : State → Prop} {x y : Code α} {a : α} {status : TlsStatus}

theorem bind {R : α → State → Prop} {f : α → Code β} {Q : β → State → Prop}
    (hx : Triple P x R E) (hf : ∀ a, Triple (R a) (f a) Q E) : Triple P (x >>= f) Q E :=
  fun s hs => (wp_bind x f).symm ▸ wp_mono (fun a s' => hf a s') (fun _ _ => id) (hx s hs)

theorem pure (h : ∀ s, P s → Q a s) : Triple P (pure a) Q E := h

theorem modify {Q : Unit → State → Prop} {f : State → State} (h : ∀ s, P s → Q () (f s)) :
    Triple P (modify f) Q E := h

/-- A statement that keeps an invariant. -/
theorem modify_keep {f : State → State} (h : ∀ s, P s → P (f s)) :
    Triple P (Code.modify f) (fun _ => P) E := h

theorem exit (h : ∀ s, P s → E status s) : Triple P (exit status) Q E := h

theorem get {Q : State → State → Prop} (h : ∀ s, P s → Q s s) : Triple P get Q E := h

theorem get_keep : Triple P Code.get (fun _ => P) E := fun _ h => h

theorem ofOption {o : Option α} (hQ : ∀ a s, o = some a → P s → Q a s)
    (hE : ∀ s, o = none → P s → E status s) : Triple P (ofOption o status) Q E :=
  fun s hs => (wp_ofOption o status).symm ▸ ⟨fun a ha => hQ a s ha hs, fun ho => hE s ho hs⟩

theorem ofOption_keep {o : Option α} (hE : ∀ s, P s → E status s) :
    Triple P (Code.ofOption o status) (fun _ => P) E :=
  ofOption (fun _ _ _ => id) fun s _ => hE s

theorem ite {c : Prop} [Decidable c] (ht : c → Triple P x Q E) (he : ¬c → Triple P y Q E) :
    Triple P (if c then x else y) Q E := by
  by_cases hc : c
  · simpa only [if_pos hc] using ht hc
  · simpa only [if_neg hc] using he hc

/-- A fact of the precondition that does not depend on the state can be assumed. -/
theorem of_pure {p : Prop} (h : p → Triple P x Q E) : Triple (fun s => p ∧ P s) x Q E :=
  fun s hs => h hs.1 s hs.2

/-- **Consequence rule**: strengthen the precondition and weaken both postconditions. -/
theorem conseq (h : Triple P x Q E) (hP : ∀ s, P' s → P s) (hQ : ∀ a s, Q a s → Q' a s)
    (hE : ∀ st s, E st s → E' st s) : Triple P' x Q' E' :=
  fun s hs => wp_mono hQ hE (h s (hP s hs))

end Triple

-- ════════════════════════════════════════════════════════════════════════
-- Code that returns
-- ════════════════════════════════════════════════════════════════════════

/-- `x` never gets stuck: from every state it falls through or returns. A body all of whose
statements end ends too; a triple says what holds when it ends, `Ends` that it does. -/
def Ends (x : Code α) : Prop := ∀ s, x s ≠ .stuck

namespace Ends

variable {x y : Code α}

theorem bind {f : α → Code β} (hx : Ends x) (hf : ∀ a, Ends (f a)) : Ends (x >>= f) := by
  intro s
  rw [bind_apply]
  cases h : x s with
  | next a s' => exact hf a s'
  | ret => nofun
  | stuck => exact absurd h (hx s)

theorem pure {a : α} : Ends (Pure.pure a : Code α) := fun _ => nofun

theorem exit {status : TlsStatus} : Ends (Code.exit status : Code α) := fun _ => nofun

theorem modify {f : State → State} : Ends (Code.modify f) := fun _ => nofun

theorem get : Ends Code.get := fun _ => nofun

theorem ofOption {o : Option α} {status : TlsStatus} : Ends (Code.ofOption o status) := by
  intro s
  cases o <;> nofun

theorem ite {c : Prop} [Decidable c] (ht : c → Ends x) (he : ¬c → Ends y) :
    Ends (if c then x else y) := by
  by_cases hc : c
  · simpa only [if_pos hc] using ht hc
  · simpa only [if_neg hc] using he hc

end Ends

-- ════════════════════════════════════════════════════════════════════════
-- Relational triples
-- ════════════════════════════════════════════════════════════════════════

/-- How two runs end alike: both fall through, with values and states related by `S`; both return
the same status, in states related by `F`; or neither returns. -/
def Post₂ (S : α → α → State → State → Prop) (F : TlsStatus → State → State → Prop) :
    Flow α → Flow α → Prop
  | .next a s, .next b s' => S a b s s'
  | .ret status s, .ret status' s' => status = status' ∧ F status s s'
  | .stuck, .stuck => True
  | _, _ => False

/-- **Relational triple**: from any two states related by `R`, `x₁` and `x₂` end alike. Two runs
of one body in two environments are compared statement by statement, as `Triple` does for one. -/
def RelTriple (R : State → State → Prop) (x₁ x₂ : Code α) (S : α → α → State → State → Prop)
    (F : TlsStatus → State → State → Prop) : Prop :=
  ∀ s₁ s₂, R s₁ s₂ → Post₂ S F (x₁ s₁) (x₂ s₂)

namespace RelTriple

variable {R : State → State → Prop} {x₁ x₂ y₁ y₂ : Code α} {S : α → α → State → State → Prop}
  {F : TlsStatus → State → State → Prop}

theorem bind {f₁ f₂ : α → Code β} {S' : β → β → State → State → Prop}
    (hx : RelTriple R x₁ x₂ S F) (hf : ∀ a b, RelTriple (S a b) (f₁ a) (f₂ b) S' F) :
    RelTriple R (x₁ >>= f₁) (x₂ >>= f₂) S' F := by
  intro s₁ s₂ hs
  have h := hx s₁ s₂ hs
  rw [bind_apply, bind_apply]
  revert h
  cases x₁ s₁ <;> cases x₂ s₂ <;> simp only [Post₂] <;>
    first | exact hf _ _ _ _ | exact id | exact False.elim

/-- The same code, from the same state, ends the same way. -/
theorem refl {x : Code α} (hF : ∀ status s, F status s s) :
    RelTriple (· = ·) x x (fun a b s s' => a = b ∧ s = s') F := by
  rintro s _ rfl
  cases x s <;> simp [Post₂, hF]

/-- A statement shared by both runs, from the same state. -/
theorem bind_same {x : Code α} {f₁ f₂ : α → Code β} {S : β → β → State → State → Prop}
    (hF : ∀ status s, F status s s) (hf : ∀ a, RelTriple (· = ·) (f₁ a) (f₂ a) S F) :
    RelTriple (· = ·) (x >>= f₁) (x >>= f₂) S F :=
  (refl hF).bind fun a _ _ _ ⟨hab, hs⟩ => hab ▸ hf a _ _ hs

theorem pure {a b : α} (h : ∀ s₁ s₂, R s₁ s₂ → S a b s₁ s₂) :
    RelTriple R (Pure.pure a) (Pure.pure b) S F := h

theorem exit {status : TlsStatus} (h : ∀ s₁ s₂, R s₁ s₂ → F status s₁ s₂) :
    RelTriple R (Code.exit status : Code α) (Code.exit status) S F :=
  fun s₁ s₂ hs => ⟨rfl, h s₁ s₂ hs⟩

/-- Both runs take the same branch of a test that does not read the state. -/
theorem ite {c : Prop} [Decidable c] (ht : c → RelTriple R x₁ x₂ S F)
    (he : ¬c → RelTriple R y₁ y₂ S F) :
    RelTriple R (if c then x₁ else y₁) (if c then x₂ else y₂) S F := by
  by_cases hc : c
  · simpa only [if_pos hc] using ht hc
  · simpa only [if_neg hc] using he hc

theorem conseq {R' : State → State → Prop} {S' : α → α → State → State → Prop}
    {F' : TlsStatus → State → State → Prop} (h : RelTriple R x₁ x₂ S F)
    (hR : ∀ s₁ s₂, R' s₁ s₂ → R s₁ s₂) (hS : ∀ a b s₁ s₂, S a b s₁ s₂ → S' a b s₁ s₂)
    (hF : ∀ status s₁ s₂, F status s₁ s₂ → F' status s₁ s₂) : RelTriple R' x₁ x₂ S' F' := by
  intro s₁ s₂ hs
  have h := h s₁ s₂ (hR s₁ s₂ hs)
  revert h
  cases x₁ s₁ <;> cases x₂ s₂ <;> simp only [Post₂] <;>
    first | exact hS _ _ _ _ | exact fun h => ⟨h.1, hF _ _ _ h.2⟩ | exact id

end RelTriple

end Code

end NxSecure
