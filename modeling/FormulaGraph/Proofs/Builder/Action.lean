import FormulaGraph.Builder.Basic

/-!
# Actions and what they keep

An action leaves a builder behind whether it fails or not: `Build.final`. An action keeps a relation
if it relates each builder to the one that is left. For a reflexive and transitive relation
`keeps_pure` and `keeps_bind` reduce an action to its parts, so a law of all that an action may do is
proved for the few actions that change a builder.
-/

namespace FormulaGraph.Build

variable {α β : Type}

def final (action : Build α) (b : Builder) : Builder :=
  match action b with
  | .ok _ b => b
  | .error _ b => b

theorem final_of_ok {action : Build α} {b b' : Builder} {a : α} (h : action b = .ok a b') :
    action.final b = b' := by
  rw [final, h]

theorem final_of_error {action : Build α} {b b' : Builder} {fault : Fault}
    (h : action b = .error fault b') : action.final b = b' := by
  rw [final, h]

theorem bind_ok {x : Build α} {f : α → Build β} {b b' : Builder} {c : β}
    (h : (x >>= f) b = .ok c b') : ∃ a middle, x b = .ok a middle ∧ f a middle = .ok c b' := by
  change EStateM.bind x f b = .ok c b' at h
  unfold EStateM.bind at h
  cases first : x b with
  | ok a middle =>
    rw [first] at h
    exact ⟨a, middle, rfl, h⟩
  | error fault middle =>
    rw [first] at h
    cases h

theorem bind_of_ok {x : Build α} {b middle : Builder} {a : α} (f : α → Build β)
    (h : x b = .ok a middle) : (x >>= f) b = f a middle := by
  change EStateM.bind x f b = f a middle
  rw [EStateM.bind, h]

theorem bind_of_error {x : Build α} {b middle : Builder} {fault : Fault} (f : α → Build β)
    (h : x b = .error fault middle) : (x >>= f) b = .error fault middle := by
  change EStateM.bind x f b = .error fault middle
  rw [EStateM.bind, h]

theorem bind_error {x : Build α} {f : α → Build β} {b b' : Builder} {fault : Fault}
    (h : (x >>= f) b = .error fault b') :
    x b = .error fault b' ∨ ∃ a middle, x b = .ok a middle ∧ f a middle = .error fault b' := by
  cases first : x b with
  | ok a middle =>
    rw [bind_of_ok f first] at h
    exact Or.inr ⟨a, middle, rfl, h⟩
  | error other middle =>
    rw [bind_of_error f first] at h
    cases h
    exact Or.inl rfl

theorem map_of_ok {x : Build α} {b b' : Builder} {a : α} (f : α → β) (h : x b = .ok a b') :
    (f <$> x) b = .ok (f a) b' := by
  change EStateM.map f x b = .ok (f a) b'
  rw [EStateM.map, h]

theorem map_of_error {x : Build α} {b b' : Builder} {fault : Fault} (f : α → β)
    (h : x b = .error fault b') : (f <$> x) b = .error fault b' := by
  change EStateM.map f x b = .error fault b'
  rw [EStateM.map, h]

/-- Two chains that begin alike, and go on alike from there, come to the same. -/
theorem bind_congr_at {x y : Build α} {f g : α → Build β} {b : Builder} (first : x b = y b)
    (next : ∀ a middle, y b = .ok a middle → f a middle = g a middle) :
    (x >>= f) b = (y >>= g) b := by
  cases h : y b with
  | ok a middle => rw [bind_of_ok f (first.trans h), bind_of_ok g h, next a middle h]
  | error fault middle => rw [bind_of_error f (first.trans h), bind_of_error g h]

theorem pure_ok {a c : α} {b b' : Builder} (h : (pure a : Build α) b = .ok c b') : c = a ∧ b' = b := by
  cases h
  exact ⟨rfl, rfl⟩

/-- An action that is made of steps goes through all of them, or fails behind some of them. -/
def Follows {γ : Type} (R : Builder → List γ → Builder → Prop) (Q : α → Prop) (steps : List γ) (b : Builder) :
    EStateM.Result Fault Builder α → Prop
  | .ok a c => Q a ∧ R b steps c
  | .error _ c => ∃ done, done <+: steps ∧ R b done c

theorem Follows.bind {γ : Type} {R : Builder → List γ → Builder → Prop} {Q : α → Prop} {P : β → Prop}
    {steps steps' : List γ} {b : Builder} {x : Build α} {f : α → Build β}
    (trans : ∀ {b c d : Builder} {early late : List γ}, R b early c → R c late d → R b (early ++ late) d)
    (first : Follows R Q steps b (x b))
    (next : ∀ a c, x b = .ok a c → Q a → R b steps c → Follows R P steps' c (f a c)) :
    Follows R P (steps ++ steps') b ((x >>= f) b) := by
  cases ran : x b with
  | error fault c =>
    rw [ran] at first
    obtain ⟨done, part, reached⟩ := first
    rw [bind_of_error f ran]
    exact ⟨done, part.trans (List.prefix_append _ _), reached⟩
  | ok a c =>
    rw [ran] at first
    have rest := next a c ran first.1 first.2
    rw [bind_of_ok f ran]
    cases ran' : f a c with
    | ok v d =>
      rw [ran'] at rest
      exact ⟨rest.1, trans first.2 rest.2⟩
    | error fault d =>
      rw [ran'] at rest
      obtain ⟨done, part, reached⟩ := rest
      exact ⟨steps ++ done, (List.prefix_append_right_inj steps).mpr part, trans first.2 reached⟩

/-- An action keeps a relation if every builder is related to the one that the action leaves. -/
def Keeps (R : Builder → Builder → Prop) (action : Build α) : Prop := ∀ b, R b (action.final b)

variable {R : Builder → Builder → Prop}

theorem keeps_pure (refl : ∀ b, R b b) (a : α) : Keeps R (pure a : Build α) := fun b => refl b

theorem keeps_throw (refl : ∀ b, R b b) (fault : Fault) : Keeps R (throw fault : Build α) :=
  fun b => refl b

theorem keeps_bind (trans : ∀ a b c, R a b → R b c → R a c) {x : Build α} {f : α → Build β}
    (first : Keeps R x) (next : ∀ a, Keeps R (f a)) : Keeps R (x >>= f) := by
  intro b
  have before := first b
  cases h : x b with
  | ok a middle =>
    rw [final_of_ok h] at before
    have after := next a middle
    rw [final, bind_of_ok f h]
    exact trans _ _ _ before after
  | error fault middle =>
    rw [final_of_error h] at before
    rw [final, bind_of_error f h]
    exact before

end FormulaGraph.Build
