/-!
# Results with a trace

A traced result is a value or an error, together with the references met on the way to it, in
order. References met before an error stay in the trace.
-/

namespace ApiDoc

/-- A value or an error, and the references met before it. -/
structure Traced (ε α : Type) where
  refs : List String
  result : Except ε α

namespace Traced

variable {ε α β : Type}

def value (a : α) : Traced ε α := ⟨[], .ok a⟩

def fail (e : ε) : Traced ε α := ⟨[], .error e⟩

/-- A value for which a reference is met. -/
def met (ref : String) (a : α) : Traced ε α := ⟨[ref], .ok a⟩

def lift (r : Except ε α) : Traced ε α := ⟨[], r⟩

/-- Goes on with the value, if there is one. -/
def bind (x : Traced ε α) (f : α → Traced ε β) : Traced ε β :=
  match x.result with
  | .ok a => ⟨x.refs ++ (f a).refs, (f a).result⟩
  | .error e => ⟨x.refs, .error e⟩

instance : Monad (Traced ε) where
  pure := value
  bind := bind

@[simp] theorem pure_eq (a : α) : (pure a : Traced ε α) = ⟨[], .ok a⟩ := rfl

@[simp] theorem bind_eq (x : Traced ε α) (f : α → Traced ε β) : x >>= f = x.bind f := rfl

@[simp] theorem bind_ok (rs : List String) (a : α) (f : α → Traced ε β) :
    bind ⟨rs, .ok a⟩ f = ⟨rs ++ (f a).refs, (f a).result⟩ := rfl

@[simp] theorem bind_error (rs : List String) (e : ε) (f : α → Traced ε β) :
    bind ⟨rs, .error e⟩ f = ⟨rs, .error e⟩ := rfl

end Traced

end ApiDoc
