import ApiDoc.Schema.Translation

/-!
# References to definitions

A definition is referred to by its short name or by a pointer. The registry keeps the pointers that
schema objects refer to, each once, in the order of their first use.

Main statement: `Registry.nodup_pointers`, a registry never holds a pointer twice.
-/

namespace ApiDoc

/-- The pointer to a definition: a pointer is kept, a short name is completed. -/
def pointerTo (ref : String) : String :=
  if ['#', '/'].isPrefixOf ref.toList then ref else "#/definitions/" ++ ref

/-- The schema that refers to a definition. -/
def referenceTo (ref : String) : Schema := .reference (pointerTo ref)

/-- The pointers referred to so far. -/
structure Registry where
  pointers : List String := []
  nodup_pointers : pointers.Nodup := by simp

namespace Registry

def isNew (r : Registry) (pointer : String) : Bool := pointer ∉ r.pointers

/-- Records that a definition is referred to. -/
def record (r : Registry) (ref : String) : Registry :=
  if h : pointerTo ref ∈ r.pointers then r
  else
    { pointers := r.pointers ++ [pointerTo ref]
      nodup_pointers := by
        have := r.nodup_pointers
        simp only [List.nodup_append, List.mem_singleton]
        exact ⟨this, by simp, fun a ha b hb => by rintro rfl; exact h (hb ▸ ha)⟩ }

/-- Records references in order. -/
def recordAll (r : Registry) (refs : List String) : Registry := refs.foldl record r

end Registry

end ApiDoc
