/-!
# Splitting at a separator

`splitAtEach` cuts a list at every separator; `joinWith` puts the stretches together again.
-/

namespace PipeShell

variable {α : Type} [DecidableEq α]

/-- The stretches between the separators: one more than there are separators. -/
def splitAtEach (separator : α) : List α → List (List α)
  | [] => [[]]
  | item :: rest =>
    if item = separator then [] :: splitAtEach separator rest
    else
      match splitAtEach separator rest with
      | [] => [[item]]
      | first :: more => (item :: first) :: more

def joinWith (separator : α) : List (List α) → List α
  | [] => []
  | [last] => last
  | first :: rest => first ++ separator :: joinWith separator rest

/-- Cutting a list is the library's own cutting of it. -/
theorem splitAtEach_eq_splitOn (separator : α) (items : List α) :
    splitAtEach separator items = items.splitOn separator := by
  induction items with
  | nil => rfl
  | cons item rest ih =>
    rw [splitAtEach, ih, List.splitOn_cons_eq_if_modifyHead]
    by_cases same : item = separator
    · simp [same]
    · cases split : rest.splitOn separator with
      | nil => exact absurd split (List.splitOn_ne_nil separator rest)
      | cons first more => simp [same]

end PipeShell
