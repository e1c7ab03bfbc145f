/-!
# The token cache

Tokens that were acquired, one at most for each user and handler.
-/

namespace SignInFlow

/-- A token that is kept for a user and a handler. -/
structure CachedToken where
  /-- The id of the user. -/
  user : String
  /-- The handler that gave the token. -/
  handler : String
  /-- The token. -/
  token : String
deriving DecidableEq, Repr

/-- The tokens that are kept. -/
abbrev TokenCache := List CachedToken

namespace TokenCache

/-- Whether an entry belongs to a user and a handler. -/
def matching (user handler : String) (entry : CachedToken) : Bool :=
  entry.user == user && entry.handler == handler

/-- The token of a user and a handler. -/
def get? (cache : TokenCache) (user handler : String) : Option String :=
  (List.find? (matching user handler) cache).map CachedToken.token

/-- The cache without the token of a user and a handler. -/
def remove (cache : TokenCache) (user handler : String) : TokenCache :=
  List.filter (fun entry => !matching user handler entry) cache

/-- The cache with a token for a user and a handler, in place of the one it had. -/
def insert (cache : TokenCache) (user handler token : String) : TokenCache :=
  ⟨user, handler, token⟩ :: cache.remove user handler

@[simp] theorem get?_insert_self (cache : TokenCache) (user handler token : String) :
    (cache.insert user handler token).get? user handler = some token := by
  simp [get?, insert, matching]

@[simp] theorem get?_remove_self (cache : TokenCache) (user handler : String) :
    (cache.remove user handler).get? user handler = none := by
  simp [get?, remove, List.find?_filter]

theorem get?_remove_of_ne {user handler otherUser otherHandler : String} (cache : TokenCache)
    (differs : otherUser ≠ user ∨ otherHandler ≠ handler) :
    (cache.remove user handler).get? otherUser otherHandler =
      cache.get? otherUser otherHandler := by
  have apart : ∀ entry : CachedToken,
      (!matching user handler entry && matching otherUser otherHandler entry)
        = matching otherUser otherHandler entry := by
    intro entry
    unfold matching
    by_cases isUser : entry.user = otherUser <;>
      by_cases isHandler : entry.handler = otherHandler <;>
      rcases differs with away | away <;> simp [isUser, isHandler, away]
  simp [get?, remove, List.find?_filter, apart]

theorem get?_insert_of_ne {user handler otherUser otherHandler : String} (cache : TokenCache)
    (token : String) (differs : otherUser ≠ user ∨ otherHandler ≠ handler) :
    (cache.insert user handler token).get? otherUser otherHandler
      = cache.get? otherUser otherHandler := by
  have away : matching otherUser otherHandler ⟨user, handler, token⟩ = false := by
    unfold matching
    rcases differs with away | away <;> simp [Ne.symm away]
  rw [← get?_remove_of_ne cache differs]
  simp [get?, insert, away]

end TokenCache
end SignInFlow
