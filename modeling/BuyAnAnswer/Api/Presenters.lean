import BuyAnAnswer.Api.Schemas

/-!
# What leaves the API

The presenters choose the columns of a response.  A question is shown in full to
its participants; an answer keeps its body to itself while it is locked.
-/

namespace BuyAnAnswer.Api

open Text Shared

/-- The public projection of a creator. -/
structure PublicCreator where
  wallet : Text
  handle : Text
  displayName : Text
  headline : Option Text
  bio : Option Text
  avatarUrl : Option Text
  links : Option (List ProfileLink)
  minPriceUsdc : Text
  createdAt : ℕ
  deriving DecidableEq, Repr

def presentPublicCreator (creator : Creator) : PublicCreator where
  wallet := creator.wallet
  handle := creator.handle
  displayName := creator.displayName
  headline := creator.headline
  bio := creator.bio
  avatarUrl := creator.avatarUrl
  links := creator.links
  minPriceUsdc := creator.minPriceUsdc
  createdAt := creator.createdAt

/-- The owner's view has every column. -/
def presentOwnerCreator (creator : Creator) : Creator := creator

/-- Every column of a question, as its participants see it. -/
def presentQuestion (question : Question) : Question := question

/-- An answer in a detail view; a locked one has no body. -/
structure AnswerView where
  submittedAt : ℕ
  updatedAt : ℕ
  revealedAt : Option ℕ
  body : Option Text
  locked : Bool
  deriving DecidableEq, Repr

def presentAnswer (answer : Answer) (canSeeBody : Bool) : AnswerView where
  submittedAt := answer.submittedAt
  updatedAt := answer.updatedAt
  revealedAt := answer.revealedAt
  body := if canSeeBody then some answer.body else none
  locked := !canSeeBody

/-- A public card. -/
structure Card where
  id : Text
  body : Text
  askerWallet : Text
  amountUsdc : Option Text
  answeredAt : Option ℕ
  createdAt : ℕ
  answer : Option Text
  creator : Option PublicCreator
  deriving DecidableEq, Repr

/-- The bodies of successful responses. -/
inductive View where
  | created (id : Text)
  | page (questions : List (Question × Bool)) (limit offset : ℕ) (hasMore : Bool)
  | detail (question : Question) (answer : Option AnswerView)
  | question (question : Question)
  | answer (answer : AnswerView)
  | card (card : Card)
  | board (creator : PublicCreator)
  | me (wallet : Text) (creator : Option Creator)
  | claimed (creator : Creator)
  | profile (creator : Creator)
  | avatar (avatarUrl : Text) (creator : Creator)
  deriving DecidableEq, Repr

/-- The quota after a request was counted. -/
structure RateLimitResult where
  allowed : Bool
  limit : ℕ
  count : ℕ
  remaining : ℕ
  resetSeconds : ℕ
  deriving DecidableEq, Repr

/-- A response: the quota headers of limited routes, and the body or the
error. -/
structure Response where
  rateLimit : Option RateLimitResult
  outcome : Except Failure View

/-! ## Handles -/

def RESERVED_HANDLES : List String := [
  "admin", "administrator", "api", "app", "about", "ask", "auth", "avatar",
  "avatars", "board", "dashboard", "explore", "frame", "frames", "health",
  "help", "home", "index", "legal", "login", "logout", "me", "new", "onboard",
  "onboarding", "p", "privacy", "profile", "public", "question", "questions",
  "reclaim", "root", "settings", "signin", "signout", "signup", "static",
  "support", "terms", "user", "users", "www", "_next"]

def normalizeHandle (raw : Text) : Text := toLowerCase (trim raw)

def isReservedHandle (handle : Text) : Bool :=
  RESERVED_HANDLES.any fun reserved => reserved.toList = handle

end BuyAnAnswer.Api
