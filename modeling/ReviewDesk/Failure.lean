import ReviewDesk.GitHub.Fault
import ReviewDesk.Model.Basic
import ReviewDesk.Store.Basic
import ReviewDesk.Token

/-!
Reasons for which the desk does not do what it is asked, with their wording and, for those that a
caller is told of, their kind and status.
-/
namespace ReviewDesk

inductive Failure where
  | noFiles
  | tooManyFiles (count most : Nat)
  | planTooSmall (count : Nat) (tier : Tier) (most : Nat)
  | unknownFormat (name : String)
  | passwordTooLong (most : Nat)
  | missingCode
  | unusableProfile (login : String)
  | notConnected
  | notConfigured
  | badCredentials
  | missingToken
  | badToken (fault : Token.Fault)
  | orphanToken
  | malformedCaller
  | otherCaller
  | disabled
  | adminOnly
  | foreignReview
  | adminStays
  | noAccount (id : Uuid)
  | noReview (id : Uuid)
  | noFinding (id : Uuid)
  | usernameTaken (username : String)
  | emailTaken (email : String)
  | emailOwned (email : String)
  | profileOwned
  | quota
  | analysis (reason : String)
  /-- A stored password that is not readable. -/
  | unreadablePassword
  /-- A day before the calendar begins. -/
  | dateOutOfRange
  /-- A value that does not fit into a record. -/
  | invalid (problems : List Problem)
  | store (fault : Store.Fault)
  | github (fault : GitHub.Fault)
  | model (fault : Model.Fault)
  deriving Repr, DecidableEq

namespace Failure

def message : Failure → String
  | noFiles => "No reviewable files found."
  | tooManyFiles count most => s!"Too many files: {count}. At most {most} per review."
  | planTooSmall count tier most =>
    s!"Too many files: {count}. Your {tier.name} plan allows {most} files per review."
  | unknownFormat name => s!"Unsupported format '{name}'. Use markdown, html, or csv."
  | passwordTooLong most => s!"Password must be at most {most} bytes."
  | missingCode => "Missing OAuth code."
  | unusableProfile login =>
    s!"GitHub profile for '{login}' cannot be used to create an account."
  | notConnected => "GitHub account not connected."
  | notConfigured => "GitHub OAuth is not configured on this server."
  | badCredentials => "Invalid username or password."
  | missingToken => "Missing bearer token."
  | badToken fault => fault.message
  | orphanToken => "User for this token no longer exists."
  | malformedCaller => "X-User-Id header is not a valid user id."
  | otherCaller => "X-User-Id header does not match the bearer token."
  | disabled => "Account is disabled."
  | adminOnly => "Admin access required."
  | foreignReview => "You do not have access to this review."
  | adminStays => "Cannot delete admin users."
  | noAccount id => s!"User not found with id: {id.text}"
  | noReview id => s!"Code review not found with id: {id.text}"
  | noFinding id => s!"Finding not found with id: {id.text}"
  | usernameTaken username => s!"Username '{username}' already exists."
  | emailTaken email => s!"Email '{email}' already exists."
  | emailOwned email =>
    s!"Email '{email}' already belongs to an account. " ++
      "Log in with your password and link GitHub instead."
  | profileOwned => "This GitHub account is already linked to another user."
  | quota => "Review limit reached for your account."
  | analysis reason => s!"Analysis failed: {reason}"
  | unreadablePassword => "Invalid salt"
  | dateOutOfRange => "date value out of range"
  | invalid problems => "; ".intercalate (problems.map (·.cause.message))
  | store fault => fault.message
  | github fault => fault.message
  | model fault => fault.message

/-- The name of the kind of failure and its status, for those that the desk itself decides. -/
def verdict? : Failure → Option (String × Nat)
  | noFiles | tooManyFiles _ _ | planTooSmall _ _ _ | unknownFormat _ | passwordTooLong _
  | missingCode | unusableProfile _ => some ("ValidationFailedError", 400)
  | notConnected => some ("GitHubNotConnectedError", 400)
  | notConfigured => some ("GitHubNotConfiguredError", 503)
  | badCredentials | missingToken | orphanToken | badToken .expired | badToken .invalid =>
    some ("AuthenticationError", 401)
  | malformedCaller | otherCaller | disabled | adminOnly | foreignReview | adminStays =>
    some ("PermissionDeniedError", 403)
  | noAccount _ | noReview _ | noFinding _ => some ("NotFoundError", 404)
  | usernameTaken _ | emailTaken _ | emailOwned _ | profileOwned
  | store (.accountConflict _) => some ("ConflictError", 409)
  | quota => some ("QuotaExceededError", 429)
  | analysis _ => some ("ReviewFailedError", 500)
  | _ => none

end Failure

end ReviewDesk
