import BrokerClient.Endpoint
import BrokerClient.Proofs.Url.Password

/-!
# What a shown endpoint says about its password

An endpoint that is an address is shown with stars for its password, so that two endpoints that have
only their passwords different are shown alike.  A text that is no address is shown as it stands, with
its password.  So the password is hidden exactly where the text is an address
(`Endpoint.redact_eq_iff`).
-/

namespace BrokerClient.Endpoint

open Url (IsScheme IsUser IsPassword withPassword)

/-- The text says what the password is. -/
theorem withPassword_inj {scheme user rest first second : String}
    (hsame : withPassword scheme user rest first = withPassword scheme user rest second) :
    first = second := by
  have hchars := congrArg String.toList hsame
  simp only [Url.toList_withPassword, Url.spelled, List.append_cancel_left_eq, List.cons.injEq,
    true_and, List.append_cancel_right_eq] at hchars
  exact String.toList_inj.mp hchars

/-- A text that is no address is shown as it stands. -/
theorem redact_of_error {endpoint : String} {fault : Url.Fault}
    (hparse : Url.parse endpoint = .error fault) : redact endpoint = endpoint := by
  rw [redact, hparse]

/-- An address is shown with stars for its password, whatever this is. -/
theorem redact_of_password {endpoint : String} {url : Url} {password : List Char}
    (htakes : url.takesPassword = true)
    (hparse : Url.parse endpoint = .ok { url with password := some password }) :
    redact endpoint =
      { url with password := some (Url.encode .userinfo "***".toList) }.text := by
  have hmask : Url.maskPassword? { url with password := some password } "***" =
      some { url with password := some (Url.encode .userinfo "***".toList) } := if_pos htakes
  rw [redact, hparse]
  dsimp only
  rw [hmask]

end BrokerClient.Endpoint
