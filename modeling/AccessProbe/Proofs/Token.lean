import AccessProbe.Credentials
import AccessProbe.Proofs.Text.Base64
import AccessProbe.Proofs.Text.Utf8

/-! The token can be decoded to the login and the password, up to where the one ends. -/

namespace AccessProbe.Credentials

/-- The characters of login, space and password. -/
theorem toList_joined (credentials : Credentials) :
    (credentials.login ++ " " ++ credentials.password).toList =
      credentials.login.toList ++ ' ' :: credentials.password.toList := by
  -- The string is appended from the left.
  rw [String.toList_append, String.toList_append, List.append_assoc]
  rfl

/-- Decoding a token gives the bytes of login, space and password. -/
theorem decode?_token (credentials : Credentials) : Base64.decode? credentials.token.toList =
    some (Utf8.encode (credentials.login ++ " " ++ credentials.password).toList) := by
  -- Base64 decoding undoes the encoding.
  rw [token, String.toList_ofList, Base64.decode?_encode, toList_joined]

/-- Two tokens are equal if and only if login, space and password are the same string. -/
theorem token_inj {first second : Credentials} : first.token = second.token ↔
    first.login ++ " " ++ first.password = second.login ++ " " ++ second.password := by
  -- From left to right both tokens are decoded.
  constructor
  · intro same
    have bytes := congrArg (fun token : String => Base64.decode? token.toList) same
    simp only [decode?_token] at bytes
    exact String.toList_inj.mp (Utf8.encode_inj.mp (Option.some.inj bytes))
  · intro same
    rw [token, token, ← toList_joined, ← toList_joined, same]

/-- Without spaces in the logins that string determines the credentials. -/
theorem eq_of_joined {first second : Credentials} (here : ' ' ∉ first.login.toList)
    (there : ' ' ∉ second.login.toList)
    (same : first.login ++ " " ++ first.password = second.login ++ " " ++ second.password) : first = second := by
  -- The first space of the string ends the login.
  have texts := congrArg String.toList same
  rw [toList_joined, toList_joined] at texts
  -- A login without spaces is everything before the first space.
  have before {login : List Char} (noSpace : ' ' ∉ login) (rest : List Char) :
      (login ++ ' ' :: rest).takeWhile (· ≠ ' ') = login := by
    have letters : ∀ c ∈ login, decide (c ≠ ' ') = true := by
      intro c member
      exact decide_eq_true fun space => noSpace (space ▸ member)
    rw [List.takeWhile_append_of_pos letters]
    simp
  have login : first.login = second.login := by
    have starts := congrArg (List.takeWhile (· ≠ ' ')) texts
    rw [before here, before there] at starts
    exact String.toList_inj.mp starts
  have password : first.password = second.password := by
    rw [login] at texts
    exact String.toList_inj.mp (List.cons.inj (List.append_cancel_left texts)).2
  cases first
  cases second
  rw [mk.injEq]
  exact ⟨login, password⟩

/-- A token decodes to the bytes of login, space and password. Two tokens are equal if and only if these
strings are, and without spaces in the logins if and only if the credentials are. -/
theorem token_tells_credentials (first second : Credentials) :
    Base64.decode? first.token.toList = some (first.login ++ " " ++ first.password).toUTF8.data.toList ∧
      (first.token = second.token ↔
        first.login ++ " " ++ first.password = second.login ++ " " ++ second.password) ∧
      (' ' ∉ first.login.toList → ' ' ∉ second.login.toList → (first.token = second.token ↔ first = second)) := by
  -- The lemmas above, with the bytes taken from the string itself.
  refine ⟨?_, token_inj, fun here there => ⟨fun same => ?_, congrArg token⟩⟩
  · rw [decode?_token, Utf8.encode_toList]
  · exact eq_of_joined here there (token_inj.mp same)

/-- With a space in a login two credentials may have the same token. -/
example : (Credentials.mk "a b" "c").token = (Credentials.mk "a" "b c").token := by decide

end AccessProbe.Credentials
