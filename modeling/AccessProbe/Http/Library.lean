import AccessProbe.Http.Jar
import AccessProbe.Http.Message
import AccessProbe.Text.Charset

/-! What an HTTP client leaves to the libraries below it: the set-up of TLS, multi-byte character sets, the order of
cookies and answers behind interim ones. -/

namespace AccessProbe

/-- The libraries below a client, as far as they are free in what they do. -/
structure Library where
  /-- Why no client can be built, as when TLS cannot be set up, outermost cause first. -/
  fault? : Option (List String)
  /-- The order in which cookies are sent. -/
  order : CookieOrder
  /-- The decoder of a multi-byte character set. -/
  multibyte : Charset.Multibyte → List UInt8 → List Char
  /-- The answer that is read behind an interim one. -/
  final : Answer → Answer
  /-- Interim answers are skipped until another one comes. -/
  isInterim_final : ∀ answer, (final answer).isInterim = false

/-- A library that builds every client, sends cookies in the order of the jar, decodes multi-byte sets as
UTF-8 and finds the connection closed behind an interim answer. -/
def Library.plain : Library where
  fault? := none
  order := .asKept
  multibyte _ bytes := Utf8.decodeLossy bytes
  final _ := .none
  isInterim_final _ := rfl

end AccessProbe
