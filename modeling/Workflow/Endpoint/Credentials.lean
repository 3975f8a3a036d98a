import Workflow.Endpoint.Percent
import Workflow.Endpoint.Target

/-!
# Credentials in an address

What stands before the at-sign of an address is a user name and, after a colon, a password.
They are sent in a header of their own, joined by a colon and written in base 64. Characters
of a name or a password may stand in the address as a percent sign and two hexadecimal
digits for each byte.
-/

namespace Workflow

namespace Credentials

open Workflow.Text

/-- The digit of a number below 64. -/
def base64Digit (n : Nat) : Char :=
  if n < 26 then Char.ofNat (0x41 + n)
  else if n < 52 then Char.ofNat (0x61 + (n - 26))
  else if n < 62 then Char.ofNat (0x30 + (n - 52))
  else if n = 62 then '+' else '/'

/-- Bytes in base 64: four digits for three bytes, the last group filled up. -/
def base64 : List UInt8 → List Char
  | [] => []
  | [a] =>
    let n := a.toNat * 16
    [base64Digit (n / 64), base64Digit (n % 64), '=', '=']
  | [a, b] =>
    let n := (a.toNat * 256 + b.toNat) * 4
    [base64Digit (n / 4096), base64Digit (n / 64 % 64), base64Digit (n % 64), '=']
  | a :: b :: c :: rest =>
    let n := (a.toNat * 256 + b.toNat) * 256 + c.toNat
    [base64Digit (n / 262144), base64Digit (n / 4096 % 64), base64Digit (n / 64 % 64),
      base64Digit (n % 64)] ++ base64 rest

/-- The header that sends a user name and a password. -/
def header (user password : List Char) : String :=
  "Basic " ++ String.ofList (base64 (bytes (String.ofList (user ++ [':'] ++ password))))

/-- **The header that the credentials of an address ask for**, if there are any. -/
def ofTarget? (t : Target) : Option String :=
  let user := Percent.decode (t.user.takeWhile (· != ':'))
  let password := Percent.decode (Url.afterFirst ':' t.user)
  if user.isEmpty && password.isEmpty then none else some (header user password)

end Credentials

end Workflow
