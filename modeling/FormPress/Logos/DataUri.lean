/-
  FormPress.Logos.DataUri

  Files written into an address: the kind of the file, by its ending, and its
  bytes in base 64.
-/
import FormPress.Failure

namespace FormPress

/-! ## Base 64 -/

/-- The sixty-four digits. -/
def base64Digits : List Char :=
  "ABCDEFGHIJKLMNOPQRSTUVWXYZabcdefghijklmnopqrstuvwxyz0123456789+/".toList

/-- A digit by its value. -/
def base64Digit (n : Nat) : Char := base64Digits.getD n '='

/-- Three bytes are four digits; one or two bytes at the end are padded. -/
def base64 : List Nat → List Char
  | a :: b :: c :: rest =>
    base64Digit (a / 4) :: base64Digit (a % 4 * 16 + b / 16) ::
      base64Digit (b % 16 * 4 + c / 64) :: base64Digit (c % 64) :: base64 rest
  | [a, b] =>
    [base64Digit (a / 4), base64Digit (a % 4 * 16 + b / 16), base64Digit (b % 16 * 4), '=']
  | [a] => [base64Digit (a / 4), base64Digit (a % 4 * 16), '=', '=']
  | [] => []

/-! ## Addresses -/

/-- The kind of a file by its ending in small letters. -/
def mediaType (suffix : String) : String :=
  if suffix == ".png" then "image/png"
  else if suffix == ".jpg" || suffix == ".jpeg" then "image/jpeg"
  else if suffix == ".gif" then "image/gif"
  else if suffix == ".svg" then "image/svg+xml"
  else "application/octet-stream"

/-- The address that holds the content of a file. -/
def dataUri (path : Path) (content : ByteArray) : String :=
  "data:" ++ mediaType path.suffix ++ ";base64," ++
    String.ofList (base64 (content.data.toList.map UInt8.toNat))

/-- The address that holds a file. What no file can be called is not a fault of an asset. -/
def Files.dataUri (files : Files) (path : Path) : Except Failure String :=
  match files.read path with
  | .ok content => .ok (FormPress.dataUri path content)
  | .error .impossible => .error (.file path .impossible)
  | .error .halfCharacters => .error (.file path .halfCharacters)
  | .error fault => .error (.engine (.asset path fault))

end FormPress
