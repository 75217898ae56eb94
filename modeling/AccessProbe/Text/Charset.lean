import AccessProbe.Text.Blank
import AccessProbe.Text.CharsetTable
import AccessProbe.Text.Utf8

/-! Decoding bytes in the character set of a `content-type`. -/

namespace AccessProbe.Charset

/-- The labels of little-endian UTF-16. -/
def utf16Names : List String :=
  ["csunicode", "iso-10646-ucs-2", "ucs-2", "unicode", "unicodefeff", "utf-16", "utf-16le"]

/-- The labels of big-endian UTF-16. -/
def utf16BigNames : List String := ["unicodefffe", "utf-16be"]

/-- The labels of encodings that are not decoded for reasons of security. -/
def replacementNames : List String :=
  ["csiso2022kr", "hz-gb-2312", "iso-2022-cn", "iso-2022-cn-ext", "iso-2022-kr", "replacement"]

/-- The multi-byte encodings besides those of Unicode. -/
inductive Multibyte where
  | gbk
  | gb18030
  | big5
  | eucJp
  | iso2022Jp
  | shiftJis
  | eucKr
  deriving DecidableEq, Repr

namespace Multibyte

/-- Every multi-byte encoding. -/
def all : List Multibyte := [.gbk, .gb18030, .big5, .eucJp, .iso2022Jp, .shiftJis, .eucKr]

/-- The labels of an encoding. -/
def names : Multibyte → List String
  | .gbk => ["chinese", "csgb2312", "csiso58gb231280", "gb2312", "gb_2312", "gb_2312-80", "gbk", "iso-ir-58",
      "x-gbk"]
  | .gb18030 => ["gb18030"]
  | .big5 => ["big5", "big5-hkscs", "cn-big5", "csbig5", "x-x-big5"]
  | .eucJp => ["cseucpkdfmtjapanese", "euc-jp", "x-euc-jp"]
  | .iso2022Jp => ["csiso2022jp", "iso-2022-jp"]
  | .shiftJis => ["csshiftjis", "ms932", "ms_kanji", "shift-jis", "shift_jis", "sjis", "windows-31j", "x-sjis"]
  | .eucKr => ["cseuckr", "csksc56011987", "euc-kr", "iso-ir-149", "korean", "ks_c_5601-1987",
      "ks_c_5601-1989", "ksc5601", "ksc_5601", "windows-949"]

/-- The encoding with a label. -/
def ofName? (name : String) : Option Multibyte := all.find? fun set => set.names.contains name

end Multibyte

/-- The 16-bit units of bytes, with `none` for an odd byte at the end. -/
def units16 (bigFirst : Bool) : List UInt8 → List (Option Nat)
  | [] => []
  | [_] => [none]
  | a :: b :: rest =>
    some (if bigFirst then a.toNat * 256 + b.toNat else b.toNat * 256 + a.toNat) :: units16 bigFirst rest

/-- Whether a unit is a high surrogate. -/
def isHigh (unit : Nat) : Bool := 0xD800 ≤ unit && unit < 0xDC00

/-- Whether a unit is a low surrogate. -/
def isLow (unit : Nat) : Bool := 0xDC00 ≤ unit && unit < 0xE000

/-- The characters of UTF-16 units, with a replacement character for each lone surrogate. -/
def decodeUnits : List (Option Nat) → List Char
  | [] => []
  | none :: rest => '\uFFFD' :: decodeUnits rest
  | some high :: some low :: rest =>
    -- A pair of surrogates is one character.
    if isHigh high && isLow low then
      Char.ofNat (0x10000 + (high - 0xD800) * 0x400 + (low - 0xDC00)) :: decodeUnits rest
    -- A lone surrogate is replaced, and the unit behind it is read on its own.
    else if isHigh high || isLow high then '\uFFFD' :: decodeUnits (some low :: rest)
    else Char.ofNat high :: decodeUnits (some low :: rest)
  | some unit :: rest =>
    (if isHigh unit || isLow unit then '\uFFFD' else Char.ofNat unit) :: decodeUnits rest

/-- The characters of bytes in a single-byte encoding. -/
def decodeSingle (upper : Array Char) (bytes : List UInt8) : List Char :=
  bytes.map fun byte =>
    if byte < 0x80 then Char.ofNat byte.toNat else (upper[byte.toNat - 0x80]?).getD '\uFFFD'

/-- The characters of bytes in the encoding with a label, given the decoders of multi-byte encodings. -/
def decodeNamed (multibyte : Multibyte → List UInt8 → List Char) (name : String) (bytes : List UInt8) :
    List Char :=
  if utf16Names.contains name then decodeUnits (units16 false bytes)
  else if utf16BigNames.contains name then decodeUnits (units16 true bytes)
  else if replacementNames.contains name then (if bytes.isEmpty then [] else ['\uFFFD'])
  else match Multibyte.ofName? name, upperHalf? name with
    | some set, _ => multibyte set bytes
    | none, some upper => decodeSingle upper bytes
    -- An unknown label stands for UTF-8.
    | none, none => Utf8.decodeLossy bytes

/-- The characters of bytes. A byte order mark decides on the encoding and is left out. -/
def decode (multibyte : Multibyte → List UInt8 → List Char) (name : Option String) (bytes : List UInt8) :
    List Char :=
  match bytes with
  | 0xEF :: 0xBB :: 0xBF :: rest => Utf8.decodeLossy rest
  | 0xFF :: 0xFE :: rest => decodeUnits (units16 false rest)
  | 0xFE :: 0xFF :: rest => decodeUnits (units16 true rest)
  | bytes => name.elim (Utf8.decodeLossy bytes) fun name => decodeNamed multibyte name bytes

/-- A parameter value without its quotes. -/
def unquoted (value : List Char) : List Char :=
  match value with
  | '"' :: rest => rest.takeWhile (· ≠ '"')
  | value => value

/-- The `charset` of a `content-type` in lower case. -/
def ofContentType (contentType : String) : Option String :=
  match contentType.toList.splitOn ';' with
  | [] => none
  | kind :: parameters =>
    -- Without a media type there are no parameters.
    if !kind.contains '/' then none
    else parameters.findSome? fun parameter =>
      let name := (trimBlank (parameter.takeWhile (· ≠ '='))).map Char.toLower
      if name = "charset".toList then
        let value := unquoted (trimBlank ((parameter.dropWhile (· ≠ '=')).drop 1))
        some (String.ofList ((trimBlank value).map Char.toLower))
      else none

end AccessProbe.Charset
